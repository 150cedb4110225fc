import NodeGate.Pool.Tick
import NodeGate.Proofs.Release.Calls

/-!
# What the duties of the controller ask

The controller makes passes over pods, releases machines of pods that vanished and
tends the pool. Each of these duties is done against one cache. Whatever it is
answered, it changes and trims only machines that it knows, each at the version at
which it knows the machine and in the state that the change starts from.
-/

namespace NodeGate

open Program

/-- A machine that is made for the pool is being created. -/
@[simp]
theorem Manifest.poolState?_pool {space name : String} {defaults : MachineDefaults}
    {join : JoinSettings} : (pool space name defaults join).poolState? = some .creating := by
  simp [pool, Vmi.poolState?, ObjectMeta.label?, Entries.get?_cons, PoolState.initial]

/-- What the controller does in one go against one cache. -/
inductive Duty where
  /-- The pass for a work key. -/
  | pass (text : String)
  /-- The release of the machine of a pod that vanished. -/
  | farewell (pod : Pod)
  /-- The tick of the pool. -/
  | tick
deriving DecidableEq

namespace Duty

/-- The program of a duty. -/
def program (site : Site) : Duty → Program Unit
  | .pass text => (fun _ => ()) <$> Release.pass site text
  | .farewell pod => Release.podVanished site pod
  | .tick => (fun _ => ()) <$> Pool.tick site

/-- A machine is known to be available: it is cached as such, or was made available
before and given back as stored. -/
def Trimmable (site : Site) (past : List Happening) (vmi : Vmi) : Prop :=
  (vmi ∈ site.cache.vmis ∧ vmi.poolState? = some .available) ∨
    ∃ space name version,
      .answered (.changeMachine space name (.promote version)) (.ok vmi) ∈ past

/-- The calls of a duty. A cached machine is claimed only if it is available there,
given back only if it is claimed and made available only if it is being created;
a tick deletes only what it knows to be available. -/
inductive MayAsk (site : Site) (past : List Happening) : Duty → Call → Prop where
  | claim {text : String} {key held : ObjectKey} {vmi : Vmi}
      (named : ObjectKey.ofText text = .ok key) (cached : vmi ∈ site.cache.vmis)
      (available : vmi.poolState? = some .available) (keyed : vmi.key = .ok held) :
      MayAsk site past (.pass text) (.changeMachine held.space held.name
        (.claim vmi.metadata.resourceVersion key.text))
  | giveBack {duty : Duty} {held : ObjectKey} {vmi : Vmi} (cached : vmi ∈ site.cache.vmis)
      (claimed : vmi.poolState? = some .claimed) (keyed : vmi.key = .ok held) :
      MayAsk site past duty (.changeMachine held.space held.name
        (.giveBack vmi.metadata.resourceVersion))
  | promote {held : ObjectKey} {vmi : Vmi} (cached : vmi ∈ site.cache.vmis)
      (creating : vmi.poolState? = some .creating) (keyed : vmi.key = .ok held) :
      MayAsk site past .tick (.changeMachine held.space held.name
        (.promote vmi.metadata.resourceVersion))
  | trim {held : ObjectKey} {vmi : Vmi} (trimmable : Trimmable site past vmi)
      (keyed : vmi.key = .ok held) :
      MayAsk site past .tick
        (.deleteMachine held.space held.name vmi.metadata.resourceVersion)
  | discard {duty : Duty} {key : ObjectKey} (leaving : duty ≠ .tick) :
      MayAsk site past duty (.deleteMachine key.space key.name none)
  | create {duty : Duty} {vmi : Vmi} (unclaimed : vmi.poolState? ≠ some .claimed) :
      MayAsk site past duty (.createMachine vmi)
  | readMachine {duty : Duty} {space name : String} :
      MayAsk site past duty (.readMachine space name)
  | changePod {duty : Duty} {space name : String} {patch : PodPatch} :
      MayAsk site past duty (.changePod space name patch)
  | changeNode {duty : Duty} {name : String} {patch : NodePatch} :
      MayAsk site past duty (.changeNode name patch)
  | reportCounts {duty : Duty} {name : String} {patch : StatusPatch} :
      MayAsk site past duty (.reportCounts name patch)

/-- Whatever it is answered, a program asks only what a duty may ask. -/
abbrev Heeds {α : Type} (site : Site) (duty : Duty) (program : Program α)
    (past : List Happening) : Prop :=
  program.Secures (fun past => MayAsk site past duty) (fun _ _ => True) past

variable {site : Site} {key : ObjectKey} {pod : Pod} {vmi : Vmi} {past : List Happening}
  {asked : Call} {duty : Duty}

theorem Trimmable.later {last : List Happening} (trimmable : Trimmable site past vmi)
    (continued : past <+: last) : Trimmable site last vmi := by
  rcases trimmable with cached | ⟨space, name, version, promoted⟩
  · exact .inl cached
  · exact .inr ⟨space, name, version, continued.subset promoted⟩

theorem mayAsk_of_provision {text : String} (named : ObjectKey.ofText text = .ok key)
    (provision : Release.Provision site key pod asked) : MayAsk site past (.pass text) asked := by
  cases provision with
  | claim candidate keyed =>
      obtain ⟨cached, -, available, -⟩ := Cache.candidate?_eq_some candidate
      exact .claim named cached available keyed
  | create =>
      refine .create ?_
      simp [Manifest.dedicated, Vmi.poolState?, ObjectMeta.label?]
  | read => exact .readMachine
  | reserve => exact .changeNode
  | select => exact .changePod

theorem mayAsk_of_parting (leaving : duty ≠ .tick)
    (parting : Release.Parting site key pod asked) : MayAsk site past duty asked := by
  cases parting with
  | giveBack holds keyed =>
      obtain ⟨cached, -, claimed, -⟩ := Cache.heldBy?_eq_some holds
      exact .giveBack cached claimed keyed
  | delete => exact .discard leaving
  | read => exact .readMachine
  | free => exact .changeNode
  | dismiss => exact .changePod

theorem heeds_pass {text : String} :
    Heeds site (.pass text) (Release.pass site text) past := by
  apply Release.pass_asks.relax
  rintro before asked ⟨key, pod, named, -, provision | parting | opening⟩
  · exact mayAsk_of_provision named provision
  · exact mayAsk_of_parting nofun parting
  · cases opening
    exact .changePod

theorem heeds_farewell : Heeds site (.farewell pod) (Release.podVanished site pod) past := by
  apply Release.podVanished_asks.relax
  rintro before asked ⟨key, parting⟩
  exact mayAsk_of_parting nofun parting

/-- What is made available is known to be available. -/
theorem promote_secures (cached : vmi ∈ site.cache.vmis)
    (creating : vmi.poolState? = some .creating) :
    (Pool.promote site vmi).Secures (fun past => MayAsk site past .tick)
      (fun later outcome => ∀ promoted, outcome = some promoted → Trimmable site later promoted)
      past := by
  unfold Pool.promote
  cases keyed : vmi.key with
  | error fault =>
      intro promoted impossible
      contradiction
  | ok held =>
      dsimp only
      split
      · apply secures_call_bind.mpr
        constructor
        · exact .promote cached creating keyed
        · rintro (fault | stored)
          · intro promoted impossible
            contradiction
          · rintro promoted ⟨⟩
            exact .inr ⟨held.space, held.name, vmi.metadata.resourceVersion, by simp⟩
      · intro promoted impossible
        contradiction

/-- What a tick took for available it knows to be available, and what it took for
claimed is cached as claimed. -/
structure Surveyed (site : Site) (past : List Happening) (survey : Pool.Survey) : Prop where
  available : ∀ vmi ∈ survey.available, Trimmable site past vmi
  claimed : ∀ vmi ∈ survey.claimed, vmi ∈ site.cache.vmis ∧ vmi.poolState? = some .claimed

theorem Surveyed.later {last : List Happening} {survey : Pool.Survey}
    (surveyed : Surveyed site past survey) (continued : past <+: last) :
    Surveyed site last survey :=
  ⟨fun vmi member => (surveyed.available vmi member).later continued, surveyed.claimed⟩

theorem survey_add_secures {survey : Pool.Survey} (surveyed : Surveyed site past survey)
    (cached : vmi ∈ site.cache.vmis) :
    (survey.add site vmi).Secures (fun past => MayAsk site past .tick) (Surveyed site) past := by
  unfold Pool.Survey.add
  split
  next creating =>
    apply (promote_secures cached creating).andThen
    rintro later (_ | promoted) continued trimmable
    · exact ⟨(surveyed.later continued).available, surveyed.claimed⟩
    · refine ⟨?_, surveyed.claimed⟩
      intro other member
      rcases List.mem_append.mp member with member | member
      · exact (surveyed.available other member).later continued
      · rw [List.mem_singleton.mp member]
        exact trimmable promoted rfl
  next available =>
    refine ⟨?_, surveyed.claimed⟩
    intro other member
    rcases List.mem_append.mp member with member | member
    · exact surveyed.available other member
    · rw [List.mem_singleton.mp member]
      exact .inl ⟨cached, available⟩
  next claimed =>
    refine ⟨surveyed.available, ?_⟩
    intro other member
    rcases List.mem_append.mp member with member | member
    · exact surveyed.claimed other member
    · rw [List.mem_singleton.mp member]
      exact ⟨cached, claimed⟩
  next => exact ⟨surveyed.available, surveyed.claimed⟩

theorem survey_addAll_secures {survey : Pool.Survey} {members : List Vmi}
    (surveyed : Surveyed site past survey) (cached : ∀ vmi ∈ members, vmi ∈ site.cache.vmis) :
    (survey.addAll site members).Secures (fun past => MayAsk site past .tick) (Surveyed site)
      past := by
  induction members generalizing past survey with
  | nil => exact surveyed
  | cons first rest ih =>
      apply (survey_add_secures surveyed (cached first List.mem_cons_self)).andThen
      intro later next _ reached
      exact ih reached fun vmi member => cached vmi (List.mem_cons_of_mem _ member)

/-- Reporting the counts asks for that alone. -/
theorem reportStatus_asks {rule : Call → Prop} {config : GateConfig} {tally : Tally}
    (reports : ∀ name patch, rule (.reportCounts name patch)) :
    Release.Asks (Pool.reportStatus config tally) rule past := by
  refine secures_bind.mpr (secures_now.mpr fun instant => ?_)
  dsimp only
  split
  · split
    · trivial
    · apply secures_call_bind.mpr
      constructor
      · exact reports _ _
      · rintro (fault | _) <;> trivial
  · trivial

theorem heeds_reportStatus {config : GateConfig} {tally : Tally} :
    Heeds site .tick (Pool.reportStatus config tally) past := by
  have asks : Release.Asks (Pool.reportStatus config tally)
      (fun asked => ∀ past, MayAsk site past .tick asked) past :=
    reportStatus_asks fun _ _ _ => .reportCounts
  exact asks.relax fun before _ asked => asked before

theorem heeds_enlarge {count : Nat} : Heeds site .tick (Pool.enlarge site count) past := by
  induction count generalizing past with
  | zero => trivial
  | succ count ih =>
      refine secures_bind.mpr (secures_newPart.mpr fun part => secures_call_bind.mpr ⟨?_, ?_⟩)
      · exact .create (by simp)
      · rintro (fault | _)
        · dsimp only
          split
          · exact ih
          · refine secures_bind.mpr (ih.andThen ?_)
            rintro later counts - -
            trivial
        · refine secures_bind.mpr (ih.andThen ?_)
          rintro later counts - -
          trivial

theorem heeds_shrink {excess : List Vmi} (trimmable : ∀ vmi ∈ excess, Trimmable site past vmi) :
    Heeds site .tick (Pool.shrink excess) past := by
  induction excess generalizing past with
  | nil => trivial
  | cons first rest ih =>
      have others {last : List Happening} (continued : past <+: last) :
          Heeds site .tick (Pool.shrink rest) last :=
        ih fun vmi member => (trimmable vmi (List.mem_cons_of_mem _ member)).later continued
      unfold Pool.shrink
      cases keyed : first.key with
      | error fault => exact others List.prefix_rfl
      | ok held =>
          apply secures_call_bind.mpr
          constructor
          · exact .trim (trimmable first List.mem_cons_self) keyed
          · rintro (fault | _)
            · refine secures_bind.mpr (others ?_)
              exact (List.prefix_append _ _).trans (List.prefix_append _ _)
            · apply (others (List.prefix_append _ _)).andThen
              rintro later deleted - -
              trivial

/-- Giving machines back asks for their nodes to be freed and for their labels to be
changed. -/
theorem reclaim_asks {rule : Call → Prop} {orphans : List Vmi}
    (frees : ∀ name patch, rule (.changeNode name patch))
    (relabels : ∀ vmi ∈ orphans, ∀ held, vmi.key = .ok held →
      rule (.changeMachine held.space held.name (.giveBack vmi.metadata.resourceVersion))) :
    Release.Asks (Pool.reclaim site orphans) rule past := by
  induction orphans generalizing past with
  | nil => trivial
  | cons first rest ih =>
      have others {past : List Happening} : Release.Asks (Pool.reclaim site rest) rule past :=
        ih fun vmi member => relabels vmi (List.mem_cons_of_mem _ member)
      have gives : Release.Asks (Release.giveBack site first) rule past :=
        Release.giveBack_asks (fun held _ _ patch _ _ _ _ => frees held.name patch)
          (relabels first List.mem_cons_self)
      apply gives.andThen
      rintro later (fault | _) - -
      · exact secures_bind.mpr others
      · apply others.andThen
        rintro last reclaimed - -
        trivial

theorem heeds_reclaim {orphans : List Vmi}
    (claimed : ∀ vmi ∈ orphans, vmi ∈ site.cache.vmis ∧ vmi.poolState? = some .claimed) :
    Heeds site .tick (Pool.reclaim site orphans) past := by
  have asks : Release.Asks (Pool.reclaim site orphans)
      (fun asked => ∀ past, MayAsk site past .tick asked) past := by
    apply reclaim_asks
    · exact fun _ _ _ => .changeNode
    · intro vmi member held keyed _
      exact .giveBack (claimed vmi member).1 (claimed vmi member).2 keyed
  exact asks.relax fun before _ asked => asked before

/-- What a tick trims it took for available, and what it gives back it took for
claimed, when it looked at the cached pool. -/
theorem heeds_tend {config : GateConfig} {desired : Nat} :
    Heeds site .tick (Pool.tend site config desired) past := by
  have cached : ∀ vmi ∈ site.cache.pool, vmi ∈ site.cache.vmis := by
    intro vmi member
    exact (Cache.mem_pool.mp member).1
  have blank : Surveyed site past {} := ⟨by simp, by simp⟩
  unfold Pool.tend
  apply (survey_addAll_secures blank cached).andThen
  intro surveyedAt survey _ surveyed
  rw [secures_bind, secures_emit]
  apply heeds_reportStatus.andThen
  intro reportedAt published reported _
  apply heeds_enlarge.andThen
  rintro enlargedAt ⟨created, notCreated⟩ enlarged -
  have later : Surveyed site enlargedAt survey :=
    surveyed.later ((List.prefix_append _ _).trans (reported.trans enlarged))
  have shrinks : Heeds site .tick
      (Pool.shrink (survey.available.reverse.take (survey.tally.available - desired)))
      enlargedAt := by
    apply heeds_shrink
    intro vmi member
    exact later.available vmi (List.mem_reverse.mp (List.mem_of_mem_take member))
  apply shrinks.andThen
  intro shrunkAt deleted _ _
  have reclaims : Heeds site .tick
      (Pool.reclaim site (survey.claimed.filter (Pool.isOrphan site))) shrunkAt := by
    apply heeds_reclaim
    intro vmi member
    exact later.claimed vmi (List.mem_filter.mp member).1
  apply reclaims.andThen
  intro reclaimedAt reclaimed _ _
  trivial

/-- A tick asks only what a tick may ask. -/
theorem heeds_tick : Heeds site .tick (Pool.tick site) past := by
  unfold Pool.tick
  dsimp only
  split
  · trivial
  · split
    · trivial
    · exact heeds_tend

/-- Every duty asks only what it may ask. -/
theorem heeds_program (duty : Duty) : Heeds site duty (duty.program site) past := by
  cases duty with
  | pass text => exact secures_map.mpr (heeds_pass.weaken fun _ _ _ => trivial)
  | farewell pod => exact heeds_farewell
  | tick => exact secures_map.mpr (heeds_tick.weaken fun _ _ _ => trivial)

end Duty

end NodeGate
