import NodeGate.Proofs.Release.Acquisition
import NodeGate.Proofs.Release.Hosting

/-!
# When a pass creates a machine

Creating a machine is the last resort of a pass. It is left only for a pod that waits behind
our gate, that has no machine in the cache, and of which the API server knows none of its
own, and only if the pool gives none: because no machine there can be claimed, or because
claiming the first of them failed. A claim that another writer won ends the pass instead,
and so does the creation, whatever comes of it.
-/

namespace NodeGate.Release

open Program

/-- Whether a machine was to be created. -/
def creates : Happening → Bool
  | .answered (.createMachine _) _ => true
  | _ => false

theorem exists_of_creates {happening : Happening} (created : creates happening = true) :
    ∃ vmi answer, happening = .answered (.createMachine vmi) answer := by
  unfold creates at created
  split at created
  next vmi answer => exact ⟨vmi, answer, rfl⟩
  next => contradiction

/-- Whether a machine was to be claimed for the pod of the key. -/
def claims (key : ObjectKey) : Happening → Bool
  | .answered (.changeMachine _ _ patch) _ => patch.claimsFor key.text
  | _ => false

/-- Whether a claim for the pod of the key was lost to another writer. -/
def loses (key : ObjectKey) : Happening → Bool
  | .answered (.changeMachine _ _ patch) (.error fault) =>
    patch.claimsFor key.text && fault.isConflict
  | _ => false

/-- Whether a call may get the pod of the key a machine. -/
def seeks (key : ObjectKey) : Call → Bool
  | .createMachine _ => true
  | .changeMachine _ _ patch => patch.claimsFor key.text
  | _ => false

variable {site : Site} {key : ObjectKey} {pod : Pod} {vmi : Vmi} {past : List Happening}
  {text : String}

/-- The claim of a machine for the pod of the key failed, and not because another writer
won. -/
def ClaimFailed (key : ObjectKey) (vmi : Vmi) (past : List Happening) : Prop :=
  ∃ held fault, vmi.key = .ok held ∧ fault.isConflict = false ∧
    .answered (.changeMachine held.space held.name
      (.claim vmi.metadata.resourceVersion key.text)) (.error fault) ∈ past

/-- The cache shows no machine of the pool that is there to be claimed. -/
def PoolExhausted (site : Site) : Prop :=
  ∀ vmi ∈ site.cache.vmis, vmi.isPooled = true → Cache.isClaimable vmi = false

/-- The pool gives no machine: none is there to be claimed, or the first one that is lacks a
key, or its claim failed. -/
def PoolFailed (site : Site) (key : ObjectKey) (past : List Happening) : Prop :=
  PoolExhausted site ∨ ∃ vmi, site.cache.candidate? = some vmi ∧
    ((∃ fault, vmi.key = .error fault) ∨ ClaimFailed key vmi past)

theorem PoolFailed.later {later : List Happening} (failed : PoolFailed site key past)
    (continued : past <+: later) : PoolFailed site key later := by
  rcases failed with exhausted | ⟨vmi, candidate, keyless | ⟨held, fault, keyed, other, answered⟩⟩
  · exact .inl exhausted
  · exact .inr ⟨vmi, candidate, .inl keyless⟩
  · exact .inr ⟨vmi, candidate, .inr ⟨held, fault, keyed, other, continued.subset answered⟩⟩

/-- The calls by which a pass seeks a machine for the pod of a key. -/
structure SeeksInOrder (site : Site) (key : ObjectKey) (pod : Pod) (past : List Happening)
    (asked : Call) : Prop where
  /-- A creation is the last call. -/
  uncreated : ¬Happened creates past
  /-- So is a claim that is lost. -/
  unlost : ¬Happened (loses key) past
  claimsOnce : ∀ space name patch, asked = .changeMachine space name patch →
    patch.claimsFor key.text = true → ¬Happened (claims key) past
  creates : ∀ vmi, asked = .createMachine vmi → pod.isDeleting = false ∧ pod.gateCount = 1 ∧
    (∃ size, MachineSize.ofPod site.defaults pod = .ok size ∧
      vmi = Manifest.dedicated key.space key.name size site.defaults site.join) ∧
    PoolFailed site key past

/-- The search for a machine was not ended yet. -/
structure Searching (key : ObjectKey) (past : List Happening) : Prop where
  uncreated : ¬Happened creates past
  unlost : ¬Happened (loses key) past

theorem searching_nil : Searching key [] :=
  ⟨happened_nil, happened_nil⟩

theorem Searching.append_told {told : Signal} (searching : Searching key past) :
    Searching key (past ++ [.told told]) := by
  constructor
  · simp [searching.uncreated, creates]
  · simp [searching.unlost, loses]

/-- A call that seeks no machine does not end the search for one. -/
theorem Searching.append_answered {asked : Call} {answer : Except Fault asked.Answer}
    (searching : Searching key past) (plain : seeks key asked = false) :
    Searching key (past ++ [.answered asked answer]) := by
  cases asked with
  | createMachine made => contradiction
  | changeMachine space name patch =>
      have plain : patch.claimsFor key.text = false := plain
      constructor
      · simp [searching.uncreated, creates]
      · cases answer <;> simp [searching.unlost, loses, plain]
  | _ =>
      constructor
      · simp [searching.uncreated, creates]
      · simp [searching.unlost, loses]

/-- A call that seeks no machine may be made while the search goes on. -/
theorem Searching.seeksInOrder {asked : Call} (searching : Searching key past)
    (plain : seeks key asked = false) : SeeksInOrder site key pod past asked where
  uncreated := searching.uncreated
  unlost := searching.unlost
  claimsOnce := by
    rintro space name patch rfl claims
    have plain : patch.claimsFor key.text = false := plain
    simp [plain] at claims
  creates := by
    rintro vmi rfl
    contradiction

/-- A program that seeks no machine leaves the search as it is. -/
theorem searching_of_asks {α : Type} {program : Program α}
    (asks : Asks program (fun asked => seeks key asked = false) past)
    (searching : Searching key past) :
    program.Secures (SeeksInOrder site key pod) (fun later _ => Searching key later) past := by
  induction program generalizing past with
  | done value => exact searching
  | request asked rest ih =>
      constructor
      · exact searching.seeksInOrder asks.1
      · exact fun answer => ih answer (asks.2 answer) (searching.append_answered asks.1)
  | signal told rest ih => exact ih asks searching.append_told
  | freshPart rest ih => exact fun part => ih part (asks part) searching
  | presentTime rest ih => exact fun now => ih now (asks now) searching

/-- What gives no machine seeks none. -/
theorem seeks_nothing {α : Type} {program : Program α}
    (asks : Asks program (fun asked => asked.acquires = false) past) :
    Asks program (fun asked => seeks key asked = false) past :=
  asks.relax fun _ asked gives => by
    cases asked with
    | createMachine made => contradiction
    | changeMachine space name patch => contradiction
    | _ => rfl

/-- A machine that is given back is not claimed for anyone. -/
theorem depart_seeks_nothing :
    Asks (depart site key pod) (fun asked => seeks key asked = false) past :=
  depart_asks.relax fun _ _ parting => by
    cases parting with
    | giveBack => simp [seeks, VmiPatch.claimsFor, VmiPatch.giveBack, Entries.get?]
    | _ => rfl

theorem openGate_seeks (searching : Searching key past) :
    (openGate site key pod vmi).Secures (SeeksInOrder site key pod) (fun _ _ => True) past :=
  (searching_of_asks (seeks_nothing openGate_gives_nothing) searching).weaken
    fun _ _ _ => trivial

/-- A gated pod is created a machine for when the pool gives none. -/
theorem createDedicated_seeks (searching : Searching key past) (staying : pod.isDeleting = false)
    (gatedOnce : pod.gateCount = 1) (failed : PoolFailed site key past) :
    (createDedicated site key pod).Secures (SeeksInOrder site key pod) (fun _ _ => True) past := by
  unfold createDedicated
  cases sized : MachineSize.ofPod site.defaults pod with
  | error fault => trivial
  | ok size =>
      apply secures_call_bind.mpr
      constructor
      · constructor
        · exact searching.uncreated
        · exact searching.unlost
        · exact nofun
        · rintro vmi ⟨⟩
          exact ⟨staying, gatedOnce, ⟨size, sized, rfl⟩, failed⟩
      · rintro (fault | _)
        · dsimp only
          split <;> trivial
        · trivial

/-- The search goes on after a claim unless it is lost. -/
theorem claim_seeks (searching : Searching key past) (unclaimed : ¬Happened (claims key) past)
    (candidate : site.cache.candidate? = some vmi) :
    (claim vmi key).Secures (SeeksInOrder site key pod)
      (fun later outcome => match outcome with
        | .ok _ => Searching key later
        | .error fault => fault.isConflict = false →
          Searching key later ∧ PoolFailed site key later) past := by
  unfold claim
  cases keyed : vmi.key with
  | error fault => exact fun _ => ⟨searching, .inr ⟨vmi, candidate, .inl ⟨fault, keyed⟩⟩⟩
  | ok held =>
      apply secures_call_bind.mpr
      constructor
      · constructor
        · exact searching.uncreated
        · exact searching.unlost
        · exact fun _ _ _ _ _ => unclaimed
        · rintro made ⟨⟩
      · rintro (fault | machine)
        · intro other
          constructor
          · constructor
            · simp [searching.uncreated, creates]
            · simp [searching.unlost, loses, other]
          · exact .inr ⟨vmi, candidate, .inr ⟨held, fault, keyed, other, by simp⟩⟩
        · constructor
          · simp [searching.uncreated, creates]
          · simp [searching.unlost, loses]

theorem obtainMachine_seeks (staying : pod.isDeleting = false) (gatedOnce : pod.gateCount = 1) :
    (obtainMachine site key pod).Secures (SeeksInOrder site key pod) (fun _ _ => True) [] := by
  apply secures_call_bind.mpr
  constructor
  · exact searching_nil.seeksInOrder rfl
  · rintro (fault | found)
    · trivial
    · have searching : Searching key
          ([] ++ [.answered (.readMachine key.space key.name) (.ok found)]) :=
        searching_nil.append_answered rfl
      dsimp only
      split
      · exact openGate_seeks searching
      · split
        next exhausted =>
          exact createDedicated_seeks searching staying gatedOnce
            (.inl (Cache.candidate?_eq_none.mp exhausted))
        next candidate =>
          apply (claim_seeks searching (by simp [claims]) candidate).andThen
          rintro later (fault | _) - outcome
          · cases lost : fault.isConflict with
            | true => simp [lost]
            | false =>
                obtain ⟨searching, failed⟩ := outcome lost
                simp only [lost]
                exact secures_bind.mpr (createDedicated_seeks searching.append_told staying
                  gatedOnce (failed.later (List.prefix_append _ _)))
          · apply (searching_of_asks (seeks_nothing pinToMachine_gives_nothing) outcome).andThen
            rintro last (fault | _) - - <;> trivial

theorem serve_seeks (staying : pod.isDeleting = false) (gatedOnce : pod.gateCount = 1) :
    (serve site key pod).Secures (SeeksInOrder site key pod) (fun _ _ => True) [] := by
  unfold serve
  split
  · exact obtainMachine_seeks staying gatedOnce
  · split
    · apply (searching_of_asks (seeks_nothing pinToMachine_gives_nothing) searching_nil).andThen
      rintro later (fault | _ | _) - searching
      · trivial
      · exact openGate_seeks searching
      · trivial
    · exact openGate_seeks searching_nil

/-- A pass over a pod seeks a machine for it in order. -/
theorem attend_seeks :
    (attend site key pod).Secures (SeeksInOrder site key pod) (fun _ _ => True) [] := by
  apply attend_obeys
  · intro _
    exact (searching_of_asks depart_seeks_nothing searching_nil).weaken fun _ _ _ => trivial
  · exact serve_seeks

/-- Every call of a pass is about the cached pod of its key, for which it seeks a machine in
order. -/
theorem pass_seeks :
    (pass site text).Secures
      (fun past asked => ∃ key pod, ObjectKey.ofText text = .ok key ∧
        site.cache.pod? key = some pod ∧ SeeksInOrder site key pod past asked)
      (fun _ _ => True) [] :=
  pass_obeys fun key pod named cached =>
    attend_seeks.relax fun _ _ order => ⟨key, pod, named, cached, order⟩

section Runs

variable {trace before after : List Happening} {disposition : Disposition}

theorem seeksInOrder_of_runs {asked : Call} {answer : Except Fault asked.Answer}
    (run : Runs (pass site text) trace disposition)
    (split : trace = before ++ .answered asked answer :: after) :
    ∃ key pod, ObjectKey.ofText text = .ok key ∧ site.cache.pod? key = some pod ∧
      SeeksInOrder site key pod before asked := by
  have seeks := pass_seeks.rule_of_runs run split
  rwa [List.nil_append] at seeks

/-- What comes after a creation or a claim that was lost is no call. -/
theorem no_call_after_search {happening : Happening} (run : Runs (pass site text) trace disposition)
    (named : ObjectKey.ofText text = .ok key) (split : trace = before ++ happening :: after)
    (ended : creates happening = true ∨ loses key happening = true) (other : Call)
    (reply : Except Fault other.Answer) : .answered other reply ∉ after := by
  intro member
  obtain ⟨between, rest, rfl⟩ := List.append_of_mem member
  have later : trace = (before ++ happening :: between) ++ .answered other reply :: rest := by
    simp [split]
  obtain ⟨parsed, pod, isParsed, -, order⟩ := seeksInOrder_of_runs run later
  obtain rfl := Except.ok.inj (named.symm.trans isParsed)
  rcases ended with created | lost
  · exact order.uncreated (by simp [created])
  · exact order.unlost (by simp [lost])

/-- The grounds on which a machine is created for the pod of a key. -/
structure LeftToCreate (site : Site) (key : ObjectKey) (pod : Pod) (past : List Happening) :
    Prop where
  staying : pod.isDeleting = false
  gatedOnce : pod.gateCount = 1
  /-- No machine of its own is cached. -/
  uncached : ∀ vmi, site.cache.vmi? key = some vmi → vmi.isPooled = true
  /-- No machine of the pool is cached as claimed for it. -/
  unheld : ∀ vmi ∈ site.cache.vmis, vmi.isPooled = true → vmi.poolState? = some .claimed →
    vmi.claimant? ≠ some key.text
  told : ToldOfNone key past
  unacquired : NoneAcquired past
  failed : PoolFailed site key past

/-- A creation in a run is grounded. -/
theorem leftToCreate_of_runs {answer : Except Fault Unit}
    (run : Runs (pass site text) trace disposition)
    (split : trace = before ++ .answered (.createMachine vmi) answer :: after) :
    ∃ key pod size, ObjectKey.ofText text = .ok key ∧ site.cache.pod? key = some pod ∧
      MachineSize.ofPod site.defaults pod = .ok size ∧
      vmi = Manifest.dedicated key.space key.name size site.defaults site.join ∧
      LeftToCreate site key pod before := by
  obtain ⟨key, pod, named, cached, order⟩ := seeksInOrder_of_runs run split
  obtain ⟨staying, gatedOnce, ⟨size, sized, made⟩, failed⟩ := order.creates vmi rfl
  have alone (other : Pod) (found : site.cache.pod? key = some other) :
      other.isDeleting = false := by
    rwa [← Option.some.inj (cached.symm.trans found)]
  have unserved := (pass_acquires named alone).rule_of_runs run split rfl
  rw [List.nil_append] at unserved
  obtain ⟨uncached, unheld⟩ := Cache.machineOf?_eq_none.mp unserved.uncached
  refine ⟨key, pod, size, named, cached, sized, made, ?_⟩
  exact {
    staying, gatedOnce, uncached, failed
    unheld := Cache.heldBy?_eq_none.mp unheld
    told := unserved.told
    unacquired := unserved.unacquired }

/-- In a run of a pass, a machine is created only in the last call and only on those grounds,
with the key of the pod and the size for it. At most one machine is claimed; no machine is
created after a claim that succeeded, and no call follows a claim that was lost. -/
theorem creation_is_last_resort (run : Runs (pass site text) trace disposition) :
    (∀ before vmi answer after, trace = before ++ .answered (.createMachine vmi) answer :: after →
      (∃ key pod size, ObjectKey.ofText text = .ok key ∧ site.cache.pod? key = some pod ∧
        vmi.key = .ok key ∧ MachineSize.ofPod site.defaults pod = .ok size ∧
        vmi = Manifest.dedicated key.space key.name size site.defaults site.join ∧
        LeftToCreate site key pod before) ∧
      ∀ other reply, .answered other reply ∉ after) ∧
    ∀ key, ObjectKey.ofText text = .ok key →
      ∀ before space name patch answer after,
        trace = before ++ .answered (.changeMachine space name patch) answer :: after →
        patch.claimsFor key.text = true →
          ¬Happened (claims key) before ∧
          (∀ stored, answer = .ok stored → ¬Happened creates after) ∧
          ∀ fault, answer = .error fault → fault.isConflict = true →
            ∀ other reply, .answered other reply ∉ after := by
  constructor
  · intro before vmi answer after split
    obtain ⟨key, pod, size, named, cached, sized, rfl, grounds⟩ := leftToCreate_of_runs run split
    constructor
    · exact ⟨key, pod, size, named, cached, rfl, sized, rfl, grounds⟩
    · exact no_call_after_search run named split (.inl rfl)
  · intro key named before space name patch answer after split isClaim
    constructor
    · obtain ⟨parsed, pod, isParsed, -, order⟩ := seeksInOrder_of_runs run split
      obtain rfl := Except.ok.inj (named.symm.trans isParsed)
      exact order.claimsOnce space name patch rfl isClaim
    constructor
    · rintro stored rfl ⟨happening, member, created⟩
      obtain ⟨made, reply, rfl⟩ := exists_of_creates created
      obtain ⟨between, rest, rfl⟩ := List.append_of_mem member
      have later : trace = (before ++ .answered (.changeMachine space name patch) (.ok stored) ::
          between) ++ .answered (.createMachine made) reply :: rest := by
        simp [split]
      obtain ⟨_, _, _, _, _, _, _, grounds⟩ := leftToCreate_of_runs run later
      obtain ⟨fault, failed⟩ := grounds.unacquired (.changeMachine space name patch) (.ok stored)
        (by simp) rfl
      contradiction
    · rintro fault rfl lost
      exact no_call_after_search run named split (.inr (by simp [loses, isClaim, lost]))

end Runs

/-- A gated pod that requests nothing. -/
def modestPod : Pod where
  metadata := { name := some "p1", space := some "default" }
  spec := some { gates := some [gateName] }

/-- A machine of the pool that runs and is available. -/
def readyMachine (space : Option String) : Vmi where
  metadata :=
    { name := some "maroonedpods-pool-ab12cd34"
      space
      labels := some [(poolStateLabel, PoolState.available.label)]
      resourceVersion := some "7" }
  spec := {}
  status := some { phase := some .running }

/-- The pod, and the machine of the pool. -/
def readySite (space : Option String) : Site where
  cache := { pods := [modestPod], vmis := [readyMachine space] }

/-- The claim of the machine is not answered. -/
def failingTrace (log : Signal) : List Happening :=
  [.answered (.readMachine "default" "p1") (.ok none),
    .answered (.changeMachine "pool" "maroonedpods-pool-ab12cd34"
      (.claim (some "7") "default/p1")) (.error (.unanswered "timed out")),
    .told log]

/-- Then the pod gets a machine of its own. -/
def creatingTrace (log made said : Signal) (vmi : Vmi) : List Happening :=
  failingTrace log ++ [.answered (.createMachine vmi) (.ok ()), .told made, .told said]

theorem readySite_creates : ∃ log made said vmi,
    Runs (pass (readySite (some "pool")) "default/p1") (creatingTrace log made said vmi) .backOff ∧
      vmi.key = .ok ⟨"default", "p1"⟩ ∧
      LeftToCreate (readySite (some "pool")) ⟨"default", "p1"⟩ modestPod (failingTrace log) := by
  obtain ⟨log, made, said, vmi, run⟩ : ∃ log made said vmi,
      Runs (pass (readySite (some "pool")) "default/p1") (creatingTrace log made said vmi)
        .backOff :=
    ⟨_, _, _, _, .request (.request (.signal (.request (.signal (.signal .done)))))⟩
  obtain ⟨⟨key, pod, size, named, cached, keyed, -, -, grounds⟩, -⟩ :=
    (creation_is_last_resort run).1 (failingTrace log) vmi _ _ rfl
  have isKey : ObjectKey.ofText "default/p1" = .ok ⟨"default", "p1"⟩ := by decide
  obtain rfl := Except.ok.inj (isKey.symm.trans named)
  have isPod : (readySite (some "pool")).cache.pod? ⟨"default", "p1"⟩ = some modestPod := by
    decide
  obtain rfl := Option.some.inj (isPod.symm.trans cached)
  exact ⟨log, made, said, vmi, run, keyed, grounds⟩

/-- The claim of the first machine that is there to be claimed need not have failed before a
machine is created: a machine without a namespace is not asked for. -/
theorem keyless_machine_not_claimed : ¬ ∀ (site : Site) (text : String) (key : ObjectKey)
    (trace : List Happening) (disposition : Disposition),
    Runs (pass site text) trace disposition → ObjectKey.ofText text = .ok key →
    ∀ before vmi answer after, trace = before ++ .answered (.createMachine vmi) answer :: after →
      PoolExhausted site ∨
        ∃ vmi, site.cache.candidate? = some vmi ∧ ClaimFailed key vmi before := by
  intro always
  obtain ⟨log, vmi, made, said, run⟩ : ∃ log vmi made said,
      Runs (pass (readySite none) "default/p1")
        [.answered (.readMachine "default" "p1") (.ok none), .told log,
          .answered (.createMachine vmi) (.ok ()), .told made, .told said] .backOff :=
    ⟨_, _, _, _, .request (.signal (.request (.signal (.signal .done))))⟩
  rcases always _ _ ⟨"default", "p1"⟩ _ _ run (by decide) [_, _] vmi _ _ rfl with
    exhausted | ⟨candidate, isCandidate, held, fault, keyed, -, -⟩
  · exact absurd (exhausted (readyMachine none) (.head _) (by decide)) (by decide)
  · obtain rfl := Option.some.inj (Eq.trans (by rfl) isCandidate)
    contradiction

end NodeGate.Release
