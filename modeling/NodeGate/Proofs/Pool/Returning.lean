import NodeGate.Proofs.Cluster.Snapshot
import NodeGate.Proofs.Pool.Duty
import NodeGate.Proofs.Pool.Tidiness

/-!
# The duties keep a cluster tidy

While machines are given back, promoted or trimmed, no node comes to be reserved and no
machine comes to be claimed, so what the cache told of a clean node or of an unclaimed
machine stays true. A machine is given back only after its node is clean, because the one
taint that can be there is the one that is taken off. A claim goes the other way: it labels
the machine first, and the label warrants the taint that follows.
-/

namespace NodeGate

open Program

namespace Site

/-- What is stored while machines are given back: no node is reserved and no machine is
claimed but what was so in the cache. -/
structure Unwinds (site : Site) (objects : Cache) : Prop where
  tidy : objects.Tidy site.poolNamespace
  reserved : ∀ name key, objects.Reserves name key → site.cache.Reserves name key
  claimed : ∀ vmi ∈ objects.vmis, vmi.poolState? = some .claimed →
    ∃ known ∈ site.cache.vmis, known.poolState? = some .claimed ∧ known.key = vmi.key

variable {site : Site} {objects : Cache} {held : ObjectKey} {vmi made : Vmi}

namespace Unwinds

theorem start (tidy : site.cache.Tidy site.poolNamespace) : site.Unwinds site.cache :=
  ⟨tidy, fun _ _ reserved => reserved, fun vmi member claimed => ⟨vmi, member, claimed, rfl⟩⟩

/-- A clean node stays clean. -/
theorem isClean {name : String} (unwinds : site.Unwinds objects)
    (clean : site.cache.IsClean name) : objects.IsClean name :=
  fun key reserved => clean key (unwinds.reserved name key reserved)

theorem relabel {patch : VmiPatch} (unwinds : site.Unwinds objects)
    (found : objects.vmi? held = some vmi) (makes : patch.Makes vmi made)
    (unclaimed : made.poolState? ≠ some .claimed) (housed : held.space = site.poolNamespace)
    (clean : objects.IsClean held.name) :
    site.Unwinds { objects with
      vmis := Cache.superseded Vmi.metadata made objects.vmis } where
  tidy := unwinds.tidy.relabel found makes housed fun _ => clean
  reserved := unwinds.reserved
  claimed other member claimed := by
    rcases Cache.mem_superseded member with rfl | ⟨stored, -⟩
    · contradiction
    · exact unwinds.claimed other stored claimed

theorem remove (unwinds : site.Unwinds objects) (found : objects.vmi? held = some vmi)
    (free : vmi.poolState? = some .claimed → objects.IsClean held.name) :
    site.Unwinds { objects with vmis := Cache.drop Vmi.metadata vmi objects.vmis } where
  tidy := unwinds.tidy.remove found free
  reserved := unwinds.reserved
  claimed other member := unwinds.claimed other (Cache.mem_drop.mp member).1

theorem add (version : Option String) (unwinds : site.Unwinds objects)
    (absent : ∀ other ∈ objects.vmis,
      Cache.sameIdentity other.metadata vmi.metadata = false)
    (unclaimed : vmi.poolState? ≠ some .claimed) (keyed : vmi.key = .ok held)
    (housed : vmi.isPooled = true → vmi.metadata.space = some site.poolNamespace) :
    site.Unwinds { objects with
      vmis := objects.vmis ++
        [{ vmi with metadata := { vmi.metadata with resourceVersion := version } }] } where
  tidy := unwinds.tidy.add version absent keyed housed
  reserved := unwinds.reserved
  claimed other member claimed := by
    rcases List.mem_append.mp member with stored | new
    · exact unwinds.claimed other stored claimed
    · rw [List.mem_singleton.mp new] at claimed
      exact absurd claimed unclaimed

/-- A node that is left with no taint that reserves it is clean. -/
theorem cleanse {name : String} {patch : NodePatch} {node freed : Node}
    (unwinds : site.Unwinds objects) (found : objects.node? name = some node)
    (made : freed.toJson.SameButVersion (Json.merged node.toJson patch.toJson))
    (clean : ∀ taint ∈ patch.taints, taint.value ≠ some reservationValue) :
    site.Unwinds { objects with
        nodes := Cache.superseded Node.metadata freed objects.nodes } ∧
      Cache.IsClean { objects with
        nodes := Cache.superseded Node.metadata freed objects.nodes } name := by
  refine ⟨⟨unwinds.tidy.taint found made ?_, ?_, unwinds.claimed⟩, ?_⟩
  · intro taint member valued
    exact absurd valued (clean taint member)
  · intro other key reserves
    rcases Cache.reserves_patched found made reserves with ⟨-, taint, member, -, valued⟩ |
      ⟨-, reserved⟩
    · exact absurd valued (clean taint member)
    · exact unwinds.reserved other key reserved
  · intro key reserves
    rcases Cache.reserves_patched found made reserves with ⟨-, taint, member, -, valued⟩ |
      ⟨apart, -⟩
    · exact clean taint member valued
    · exact apart rfl

theorem report {name : String} {config : GateConfig} {status : Option PoolStatus}
    (unwinds : site.Unwinds objects)
    (found : Cache.findExact GateConfig.metadata none name objects.configs = some config) :
    site.Unwinds { objects with
      configs := Cache.superseded GateConfig.metadata { config with status := status }
        objects.configs } :=
  ⟨unwinds.tidy.report found, unwinds.reserved, unwinds.claimed⟩

theorem withPods {pods : List Pod} (unwinds : site.Unwinds objects) :
    site.Unwinds { objects with pods := pods } :=
  ⟨unwinds.tidy.withPods, unwinds.reserved, unwinds.claimed⟩

end Unwinds

end Site

namespace Release

variable {site : Site} {objects : Cache} {key held : ObjectKey} {pod : Pod} {vmi : Vmi}

/-- A node is clean if every taint that reserves it is of one key, and no taint of that key has
to come off it. -/
theorem isClean_of_withoutTaint? {name taintKey : String} {node : Node}
    (joined : objects.node? name = some node)
    (keyed : ∀ taint ∈ node.taintList, taint.value = some reservationValue → taint.key = taintKey)
    (unneeded : NodePatch.withoutTaint? node taintKey = none) : objects.IsClean name := by
  rintro other ⟨known, found, taint, among, -, valued⟩
  obtain rfl := Option.some.inj (joined.symm.trans found)
  have apart : ∀ taint ∈ node.taintList, taint.key ≠ taintKey := by
    simpa [NodePatch.withoutTaint?, Node.hasTaint] using unneeded
  exact apart taint among (keyed taint among valued)

/-- Where they do come off, the taints that stay reserve nothing. -/
theorem not_reserving_of_withoutTaint? {taintKey : String} {node : Node} {patch : NodePatch}
    (keyed : ∀ taint ∈ node.taintList, taint.value = some reservationValue → taint.key = taintKey)
    (needed : NodePatch.withoutTaint? node taintKey = some patch) :
    ∀ taint ∈ patch.taints, taint.value ≠ some reservationValue := by
  obtain ⟨-, ⟨⟩⟩ := Option.ite_none_right_eq_some.mp needed
  intro taint member valued
  obtain ⟨stays, apart⟩ := List.mem_filter.mp member
  simp [keyed taint stays valued] at apart

/-- When the node of a claimed machine was freed it is clean. -/
theorem freeNode_maintains (tidy : site.cache.Tidy site.poolNamespace)
    (unwinds : site.Unwinds objects) (member : vmi ∈ site.cache.vmis)
    (claimed : vmi.poolState? = some .claimed) :
    (freeNode site vmi.nodeName vmi).Maintains site.Unwinds
      (fun objects outcome => outcome = .ok () → objects.IsClean vmi.nodeName) objects := by
  have reservation {taintKey : String} (reserves : site.cache.Reserves vmi.nodeName taintKey) :
      ∃ claimant, vmi.claimant? = some claimant ∧
        taintKey = reservationKey (afterLastSlash claimant) site.defaults.taintKey :=
    tidy.key_of_claimed member claimed reserves
  unfold freeNode
  split
  next claimant node isClaimant joined =>
    -- A taint that reserves the cached node has the key that is taken off.
    have keyed : ∀ taint ∈ node.taintList, taint.value = some reservationValue →
        taint.key = reservationKey (afterLastSlash claimant) site.defaults.taintKey := by
      intro taint among valued
      obtain ⟨other, isOther, same⟩ := reservation ⟨node, joined, taint, among, rfl, valued⟩
      rw [isClaimant, Option.some.injEq] at isOther
      rw [same, isOther]
    split
    next unneeded =>
      exact ⟨unwinds, fun _ => unwinds.isClean (isClean_of_withoutTaint? joined keyed unneeded)⟩
    next patch needed =>
      refine maintains_call_bind.mpr ⟨unwinds, ?_⟩
      intro answer after outcome
      cases outcome with
      | failed believed =>
          refine ⟨unwinds, fun accepted => ?_⟩
          split at accepted
          next missing =>
            -- A node that is not there is not reserved.
            rintro taintKey ⟨known, stored, -⟩
            rw [believed missing] at stored
            contradiction
          next => contradiction
      | changeNode found made =>
          have cleansed := unwinds.cleanse found made (not_reserving_of_withoutTaint? keyed needed)
          exact ⟨cleansed.1, fun _ => cleansed.2⟩
  next unknown =>
    refine ⟨unwinds, fun _ => unwinds.isClean fun taintKey reserves => ?_⟩
    obtain ⟨claimant, isClaimant, -⟩ := reservation reserves
    obtain ⟨node, joined, -⟩ := reserves
    exact unknown claimant node isClaimant joined

/-- A machine is given back when its node is clean. -/
theorem giveBack_maintains (tidy : site.cache.Tidy site.poolNamespace)
    (unwinds : site.Unwinds objects) (member : vmi ∈ site.cache.vmis)
    (claimed : vmi.poolState? = some .claimed) :
    (giveBack site vmi).Keeps site.Unwinds objects := by
  have keyed := tidy.key_of_pooled member (Vmi.isPooled_of_poolState? claimed)
  unfold giveBack
  simp only [keyed]
  apply (freeNode_maintains tidy unwinds member claimed).andThen
  rintro freed (fault | _) unwinds clean
  · exact ⟨unwinds, trivial⟩
  · refine maintains_call_bind.mpr ⟨unwinds, ?_⟩
    intro answer after outcome
    cases outcome with
    | failed => exact ⟨unwinds, trivial⟩
    | @changeMachine _ _ _ stored made found makes =>
        have unclaimed : made.poolState? ≠ some .claimed := by simp [makes.giveBack.1]
        exact ⟨unwinds.relabel found makes unclaimed rfl (clean rfl), trivial⟩

theorem giveBackClaimed_maintains (tidy : site.cache.Tidy site.poolNamespace)
    (unwinds : site.Unwinds objects) :
    (giveBackClaimed site key pod).Keeps site.Unwinds objects := by
  unfold giveBackClaimed
  split
  · exact ⟨unwinds, trivial⟩
  next holds =>
    obtain ⟨member, -, claimed, -⟩ := Cache.heldBy?_eq_some holds
    apply (giveBack_maintains tidy unwinds member claimed).andThen
    rintro after (fault | _) unwinds - <;> exact ⟨unwinds, trivial⟩

/-- The machine of a key may be deleted that is not cached as claimed. -/
theorem deleteDedicated_maintains (unwinds : site.Unwinds objects)
    (spared : ∀ known ∈ site.cache.vmis, known.poolState? = some .claimed → known.key ≠ .ok key) :
    (deleteDedicated key pod).Keeps site.Unwinds objects := by
  refine maintains_call_bind.mpr ⟨unwinds, ?_⟩
  intro answer after outcome
  cases outcome with
  | failed => exact ⟨unwinds, trivial⟩
  | deleteMachine found =>
      refine ⟨unwinds.remove found fun claimed => ?_, trivial⟩
      obtain ⟨stored, keyed⟩ := unwinds.tidy.key_of_found found
      obtain ⟨known, cached, knownClaimed, sameKey⟩ := unwinds.claimed _ stored claimed
      exact absurd (sameKey.trans keyed) (spared known cached knownClaimed)

theorem releaseMachine_maintains (tidy : site.cache.Tidy site.poolNamespace)
    (unwinds : site.Unwinds objects) :
    (releaseMachine site key pod).Keeps site.Unwinds objects := by
  unfold releaseMachine
  apply (giveBackClaimed_maintains tidy unwinds).andThen
  rintro after (fault | returned) unwinds -
  · exact ⟨unwinds, trivial⟩
  · dsimp only
    split
    next own cached =>
      split
      · exact ⟨unwinds, trivial⟩
      next outside =>
        apply deleteDedicated_maintains unwinds
        intro known member claimed keyed
        obtain ⟨ownMember, ownKeyed⟩ := tidy.key_of_found cached
        have same := tidy.eq_of_key member ownMember keyed ownKeyed
        exact outside (same ▸ Vmi.isPooled_of_poolState? claimed)
    next absent =>
      have spared : ∀ known ∈ site.cache.vmis, known.poolState? = some .claimed →
          known.key ≠ .ok key :=
        fun known member _ keyed => by simp [Cache.vmi?_of_key tidy.vmis member keyed] at absent
      split
      · refine maintains_call_bind.mpr ⟨unwinds, ?_⟩
        intro answer after outcome
        cases outcome with
        | failed => exact ⟨unwinds, trivial⟩
        | readMachine =>
            split
            · exact ⟨unwinds, trivial⟩
            · exact ⟨unwinds, trivial⟩
            · split
              · exact ⟨unwinds, trivial⟩
              · exact deleteDedicated_maintains unwinds spared
      · exact deleteDedicated_maintains unwinds spared

theorem dropFinalizer_maintains (unwinds : site.Unwinds objects) :
    (dropFinalizer key pod).Keeps site.Unwinds objects := by
  unfold dropFinalizer
  split
  · exact ⟨unwinds, trivial⟩
  · refine maintains_call_bind.mpr ⟨unwinds, ?_⟩
    intro answer after outcome
    cases outcome with
    | failed => exact ⟨unwinds, trivial⟩
    | changePod pods => exact ⟨unwinds.withPods, trivial⟩

theorem depart_maintains (tidy : site.cache.Tidy site.poolNamespace) :
    (depart site key pod).Keeps site.Unwinds site.cache := by
  have unwinds := Site.Unwinds.start tidy
  unfold depart
  split
  · exact ⟨unwinds, trivial⟩
  · apply (releaseMachine_maintains tidy unwinds).andThen
    rintro released (fault | _) unwinds -
    · exact ⟨unwinds, trivial⟩
    · apply (dropFinalizer_maintains unwinds).andThen
      rintro dropped (fault | _) unwinds - <;> exact ⟨unwinds, trivial⟩

theorem podVanished_maintains (tidy : site.cache.Tidy site.poolNamespace) :
    (podVanished site pod).Keeps site.Unwinds site.cache := by
  have unwinds := Site.Unwinds.start tidy
  unfold podVanished
  split
  · exact ⟨unwinds, trivial⟩
  · dsimp only
    split
    · exact ⟨unwinds, trivial⟩
    · apply (releaseMachine_maintains tidy unwinds).andThen
      rintro after (fault | _) unwinds - <;> exact ⟨unwinds, trivial⟩

end Release

namespace Pool

variable {site : Site} {objects : Cache} {vmi : Vmi} {survey : Survey}

/-- What a tick took for available has a node that was clean when the tick began, and what
it took for claimed is cached as claimed. -/
structure Survey.Fits (site : Site) (survey : Survey) : Prop where
  available : ∀ vmi ∈ survey.available, ∀ held, vmi.key = .ok held →
    site.cache.IsClean held.name
  claimed : ∀ vmi ∈ survey.claimed, vmi ∈ site.cache.vmis ∧ vmi.poolState? = some .claimed

/-- What is made available has a clean node. -/
theorem promote_maintains (tidy : site.cache.Tidy site.poolNamespace)
    (unwinds : site.Unwinds objects) (member : vmi ∈ site.cache.vmis)
    (creating : vmi.poolState? = some .creating) :
    (promote site vmi).Maintains site.Unwinds
      (fun _ outcome => ∀ promoted, outcome = some promoted → ∀ held, promoted.key = .ok held →
        site.cache.IsClean held.name) objects := by
  have pooled := Vmi.isPooled_of_poolState? creating
  have keyed := tidy.key_of_pooled member pooled
  have clean : site.cache.IsClean vmi.nodeName :=
    tidy.isClean_of_unclaimed member pooled (by simp [creating])
  unfold promote
  simp only [keyed]
  split
  · refine maintains_call_bind.mpr ⟨unwinds, ?_⟩
    intro answer after outcome
    cases outcome with
    | failed =>
        refine ⟨unwinds, ?_⟩
        intro promoted impossible
        contradiction
    | @changeMachine _ _ _ stored made found makes =>
        have unclaimed : made.poolState? ≠ some .claimed := by simp [makes.promote]
        refine ⟨unwinds.relabel found makes unclaimed rfl (unwinds.isClean clean), ?_⟩
        rintro promoted ⟨⟩ held madeKeyed
        have storedKeyed := (unwinds.tidy.key_of_found found).2
        have sameKey := Vmi.key_of_sameObject ⟨makes.space_eq, makes.name_eq⟩ storedKeyed
        rw [sameKey, Except.ok.injEq] at madeKeyed
        rwa [← madeKeyed]
  · refine ⟨unwinds, ?_⟩
    intro promoted impossible
    contradiction

theorem survey_add_maintains (tidy : site.cache.Tidy site.poolNamespace)
    (unwinds : site.Unwinds objects) (fits : survey.Fits site) (member : vmi ∈ site.cache.vmis) :
    (survey.add site vmi).Maintains site.Unwinds (fun _ survey => survey.Fits site) objects := by
  unfold Survey.add
  split
  next creating =>
    apply (promote_maintains tidy unwinds member creating).andThen
    rintro after (_ | promoted) unwinds clean
    · exact ⟨unwinds, fits.available, fits.claimed⟩
    · refine ⟨unwinds, ?_, fits.claimed⟩
      intro other among held keyed
      rcases List.mem_append.mp among with among | among
      · exact fits.available other among held keyed
      · rw [List.mem_singleton.mp among] at keyed
        exact clean promoted rfl held keyed
  next available =>
    refine ⟨unwinds, ?_, fits.claimed⟩
    intro other among held keyed
    rcases List.mem_append.mp among with among | among
    · exact fits.available other among held keyed
    · rw [List.mem_singleton.mp among] at keyed
      rw [← Vmi.nodeName_of_key keyed]
      exact tidy.isClean_of_unclaimed member (Vmi.isPooled_of_poolState? available)
        (by simp [available])
  next claimed =>
    refine ⟨unwinds, fits.available, ?_⟩
    intro other among
    rcases List.mem_append.mp among with among | among
    · exact fits.claimed other among
    · rw [List.mem_singleton.mp among]
      exact ⟨member, claimed⟩
  next => exact ⟨unwinds, fits.available, fits.claimed⟩

theorem survey_addAll_maintains {members : List Vmi} (tidy : site.cache.Tidy site.poolNamespace)
    (unwinds : site.Unwinds objects) (fits : survey.Fits site)
    (cached : ∀ vmi ∈ members, vmi ∈ site.cache.vmis) :
    (survey.addAll site members).Maintains site.Unwinds (fun _ survey => survey.Fits site)
      objects := by
  induction members generalizing survey objects with
  | nil => exact ⟨unwinds, fits⟩
  | cons first rest ih =>
      apply (survey_add_maintains tidy unwinds fits (cached first List.mem_cons_self)).andThen
      intro after survey unwinds fits
      exact ih unwinds fits fun vmi member => cached vmi (List.mem_cons_of_mem _ member)

theorem reportStatus_maintains {config : GateConfig} {tally : Tally}
    (unwinds : site.Unwinds objects) :
    (reportStatus config tally).Keeps site.Unwinds objects := by
  refine maintains_bind.mpr (maintains_now.mpr fun instant => ⟨unwinds, ?_⟩)
  dsimp only
  split
  · split
    · exact ⟨unwinds, trivial⟩
    · refine maintains_call_bind.mpr ⟨unwinds, ?_⟩
      intro answer after outcome
      cases outcome with
      | failed => exact ⟨unwinds, trivial⟩
      | reportCounts status found => exact ⟨unwinds.report found, trivial⟩
  · exact ⟨unwinds, trivial⟩

/-- The machines that are made for the pool are in its namespace and unclaimed. -/
theorem enlarge_maintains {count : Nat} (unwinds : site.Unwinds objects) :
    (enlarge site count).Keeps site.Unwinds objects := by
  induction count generalizing objects with
  | zero => exact ⟨unwinds, trivial⟩
  | succ count ih =>
      refine maintains_bind.mpr (maintains_newPart.mpr fun part => ⟨unwinds, ?_⟩)
      refine maintains_call_bind.mpr ⟨unwinds, ?_⟩
      intro answer after outcome
      cases outcome with
      | failed =>
          dsimp only
          split
          · exact ih unwinds
          · refine (ih unwinds).andThen ?_
            intro after counts unwinds _
            exact ⟨unwinds, trivial⟩
      | createMachine version absent =>
          have added := unwinds.add version absent (by simp) rfl fun _ => rfl
          refine (ih added).andThen ?_
          intro after counts unwinds _
          exact ⟨unwinds, trivial⟩

theorem shrink_maintains {excess : List Vmi} (unwinds : site.Unwinds objects)
    (clean : ∀ vmi ∈ excess, ∀ held, vmi.key = .ok held → site.cache.IsClean held.name) :
    (shrink excess).Keeps site.Unwinds objects := by
  induction excess generalizing objects with
  | nil => exact ⟨unwinds, trivial⟩
  | cons first rest ih =>
      have others {objects : Cache} (unwinds : site.Unwinds objects) :
          (shrink rest).Keeps site.Unwinds objects :=
        ih unwinds fun vmi member => clean vmi (List.mem_cons_of_mem _ member)
      unfold shrink
      cases keyed : first.key with
      | error fault => exact others unwinds
      | ok held =>
          refine maintains_call_bind.mpr ⟨unwinds, ?_⟩
          intro answer after outcome
          cases outcome with
          | failed => exact others unwinds
          | deleteMachine found =>
              have removed := unwinds.remove found fun _ =>
                unwinds.isClean (clean first List.mem_cons_self held keyed)
              apply (others removed).andThen
              intro after deleted unwinds _
              exact ⟨unwinds, trivial⟩

theorem reclaim_maintains {orphans : List Vmi} (tidy : site.cache.Tidy site.poolNamespace)
    (unwinds : site.Unwinds objects)
    (claimed : ∀ vmi ∈ orphans, vmi ∈ site.cache.vmis ∧ vmi.poolState? = some .claimed) :
    (reclaim site orphans).Keeps site.Unwinds objects := by
  induction orphans generalizing objects with
  | nil => exact ⟨unwinds, trivial⟩
  | cons first rest ih =>
      obtain ⟨cached, held⟩ := claimed first List.mem_cons_self
      have others {objects : Cache} (unwinds : site.Unwinds objects) :
          (reclaim site rest).Keeps site.Unwinds objects :=
        ih unwinds fun vmi member => claimed vmi (List.mem_cons_of_mem _ member)
      apply (Release.giveBack_maintains tidy unwinds cached held).andThen
      rintro after (fault | _) unwinds -
      · exact others unwinds
      · apply (others unwinds).andThen
        intro after reclaimed unwinds _
        exact ⟨unwinds, trivial⟩

theorem tend_maintains {config : GateConfig} {desired : Nat}
    (tidy : site.cache.Tidy site.poolNamespace) :
    (tend site config desired).Keeps site.Unwinds site.cache := by
  have cached : ∀ vmi ∈ site.cache.pool, vmi ∈ site.cache.vmis :=
    fun vmi member => (Cache.mem_pool.mp member).1
  have blank : Survey.Fits site {} := ⟨by simp, by simp⟩
  unfold tend
  apply (survey_addAll_maintains tidy (.start tidy) blank cached).andThen
  intro surveyed survey unwinds fits
  rw [maintains_bind, maintains_emit]
  refine ⟨unwinds, (reportStatus_maintains unwinds).andThen ?_⟩
  intro reported published unwinds _
  apply (enlarge_maintains unwinds).andThen
  rintro enlarged ⟨created, notCreated⟩ unwinds -
  refine (shrink_maintains unwinds ?_).andThen ?_
  · intro vmi member
    exact fits.available vmi (List.mem_reverse.mp (List.mem_of_mem_take member))
  intro shrunk deleted unwinds _
  refine (reclaim_maintains tidy unwinds ?_).andThen ?_
  · intro vmi member
    exact fits.claimed vmi (List.mem_filter.mp member).1
  intro reclaimed count unwinds _
  exact ⟨unwinds, trivial⟩

theorem tick_maintains (tidy : site.cache.Tidy site.poolNamespace) :
    (tick site).Keeps site.Unwinds site.cache := by
  have unwinds := Site.Unwinds.start tidy
  unfold tick
  dsimp only
  split
  · exact ⟨unwinds, trivial⟩
  · split
    · exact ⟨unwinds, trivial⟩
    · exact tend_maintains tidy

end Pool

end NodeGate
