import NodeGate.Proofs.Pool.Conservation
import NodeGate.Proofs.Release.Carrying

/-!
# Orphaned machines

A machine is orphaned when the pod that claims it is gone from the cache. A tick puts exactly
the orphaned machines of the pool back, one after the other: the taint of the claimant comes
off the node, and then the label changes. Which machines are to be created, deleted and put
back is settled by the cache and by what became of the calls that made machines available.
What the other calls answer changes none of that.
-/

namespace NodeGate.Pool

open Program

variable {site : Site} {config : GateConfig} {desired : Nat} {vmi : Vmi} {held : ObjectKey}
  {trace : List Happening} {report : Report}

/-- The machine is claimed by a pod that is not cached. Of the claim the namespace of the pod
stands before the first slash, and its name after it. -/
structure Orphaned (site : Site) (vmi : Vmi) : Prop where
  claimed : vmi.poolState? = some .claimed
  keyed : ∃ held, vmi.key = .ok held
  gone : ∃ space name, vmi.claimant? = some (workKey space name) ∧ '/' ∉ space.toList ∧
    site.cache.pod? ⟨space, name⟩ = none

theorem isOrphan_iff : isOrphan site vmi = true ↔
    ∃ space name, vmi.claimant? = some (workKey space name) ∧ '/' ∉ space.toList ∧
      site.cache.pod? ⟨space, name⟩ = none := by
  unfold isOrphan
  constructor
  · intro orphan
    split at orphan
    next space name parts =>
      obtain ⟨claimant, told, split⟩ := Option.bind_eq_some_iff.mp parts
      obtain ⟨rfl, bare⟩ := splitAtSlash?_eq_some_iff.mp split
      exact ⟨space, name, told, bare, Option.isNone_iff_eq_none.mp orphan⟩
    next => contradiction
  · rintro ⟨space, name, told, bare, absent⟩
    have parts : vmi.claimant?.bind splitAtSlash? = some (space, name) := by
      rw [told, Option.bind_some, splitAtSlash?_eq_some_iff]
      exact ⟨rfl, bare⟩
    simp [parts, absent]

theorem isOk_key_iff : vmi.key.isOk = true ↔ ∃ held, vmi.key = .ok held := by
  cases vmi.key <;> simp [Except.isOk, Except.toBool]

theorem orphaned_iff : Orphaned site vmi ↔
    (vmi.poolState? = some .claimed ∧ isOrphan site vmi = true) ∧ vmi.key.isOk = true := by
  rw [isOrphan_iff, isOk_key_iff]
  constructor
  · intro orphaned
    exact ⟨⟨orphaned.claimed, orphaned.gone⟩, orphaned.keyed⟩
  · rintro ⟨⟨claimed, gone⟩, keyed⟩
    exact ⟨claimed, keyed, gone⟩

instance : DecidablePred (Orphaned site) :=
  fun _ => decidable_of_iff' _ orphaned_iff

/-- The key of the taint by which a claimant keeps a node for itself. -/
def claimTaint (site : Site) (claimant : String) : String :=
  reservationKey (afterLastSlash claimant) site.defaults.taintKey

/-- How a machine is put back. Its label is changed after the taint of its claimant came off
its node. That takes no call if the node is not cached or lacks the taint, and a node that is
gone is free of it. Any other failure of that call keeps the label as it is. -/
inductive PutsBack (site : Site) (vmi : Vmi) : List Happening → Prop where
  | bare {held : ObjectKey} {claimant : String} {answer : Except Fault Vmi}
      (keyed : vmi.key = .ok held) (claimed : vmi.claimant? = some claimant)
      (untainted : ∀ node, site.cache.node? held.name = some node →
        node.hasTaint (claimTaint site claimant) = false) :
      PutsBack site vmi [.answered (.changeMachine held.space held.name
        (.giveBack vmi.metadata.resourceVersion)) answer]
  | freed {held : ObjectKey} {claimant : String} {node : Node} {patch : NodePatch}
      {freeing : Except Fault Unit} {answer : Except Fault Vmi}
      (keyed : vmi.key = .ok held) (claimed : vmi.claimant? = some claimant)
      (joined : site.cache.node? held.name = some node)
      (tainted : NodePatch.withoutTaint? node (claimTaint site claimant) = some patch)
      (free : ∀ fault, freeing = .error fault → fault.isNotFound = true) :
      PutsBack site vmi [.answered (.changeNode held.name patch) freeing,
        .answered (.changeMachine held.space held.name
          (.giveBack vmi.metadata.resourceVersion)) answer]
  | stuck {held : ObjectKey} {claimant : String} {node : Node} {patch : NodePatch}
      {fault : Fault} (keyed : vmi.key = .ok held) (claimed : vmi.claimant? = some claimant)
      (joined : site.cache.node? held.name = some node)
      (tainted : NodePatch.withoutTaint? node (claimTaint site claimant) = some patch)
      (present : fault.isNotFound = false) :
      PutsBack site vmi [.answered (.changeNode held.name patch) (.error fault)]

/-- The taint of the claimant is not there, or its removal is answered as it ends. -/
theorem runs_freeNode {claimant : String} {outcome : Except Fault Unit}
    (claimed : vmi.claimant? = some claimant)
    (run : Runs (Release.freeNode site held.name vmi) trace outcome) :
    (trace = [] ∧ outcome = .ok () ∧ ∀ node, site.cache.node? held.name = some node →
        node.hasTaint (claimTaint site claimant) = false) ∨
      ∃ node patch answer, site.cache.node? held.name = some node ∧
        NodePatch.withoutTaint? node (claimTaint site claimant) = some patch ∧
        trace = [.answered (.changeNode held.name patch) answer] ∧
        ((outcome = .ok () ∧ ∀ fault, answer = .error fault → fault.isNotFound = true) ∨
          ∃ fault, outcome = .error fault ∧ answer = .error fault ∧ fault.isNotFound = false) := by
  unfold Release.freeNode at run
  cases joined : site.cache.node? held.name with
  | none =>
      simp only [claimed, joined] at run
      obtain ⟨rfl, rfl⟩ := runs_pure_iff.mp run
      exact .inl ⟨rfl, rfl, by simp⟩
  | some node =>
      simp only [claimed, joined] at run
      rw [← claimTaint] at run
      cases tainted : NodePatch.withoutTaint? node (claimTaint site claimant) with
      | none =>
          simp only [tainted] at run
          obtain ⟨rfl, rfl⟩ := runs_pure_iff.mp run
          refine .inl ⟨rfl, rfl, ?_⟩
          rintro _ ⟨⟩
          simpa [NodePatch.withoutTaint?] using tainted
      | some patch =>
          simp only [tainted] at run
          obtain ⟨answer, rest, rfl, next⟩ := runs_call_bind_iff.mp run
          refine .inr ⟨node, patch, answer, rfl, tainted, ?_⟩
          cases answer with
          | ok _ =>
              obtain ⟨rfl, rfl⟩ := runs_pure_iff.mp next
              exact ⟨rfl, .inl ⟨rfl, nofun⟩⟩
          | error fault =>
              obtain ⟨rfl, rfl⟩ := runs_pure_iff.mp next
              refine ⟨rfl, ?_⟩
              cases gone : fault.isNotFound with
              | true => exact .inl ⟨by simp, by rintro _ ⟨⟩; exact gone⟩
              | false => exact .inr ⟨fault, by simp, rfl, gone⟩

/-- Putting a machine back succeeds exactly if the change of its label does. -/
theorem runs_giveBack {claimant : String} {outcome : Except Fault Unit}
    (keyed : vmi.key = .ok held) (claimed : vmi.claimant? = some claimant)
    (run : Runs (Release.giveBack site vmi) trace outcome) :
    PutsBack site vmi (exchanges trace) ∧
      (exchanges trace).countP Release.isReturn = if outcome.isOk then 1 else 0 := by
  unfold Release.giveBack at run
  simp only [keyed] at run
  obtain ⟨before, after, freed, rfl, frees, next⟩ := runs_bind_iff.mp run
  cases freed with
  | error fault =>
      obtain ⟨rfl, rfl⟩ := runs_pure_iff.mp next
      rcases runs_freeNode claimed frees with ⟨-, impossible, -⟩ |
        ⟨node, patch, _, joined, tainted, rfl, ⟨impossible, -⟩ | ⟨_, ⟨⟩, rfl, present⟩⟩
      · contradiction
      · contradiction
      · exact ⟨.stuck keyed claimed joined tainted present, rfl⟩
  | ok _ =>
      obtain ⟨answer, rest, rfl, relabelled⟩ := runs_call_bind_iff.mp next
      have ended : exchanges rest = [] ∧ answer.isOk = outcome.isOk := by
        cases answer with
        | error fault =>
            obtain ⟨rfl, rfl⟩ := runs_pure_iff.mp relabelled
            exact ⟨rfl, rfl⟩
        | ok stored =>
            obtain ⟨_, rfl, ending⟩ := runs_emit_bind_iff.mp relabelled
            obtain ⟨rfl, rfl⟩ := runs_pure_iff.mp ending
            exact ⟨rfl, rfl⟩
      rw [exchanges_append, exchanges_answered, ended.1, ← ended.2]
      rcases runs_freeNode claimed frees with ⟨rfl, -, untainted⟩ |
        ⟨node, patch, freeing, joined, tainted, rfl, ⟨-, free⟩ | ⟨_, impossible, -⟩⟩
      · refine ⟨.bare keyed claimed untainted, ?_⟩
        cases answer <;> rfl
      · refine ⟨.freed keyed claimed joined tainted free, ?_⟩
        cases answer <;> rfl
      · contradiction

/-- A machine that is to be put back into the pool, and the calls made for that with their
answers. -/
structure Handback where
  vmi : Vmi
  past : List Happening

/-- Orphaned machines are put back one after the other, each whatever became of those
before. -/
theorem runs_reclaim {orphans : List Vmi} {reclaimed : Nat}
    (claimed : ∀ vmi ∈ orphans, ∃ claimant, vmi.claimant? = some claimant)
    (run : Runs (reclaim site orphans) trace reclaimed) :
    ∃ handbacks : List Handback,
      handbacks.map Handback.vmi = orphans.filter (fun vmi => vmi.key.isOk) ∧
      (∀ handback ∈ handbacks, PutsBack site handback.vmi handback.past) ∧
      exchanges trace = handbacks.flatMap Handback.past ∧
      reclaimed = (exchanges trace).countP Release.isReturn := by
  induction orphans generalizing trace reclaimed with
  | nil =>
      obtain ⟨rfl, rfl⟩ := runs_pure_iff.mp run
      exact ⟨[], rfl, by simp, rfl, rfl⟩
  | cons first rest ih =>
      obtain ⟨given, after, outcome, rfl, gives, next⟩ := runs_bind_iff.mp run
      -- Whatever became of the first machine, the others are put back after it.
      have others : ∃ later count, Runs (reclaim site rest) later count ∧
          exchanges after = exchanges later ∧
          reclaimed = count + if outcome.isOk then 1 else 0 := by
        cases outcome with
        | ok _ =>
            obtain ⟨later, last, count, rfl, reclaims, ending⟩ := runs_bind_iff.mp next
            obtain ⟨rfl, rfl⟩ := runs_pure_iff.mp ending
            exact ⟨later, count, reclaims, by simp, rfl⟩
        | error fault =>
            obtain ⟨later, rfl, reclaims⟩ := runs_emit_bind_iff.mp next
            exact ⟨later, reclaimed, reclaims, rfl, rfl⟩
      obtain ⟨later, count, reclaims, same, rfl⟩ := others
      obtain ⟨handbacks, machines, sound, asked, counted⟩ :=
        ih (fun vmi member => claimed vmi (List.mem_cons_of_mem _ member)) reclaims
      obtain ⟨claimant, told⟩ := claimed first List.mem_cons_self
      cases keyed : first.key with
      | error fault =>
          unfold Release.giveBack at gives
          simp only [keyed] at gives
          obtain ⟨rfl, rfl⟩ := runs_pure_iff.mp gives
          refine ⟨handbacks, ?_, sound, ?_, ?_⟩
          · rw [machines, List.filter_cons_of_neg (by simp [keyed, Except.isOk, Except.toBool])]
          · simpa [same] using asked
          · simpa [same, Except.isOk, Except.toBool] using counted
      | ok held =>
          obtain ⟨putsBack, returned⟩ := runs_giveBack keyed told gives
          refine ⟨⟨first, exchanges given⟩ :: handbacks, ?_, ?_, ?_, ?_⟩
          · rw [List.map_cons, machines,
              List.filter_cons_of_pos (by simp [keyed, Except.isOk, Except.toBool])]
          · rintro handback (_ | ⟨_, member⟩)
            · exact putsBack
            · exact sound handback member
          · rw [exchanges_append, same, asked, List.flatMap_cons]
          · rw [exchanges_append, same, List.countP_append, returned, ← counted, Nat.add_comm]

/-- A tick puts back exactly the orphaned machines of the pool. -/
structure Reclaims (site : Site) (trace : List Happening) (report : Report)
    (handbacks : List Handback) : Prop where
  machines : handbacks.map Handback.vmi = site.cache.pool.filter (Orphaned site)
  sound : ∀ handback ∈ handbacks, PutsBack site handback.vmi handback.past
  /-- No other machine is put back, and no other node is changed. -/
  restorations_eq : restorations trace = handbacks.flatMap Handback.past
  /-- The machines are counted whose label was changed. -/
  reclaimed_eq : report.reclaimed = (restorations trace).countP Release.isReturn

/-- What is put back is settled by the cache. -/
theorem exists_reclaims (run : Runs (tend site config desired) trace report) :
    ∃ handbacks, Reclaims site trace report handbacks := by
  obtain ⟨phases, survey, tends⟩ := exists_phases run
  obtain ⟨inspections, members, -, asked, surveyed⟩ := runs_addAll tends.surveys
  have claimed_eq : survey.claimed =
      site.cache.pool.filter fun vmi => vmi.poolState? = some .claimed := by
    rw [surveyed, claimed_foldl_note, filterMap_held?, members]
    rfl
  obtain ⟨handbacks, machines, sound, given, counted⟩ := runs_reclaim (by
    intro vmi member
    obtain ⟨space, name, told, -⟩ := isOrphan_iff.mp (List.mem_filter.mp member).2
    exact ⟨_, told⟩) tends.reclaims
  -- Only the last phase restores, and it does nothing else.
  have whole : restorations trace = exchanges phases.reclaimed := by
    simp [tends.trace_eq, (onlyFor_of_exchanges asked).restorations_eq_nil,
      (onlyFor_reportStatus tends.reports).restorations_eq_nil,
      (runs_enlarge tends.enlarges).2.restorations_eq_nil,
      (runs_shrink tends.shrinks).2.restorations_eq_nil,
      (onlyFor_reclaim tends.reclaims).restorations_eq]
  refine ⟨handbacks, ?_, sound, whole.trans given, whole ▸ counted⟩
  rw [machines, claimed_eq, List.filter_filter, List.filter_filter]
  refine List.filter_congr fun vmi _ => ?_
  rw [Bool.eq_iff_iff, decide_eq_true_eq, orphaned_iff]
  simp [and_comm, and_left_comm, and_assoc]

/-- From one cache, ticks that find the same machines available ask for as many new ones and
delete the same ones. -/
theorem Tended.same_writes {inspections others : List Inspection} {other : List Happening}
    {otherReport : Report} (tended : Tended site desired inspections trace report)
    (otherTended : Tended site desired others other otherReport)
    (same : promotions other = promotions trace) :
    (creations other).length = (creations trace).length ∧ deletions other = deletions trace := by
  rw [tended.promotions_eq, otherTended.promotions_eq] at same
  obtain rfl := Inspection.eq_of_exchanges otherTended.sound tended.sound
    (otherTended.members.trans tended.members.symm) same
  have tally : otherReport.tally = report.tally := otherTended.tally_eq.trans tended.tally_eq.symm
  obtain ⟨parts, counted, created⟩ := tended.exists_creations
  obtain ⟨otherParts, otherCounted, otherCreated⟩ := otherTended.exists_creations
  constructor
  · rw [created, otherCreated, List.length_map, List.length_map, counted, otherCounted, tally]
  · rw [tended.deletions_eq, otherTended.deletions_eq, tally]

/-- A tick puts back exactly the orphaned machines, each after its node is free. Another tick
from the same cache that makes the same machines available asks for as many new ones, and
deletes and puts back the same ones in the same order, whatever else is answered. -/
theorem orphans_reclaimed (configured : site.cache.activeConfig? = some config)
    (wanted : 0 < config.spec.poolSize) (run : Runs (tick site) trace report) :
    ∃ handbacks, Reclaims site trace report handbacks ∧
      ∀ other otherReport, Runs (tick site) other otherReport →
        promotions other = promotions trace →
        (creations other).length = (creations trace).length ∧
        deletions other = deletions trace ∧
        ∃ others, Reclaims site other otherReport others ∧
          others.map Handback.vmi = handbacks.map Handback.vmi := by
  obtain ⟨handbacks, reclaims⟩ := exists_reclaims (tend_of_wanted run configured wanted)
  obtain ⟨inspections, tended⟩ := runs_tick_of_wanted run configured wanted
  refine ⟨handbacks, reclaims, ?_⟩
  intro other otherReport otherRun same
  obtain ⟨others, otherReclaims⟩ := exists_reclaims (tend_of_wanted otherRun configured wanted)
  obtain ⟨otherInspections, otherTended⟩ := runs_tick_of_wanted otherRun configured wanted
  obtain ⟨created, deleted⟩ := tended.same_writes otherTended same
  exact ⟨created, deleted, others, otherReclaims,
    otherReclaims.machines.trans reclaims.machines.symm⟩

/-- A machine of the pool that a pod holds. -/
def heldMachine (name claimant : String) : Vmi :=
  let vmi := poolMachine name "1" .claimed
  { vmi with metadata := { vmi.metadata with
      labels := some [(claimantLabel, claimant), (poolStateLabel, PoolState.claimed.label)] } }

/-- Of two pods that hold a machine one is gone, and the node of its machine is still
reserved. -/
def strandedSite : Site where
  cache :=
    { pods := [{ metadata := { name := some "here", space := some "default" } }]
      vmis := [heldMachine "b" "default/here", heldMachine "a" "default/gone",
        poolMachine "c" "1" .available]
      nodes := [{
        metadata := { name := some "a" }
        taints := some [NodePatch.claimedTaint "gone.maroonedpods.io"] }]
      configs := [{ metadata := { name := some "settings" }, spec := { poolSize := 1 } }] }

/-- The node is gone when its taint is to be removed, and the machine is put back. -/
def strandedTrace (patch : StatusPatch) : List Happening :=
  [.told (.pool { available := 1, claimed := 2 }),
    .answered (.reportCounts "settings" patch) (.ok ()),
    .answered (.changeNode "a" ⟨none, []⟩) (.error (.notFound "")),
    .answered (.changeMachine "pool" "a" (.giveBack (some "1")))
      (.ok (poolMachine "a" "2" .available)),
    .told .returned]

def strandedReport : Report where
  tally := { available := 1, claimed := 2 }
  reclaimed := 1
  published := true

theorem strandedTrace_runs :
    ∃ patch, Runs (tick strandedSite) (strandedTrace patch) strandedReport :=
  ⟨⟨Tally.status ⟨⟨2026, 1, 1⟩, 0, 0, 0, 0⟩ { available := 1, claimed := 2 }⟩,
    .signal (.presentTime (.request (.request (.request (.signal .done)))))⟩

theorem strandedSite_reclaimed : ∃ trace, Runs (tick strandedSite) trace strandedReport ∧
    ∃ handbacks, Reclaims strandedSite trace strandedReport handbacks := by
  obtain ⟨patch, run⟩ := strandedTrace_runs
  obtain ⟨handbacks, reclaims, -⟩ := orphans_reclaimed rfl (by decide) run
  exact ⟨_, run, handbacks, reclaims⟩

end NodeGate.Pool
