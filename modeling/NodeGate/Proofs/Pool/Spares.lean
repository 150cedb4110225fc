import NodeGate.Proofs.Cluster.KeyedCache
import NodeGate.Proofs.Cluster.LabelPatch
import NodeGate.Proofs.Pool.Conservation

/-!
# The spare machines of a tick

The machines that a tick takes for available are those that are cached as such and those
that it made available itself. When the cache holds every machine under its own key and the
API server answers a change with the machine that was to be changed, they are told apart by
their keys and come in the order of their names.
-/

namespace NodeGate

namespace Pool

open Cache

variable {site : Site} {trace : List Happening} {vmi : Vmi} {inspections : List Inspection}
  {inspection : Inspection}

/-- A change of a machine that succeeds is answered with that machine. -/
def Echoes (trace : List Happening) : Prop :=
  ∀ space name patch stored,
    .answered (.changeMachine space name patch) (.ok stored) ∈ trace →
      stored.key = .ok ⟨space, name⟩

/-- A machine that was made available is the answer to the call that was to do so. -/
theorem Inspection.Sound.exchange_of_promoted {stored : Vmi} (sound : inspection.Sound site)
    (promoted : inspection.promoted? = some stored) :
    ∃ held, inspection.vmi.key = .ok held ∧ inspection.exchange? =
      some (.answered (.changeMachine held.space held.name
        (.promote inspection.vmi.metadata.resourceVersion)) (.ok stored)) := by
  have answered : inspection.answer = some (.ok stored) := by
    unfold promoted? at promoted
    split at promoted
    next given answered => rw [answered, Option.some.inj promoted]
    next => contradiction
  have ready : isReady site inspection.vmi = true := by simpa [answered] using sound.symm
  obtain ⟨held, keyed⟩ := exists_key_of_ready ready
  exact ⟨held, keyed, by simp [exchange?, keyed, answered]⟩

/-- The machines are those known to be available, each with a key of its own, by name. -/
structure Spares (site : Site) (trace : List Happening) (spares : List Vmi) : Prop where
  mem_iff : ∀ vmi, vmi ∈ spares ↔ Duty.Trimmable site trace vmi
  sorted : spares.Pairwise fun one other => InNameOrder one.metadata other.metadata
  keyed : Keyed spares

/-- The machine may be deleted under the key and at the version: it is cached as available
at that version, or was cached as being created and was made available, which gave that
version. -/
inductive Disposable (trace : List Happening) (vmi : Vmi) : ObjectKey → Option String → Prop
  | available {held : ObjectKey} (keyed : vmi.key = .ok held)
      (state : vmi.poolState? = some .available) :
      Disposable trace vmi held vmi.metadata.resourceVersion
  | promoted {held : ObjectKey} {stored : Vmi} (keyed : vmi.key = .ok held)
      (state : vmi.poolState? = some .creating)
      (answered : .answered (.changeMachine held.space held.name
        (.promote vmi.metadata.resourceVersion)) (.ok stored) ∈ trace) :
      Disposable trace vmi held stored.metadata.resourceVersion

variable {desired : Nat} {report : Report}

namespace Tended

variable (tended : Tended site desired inspections trace report)

include tended

theorem mem_vmis (member : inspection ∈ inspections) :
    inspection.vmi ∈ site.cache.vmis := by
  have pooled : inspection.vmi ∈ site.cache.pool := by
    rw [← tended.members]
    exact List.mem_map_of_mem member
  exact (mem_pool.mp pooled).1

/-- Making a machine available is what a tick did with it. -/
theorem answered_of_promoted {stored : Vmi} (member : inspection ∈ inspections)
    (promoted : inspection.promoted? = some stored) :
    ∃ held, inspection.vmi.key = .ok held ∧
      .answered (.changeMachine held.space held.name
        (.promote inspection.vmi.metadata.resourceVersion)) (.ok stored) ∈ trace := by
  obtain ⟨held, keyed, exchange⟩ := (tended.sound inspection member).exchange_of_promoted promoted
  refine ⟨held, keyed, mem_promotions.mp ?_⟩
  rw [tended.promotions_eq]
  exact List.mem_filterMap.mpr ⟨inspection, member, exchange⟩

/-- A spare machine has the key of the cached one. -/
theorem key_of_spare (echoes : Echoes trace) (member : inspection ∈ inspections)
    (spare : inspection.spare? = some vmi) : vmi.key = inspection.vmi.key := by
  unfold Inspection.spare? at spare
  split at spare
  next stored promoted =>
    obtain rfl := Option.some.inj spare
    obtain ⟨held, keyed, answered⟩ := tended.answered_of_promoted member promoted
    rw [keyed]
    exact echoes _ _ _ _ answered
  next =>
    split at spare
    · rw [Option.some.inj spare]
    · contradiction

theorem name_of_spare (keyed : Keyed site.cache.vmis) (echoes : Echoes trace)
    (member : inspection ∈ inspections) (spare : inspection.spare? = some vmi) :
    vmi.metadata.name = inspection.vmi.metadata.name := by
  obtain ⟨held, held_keyed⟩ := keyed.keyed _ (tended.mem_vmis member)
  have same := (tended.key_of_spare echoes member spare).trans held_keyed
  rw [(Vmi.key_eq_ok_iff.mp same).2, (Vmi.key_eq_ok_iff.mp held_keyed).2]

/-- A spare machine is one that may be deleted under its key and at its version. -/
theorem disposable_of_spare (keyed : Keyed site.cache.vmis) (member : inspection ∈ inspections)
    (spare : inspection.spare? = some vmi) : ∃ held,
      inspection.vmi.key = .ok held ∧
        Disposable trace inspection.vmi held vmi.metadata.resourceVersion := by
  unfold Inspection.spare? at spare
  split at spare
  next stored promoted =>
    obtain rfl := Option.some.inj spare
    have creating := Inspection.creating_of_promoted (tended.sound inspection member)
      (by simp [promoted])
    obtain ⟨held, held_keyed, answered⟩ := tended.answered_of_promoted member promoted
    exact ⟨held, held_keyed, .promoted held_keyed creating answered⟩
  next =>
    split at spare
    next available =>
      obtain rfl := Option.some.inj spare
      obtain ⟨held, held_keyed⟩ := keyed.keyed _ (tended.mem_vmis member)
      exact ⟨held, held_keyed, .available held_keyed available⟩
    next => contradiction

/-- The spare machines are those that are known to be available at the end. -/
theorem mem_spares_iff :
    vmi ∈ inspections.filterMap Inspection.spare? ↔ Duty.Trimmable site trace vmi := by
  constructor
  · intro member
    obtain ⟨inspection, among, spare⟩ := List.mem_filterMap.mp member
    unfold Inspection.spare? at spare
    split at spare
    next stored promoted =>
      obtain rfl := Option.some.inj spare
      obtain ⟨held, -, answered⟩ := tended.answered_of_promoted among promoted
      exact .inr ⟨_, _, _, answered⟩
    next =>
      split at spare
      next available =>
        obtain rfl := Option.some.inj spare
        exact .inl ⟨tended.mem_vmis among, available⟩
      next => contradiction
  · rintro (⟨cached, available⟩ | ⟨space, name, version, answered⟩)
    · have pooled : vmi ∈ site.cache.pool :=
        mem_pool.mpr ⟨cached, Vmi.isPooled_of_poolState? available⟩
      rw [← tended.members] at pooled
      obtain ⟨inspection, among, rfl⟩ := List.mem_map.mp pooled
      refine List.mem_filterMap.mpr ⟨inspection, among, ?_⟩
      unfold Inspection.spare?
      split
      next stored promoted =>
        have creating := Inspection.creating_of_promoted (tended.sound inspection among)
          (by simp [promoted])
        rw [creating] at available
        contradiction
      next => rw [if_pos available]
    · have promoted := mem_promotions.mpr answered
      rw [tended.promotions_eq] at promoted
      obtain ⟨inspection, among, exchange⟩ := List.mem_filterMap.mp promoted
      refine List.mem_filterMap.mpr ⟨inspection, among, ?_⟩
      unfold Inspection.exchange? at exchange
      split at exchange
      next held reply keyed replied =>
        cases exchange
        simp [Inspection.spare?, Inspection.promoted?, replied]
      next => contradiction

theorem spares (keyed : Keyed site.cache.vmis) (echoes : Echoes trace) :
    Spares site trace (inspections.filterMap Inspection.spare?) where
  mem_iff vmi := tended.mem_spares_iff
  sorted := by
    have sorted := sortByName_pairwise Vmi.metadata (site.cache.vmis.filter Vmi.isPooled)
    rw [← pool, ← tended.members, List.pairwise_map] at sorted
    refine List.pairwise_filterMap.mpr (sorted.imp_of_mem ?_)
    intro first second firstAmong secondAmong inOrder one oneSpare other otherSpare
    rw [InNameOrder, tended.name_of_spare keyed echoes firstAmong oneSpare,
      tended.name_of_spare keyed echoes secondAmong otherSpare]
    exact inOrder
  keyed := by
    have nodup := keyed.pool.nodup
    rw [← tended.members, List.map_map, List.Nodup, List.pairwise_map] at nodup
    constructor
    · intro vmi member
      obtain ⟨inspection, among, spare⟩ := List.mem_filterMap.mp member
      rw [tended.key_of_spare echoes among spare]
      exact keyed.keyed _ (tended.mem_vmis among)
    · rw [List.Nodup, List.pairwise_map]
      refine List.pairwise_filterMap.mpr (nodup.imp_of_mem ?_)
      intro first second firstAmong secondAmong apart one oneSpare other otherSpare
      rw [tended.key_of_spare echoes firstAmong oneSpare,
        tended.key_of_spare echoes secondAmong otherSpare]
      exact apart

/-- As many machines are spare as are counted as available. -/
theorem length_spares :
    (inspections.filterMap Inspection.spare?).length = report.tally.available := by
  rw [tended.tally_eq, available_tally_foldl_note]
  exact (Nat.zero_add _).symm

end Tended

end Pool

end NodeGate
