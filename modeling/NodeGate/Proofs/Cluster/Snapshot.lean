import NodeGate.Cluster.Cache

/-!
# What the cache finds

Each look-up in the cache by what the machine that it finds is like. Pool
machines are found by their labels alone; a machine of a pod's own is found by
its namespace and name and is never a member of the pool. Which of several
comes first is told by their names alone. What the watches put into the cache
stays under its own key.
-/

namespace NodeGate.Cache

section Sorting

variable {α β : Type} {metadata : α → ObjectMeta} {otherMetadata : β → ObjectMeta}

theorem insertByName_map {change : α → β}
    (kept : ∀ object, otherMetadata (change object) = metadata object)
    (object : α) (objects : List α) :
    insertByName otherMetadata (change object) (objects.map change) =
      (insertByName metadata object objects).map change := by
  induction objects with
  | nil => rfl
  | cons first rest ih =>
      simp only [List.map_cons, insertByName, kept, ih]
      split <;> rfl

/-- Sorting by name looks at nothing but names. -/
theorem sortByName_map (change : α → β)
    (kept : ∀ object, otherMetadata (change object) = metadata object)
    (objects : List α) :
    sortByName otherMetadata (objects.map change) = (sortByName metadata objects).map change := by
  induction objects with
  | nil => rfl
  | cons first rest ih =>
      rw [List.map_cons, sortByName, List.foldr_cons, ← sortByName, ih, insertByName_map kept]
      rfl

/-- The second object does not come before the first by name. -/
def InNameOrder (one other : ObjectMeta) : Prop :=
  namePrecedes other.name one.name = false

theorem InNameOrder.of_precedes {one other : ObjectMeta}
    (precedes : namePrecedes one.name other.name = true) : InNameOrder one other := by
  unfold InNameOrder
  cases former : one.name with
  | none => cases other.name <;> rfl
  | some former =>
      cases latter : other.name with
      | none => simp [namePrecedes, former, latter] at precedes
      | some latter =>
          simp only [namePrecedes, former, latter, decide_eq_true_eq, decide_eq_false_iff_not]
            at precedes ⊢
          exact String.lt_asymm precedes

theorem InNameOrder.trans {first second third : ObjectMeta} (one : InNameOrder first second)
    (other : InNameOrder second third) : InNameOrder first third := by
  unfold InNameOrder at one other ⊢
  cases former : first.name with
  | none => cases third.name <;> rfl
  | some former =>
      cases middle : second.name with
      | none => simp [namePrecedes, former, middle] at one
      | some middle =>
          cases latter : third.name with
          | none => simp [namePrecedes, middle, latter] at other
          | some latter =>
              simp only [namePrecedes, former, middle, latter, decide_eq_false_iff_not,
                String.not_lt] at one other ⊢
              exact String.le_trans one other

theorem insertByName_pairwise {object : α} {objects : List α}
    (sorted : objects.Pairwise fun one other => InNameOrder (metadata one) (metadata other)) :
    (insertByName metadata object objects).Pairwise fun one other =>
      InNameOrder (metadata one) (metadata other) := by
  induction objects with
  | nil => exact List.pairwise_singleton _ _
  | cons first rest ih =>
      obtain ⟨before, others⟩ := List.pairwise_cons.mp sorted
      rw [insertByName]
      split
      next precedes =>
        refine List.pairwise_cons.mpr ⟨?_, ih others⟩
        intro other member
        rcases List.mem_cons.mp ((insertByName_perm metadata object rest).mem_iff.mp member) with
          rfl | member
        · exact .of_precedes precedes
        · exact before other member
      next place =>
        have ahead : InNameOrder (metadata object) (metadata first) := by
          simpa [InNameOrder] using place
        refine List.pairwise_cons.mpr ⟨?_, sorted⟩
        intro other member
        rcases List.mem_cons.mp member with rfl | member
        · exact ahead
        · exact ahead.trans (before other member)

/-- What was sorted by name is in the order of the names. -/
theorem sortByName_pairwise (metadata : α → ObjectMeta) (objects : List α) :
    (sortByName metadata objects).Pairwise fun one other =>
      InNameOrder (metadata one) (metadata other) := by
  induction objects with
  | nil => exact .nil
  | cons first rest ih => exact insertByName_pairwise ih

end Sorting

variable {cache : Cache} {vmi : Vmi}

@[simp]
theorem mem_pool : vmi ∈ cache.pool ↔ vmi ∈ cache.vmis ∧ vmi.isPooled = true := by
  simp [pool, (sortByName_perm _ _).mem_iff]

/-- What counts machines of the pool alone counts them in the cache as well. -/
theorem countP_pool {counts : Vmi → Bool}
    (pooled : ∀ vmi, counts vmi = true → vmi.isPooled = true) :
    cache.pool.countP counts = cache.vmis.countP counts := by
  rw [pool, (sortByName_perm _ _).countP_eq, List.countP_filter]
  refine List.countP_congr fun vmi _ => ?_
  rw [Bool.and_eq_true, and_iff_left_of_imp (pooled vmi)]

/-- A machine that is there to be claimed is cached as available and runs. -/
theorem candidate?_eq_some (found : cache.candidate? = some vmi) :
    vmi ∈ cache.vmis ∧ vmi.isPooled = true ∧ vmi.poolState? = some .available ∧
      vmi.isRunning = true := by
  have member := mem_pool.mp (List.mem_of_find?_eq_some found)
  have claimable := List.find?_some found
  simp only [isClaimable, Bool.and_eq_true, beq_iff_eq] at claimable
  exact ⟨member.1, member.2, claimable.1, claimable.2⟩

/-- The machine that a pod holds is cached as claimed for its key. -/
theorem heldBy?_eq_some {key : String} (found : cache.heldBy? key = some vmi) :
    vmi ∈ cache.vmis ∧ vmi.isPooled = true ∧ vmi.poolState? = some .claimed ∧
      vmi.claimant? = some key := by
  have member := mem_pool.mp (List.mem_of_find?_eq_some found)
  have claimed := List.find?_some found
  simp only [Bool.and_eq_true, beq_iff_eq] at claimed
  exact ⟨member.1, member.2, claimed.1, claimed.2⟩

/-- Without a machine there to be claimed, none of the cached ones can be. -/
theorem candidate?_eq_none : cache.candidate? = none ↔
    ∀ vmi ∈ cache.vmis, vmi.isPooled = true → isClaimable vmi = false := by
  simp only [candidate?, List.find?_eq_none, mem_pool, and_imp, Bool.not_eq_true]

/-- A pod holds no machine if none is cached as claimed for its key. -/
theorem heldBy?_eq_none {key : String} : cache.heldBy? key = none ↔
    ∀ vmi ∈ cache.vmis, vmi.isPooled = true → vmi.poolState? = some .claimed →
      vmi.claimant? ≠ some key := by
  simp only [heldBy?, List.find?_eq_none, mem_pool, and_imp, Bool.and_eq_true, beq_iff_eq,
    not_and, ne_eq]

/-- What is found by namespace and name has that name, and that namespace if it
has any. -/
theorem findIn_eq_some {α : Type} {metadata : α → ObjectMeta} {space name : String}
    {objects : List α} {object : α} (found : findIn metadata space name objects = some object) :
    object ∈ objects ∧ (metadata object).nameOrEmpty = name ∧
      ((metadata object).space = some space ∨ (metadata object).space = none) := by
  unfold findIn at found
  split at found
  next exact =>
    cases found
    have matching := List.find?_some exact
    simp only [Bool.and_eq_true, beq_iff_eq] at matching
    exact ⟨List.mem_of_find?_eq_some exact, matching.2, .inl matching.1⟩
  next =>
    have matching := List.find?_some found
    simp only [Bool.and_eq_true, beq_iff_eq] at matching
    exact ⟨List.mem_of_find?_eq_some found, matching.2, .inr matching.1⟩

/-- The machine that serves a pod is one of its own, or the pool machine that it
holds when there is none of its own. -/
theorem machineOf?_eq_some {key : ObjectKey} (found : cache.machineOf? key = some vmi) :
    (cache.vmi? key = some vmi ∧ vmi.isPooled = false) ∨
      (cache.heldBy? key.text = some vmi ∧ vmi.isPooled = true) := by
  unfold machineOf? at found
  split at found
  next own =>
    cases found
    obtain ⟨own, outside⟩ := Option.filter_eq_some_iff.mp own
    exact .inl ⟨own, by simpa using outside⟩
  next => exact .inr ⟨found, (heldBy?_eq_some found).2.1⟩

/-- No machine serves a pod that has none of its own and holds none of the pool. -/
theorem machineOf?_eq_none {key : ObjectKey} : cache.machineOf? key = none ↔
    (∀ vmi, cache.vmi? key = some vmi → vmi.isPooled = true) ∧
      cache.heldBy? key.text = none := by
  unfold machineOf?
  cases own : cache.vmi? key with
  | none => simp
  | some vmi => cases pooled : vmi.isPooled <;> simp [Option.filter_some, pooled]

end NodeGate.Cache
