import Mathlib.Data.List.Nodup
import NodeGate.ApiServer.Watch
import NodeGate.Proofs.Cluster.Registry

/-!
# The keys of cached machines

A cache holds every object under its own identity, and every machine under its own key. What
a watch tells of keeps it so: an object that is seen takes the place of the one with its
identity, and an object that is gone leaves its place.
-/

namespace NodeGate

namespace Cache

section Identities

variable {α : Type} {metadata : α → ObjectMeta} {objects : List α} {made : α}

/-- No two objects of a list have one identity. -/
def Apart (metadata : α → ObjectMeta) (objects : List α) : Prop :=
  objects.Pairwise fun one other => sameIdentity (metadata one) (metadata other) = false

theorem Apart.distinct (apart : Apart metadata objects) : Distinct metadata objects := by
  induction objects with
  | nil => exact fun _ member => nomatch member
  | cons first rest ih =>
      obtain ⟨first_apart, rest_apart⟩ := List.pairwise_cons.mp apart
      intro one oneMember other otherMember same
      rcases List.mem_cons.mp oneMember with rfl | oneRest
      · rcases List.mem_cons.mp otherMember with rfl | otherRest
        · rfl
        · simp [first_apart other otherRest] at same
      · rcases List.mem_cons.mp otherMember with rfl | otherRest
        · rw [sameIdentity_symm, first_apart one oneRest] at same
          contradiction
        · exact ih rest_apart one oneRest other otherRest same

theorem mem_put {other : α} (member : other ∈ put metadata made objects) :
    other = made ∨ other ∈ objects := by
  induction objects with
  | nil => exact .inl (List.mem_singleton.mp member)
  | cons first rest ih =>
      rw [put] at member
      split at member
      · exact (List.mem_cons.mp member).imp_right (List.mem_cons_of_mem _)
      · rcases List.mem_cons.mp member with rfl | member
        · exact .inr List.mem_cons_self
        · exact (ih member).imp_right (List.mem_cons_of_mem _)

/-- An object that is seen takes the place of the one with its identity. -/
theorem Apart.put (apart : Apart metadata objects) :
    Apart metadata (put metadata made objects) := by
  induction objects with
  | nil => exact List.pairwise_singleton _ _
  | cons first rest ih =>
      obtain ⟨first_apart, rest_apart⟩ := List.pairwise_cons.mp apart
      rw [Cache.put]
      split
      next same =>
        refine List.pairwise_cons.mpr ⟨fun other member => ?_, rest_apart⟩
        have differs := first_apart other member
        simp_all [sameIdentity]
      next differs =>
        refine List.pairwise_cons.mpr ⟨fun other member => ?_, ih rest_apart⟩
        rcases mem_put member with rfl | member
        · simpa using differs
        · exact first_apart other member

theorem mem_put_of_apart {other : α} (member : other ∈ objects)
    (differs : sameIdentity (metadata other) (metadata made) = false) :
    other ∈ put metadata made objects := by
  induction objects with
  | nil => contradiction
  | cons first rest ih =>
      rw [put]
      rcases List.mem_cons.mp member with rfl | member
      · rw [if_neg (by simp [differs])]
        exact List.mem_cons_self
      · split
        · exact List.mem_cons_of_mem _ member
        · exact List.mem_cons_of_mem _ (ih member)

theorem sameIdentity_trans {first second third : ObjectMeta}
    (one : sameIdentity first second = true) (other : sameIdentity second third = true) :
    sameIdentity first third = true := by
  simp_all [sameIdentity]

/-- An object that takes the place of one that does not count adds one to the count. -/
theorem countP_put {counts : α → Bool} {old : α} (apart : Apart metadata objects)
    (member : old ∈ objects) (same : sameIdentity (metadata old) (metadata made) = true)
    (uncounted : counts old = false) (counted : counts made = true) :
    (put metadata made objects).countP counts = objects.countP counts + 1 := by
  induction objects with
  | nil => contradiction
  | cons first rest ih =>
      obtain ⟨first_apart, rest_apart⟩ := List.pairwise_cons.mp apart
      rw [put]
      split
      next here =>
        -- The place is that of the first object, which then is the old one.
        have isOld : old = first := by
          refine apart.distinct old member first List.mem_cons_self (sameIdentity_trans same ?_)
          rw [sameIdentity_symm, here]
        rw [← isOld, List.countP_cons_of_pos counted, List.countP_cons_of_neg (by simp [uncounted])]
      next elsewhere =>
        have later : old ∈ rest := by
          refine (List.mem_cons.mp member).resolve_left ?_
          rintro rfl
          exact elsewhere same
        rw [List.countP_cons, List.countP_cons, ih rest_apart later]
        omega

/-- Objects that take the places of ones that do not count add to the count. -/
theorem countP_foldl_put {counts : α → Bool} {arrivals : List α} (apart : Apart metadata objects)
    (arrivals_apart : Apart metadata arrivals)
    (places : ∀ made ∈ arrivals, ∃ old ∈ objects,
      sameIdentity (metadata old) (metadata made) = true ∧ counts old = false)
    (counted : ∀ made ∈ arrivals, counts made = true) :
    (arrivals.foldl (fun objects made => put metadata made objects) objects).countP counts =
      objects.countP counts + arrivals.length := by
  induction arrivals generalizing objects with
  | nil => rfl
  | cons first rest ih =>
      obtain ⟨first_apart, rest_apart⟩ := List.pairwise_cons.mp arrivals_apart
      obtain ⟨old, member, same, uncounted⟩ := places first List.mem_cons_self
      have first_counted := counted first List.mem_cons_self
      rw [List.foldl_cons, ih apart.put rest_apart, countP_put apart member same uncounted
        first_counted, List.length_cons]
      · omega
      · intro made later
        obtain ⟨other, stored, alike, otherUncounted⟩ := places made (List.mem_cons_of_mem _ later)
        refine ⟨other, mem_put_of_apart stored ?_, alike, otherUncounted⟩
        rw [Bool.eq_false_iff]
        intro clash
        rw [sameIdentity_symm] at clash
        have shared := sameIdentity_trans clash alike
        rw [first_apart made later] at shared
        contradiction
      · exact fun made later => counted made (List.mem_cons_of_mem _ later)

theorem Apart.drop (apart : Apart metadata objects) : Apart metadata (drop metadata made objects) :=
  apart.sublist List.filter_sublist

/-- The machines of the pool have identities of their own as well. -/
theorem Apart.pool {cache : Cache} (apart : Apart Vmi.metadata cache.vmis) :
    Apart Vmi.metadata cache.pool := by
  refine (List.Perm.pairwise_iff ?_ (sortByName_perm _ _)).mpr (apart.sublist List.filter_sublist)
  exact fun differs => sameIdentity_symm.trans differs

end Identities

/-- Every machine has a key, and no two have the same. -/
structure Keyed (vmis : List Vmi) : Prop where
  keyed : ∀ vmi ∈ vmis, ∃ held, vmi.key = .ok held
  nodup : (vmis.map Vmi.key).Nodup

namespace Keyed

variable {vmis : List Vmi} {vmi made : Vmi} {held : ObjectKey}

theorem eq_of_key {other : Vmi} (keyed : Keyed vmis) (member : vmi ∈ vmis)
    (otherMember : other ∈ vmis) (same : vmi.key = other.key) : vmi = other :=
  List.inj_on_of_nodup_map keyed.nodup member otherMember same

theorem nil : Keyed [] :=
  ⟨by simp, by simp⟩

theorem cons_iff : Keyed (vmi :: vmis) ↔
    (∃ held, vmi.key = .ok held) ∧ (∀ other ∈ vmis, other.key ≠ vmi.key) ∧ Keyed vmis := by
  constructor
  · intro ⟨keyed, nodup⟩
    obtain ⟨apart, others⟩ := List.nodup_cons.mp nodup
    obtain ⟨first, rest⟩ := List.forall_mem_cons.mp keyed
    exact ⟨first, fun other member same => apart (List.mem_map.mpr ⟨other, member, same⟩),
      rest, others⟩
  · intro ⟨first, apart, keyed, nodup⟩
    refine ⟨List.forall_mem_cons.mpr ⟨first, keyed⟩, List.nodup_cons.mpr ⟨?_, nodup⟩⟩
    intro member
    obtain ⟨other, among, same⟩ := List.mem_map.mp member
    exact apart other among same

/-- A machine that is seen takes the place of the one with its key. -/
theorem put (keyed : Keyed vmis) (madeKeyed : made.key = .ok held) :
    Keyed (put Vmi.metadata made vmis) := by
  induction vmis with
  | nil => exact cons_iff.mpr ⟨⟨held, madeKeyed⟩, by simp, .nil⟩
  | cons first rest ih =>
      obtain ⟨⟨key, firstKeyed⟩, apart, others⟩ := cons_iff.mp keyed
      rw [Cache.put]
      split
      next same =>
        obtain rfl := (Vmi.sameIdentity_iff_key firstKeyed madeKeyed).mp same
        rw [firstKeyed] at apart
        exact cons_iff.mpr ⟨⟨key, madeKeyed⟩, by rwa [madeKeyed], others⟩
      next differs =>
        refine cons_iff.mpr ⟨⟨key, firstKeyed⟩, ?_, ih others⟩
        intro other member
        rcases mem_put member with rfl | member
        · intro same
          rw [madeKeyed, firstKeyed] at same
          exact differs ((Vmi.sameIdentity_iff_key firstKeyed madeKeyed).mpr
            (Except.ok.inj same).symm)
        · exact apart other member

/-- Machines that are gone take no key with them. -/
theorem drop (keyed : Keyed vmis) : Keyed (drop Vmi.metadata made vmis) where
  keyed vmi member := keyed.keyed vmi (mem_drop.mp member).1
  nodup := keyed.nodup.sublist (List.filter_sublist.map _)

/-- The machines of the pool have keys of their own as well. -/
theorem pool {cache : Cache} (keyed : Keyed cache.vmis) : Keyed cache.pool where
  keyed vmi member := keyed.keyed vmi (mem_pool.mp member).1
  nodup := by
    have perm := (sortByName_perm Vmi.metadata (cache.vmis.filter Vmi.isPooled)).map Vmi.key
    exact perm.nodup_iff.mpr (keyed.nodup.sublist (List.filter_sublist.map _))

end Keyed

end Cache

namespace ApiServer

/-- The object that is put into the cache because of an event. -/
def WatchEvent.seen? {α : Type} : WatchEvent α → Option α
  | .listed object => some object
  | .applied object => some object
  | _ => none

/-- All objects that a watch knows have identities of their own. -/
structure Replica.Apart {α : Type} (metadata : α → ObjectMeta) (replica : Replica α) : Prop where
  objects : Cache.Apart metadata replica.objects
  arriving : Cache.Apart metadata replica.arriving

/-- Whatever a watch told, the objects that it knows have identities of their own. -/
theorem Replica.Apart.foldl_receive {α : Type} {metadata : α → ObjectMeta} {replica : Replica α}
    (apart : replica.Apart metadata) (events : List (WatchEvent α)) :
    (events.foldl (Replica.receive metadata) replica).Apart metadata := by
  induction events generalizing replica with
  | nil => exact apart
  | cons event rest ih =>
      apply ih
      cases event with
      | start => exact ⟨apart.objects, .nil⟩
      | listed object => exact ⟨apart.objects, apart.arriving.put⟩
      | complete => exact ⟨apart.arriving, .nil⟩
      | applied object => exact ⟨apart.objects.put, apart.arriving⟩
      | deleted object => exact ⟨apart.objects.drop, apart.arriving⟩
      | failed => exact apart

/-- All machines that a watch knows have keys of their own. -/
structure Replica.Keyed (replica : Replica Vmi) : Prop where
  objects : Cache.Keyed replica.objects
  arriving : Cache.Keyed replica.arriving

variable {replica : Replica Vmi} {event : WatchEvent Vmi}

theorem Replica.Keyed.receive (keyed : replica.Keyed)
    (seen : ∀ vmi, event.seen? = some vmi → ∃ held, vmi.key = .ok held) :
    (replica.receive Vmi.metadata event).Keyed := by
  cases event with
  | start => exact ⟨keyed.objects, .nil⟩
  | listed vmi =>
      obtain ⟨held, vmi_keyed⟩ := seen vmi rfl
      exact ⟨keyed.objects, keyed.arriving.put vmi_keyed⟩
  | complete => exact ⟨keyed.arriving, .nil⟩
  | applied vmi =>
      obtain ⟨held, vmi_keyed⟩ := seen vmi rfl
      exact ⟨keyed.objects.put vmi_keyed, keyed.arriving⟩
  | deleted vmi => exact ⟨keyed.objects.drop, keyed.arriving⟩
  | failed => exact keyed

/-- Whatever a watch told of machines with keys, those it knows have keys of their own. -/
theorem Replica.Keyed.foldl_receive {events : List (WatchEvent Vmi)} (keyed : replica.Keyed)
    (seen : ∀ event ∈ events, ∀ vmi, event.seen? = some vmi → ∃ held, vmi.key = .ok held) :
    (events.foldl (Replica.receive Vmi.metadata) replica).Keyed := by
  induction events generalizing replica with
  | nil => exact keyed
  | cons first rest ih =>
      obtain ⟨firstSeen, restSeen⟩ := List.forall_mem_cons.mp seen
      exact ih (keyed.receive firstSeen) restSeen

end ApiServer

end NodeGate
