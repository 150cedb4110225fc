import NodeGate.Proofs.Cluster.LabelPatch
import NodeGate.Release.Claiming

/-!
# How the API server stores machines

Every version of a machine that is ever stored has a resource version of its own
among those of the machine, and a write that is pinned to a version takes effect
only while that version is stored. An effect may be had and its answer lost, and a
write may be refused for any reason.
-/

namespace NodeGate

/-- The machines as they are stored, and every version of one that was ever
stored. -/
structure MachineStore where
  stored : ObjectKey → Option Vmi
  versions : List Vmi
  key_of_stored : ∀ {key vmi}, stored key = some vmi → vmi.key = .ok key
  mem_of_stored : ∀ {key vmi}, stored key = some vmi → vmi ∈ versions
  versioned : ∀ vmi ∈ versions, vmi.metadata.resourceVersion.isSome = true
  eq_of_version_eq : ∀ one ∈ versions, ∀ other ∈ versions, one.key = other.key →
    one.metadata.resourceVersion = other.metadata.resourceVersion → one = other

/-- What becomes of a stored machine. -/
inductive Effect where
  | created (key : ObjectKey) (vmi : Vmi)
  | changed (key : ObjectKey) (before after : Vmi)
  | removed (key : ObjectKey) (vmi : Vmi)

namespace Effect

/-- The key of the machine that an effect is about. -/
def key : Effect → ObjectKey
  | .created key _ => key
  | .changed key _ _ => key
  | .removed key _ => key

/-- What was stored before an effect. -/
def before? : Effect → Option Vmi
  | .created _ _ => none
  | .changed _ before _ => some before
  | .removed _ vmi => some vmi

/-- What is stored after an effect. -/
def after? : Effect → Option Vmi
  | .created _ vmi => some vmi
  | .changed _ _ after => some after
  | .removed _ _ => none

end Effect

namespace MachineStore

/-- A machine has a version that no version of it had before. -/
structure IsFresh (store : MachineStore) (vmi : Vmi) : Prop where
  versioned : vmi.metadata.resourceVersion.isSome = true
  unused : ∀ other ∈ store.versions, other.key = vmi.key →
    other.metadata.resourceVersion ≠ vmi.metadata.resourceVersion

/-- Stores a new version of a machine. -/
def put (store : MachineStore) (key : ObjectKey) (vmi : Vmi) (keyed : vmi.key = .ok key)
    (fresh : store.IsFresh vmi) : MachineStore where
  stored other := if other = key then some vmi else store.stored other
  versions := vmi :: store.versions
  key_of_stored := by
    intro other found stored
    split at stored
    next same =>
      cases stored
      rw [same, keyed]
    next => exact store.key_of_stored stored
  mem_of_stored := by
    intro other found stored
    split at stored
    next =>
      cases stored
      exact List.mem_cons_self
    next => exact List.mem_cons_of_mem _ (store.mem_of_stored stored)
  versioned := by
    intro known member
    rcases List.mem_cons.mp member with rfl | member
    · exact fresh.versioned
    · exact store.versioned known member
  eq_of_version_eq := by
    intro one oneMember other otherMember sameKey sameVersion
    rcases List.mem_cons.mp oneMember with rfl | oneKnown
    · rcases List.mem_cons.mp otherMember with rfl | otherKnown
      · rfl
      · exact absurd sameVersion.symm (fresh.unused other otherKnown sameKey.symm)
    · rcases List.mem_cons.mp otherMember with rfl | otherKnown
      · exact absurd sameVersion (fresh.unused one oneKnown sameKey)
      · exact store.eq_of_version_eq one oneKnown other otherKnown sameKey sameVersion

/-- Removes a machine. -/
def remove (store : MachineStore) (key : ObjectKey) : MachineStore where
  stored other := if other = key then none else store.stored other
  versions := store.versions
  key_of_stored := by
    intro other found stored
    split at stored
    · contradiction
    · exact store.key_of_stored stored
  mem_of_stored := by
    intro other found stored
    split at stored
    · contradiction
    · exact store.mem_of_stored stored
  versioned := store.versioned
  eq_of_version_eq := store.eq_of_version_eq

/-- What the API server may answer to a call, and what it makes of what it stores. -/
inductive Serves (store : MachineStore) :
    (asked : Call) → Except Fault asked.Answer → Option Effect → MachineStore → Prop where
  | create {vmi made : Vmi} {key : ObjectKey} {answer : Except Fault Unit}
      (absent : store.stored key = none) (named : vmi.key = .ok key) (keyed : made.key = .ok key)
      (labelled : made.metadata.labels = vmi.metadata.labels) (fresh : store.IsFresh made) :
      Serves store (.createMachine vmi) answer (some (.created key made))
        (store.put key made keyed fresh)
  | change {space name : String} {patch : VmiPatch} {before after : Vmi}
      {answer : Except Fault Vmi} (found : store.stored ⟨space, name⟩ = some before)
      (pinned : ∀ version, patch.toJson.metadataMember? "resourceVersion" = some version →
        before.metadata.resourceVersion.map .str = some version)
      (makes : patch.Makes before after) (keyed : after.key = .ok ⟨space, name⟩)
      (fresh : store.IsFresh after) (told : ∀ given, answer = .ok given → given = after) :
      Serves store (.changeMachine space name patch) answer
        (some (.changed ⟨space, name⟩ before after)) (store.put ⟨space, name⟩ after keyed fresh)
  | delete {space name : String} {pin : Option String} {before : Vmi}
      {answer : Except Fault Unit} (found : store.stored ⟨space, name⟩ = some before)
      (pinned : ∀ version, pin = some version →
        before.metadata.resourceVersion = some version) :
      Serves store (.deleteMachine space name pin) answer
        (some (.removed ⟨space, name⟩ before)) (store.remove ⟨space, name⟩)
  | refuse {asked : Call} {fault : Fault} : Serves store asked (.error fault) none store
  /-- Nothing is stored by reading a machine or by writing what is no machine. -/
  | readMachine {space name : String} {answer : Except Fault (Option Vmi)} :
      Serves store (.readMachine space name) answer none store
  | changePod {space name : String} {patch : PodPatch} {answer : Except Fault Unit} :
      Serves store (.changePod space name patch) answer none store
  | changeNode {name : String} {patch : NodePatch} {answer : Except Fault Unit} :
      Serves store (.changeNode name patch) answer none store
  | reportCounts {name : String} {patch : StatusPatch} {answer : Except Fault Unit} :
      Serves store (.reportCounts name patch) answer none store

/-- What others may make of what is stored. They bring machines up and report on
them, but leave the part of the labels to the controller that tells of the pool. -/
inductive Disturbs (store : MachineStore) : Effect → MachineStore → Prop where
  | create {made : Vmi} {key : ObjectKey} (absent : store.stored key = none)
      (keyed : made.key = .ok key) (unclaimed : made.poolState? ≠ some .claimed)
      (fresh : store.IsFresh made) :
      Disturbs store (.created key made) (store.put key made keyed fresh)
  | change {key : ObjectKey} {before after : Vmi} (found : store.stored key = some before)
      (sameState : after.metadata.label? poolStateLabel = before.metadata.label? poolStateLabel)
      (sameClaimant : after.metadata.label? claimantLabel = before.metadata.label? claimantLabel)
      (keyed : after.key = .ok key) (fresh : store.IsFresh after) :
      Disturbs store (.changed key before after) (store.put key after keyed fresh)
  | remove {key : ObjectKey} {before : Vmi} (found : store.stored key = some before) :
      Disturbs store (.removed key before) (store.remove key)

variable {store served : MachineStore} {asked : Call} {answer : Except Fault asked.Answer}
  {effect : Effect} {vmi before : Vmi} {space name : String}

/-- What an effect says was stored is what was stored, and only that changes. -/
def Turns (store : MachineStore) (effect : Effect) (turned : MachineStore) : Prop :=
  store.stored effect.key = effect.before? ∧
    ∀ other, turned.stored other =
      if other = effect.key then effect.after? else store.stored other

theorem Turns.stored_of_ne {key : ObjectKey} (turns : store.Turns effect served)
    (elsewhere : key ≠ effect.key) : served.stored key = store.stored key := by
  rw [turns.2, if_neg elsewhere]

theorem Turns.stored_self (turns : store.Turns effect served) :
    served.stored effect.key = effect.after? := by
  rw [turns.2, if_pos rfl]

theorem Serves.turns (serves : store.Serves asked answer (some effect) served) :
    store.Turns effect served := by
  cases serves with
  | create absent => exact ⟨absent, fun _ => rfl⟩
  | change found => exact ⟨found, fun _ => rfl⟩
  | delete found => exact ⟨found, fun _ => rfl⟩

theorem Serves.eq_of_no_effect (serves : store.Serves asked answer none served) :
    served = store := by
  cases serves <;> rfl

theorem Disturbs.turns (disturbs : store.Disturbs effect served) :
    store.Turns effect served := by
  cases disturbs with
  | create absent => exact ⟨absent, fun _ => rfl⟩
  | change found => exact ⟨found, fun _ => rfl⟩
  | remove found => exact ⟨found, fun _ => rfl⟩

/-- No version that was ever stored is forgotten. -/
theorem Serves.versions_subset {effect : Option Effect}
    (serves : store.Serves asked answer effect served) : store.versions ⊆ served.versions := by
  cases serves with
  | create => exact List.subset_cons_self _ _
  | change => exact List.subset_cons_self _ _
  | _ => exact List.Subset.refl _

theorem Disturbs.versions_subset (disturbs : store.Disturbs effect served) :
    store.versions ⊆ served.versions := by
  cases disturbs with
  | create => exact List.subset_cons_self _ _
  | change => exact List.subset_cons_self _ _
  | remove => exact List.Subset.refl _

/-- A machine that is given back after a change was stored and is what the patch
made. -/
theorem Serves.stored_of_changed {patch : VmiPatch} {effect : Option Effect}
    (serves : store.Serves (.changeMachine space name patch) (.ok vmi) effect served) :
    vmi ∈ served.versions ∧ ∃ before, patch.Makes before vmi := by
  cases serves with
  | change found pinned makes keyed fresh told =>
      obtain rfl := told vmi rfl
      exact ⟨List.mem_cons_self, _, makes⟩

/-- A write that is pinned to a version of a machine which was ever stored finds that
version stored. -/
theorem eq_of_pinned (known : vmi ∈ store.versions) (keyed : vmi.key = .ok ⟨space, name⟩)
    (found : store.stored ⟨space, name⟩ = some before)
    (pinned : ∀ version, vmi.metadata.resourceVersion = some version →
      before.metadata.resourceVersion = some version) : before = vmi := by
  obtain ⟨version, known_version⟩ := Option.isSome_iff_exists.mp (store.versioned vmi known)
  apply store.eq_of_version_eq before (store.mem_of_stored found) vmi known
  · rw [store.key_of_stored found, keyed]
  · rw [pinned version known_version, known_version]

/-- The version in a patch is read as the one that it is pinned to. -/
theorem pinned_of_toJson {patch : VmiPatch}
    (pinned : ∀ version, patch.toJson.metadataMember? "resourceVersion" = some version →
      before.metadata.resourceVersion.map .str = some version) (version : String)
    (carried : patch.resourceVersion = some version) :
    before.metadata.resourceVersion = some version := by
  have read : patch.toJson.metadataMember? "resourceVersion" = some (.str version) := by
    rw [VmiPatch.metadataMember?_resourceVersion, carried, Option.map_some]
  simpa using pinned _ read

end MachineStore

end NodeGate
