import NodeGate.Proofs.Cluster.MergedPods
import NodeGate.Proofs.Cluster.Snapshot
import NodeGate.Release.Pass

/-!
# An API server that merges patches

The objects are stored under their namespaces and names. A patch that is pinned to another
version than the stored one is a conflict; any other is merged into the document of the
object, which gets a new version by that. Which one is left open. No call fails but for
an object that is not there or has changed.
-/

namespace NodeGate

/-- The key of a machine is its namespace and its name. -/
theorem Vmi.key_eq_ok_iff {vmi : Vmi} {held : ObjectKey} :
    vmi.key = .ok held ↔
      vmi.metadata.space = some held.space ∧ vmi.metadata.name = some held.name := by
  unfold key
  split
  next space name spaced named =>
    obtain ⟨heldSpace, heldName⟩ := held
    simp [spaced, named]
  next unnamed =>
    simp only [reduceCtorEq, false_iff]
    rintro ⟨spaced, named⟩
    exact unnamed _ _ spaced named

theorem Vmi.nodeName_of_key {vmi : Vmi} {held : ObjectKey} (keyed : vmi.key = .ok held) :
    vmi.nodeName = held.name := by
  rw [nodeName, ObjectMeta.nameOrEmpty, (key_eq_ok_iff.mp keyed).2, Option.getD_some]

/-- Machines with keys have one identity exactly when they have one key. -/
theorem Vmi.sameIdentity_iff_key {one other : Vmi} {held key : ObjectKey}
    (keyed : one.key = .ok held) (otherKeyed : other.key = .ok key) :
    Cache.sameIdentity one.metadata other.metadata = true ↔ held = key := by
  obtain ⟨spaced, named⟩ := key_eq_ok_iff.mp keyed
  obtain ⟨otherSpaced, otherNamed⟩ := key_eq_ok_iff.mp otherKeyed
  obtain ⟨space, name⟩ := held
  obtain ⟨otherSpace, otherName⟩ := key
  simp [Cache.sameIdentity, ObjectMeta.nameOrEmpty, spaced, named, otherSpaced, otherNamed]

namespace Cache

variable {α : Type} {metadata : α → ObjectMeta} {made other : α} {objects : List α}

/-- What stands in the place of an object after one was put in the place of its own. -/
def supersede (metadata : α → ObjectMeta) (made object : α) : α :=
  if sameIdentity (metadata object) (metadata made) then made else object

/-- The objects with one of them put in the place of what has its identity. -/
def superseded (metadata : α → ObjectMeta) (made : α) (objects : List α) : List α :=
  objects.map (supersede metadata made)

/-- No two of the objects have one identity. -/
def Distinct (metadata : α → ObjectMeta) (objects : List α) : Prop :=
  ∀ one ∈ objects, ∀ other ∈ objects,
    sameIdentity (metadata one) (metadata other) = true → one = other

/-- Of distinct objects exactly the one of that namespace and name is found. -/
theorem findExact_eq_some_iff {space : Option String} {name : String} {object : α}
    (distinct : Distinct metadata objects) :
    findExact metadata space name objects = some object ↔
      object ∈ objects ∧ (metadata object).space = space ∧
        (metadata object).nameOrEmpty = name := by
  constructor
  · intro found
    have matching := List.find?_some found
    simp only [Bool.and_eq_true, beq_iff_eq] at matching
    exact ⟨List.mem_of_find?_eq_some found, matching⟩
  · rintro ⟨member, spaced, named⟩
    have there : (findExact metadata space name objects).isSome = true :=
      List.find?_isSome.mpr ⟨object, member, by simp [spaced, named]⟩
    obtain ⟨other, found⟩ := Option.isSome_iff_exists.mp there
    have matching := List.find?_some found
    simp only [Bool.and_eq_true, beq_iff_eq] at matching
    have same : other = object := by
      apply distinct other (List.mem_of_find?_eq_some found) object member
      simp [sameIdentity, matching, spaced, named]
    rw [found, same]

/-- What is found of the objects after a replacement is found in the same place. -/
theorem findExact_superseded {space : Option String} {name : String} :
    findExact metadata space name (superseded metadata made objects) =
      (findExact metadata space name objects).map (supersede metadata made) := by
  rw [findExact, superseded, List.find?_map, findExact]
  congr 2
  funext object
  simp only [Function.comp_apply, supersede]
  split
  next same =>
    simp only [sameIdentity, Bool.and_eq_true, beq_iff_eq] at same
    rw [same.1, same.2]
  next => rfl

theorem findIn_superseded {space name : String} :
    findIn metadata space name (superseded metadata made objects) =
      (findIn metadata space name objects).map (supersede metadata made) := by
  rw [findIn, findIn, findExact_superseded, findExact_superseded]
  cases findExact metadata (some space) name objects <;> rfl

theorem supersede_of_sameObject {object : α} (same : (metadata made).SameObject (metadata object)) :
    supersede metadata made object = made := by
  rw [supersede, if_pos]
  simp [sameIdentity, ObjectMeta.nameOrEmpty, same.space_eq, same.name_eq]

/-- The last of two replacements of one object counts. -/
theorem superseded_superseded (same : (metadata other).SameObject (metadata made)) :
    superseded metadata other (superseded metadata made objects) =
      superseded metadata other objects := by
  rw [superseded, superseded, List.map_map, superseded]
  congr 1
  funext object
  have identity : sameIdentity (metadata object) (metadata other) =
      sameIdentity (metadata object) (metadata made) := by
    simp [sameIdentity, ObjectMeta.nameOrEmpty, same.space_eq, same.name_eq]
  rw [Function.comp_apply, supersede, supersede, supersede, identity]
  split
  · rw [if_pos same.symm.sameIdentity]
  next apart => rw [identity, if_neg apart]

/-- An object that is there is replaced by itself. -/
theorem superseded_self (distinct : Distinct metadata objects) (member : made ∈ objects) :
    superseded metadata made objects = objects := by
  conv_rhs => rw [← List.map_id objects]
  apply List.map_congr_left
  intro object stored
  rw [supersede, id]
  split
  next same => exact (distinct object stored made member same).symm
  next => rfl

/-- What is there after a replacement is what was put there or was there before in another
place. -/
theorem mem_superseded (member : other ∈ superseded metadata made objects) :
    other = made ∨
      other ∈ objects ∧ sameIdentity (metadata other) (metadata made) = false := by
  obtain ⟨before, stored, same⟩ := List.mem_map.mp member
  unfold supersede at same
  split at same
  · exact .inl same.symm
  next apart =>
    rw [← same]
    exact .inr ⟨stored, by simpa using apart⟩

theorem mem_superseded_of_mem (member : other ∈ objects)
    (apart : sameIdentity (metadata other) (metadata made) = false) :
    other ∈ superseded metadata made objects :=
  List.mem_map.mpr ⟨other, member, by simp [supersede, apart]⟩

theorem sameIdentity_symm {one other : ObjectMeta} :
    sameIdentity one other = sameIdentity other one := by
  simp only [sameIdentity]
  rw [Bool.eq_iff_iff]
  simp only [Bool.and_eq_true, beq_iff_eq]
  constructor <;> exact fun same => ⟨same.1.symm, same.2.symm⟩

theorem Distinct.superseded (distinct : Distinct metadata objects) :
    Distinct metadata (superseded metadata made objects) := by
  intro one oneMember other otherMember same
  rcases mem_superseded oneMember with rfl | ⟨oneStored, oneApart⟩
  · rcases mem_superseded otherMember with rfl | ⟨-, otherApart⟩
    · rfl
    · rw [sameIdentity_symm, otherApart] at same
      contradiction
  · rcases mem_superseded otherMember with rfl | ⟨otherStored, -⟩
    · rw [oneApart] at same
      contradiction
    · exact distinct one oneStored other otherStored same

theorem Distinct.drop (distinct : Distinct metadata objects) :
    Distinct metadata (drop metadata made objects) :=
  fun one oneMember other otherMember =>
    distinct one (mem_drop.mp oneMember).1 other (mem_drop.mp otherMember).1

theorem Distinct.append (distinct : Distinct metadata objects)
    (absent : ∀ other ∈ objects, sameIdentity (metadata other) (metadata made) = false) :
    Distinct metadata (objects ++ [made]) := by
  intro one oneMember other otherMember same
  rcases List.mem_append.mp oneMember with oneStored | oneNew
  · rcases List.mem_append.mp otherMember with otherStored | otherNew
    · exact distinct one oneStored other otherStored same
    · rw [List.mem_singleton.mp otherNew, absent one oneStored] at same
      contradiction
  · rcases List.mem_append.mp otherMember with otherStored | otherNew
    · rw [List.mem_singleton.mp oneNew, sameIdentity_symm, absent other otherStored] at same
      contradiction
    · rw [List.mem_singleton.mp oneNew, List.mem_singleton.mp otherNew]

end Cache

open Json

/-- What merging a patch makes of objects. The number of the write that it is may tell one
write from another. -/
structure MergingServer where
  vmi : Nat → Vmi → VmiPatch → Vmi
  node : Nat → Node → NodePatch → Node
  pod : Nat → Pod → PodPatch → Pod
  vmi_merged : ∀ write before patch,
    (vmi write before patch).toJson.SameButVersion (merged before.toJson patch.toJson)
  node_merged : ∀ write before patch,
    (node write before patch).toJson.SameButVersion (merged before.toJson patch.toJson)
  /-- Every pod that is stored has a specification. -/
  pod_merged : ∀ write before patch, before.spec.isSome = true →
    (pod write before patch).toJson.SameButVersion (merged before.toJson patch.toJson)

/-- What is stored, and the calls that were granted a write of it. -/
structure Registry where
  objects : Cache
  written : List Call := []

namespace Registry

variable {α : Type}

/-- The registry with other objects, after one more write. -/
def write (asked : Call) (objects : Cache) (registry : Registry) : Registry :=
  ⟨objects, registry.written ++ [asked]⟩

/-- The answer to a call that changes the object that was found, and what is stored then:
what the call makes of the object at the version that it is pinned to. -/
def change (registry : Registry) (asked : Call) (metadata : α → ObjectMeta) (found : Option α)
    (pin : Option String) (make : Nat → α → α) (place : α → Cache) :
    Except Fault α × Registry :=
  match found with
  | none => (.error (.notFound "not found"), registry)
  | some object =>
    if pin.all fun version => (metadata object).resourceVersion == some version then
      let made := make registry.written.length object
      (.ok made, registry.write asked (place made))
    else (.error (.conflict "the object has been modified"), registry)

/-- Something was done to an object; what it is now is not told. -/
def untold (done : Except Fault α × Registry) : Except Fault Unit × Registry :=
  (done.1.map fun _ => (), done.2)

end Registry

namespace MergingServer

/-- The answer to a call and what is stored then. -/
def answer (server : MergingServer) (asked : Call) (registry : Registry) :
    Except Fault asked.Answer × Registry :=
  match asked with
  | .createMachine vmi =>
    if registry.objects.vmis.any (Cache.sameIdentity ·.metadata vmi.metadata) then
      (.error (.conflict "already exists"), registry)
    else
      let metadata := { vmi.metadata with
        resourceVersion := some (Text.decimalText registry.written.length) }
      (.ok (), registry.write (.createMachine vmi) { registry.objects with
        vmis := registry.objects.vmis ++ [{ vmi with metadata := metadata }] })
  | .readMachine space name => (.ok (registry.objects.vmi? ⟨space, name⟩), registry)
  | .changeMachine space name patch =>
    registry.change (.changeMachine space name patch) Vmi.metadata
      (registry.objects.vmi? ⟨space, name⟩) patch.resourceVersion
      (fun write vmi => server.vmi write vmi patch)
      fun made => { registry.objects with
        vmis := Cache.superseded Vmi.metadata made registry.objects.vmis }
  | .deleteMachine space name pin =>
    Registry.untold <| registry.change (.deleteMachine space name pin) Vmi.metadata
      (registry.objects.vmi? ⟨space, name⟩) pin (fun _ vmi => vmi)
      fun gone => { registry.objects with
        vmis := Cache.drop Vmi.metadata gone registry.objects.vmis }
  | .changePod space name patch =>
    Registry.untold <| registry.change (.changePod space name patch) Pod.metadata
      (registry.objects.pod? ⟨space, name⟩) patch.resourceVersion
      (fun write pod => server.pod write pod patch)
      fun made => { registry.objects with
        pods := Cache.superseded Pod.metadata made registry.objects.pods }
  | .changeNode name patch =>
    Registry.untold <| registry.change (.changeNode name patch) Node.metadata
      (registry.objects.node? name) patch.resourceVersion
      (fun write node => server.node write node patch)
      fun made => { registry.objects with
        nodes := Cache.superseded Node.metadata made registry.objects.nodes }
  | .reportCounts name patch =>
    Registry.untold <| registry.change (.reportCounts name patch) GateConfig.metadata
      (Cache.findExact GateConfig.metadata none name registry.objects.configs) none
      (fun _ config => { config with
        status := some { patch.status with
          lastUpdate := patch.status.lastUpdate.or (config.status.bind PoolStatus.lastUpdate) } })
      fun made => { registry.objects with
        configs := Cache.superseded GateConfig.metadata made registry.objects.configs }

/-- How the server answers programs; signals reach nobody, and time stands still. -/
def answering (server : MergingServer) : Program.Answering Registry where
  call := server.answer
  signal := fun _ registry => registry
  newPart := fun registry => (Text.decimalText registry.written.length, registry)
  now := fun _ => ⟨⟨2026, 1, 1⟩, 0, 0, 0, 0⟩

/-- A pass for a work key that sees everything as it is stored. -/
def pass (server : MergingServer) (site : Site) (text : String) (registry : Registry) :
    Disposition × Registry :=
  (Release.pass { site with cache := registry.objects } text).runWith server.answering registry

end MergingServer

/-- A pod with a machine and its node. -/
structure Trio where
  pod : Pod
  vmi : Vmi
  node : Node

/-- The trios are of the same objects, each maybe at another version. -/
structure Trio.Same (one other : Trio) : Prop where
  pod : one.pod.metadata.SameObject other.pod.metadata
  vmi : one.vmi.metadata.SameObject other.vmi.metadata
  node : one.node.metadata.SameObject other.node.metadata

namespace Trio.Same

variable {trio origin : Trio}

theorem refl (trio : Trio) : trio.Same trio :=
  ⟨.refl _, .refl _, .refl _⟩

theorem withPod {pod : Pod} (same : trio.Same origin)
    (kept : pod.metadata.SameObject trio.pod.metadata) : Same { trio with pod := pod } origin :=
  { same with pod := kept.trans same.pod }

theorem withVmi {vmi : Vmi} (same : trio.Same origin)
    (kept : vmi.metadata.SameObject trio.vmi.metadata) : Same { trio with vmi := vmi } origin :=
  { same with vmi := kept.trans same.vmi }

theorem withNode {node : Node} (same : trio.Same origin)
    (kept : node.metadata.SameObject trio.node.metadata) : Same { trio with node := node } origin :=
  { same with node := kept.trans same.node }

end Trio.Same

namespace Cache

/-- The objects with those of a trio in their places. -/
def seat (trio : Trio) (cache : Cache) : Cache where
  pods := superseded Pod.metadata trio.pod cache.pods
  vmis := superseded Vmi.metadata trio.vmi cache.vmis
  nodes := superseded Node.metadata trio.node cache.nodes
  configs := cache.configs

/-- The cache has the pod of a key, the machine of another and its node. -/
structure Shows (cache : Cache) (key held : ObjectKey) (trio : Trio) : Prop where
  pod : cache.pod? key = some trio.pod
  vmi : cache.vmi? held = some trio.vmi
  node : cache.node? trio.vmi.nodeName = some trio.node

/-- No two objects of one kind have one identity. -/
structure Unambiguous (cache : Cache) : Prop where
  pods : Distinct Pod.metadata cache.pods
  vmis : Distinct Vmi.metadata cache.vmis
  nodes : Distinct Node.metadata cache.nodes

variable {cache : Cache} {key held : ObjectKey} {origin trio : Trio} {text : String}

theorem Shows.seat (shows : cache.Shows key held origin) (same : trio.Same origin) :
    (cache.seat trio).Shows key held trio where
  pod := by
    change findIn Pod.metadata _ _ (superseded ..) = _
    rw [findIn_superseded, ← pod?, shows.pod, Option.map_some, supersede_of_sameObject same.pod]
  vmi := by
    change findIn Vmi.metadata _ _ (superseded ..) = _
    rw [findIn_superseded, ← vmi?, shows.vmi, Option.map_some, supersede_of_sameObject same.vmi]
  node := by
    change findExact Node.metadata _ _ (superseded ..) = _
    rw [Vmi.nodeName_eq same.vmi, findExact_superseded, ← node?, shows.node, Option.map_some,
      supersede_of_sameObject same.node]

/-- A machine that is not there does not come by seating a trio. -/
theorem vmi?_seat_eq_none (absent : cache.vmi? key = none) : (cache.seat trio).vmi? key = none := by
  change findIn Vmi.metadata _ _ (superseded ..) = _
  rw [findIn_superseded, ← vmi?, absent, Option.map_none]

/-- A trio that is there is seated already. -/
theorem seat_self (unambiguous : cache.Unambiguous) (shows : cache.Shows key held trio) :
    cache.seat trio = cache := by
  have pod := superseded_self unambiguous.pods (findIn_eq_some shows.pod).1
  have vmi := superseded_self unambiguous.vmis (findIn_eq_some shows.vmi).1
  have node := superseded_self unambiguous.nodes (List.mem_of_find?_eq_some shows.node)
  rw [seat, pod, vmi, node]

/-- A machine is found under its key. -/
theorem vmi?_of_key {vmi : Vmi} (distinct : Distinct Vmi.metadata cache.vmis)
    (member : vmi ∈ cache.vmis) (keyed : vmi.key = .ok held) : cache.vmi? held = some vmi := by
  obtain ⟨spaced, named⟩ := Vmi.key_eq_ok_iff.mp keyed
  have named : vmi.metadata.nameOrEmpty = held.name := by
    rw [ObjectMeta.nameOrEmpty, named, Option.getD_some]
  have found : findExact Vmi.metadata (some held.space) held.name cache.vmis = some vmi :=
    (findExact_eq_some_iff distinct).mpr ⟨member, spaced, named⟩
  rw [vmi?, findIn, found]

/-- After a claim, the machine that was claimed is the one that the pod holds. -/
theorem heldBy?_seat (shows : (cache.seat trio).vmi? held = some trio.vmi)
    (unclaimed : cache.heldBy? text = none) (state : trio.vmi.poolState? = some .claimed)
    (claimant : trio.vmi.claimant? = some text) :
    (cache.seat trio).heldBy? text = some trio.vmi := by
  have pooled := Vmi.isPooled_of_poolState? state
  have member : trio.vmi ∈ (cache.seat trio).pool := mem_pool.mpr ⟨(findIn_eq_some shows).1, pooled⟩
  have there : ((cache.seat trio).heldBy? text).isSome = true :=
    List.find?_isSome.mpr ⟨trio.vmi, member, by simp [state, claimant]⟩
  obtain ⟨found, holds⟩ := Option.isSome_iff_exists.mp there
  obtain ⟨stored, isPooled, isClaimed, isClaimant⟩ := heldBy?_eq_some holds
  rw [holds]
  rcases mem_superseded stored with rfl | ⟨known, -⟩
  · rfl
  · -- What was stored before is claimed by no one of that key.
    have other := List.find?_eq_none.mp unclaimed found (mem_pool.mpr ⟨known, isPooled⟩)
    simp [isClaimed, isClaimant] at other

end Cache

/-- Whether a call changes the pod of a key, the machine of another or its node. -/
def Call.isAbout (key held : ObjectKey) : Call → Bool
  | .changePod space name _ => space == key.space && name == key.name
  | .changeMachine space name _ => space == held.space && name == held.name
  | .changeNode name _ => name == held.name
  | _ => false

/-- The calls that were added are about the pod, the machine and its node. -/
def OnlyAbout (key held : ObjectKey) (written later : List Call) : Prop :=
  ∃ calls, later = written ++ calls ∧ ∀ asked ∈ calls, asked.isAbout key held = true

namespace OnlyAbout

variable {key held : ObjectKey} {written between later : List Call}

theorem refl (written : List Call) : OnlyAbout key held written written :=
  ⟨[], by simp⟩

theorem append {asked : Call} (about : asked.isAbout key held = true) :
    OnlyAbout key held written (written ++ [asked]) :=
  ⟨[asked], rfl, by simpa using about⟩

theorem trans (first : OnlyAbout key held written between)
    (second : OnlyAbout key held between later) : OnlyAbout key held written later := by
  obtain ⟨calls, rfl, about⟩ := first
  obtain ⟨others, rfl, aboutOthers⟩ := second
  refine ⟨calls ++ others, List.append_assoc _ _ _, ?_⟩
  intro asked member
  exact (List.mem_append.mp member).elim (about asked) (aboutOthers asked)

end OnlyAbout

/-- A trio, and the calls that were granted a write. -/
structure Scene where
  trio : Trio
  written : List Call

/-- The registry with the trio of a scene among the objects. -/
def Scene.registry (cache : Cache) (scene : Scene) : Registry :=
  ⟨cache.seat scene.trio, scene.written⟩

namespace MergingServer

variable {α β : Type} {server : MergingServer} {cache : Cache} {key held : ObjectKey}
  {origin trio : Trio} {written : List Call}

/-- The program ends in the value and takes the registry from one scene to another.
Nothing but the pod, the machine and its node is written meanwhile. -/
structure Leads (server : MergingServer) (cache : Cache) (key held : ObjectKey)
    (program : Program α) (before : Scene) (value : α) (after : Scene) : Prop where
  runs : program.runWith server.answering (before.registry cache) = (value, after.registry cache)
  about : OnlyAbout key held before.written after.written

/-- What writes nothing stays at its scene. -/
theorem Leads.quiet {program : Program α} {scene : Scene} {value : α}
    (runs : program.runWith server.answering (scene.registry cache) =
      (value, scene.registry cache)) :
    server.Leads cache key held program scene value scene :=
  ⟨runs, .refl _⟩

/-- A sequence leads on from where its first part leads. -/
theorem Leads.bind {program : Program α} {next : α → Program β} {before middle after : Scene}
    {value : α} {result : β} (first : server.Leads cache key held program before value middle)
    (second : server.Leads cache key held (next value) middle result after) :
    server.Leads cache key held (program >>= next) before result after := by
  constructor
  · have composed := Program.runWith_andThen server.answering program next (before.registry cache)
    rw [first.runs, second.runs] at composed
    exact composed
  · exact first.about.trans second.about

/-- A call about the trio that is granted a write leads to the next scene. -/
theorem Leads.call {asked : Call} {answer : Except Fault asked.Answer} {before : Scene}
    {after : Trio} (answered : server.answer asked (before.registry cache) =
      (answer, ⟨cache.seat after, before.written ++ [asked]⟩))
    (about : asked.isAbout key held = true) :
    server.Leads cache key held (Program.call asked) before answer
      ⟨after, before.written ++ [asked]⟩ :=
  ⟨answered, .append about⟩

/-- What follows a call leads on from its answer. -/
theorem Leads.call_bind {asked : Call} {next : Except Fault asked.Answer → Program β}
    {answer : Except Fault asked.Answer} {before middle after : Scene} {result : β}
    (first : server.Leads cache key held (Program.call asked) before answer middle)
    (second : server.Leads cache key held (next answer) middle result after) :
    server.Leads cache key held (Program.call asked >>= next) before result after :=
  first.bind second

theorem change_of_current {registry : Registry} {asked : Call} {metadata : α → ObjectMeta}
    {object : α} {pin : Option String} {make : Nat → α → α} {place : α → Cache}
    (current : pin = (metadata object).resourceVersion) :
    registry.change asked metadata (some object) pin make place =
      (.ok (make registry.written.length object),
        registry.write asked (place (make registry.written.length object))) := by
  rw [Registry.change, if_pos]
  rw [current]
  cases (metadata object).resourceVersion <;> simp

/-- A patch of the machine as it is stored is merged into it. -/
theorem leads_changeMachine (server : MergingServer) (written : List Call) (patch : VmiPatch)
    (shows : cache.Shows key held origin) (same : trio.Same origin)
    (current : patch.resourceVersion = trio.vmi.metadata.resourceVersion) :
    ∃ made later, server.Leads cache key held
        (Program.call (.changeMachine held.space held.name patch)) ⟨trio, written⟩ (.ok made)
        ⟨{ trio with vmi := made }, later⟩ ∧
      made.toJson.SameButVersion (merged trio.vmi.toJson patch.toJson) := by
  have made := server.vmi_merged written.length trio.vmi patch
  refine ⟨_, _, .call ?_ (by simp [Call.isAbout]), made⟩
  rw [Scene.registry, answer, (shows.seat same).vmi, change_of_current current]
  simp only [Registry.write, Cache.seat]
  rw [Cache.superseded_superseded (Vmi.sameObject_merged made)]

/-- A patch of the node as it is stored is merged into it. -/
theorem leads_changeNode (server : MergingServer) (written : List Call) (patch : NodePatch)
    (shows : cache.Shows key held origin) (same : trio.Same origin)
    (current : patch.resourceVersion = trio.node.metadata.resourceVersion) :
    ∃ made later, server.Leads cache key held
        (Program.call (.changeNode trio.vmi.nodeName patch)) ⟨trio, written⟩ (.ok ())
        ⟨{ trio with node := made }, later⟩ ∧
      made.toJson.SameButVersion (merged trio.node.toJson patch.toJson) := by
  have made := server.node_merged written.length trio.node patch
  have shown := shows.seat same
  have named : trio.vmi.nodeName = held.name := (Cache.findIn_eq_some shown.vmi).2.1
  refine ⟨_, _, .call ?_ (by simp [Call.isAbout, named]), made⟩
  rw [Scene.registry, answer, shown.node, change_of_current current]
  simp only [Registry.untold, Registry.write, Cache.seat]
  rw [Cache.superseded_superseded (Node.sameObject_merged made)]
  rfl

/-- A patch of the pod as it is stored is merged into it. -/
theorem leads_changePod (server : MergingServer) (written : List Call) (patch : PodPatch)
    (shows : cache.Shows key held origin) (same : trio.Same origin)
    (specified : trio.pod.spec.isSome = true)
    (current : patch.resourceVersion = trio.pod.metadata.resourceVersion) :
    ∃ made later, server.Leads cache key held
        (Program.call (.changePod key.space key.name patch)) ⟨trio, written⟩ (.ok ())
        ⟨{ trio with pod := made }, later⟩ ∧
      made.toJson.SameButVersion (merged trio.pod.toJson patch.toJson) := by
  have made := server.pod_merged written.length trio.pod patch specified
  refine ⟨_, _, .call ?_ (by simp [Call.isAbout]), made⟩
  rw [Scene.registry, answer, (shows.seat same).pod, change_of_current current]
  simp only [Registry.untold, Registry.write, Cache.seat]
  rw [Cache.superseded_superseded (PodPatch.akin_merged made).sameObject]
  rfl

/-- A machine that is not there is not found by reading it. -/
theorem leads_readMachine {scene : Scene} (absent : cache.vmi? key = none) :
    server.Leads cache key held (Program.call (.readMachine key.space key.name)) scene (.ok none)
      scene := by
  apply Leads.quiet
  change server.answer _ _ = _
  rw [Scene.registry, answer, Cache.vmi?_seat_eq_none absent]

end MergingServer

end NodeGate
