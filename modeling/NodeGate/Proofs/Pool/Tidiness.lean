import NodeGate.Proofs.Cluster.Upkeep
import NodeGate.Proofs.Release.Handover

/-!
# A tidy cluster

The node of a pool machine is reserved by a taint while a pod holds the machine. A cluster
is tidy when every such taint is warranted: a stored machine of that name is claimed, and
the key of the taint is the one that its claimant and the configuration in effect give.
From that the node of an unclaimed machine of the pool has no such taint, and that of a
claimed one none but its claimant's. What one call does to the objects keeps a tidy cluster
tidy as long as no machine stops being claimed while its node is reserved, and no node is
reserved without a claim.
-/

namespace NodeGate

open Json

/-- A taint of that key reserves the node. -/
def Node.IsReservedAs (node : Node) (key : String) : Prop :=
  ∃ taint ∈ node.taintList, taint.key = key ∧ taint.value = some reservationValue

theorem Taint.key_and_value_of_toJson {one other : Taint} (same : one.toJson = other.toJson) :
    one.key = other.key ∧ one.value = other.value := by
  have key := congrArg (member? "key") same
  have value := congrArg (member? "value") same
  simp only [toJson, member?, Entries.get?_cons, Entries.get?_append, get?_present] at key value
  constructor
  · simpa using key
  · exact map_str_injective (by simpa using value)

/-- A taint that reserves a node which a patch was merged into is one of the patch. -/
theorem Node.reserving_of_merged {before after : Node} {patch : NodePatch} {key : String}
    (made : after.toJson.SameButVersion (merged before.toJson patch.toJson))
    (reserved : after.IsReservedAs key) :
    ∃ taint ∈ patch.taints, taint.key = key ∧ taint.value = some reservationValue := by
  obtain ⟨taint, member, keyed, valued⟩ := reserved
  have written : taint.toJson ∈ patch.taints.map Taint.toJson := by
    rw [← writtenTaints_merged made]
    exact List.mem_map_of_mem member
  obtain ⟨told, among, same⟩ := List.mem_map.mp written
  obtain ⟨sameKey, sameValue⟩ := Taint.key_and_value_of_toJson same
  exact ⟨told, among, sameKey.trans keyed, sameValue.trans valued⟩

namespace Cache

/-- The last part of the keys of taints, under the configuration in effect. -/
def taintKey (objects : Cache) : String :=
  (MachineDefaults.ofConfig objects.activeConfig?).taintKey

/-- The node of that name is there and reserved by a taint of that key. -/
def Reserves (objects : Cache) (name key : String) : Prop :=
  ∃ node, objects.node? name = some node ∧ node.IsReservedAs key

/-- No taint reserves the node of that name. -/
def IsClean (objects : Cache) (name : String) : Prop :=
  ∀ key, ¬objects.Reserves name key

/-- A machine of that name is claimed, and its claimant reserves nodes by that key. -/
def Warrants (objects : Cache) (name key : String) : Prop :=
  ∃ vmi ∈ objects.vmis, vmi.poolState? = some .claimed ∧ vmi.nodeName = name ∧
    ∃ claimant, vmi.claimant? = some claimant ∧
      key = reservationKey (afterLastSlash claimant) objects.taintKey

/-- Machines and configurations are told apart by namespace and name, every machine has
both, and those of the pool are in the namespace of the pool. -/
structure Orderly (space : String) (objects : Cache) : Prop where
  vmis : Distinct Vmi.metadata objects.vmis
  configs : Distinct GateConfig.metadata objects.configs
  keyed : ∀ vmi ∈ objects.vmis, ∃ held, vmi.key = .ok held
  housed : ∀ vmi ∈ objects.vmis, vmi.isPooled = true → vmi.metadata.space = some space

/-- Every taint that reserves a node is warranted. -/
structure Tidy (space : String) (objects : Cache) : Prop extends Orderly space objects where
  warranted : ∀ name key, objects.Reserves name key → objects.Warrants name key

variable {space : String} {objects : Cache} {held : ObjectKey} {vmi made : Vmi}

namespace Orderly

/-- What is found under a key has that key. -/
theorem key_of_found (orderly : objects.Orderly space) (found : objects.vmi? held = some vmi) :
    vmi ∈ objects.vmis ∧ vmi.key = .ok held := by
  obtain ⟨member, named, spaced⟩ := findIn_eq_some found
  obtain ⟨key, keyed⟩ := orderly.keyed vmi member
  obtain ⟨ownSpace, ownName⟩ := Vmi.key_eq_ok_iff.mp keyed
  rw [ownSpace] at spaced
  rw [ObjectMeta.nameOrEmpty, ownName, Option.getD_some] at named
  obtain ⟨keySpace, keyName⟩ := key
  simp only [Option.some.injEq, reduceCtorEq, or_false] at spaced named
  rw [keyed, spaced, named]
  exact ⟨member, rfl⟩

theorem eq_of_key {other : Vmi} (orderly : objects.Orderly space) (member : vmi ∈ objects.vmis)
    (otherMember : other ∈ objects.vmis) (keyed : vmi.key = .ok held)
    (otherKeyed : other.key = .ok held) : vmi = other :=
  orderly.vmis vmi member other otherMember ((Vmi.sameIdentity_iff_key keyed otherKeyed).mpr rfl)

/-- The key of a machine of the pool is told by its name. -/
theorem key_of_pooled (orderly : objects.Orderly space) (member : vmi ∈ objects.vmis)
    (pooled : vmi.isPooled = true) : vmi.key = .ok ⟨space, vmi.nodeName⟩ := by
  obtain ⟨key, keyed⟩ := orderly.keyed vmi member
  have named := Vmi.nodeName_of_key keyed
  have spaced := (Vmi.key_eq_ok_iff.mp keyed).1.symm.trans (orderly.housed vmi member pooled)
  rw [keyed, named, ← Option.some.inj spaced]

/-- No two machines of the pool share a node. -/
theorem eq_of_nodeName {other : Vmi} (orderly : objects.Orderly space)
    (member : vmi ∈ objects.vmis) (otherMember : other ∈ objects.vmis)
    (pooled : vmi.isPooled = true) (otherPooled : other.isPooled = true)
    (shared : vmi.nodeName = other.nodeName) : vmi = other := by
  have keyed := orderly.key_of_pooled member pooled
  rw [shared] at keyed
  exact orderly.eq_of_key member otherMember keyed (orderly.key_of_pooled otherMember otherPooled)

end Orderly

section Nodes

variable {name : String} {node tainted : Node} {patch : NodePatch} {key : String}

/-- A patch of a node leaves the other nodes alone. -/
theorem node?_patched_of_ne {other : String} (found : objects.node? name = some node)
    (same : tainted.metadata.SameObject node.metadata) (apart : other ≠ name) :
    node? { objects with nodes := superseded Node.metadata tainted objects.nodes } other =
      objects.node? other := by
  change findExact Node.metadata none other (superseded ..) = _
  rw [findExact_superseded, ← node?]
  cases elsewhere : objects.node? other with
  | none => rfl
  | some known =>
      have named := List.find?_some found
      have otherNamed := List.find?_some elsewhere
      simp only [Bool.and_eq_true, beq_iff_eq] at named otherNamed
      have madeNamed : tainted.metadata.nameOrEmpty = name := by
        rw [ObjectMeta.nameOrEmpty, same.name_eq, ← ObjectMeta.nameOrEmpty, named.2]
      rw [Option.map_some, supersede, if_neg]
      simp [sameIdentity, otherNamed.2, madeNamed, apart]

/-- A node is reserved after a patch by the taints of the patch, and every other node as
before. -/
theorem reserves_patched (found : objects.node? name = some node)
    (made : tainted.toJson.SameButVersion (merged node.toJson patch.toJson)) {other : String}
    (reserves : Reserves
      { objects with nodes := superseded Node.metadata tainted objects.nodes } other key) :
    (other = name ∧ ∃ taint ∈ patch.taints,
        taint.key = key ∧ taint.value = some reservationValue) ∨
      (other ≠ name ∧ objects.Reserves other key) := by
  have same := Node.sameObject_merged made
  obtain ⟨known, stored, reserved⟩ := reserves
  by_cases here : other = name
  · left
    change findExact Node.metadata none other (superseded ..) = _ at stored
    rw [findExact_superseded, here, ← node?, found, Option.map_some,
      supersede_of_sameObject same, Option.some.injEq] at stored
    rw [← stored] at reserved
    exact ⟨here, Node.reserving_of_merged made reserved⟩
  · right
    rw [node?_patched_of_ne found same here] at stored
    exact ⟨here, known, stored, reserved⟩

end Nodes

/-- The key of taints depends on the settings in effect alone. -/
theorem taintKey_eq (objects : Cache) :
    objects.taintKey = MachineDefaults.textOr standardTaintKey
      ((objects.activeConfig?.map GateConfig.spec).bind GateConfigSpec.taintKey) := by
  rw [taintKey]
  cases objects.activeConfig? <;> rfl

/-- A report of the counts leaves the key of taints as it is. -/
theorem taintKey_reported {config : GateConfig} {status : Option PoolStatus}
    (distinct : Distinct GateConfig.metadata objects.configs)
    (member : config ∈ objects.configs) :
    taintKey { objects with
        configs := superseded GateConfig.metadata { config with status := status }
          objects.configs } =
      objects.taintKey := by
  let settings (config : GateConfig) : ObjectMeta × GateConfigSpec := (config.metadata, config.spec)
  have kept : (superseded GateConfig.metadata { config with status := status }
      objects.configs).map settings = objects.configs.map settings := by
    rw [superseded, List.map_map]
    apply List.map_congr_left
    intro other stored
    rw [Function.comp_apply, supersede]
    split
    next same => rw [distinct other stored config member same]
    next => rfl
  have sorted (configs : List GateConfig) :
      (sortByName GateConfig.metadata configs).head?.map GateConfig.spec =
        (sortByName Prod.fst (configs.map settings)).head?.map Prod.snd := by
    rw [sortByName_map settings (fun _ => rfl), List.head?_map, Option.map_map]
    rfl
  rw [taintKey_eq, taintKey_eq, activeConfig?, activeConfig?, sorted, sorted, kept]

namespace Tidy

/-- The node of an unclaimed machine of the pool is not reserved. -/
theorem isClean_of_unclaimed (tidy : objects.Tidy space) (member : vmi ∈ objects.vmis)
    (pooled : vmi.isPooled = true) (unclaimed : vmi.poolState? ≠ some .claimed) :
    objects.IsClean vmi.nodeName := by
  intro key reserves
  obtain ⟨other, otherMember, claimed, named, -⟩ := tidy.warranted _ _ reserves
  have same : vmi = other := tidy.eq_of_nodeName member otherMember pooled
    (Vmi.isPooled_of_poolState? claimed) named.symm
  exact unclaimed (same ▸ claimed)

/-- The node of a claimed machine is reserved for its claimant, if at all. -/
theorem key_of_claimed {key : String} (tidy : objects.Tidy space) (member : vmi ∈ objects.vmis)
    (claimed : vmi.poolState? = some .claimed) (reserves : objects.Reserves vmi.nodeName key) :
    ∃ claimant, vmi.claimant? = some claimant ∧
      key = reservationKey (afterLastSlash claimant) objects.taintKey := by
  obtain ⟨other, otherMember, otherClaimed, named, rest⟩ := tidy.warranted _ _ reserves
  have same : vmi = other := tidy.eq_of_nodeName member otherMember
    (Vmi.isPooled_of_poolState? claimed) (Vmi.isPooled_of_poolState? otherClaimed) named.symm
  rwa [same]

/-- Other machines leave a cluster tidy when those stay that are claimed and whose node is
reserved. -/
theorem withVmis {vmis : List Vmi} (tidy : objects.Tidy space)
    (orderly : Orderly space { objects with vmis := vmis })
    (kept : ∀ vmi ∈ objects.vmis, vmi.poolState? = some .claimed →
      ¬objects.IsClean vmi.nodeName → vmi ∈ vmis) :
    Tidy space { objects with vmis := vmis } where
  toOrderly := orderly
  warranted name key reserves := by
    obtain ⟨vmi, member, claimed, named, rest⟩ := tidy.warranted name key reserves
    have reserved : ¬objects.IsClean vmi.nodeName := fun clean => clean key (named ▸ reserves)
    exact ⟨vmi, kept vmi member claimed reserved, claimed, named, rest⟩

/-- A machine of the pool may be labelled while it is not claimed or its node is clean. -/
theorem relabel {patch : VmiPatch} (tidy : objects.Tidy space)
    (found : objects.vmi? held = some vmi) (makes : patch.Makes vmi made)
    (housed : held.space = space)
    (free : vmi.poolState? = some .claimed → objects.IsClean held.name) :
    Tidy space { objects with vmis := superseded Vmi.metadata made objects.vmis } := by
  obtain ⟨member, keyed⟩ := tidy.key_of_found found
  have madeKeyed : made.key = .ok held :=
    Vmi.key_of_sameObject ⟨makes.space_eq, makes.name_eq⟩ keyed
  apply tidy.withVmis
  · refine ⟨tidy.vmis.superseded, tidy.configs, ?_, ?_⟩
    · intro other otherMember
      rcases mem_superseded otherMember with rfl | ⟨stored, -⟩
      · exact ⟨held, madeKeyed⟩
      · exact tidy.keyed other stored
    · intro other otherMember pooled
      rcases mem_superseded otherMember with rfl | ⟨stored, -⟩
      · rw [(Vmi.key_eq_ok_iff.mp madeKeyed).1, housed]
      · exact tidy.housed other stored pooled
  · intro other otherMember claimed reserved
    obtain ⟨otherKey, otherKeyed⟩ := tidy.keyed other otherMember
    apply mem_superseded_of_mem otherMember
    rw [Bool.eq_false_iff]
    intro same
    have here := (Vmi.sameIdentity_iff_key otherKeyed madeKeyed).mp same
    have isVmi : other = vmi := tidy.eq_of_key otherMember member (here ▸ otherKeyed) keyed
    rw [isVmi] at claimed reserved
    exact reserved (Vmi.nodeName_of_key keyed ▸ free claimed)

/-- A machine may be deleted while it is not claimed or its node is clean. -/
theorem remove (tidy : objects.Tidy space) (found : objects.vmi? held = some vmi)
    (free : vmi.poolState? = some .claimed → objects.IsClean held.name) :
    Tidy space { objects with vmis := drop Vmi.metadata vmi objects.vmis } := by
  obtain ⟨member, keyed⟩ := tidy.key_of_found found
  apply tidy.withVmis
  · exact ⟨tidy.vmis.drop, tidy.configs, fun other stays => tidy.keyed other (mem_drop.mp stays).1,
      fun other stays => tidy.housed other (mem_drop.mp stays).1⟩
  · intro other otherMember claimed reserved
    refine mem_drop.mpr ⟨otherMember, Bool.eq_false_iff.mpr ?_⟩
    intro same
    have isVmi : other = vmi := tidy.vmis other otherMember vmi member same
    rw [isVmi] at claimed reserved
    exact reserved (Vmi.nodeName_of_key keyed ▸ free claimed)

/-- A machine may be created that has a key, and is in the namespace of the pool if it
belongs to the pool. -/
theorem add (version : Option String) (tidy : objects.Tidy space)
    (absent : ∀ other ∈ objects.vmis, sameIdentity other.metadata vmi.metadata = false)
    (keyed : vmi.key = .ok held) (housed : vmi.isPooled = true → vmi.metadata.space = some space) :
    Tidy space { objects with
      vmis := objects.vmis ++
        [{ vmi with metadata := { vmi.metadata with resourceVersion := version } }] } := by
  apply tidy.withVmis
  · refine ⟨tidy.vmis.append absent, tidy.configs, ?_, ?_⟩
    · intro other member
      rcases List.mem_append.mp member with stored | new
      · exact tidy.keyed other stored
      · rw [List.mem_singleton.mp new]
        exact ⟨held, Vmi.key_of_sameObject (.refl _) keyed⟩
    · intro other member pooled
      rcases List.mem_append.mp member with stored | new
      · exact tidy.housed other stored pooled
      · rw [List.mem_singleton.mp new] at pooled ⊢
        exact housed pooled
  · intro other member _ _
    exact List.mem_append_left _ member

/-- A node may be given taints that reserve it only where this is warranted. -/
theorem taint {name : String} {patch : NodePatch} {node tainted : Node}
    (tidy : objects.Tidy space) (found : objects.node? name = some node)
    (made : tainted.toJson.SameButVersion (merged node.toJson patch.toJson))
    (warranted : ∀ taint ∈ patch.taints, taint.value = some reservationValue →
      objects.Warrants name taint.key) :
    Tidy space { objects with nodes := superseded Node.metadata tainted objects.nodes } where
  toOrderly := ⟨tidy.vmis, tidy.configs, tidy.keyed, tidy.housed⟩
  warranted other key reserves := by
    rcases reserves_patched found made reserves with ⟨rfl, taint, member, rfl, valued⟩ |
      ⟨-, reserved⟩
    · exact warranted taint member valued
    · exact tidy.warranted other key reserved

/-- The counts may be reported. -/
theorem report {name : String} {config : GateConfig} {status : Option PoolStatus}
    (tidy : objects.Tidy space)
    (found : findExact GateConfig.metadata none name objects.configs = some config) :
    Tidy space { objects with
      configs := superseded GateConfig.metadata { config with status := status }
        objects.configs } where
  toOrderly := ⟨tidy.vmis, tidy.configs.superseded, tidy.keyed, tidy.housed⟩
  warranted name key reserves := by
    obtain ⟨vmi, member, claimed, named, claimant, told, keyed⟩ := tidy.warranted name key reserves
    refine ⟨vmi, member, claimed, named, claimant, told, ?_⟩
    rw [keyed, taintKey_reported tidy.configs (List.mem_of_find?_eq_some found)]

/-- Pods may change. -/
theorem withPods {pods : List Pod} (tidy : objects.Tidy space) :
    Tidy space { objects with pods := pods } :=
  ⟨⟨tidy.vmis, tidy.configs, tidy.keyed, tidy.housed⟩, tidy.warranted⟩

end Tidy

end Cache

end NodeGate
