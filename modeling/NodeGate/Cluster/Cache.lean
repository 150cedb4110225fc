import NodeGate.Cluster.Key
import NodeGate.Resource.GateConfig
import NodeGate.Resource.Node
import NodeGate.Resource.Pod

/-!
# The cache

The objects of the cluster as the controller last saw them. What is read here
may be stale, which is why writes carry the version that was read. Objects are
found by namespace and name; where several machines or configurations could
serve, the first by name does, so that the order in which they are listed does
not matter.
-/

namespace NodeGate

/-- The objects last seen. -/
structure Cache where
  pods : List Pod := []
  vmis : List Vmi := []
  nodes : List Node := []
  configs : List GateConfig := []

namespace Cache

variable {α : Type}

/-- Whether two objects have the same namespace and name. -/
def sameIdentity (one other : ObjectMeta) : Bool :=
  one.space == other.space && one.nameOrEmpty == other.nameOrEmpty

/-- Puts an object in the place of the one with its identity, or behind all
others. -/
def put (metadata : α → ObjectMeta) (object : α) : List α → List α
  | [] => [object]
  | first :: rest =>
    if sameIdentity (metadata first) (metadata object) then object :: rest
    else first :: put metadata object rest

/-- Drops the objects with the identity of an object. -/
def drop (metadata : α → ObjectMeta) (object : α) (objects : List α) : List α :=
  objects.filter fun other => !sameIdentity (metadata other) (metadata object)

@[simp]
theorem mem_drop {metadata : α → ObjectMeta} {object other : α} {objects : List α} :
    other ∈ drop metadata object objects ↔
      other ∈ objects ∧ sameIdentity (metadata other) (metadata object) = false := by
  simp [drop]

/-- The object of exactly that namespace, or of none, with a name. -/
def findExact (metadata : α → ObjectMeta) (space : Option String) (name : String)
    (objects : List α) : Option α :=
  objects.find? fun object =>
    (metadata object).space == space && (metadata object).nameOrEmpty == name

/-- The object that a name stands for in a namespace. An object without a
namespace serves every namespace that has none of that name. -/
def findIn (metadata : α → ObjectMeta) (space name : String) (objects : List α) :
    Option α :=
  match findExact metadata (some space) name objects with
  | some object => some object
  | none => findExact metadata none name objects

/-- Whether one name comes before another; no name comes before every name. -/
def namePrecedes : Option String → Option String → Bool
  | none, some _ => true
  | some one, some other => one < other
  | _, none => false

/-- Puts an object in its place by name, in front of those of equal name. -/
def insertByName (metadata : α → ObjectMeta) (object : α) : List α → List α
  | [] => [object]
  | first :: rest =>
    if namePrecedes (metadata first).name (metadata object).name then
      first :: insertByName metadata object rest
    else object :: first :: rest

/-- The objects in the order of their names. -/
def sortByName (metadata : α → ObjectMeta) (objects : List α) : List α :=
  objects.foldr (insertByName metadata) []

theorem insertByName_perm (metadata : α → ObjectMeta) (object : α) (objects : List α) :
    (insertByName metadata object objects).Perm (object :: objects) := by
  induction objects with
  | nil => exact .refl _
  | cons first rest ih =>
      simp only [insertByName]
      split
      · exact (ih.cons first).trans (.swap object first rest)
      · exact .refl _

/-- Sorting keeps the objects. -/
theorem sortByName_perm (metadata : α → ObjectMeta) (objects : List α) :
    (sortByName metadata objects).Perm objects := by
  induction objects with
  | nil => exact .refl _
  | cons first rest ih =>
      exact (insertByName_perm metadata first _).trans (ih.cons first)

/-- The pod of that key. -/
def pod? (cache : Cache) (key : ObjectKey) : Option Pod :=
  findIn Pod.metadata key.space key.name cache.pods

/-- The machine of that namespace and name. -/
def vmi? (cache : Cache) (key : ObjectKey) : Option Vmi :=
  findIn Vmi.metadata key.space key.name cache.vmis

/-- The node of that name. -/
def node? (cache : Cache) (name : String) : Option Node :=
  findExact Node.metadata none name cache.nodes

/-- The pods that the controller has work for. -/
def pending (cache : Cache) : List Pod :=
  cache.pods.filter Pod.needsWork

/-- The machines of the pool by name. -/
def pool (cache : Cache) : List Vmi :=
  sortByName Vmi.metadata (cache.vmis.filter Vmi.isPooled)

/-- Whether a machine is there to be claimed. -/
def isClaimable (vmi : Vmi) : Bool :=
  vmi.poolState? == some .available && vmi.isRunning

/-- The first machine by name that is there to be claimed. -/
def candidate? (cache : Cache) : Option Vmi :=
  cache.pool.find? isClaimable

/-- The first machine by name that the pod of a work key has claimed. -/
def heldBy? (cache : Cache) (key : String) : Option Vmi :=
  cache.pool.find? fun vmi =>
    vmi.poolState? == some .claimed && vmi.claimant? == some key

/-- The machine that serves a pod: the one named after it outside the pool, or
else the one it claimed. -/
def machineOf? (cache : Cache) (key : ObjectKey) : Option Vmi :=
  match (cache.vmi? key).filter fun vmi => !vmi.isPooled with
  | some vmi => some vmi
  | none => cache.heldBy? key.text

/-- The configuration in effect: the first by name. -/
def activeConfig? (cache : Cache) : Option GateConfig :=
  (sortByName GateConfig.metadata cache.configs).head?

end Cache

end NodeGate
