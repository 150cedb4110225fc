import NodeGate.Pool.Tick
import NodeGate.Proofs.Cluster.Registry

/-!
# The order in which the cache lists its objects

The cache enumerates its objects in no order of its own. What is found under a
key does not depend on that order because no other object has the key, and the
first by name does not because no other object has the name. All that passes and
ticks read is found in one of these ways, so that they are one program at any two
sites which list the same objects.
-/

namespace NodeGate

namespace Cache

section Objects

variable {α : Type} {metadata : α → ObjectMeta} {objects listed : List α}

theorem Distinct.perm (distinct : Distinct metadata objects) (relisted : objects.Perm listed) :
    Distinct metadata listed :=
  fun one member other otherMember =>
    distinct one (relisted.mem_iff.mpr member) other (relisted.mem_iff.mpr otherMember)

/-- An object is found by its identity in whatever order the objects are listed. -/
theorem findExact_eq_of_perm (distinct : Distinct metadata objects)
    (relisted : objects.Perm listed) (space : Option String) (name : String) :
    findExact metadata space name objects = findExact metadata space name listed := by
  ext object
  rw [findExact_eq_some_iff distinct, findExact_eq_some_iff (distinct.perm relisted),
    relisted.mem_iff]

theorem findIn_eq_of_perm (distinct : Distinct metadata objects)
    (relisted : objects.Perm listed) (space name : String) :
    findIn metadata space name objects = findIn metadata space name listed := by
  simp only [findIn, findExact_eq_of_perm distinct relisted]

/-- No two of the objects have one name, in whatever namespaces. -/
def NamedApart (metadata : α → ObjectMeta) (objects : List α) : Prop :=
  ∀ one ∈ objects, ∀ other ∈ objects,
    (metadata one).name = (metadata other).name → one = other

theorem InNameOrder.antisymm {one other : ObjectMeta} (ahead : InNameOrder one other)
    (behind : InNameOrder other one) : one.name = other.name := by
  unfold InNameOrder at ahead behind
  cases former : one.name with
  | none =>
      cases latter : other.name with
      | none => rfl
      | some latter => simp [namePrecedes, former, latter] at behind
  | some former =>
      cases latter : other.name with
      | none => simp [namePrecedes, former, latter] at ahead
      | some latter =>
          simp only [namePrecedes, former, latter, decide_eq_false_iff_not,
            String.not_lt] at ahead behind
          exact congrArg some (String.le_antisymm ahead behind)

/-- Objects with names of their own are sorted by name in one way only. -/
theorem sortByName_eq_of_perm (apart : NamedApart metadata objects)
    (relisted : objects.Perm listed) :
    sortByName metadata objects = sortByName metadata listed := by
  have perm : (sortByName metadata objects).Perm (sortByName metadata listed) :=
    (sortByName_perm metadata objects).trans
      (relisted.trans (sortByName_perm metadata listed).symm)
  refine perm.eq_of_pairwise (fun one other member otherMember ahead behind => ?_)
    (sortByName_pairwise metadata objects) (sortByName_pairwise metadata listed)
  apply apart one ((sortByName_perm metadata objects).mem_iff.mp member) other
    (relisted.mem_iff.mpr ((sortByName_perm metadata listed).mem_iff.mp otherMember))
  exact ahead.antisymm behind

end Objects

/-- The two caches hold the same objects, each kind in some order. -/
structure Relisted (one other : Cache) : Prop where
  pods : one.pods.Perm other.pods
  vmis : one.vmis.Perm other.vmis
  nodes : one.nodes.Perm other.nodes
  configs : one.configs.Perm other.configs

/-- No two objects of one kind have one identity, and no two of those that the
first by name is taken of have one name. -/
structure Orderless (cache : Cache) : Prop extends cache.Unambiguous where
  members : NamedApart Vmi.metadata (cache.vmis.filter Vmi.isPooled)
  configs : NamedApart GateConfig.metadata cache.configs

end Cache

/-- The two sites find the same object, or none, whatever a pass or a tick looks
for, and make the same machines. -/
structure Site.Agrees (one other : Site) : Prop where
  pod? : one.cache.pod? = other.cache.pod?
  vmi? : one.cache.vmi? = other.cache.vmi?
  node? : one.cache.node? = other.cache.node?
  pool : one.cache.pool = other.cache.pool
  activeConfig? : one.cache.activeConfig? = other.cache.activeConfig?
  join : one.join = other.join
  poolNamespace : one.poolNamespace = other.poolNamespace

/-- What is listed in another order is found all the same. -/
theorem Cache.Relisted.agrees {one other : Cache} (relisted : one.Relisted other)
    (orderless : one.Orderless) (join : JoinSettings) (poolNamespace : String) :
    Site.Agrees ⟨one, join, poolNamespace⟩ ⟨other, join, poolNamespace⟩ where
  pod? := funext fun _ => findIn_eq_of_perm orderless.pods relisted.pods _ _
  vmi? := funext fun _ => findIn_eq_of_perm orderless.vmis relisted.vmis _ _
  node? := funext fun _ => findExact_eq_of_perm orderless.nodes relisted.nodes _ _
  pool := sortByName_eq_of_perm orderless.members (relisted.vmis.filter _)
  activeConfig? :=
    congrArg List.head? (sortByName_eq_of_perm orderless.configs relisted.configs)
  join := rfl
  poolNamespace := rfl

namespace Site.Agrees

variable {one other : Site} (agrees : one.Agrees other)

include agrees

theorem candidate? : one.cache.candidate? = other.cache.candidate? := by
  rw [Cache.candidate?, Cache.candidate?, agrees.pool]

theorem heldBy? : one.cache.heldBy? = other.cache.heldBy? := by
  funext key
  rw [Cache.heldBy?, Cache.heldBy?, agrees.pool]

theorem machineOf? : one.cache.machineOf? = other.cache.machineOf? := by
  funext key
  rw [Cache.machineOf?, Cache.machineOf?, agrees.vmi?, agrees.heldBy?]

theorem defaults : one.defaults = other.defaults := by
  rw [Site.defaults, Site.defaults, agrees.activeConfig?]

section Release

open Release

theorem reserveNode : reserveNode one = reserveNode other := by
  funext key vmi
  simp only [Release.reserveNode, agrees.node?, agrees.defaults]

theorem pinToMachine : pinToMachine one = pinToMachine other := by
  funext key pod vmi
  simp only [Release.pinToMachine, agrees.reserveNode]

theorem freeNode : freeNode one = freeNode other := by
  funext name vmi
  simp only [Release.freeNode, agrees.node?, agrees.defaults]

theorem giveBack : giveBack one = giveBack other := by
  funext vmi
  simp only [Release.giveBack, agrees.freeNode]

theorem giveBackClaimed : giveBackClaimed one = giveBackClaimed other := by
  funext key pod
  simp only [Release.giveBackClaimed, agrees.heldBy?, agrees.giveBack]

theorem releaseMachine : releaseMachine one = releaseMachine other := by
  funext key pod
  simp only [Release.releaseMachine, agrees.giveBackClaimed, agrees.vmi?]

theorem depart : depart one = depart other := by
  funext key pod
  simp only [Release.depart, agrees.releaseMachine]

/-- A pod that vanished has its machine released by the same calls. -/
theorem podVanished : podVanished one = podVanished other := by
  funext pod
  simp only [Release.podVanished, agrees.releaseMachine]

theorem openGate : openGate one = openGate other := by
  funext key pod vmi
  simp only [Release.openGate, agrees.node?]

theorem createDedicated : createDedicated one = createDedicated other := by
  funext key pod
  rw [Release.createDedicated, Release.createDedicated, agrees.defaults, agrees.join]
  cases MachineSize.ofPod other.defaults pod with
  | error fault => rfl
  | ok size =>
      refine bind_congr fun answer => ?_
      cases answer <;> rfl

theorem obtainMachine : obtainMachine one = obtainMachine other := by
  funext key pod
  simp only [Release.obtainMachine, agrees.openGate, agrees.candidate?,
    agrees.createDedicated, agrees.pinToMachine]

theorem serve : serve one = serve other := by
  funext key pod
  simp only [Release.serve, agrees.machineOf?, agrees.obtainMachine, agrees.pinToMachine,
    agrees.openGate]

theorem attend : attend one = attend other := by
  funext key pod
  simp only [Release.attend, agrees.depart, agrees.serve]

theorem attempt : attempt one = attempt other := by
  funext text
  simp only [Release.attempt, agrees.pod?, agrees.attend]

/-- A pass makes the same calls. -/
theorem pass : pass one = pass other := by
  funext text
  simp only [Release.pass, agrees.attempt]

end Release

section Pool

open Pool

theorem promote : promote one = promote other := by
  funext vmi
  simp only [Pool.promote, agrees.node?]

theorem surveyAdd : Survey.add one = Survey.add other := by
  funext survey vmi
  simp only [Survey.add, agrees.promote]

theorem surveyAddAll (survey : Survey) (members : List Vmi) :
    survey.addAll one members = survey.addAll other members := by
  induction members generalizing survey with
  | nil => rfl
  | cons vmi rest ih => simp only [Survey.addAll, agrees.surveyAdd, ih]

theorem enlarge (count : Nat) : enlarge one count = enlarge other count := by
  induction count with
  | zero => rfl
  | succ count ih =>
      rw [Pool.enlarge, Pool.enlarge, agrees.poolNamespace, agrees.defaults, agrees.join, ih]
      refine bind_congr fun part => bind_congr fun answer => ?_
      cases answer <;> rfl

theorem isOrphan : isOrphan one = isOrphan other := by
  funext vmi
  simp only [Pool.isOrphan, agrees.pod?]

theorem reclaim (held : List Vmi) : reclaim one held = reclaim other held := by
  induction held with
  | nil => rfl
  | cons vmi rest ih => simp only [Pool.reclaim, agrees.giveBack, ih]

theorem tend : tend one = tend other := by
  funext config desired
  simp only [Pool.tend, agrees.pool, agrees.surveyAddAll, agrees.enlarge, agrees.isOrphan,
    agrees.reclaim]

/-- A tick makes the same calls. -/
theorem tick : tick one = tick other := by
  simp only [Pool.tick, agrees.pool, agrees.activeConfig?, agrees.tend]

end Pool

end Site.Agrees

/-- What is cached decides, not the order in which it is listed. The members of
the pool, the first of them to claim, the one that a pod holds and the
configuration in effect are the same, and every pass and every tick is the same
program: given the same outcomes of its calls, the same names and the same times,
it makes the same calls in the same order and ends alike. -/
theorem decisions_independent_of_order {one other : Cache} (relisted : one.Relisted other)
    (orderless : one.Orderless) :
    (one.pool = other.pool ∧ one.candidate? = other.candidate? ∧
      (∀ key, one.heldBy? key = other.heldBy? key) ∧
      one.activeConfig? = other.activeConfig?) ∧
    ∀ join poolNamespace,
      (∀ text, Release.pass ⟨one, join, poolNamespace⟩ text =
        Release.pass ⟨other, join, poolNamespace⟩ text) ∧
      (∀ pod, Release.podVanished ⟨one, join, poolNamespace⟩ pod =
        Release.podVanished ⟨other, join, poolNamespace⟩ pod) ∧
      Pool.tick ⟨one, join, poolNamespace⟩ = Pool.tick ⟨other, join, poolNamespace⟩ := by
  have found := relisted.agrees orderless {} controlNamespace
  refine ⟨⟨found.pool, found.candidate?, congrFun found.heldBy?, found.activeConfig?⟩, ?_⟩
  intro join poolNamespace
  have agrees := relisted.agrees orderless join poolNamespace
  exact ⟨congrFun agrees.pass, congrFun agrees.podVanished, agrees.tick⟩

/-- A machine of the pool that is there to be claimed. -/
def spareMember (space name : String) : Vmi where
  metadata :=
    { name := some name, space := some space, resourceVersion := some "1"
      labels := some [(poolStateLabel, PoolState.available.label)] }
  spec := {}
  status := some { phase := some .running }

/-- A configuration of a pool of that size. -/
def sizedConfig (name : String) (size : Nat) : GateConfig where
  metadata := { name := some name }
  spec := { poolSize := size }

/-- Two machines of the pool that are there to be claimed, and two configurations. -/
def twofoldCache : Cache where
  vmis := [spareMember "pool" "m2", spareMember "pool" "m1"]
  configs := [sizedConfig "second" 1, sizedConfig "first" 2]

/-- The same machines and configurations the other way round. -/
def twofoldCacheTurned : Cache where
  vmis := [spareMember "pool" "m1", spareMember "pool" "m2"]
  configs := [sizedConfig "first" 2, sizedConfig "second" 1]

theorem twofoldCache_decides_turned :
    twofoldCache.Relisted twofoldCacheTurned ∧ twofoldCache.Orderless ∧
      twofoldCacheTurned.candidate? = some (spareMember "pool" "m1") ∧
      twofoldCache.candidate? = some (spareMember "pool" "m1") ∧
      Pool.tick ⟨twofoldCache, {}, "pool"⟩ = Pool.tick ⟨twofoldCacheTurned, {}, "pool"⟩ := by
  have relisted : twofoldCache.Relisted twofoldCacheTurned :=
    ⟨.refl _, .swap _ _ _, .refl _, .swap _ _ _⟩
  have orderless : twofoldCache.Orderless := by
    refine { pods := ?_, vmis := ?_, nodes := ?_, members := ?_, configs := ?_ } <;>
      simp [Cache.Distinct, Cache.NamedApart, twofoldCache, spareMember, sizedConfig,
        Cache.sameIdentity, ObjectMeta.nameOrEmpty]
  have first : twofoldCacheTurned.candidate? = some (spareMember "pool" "m1") := by decide
  obtain ⟨⟨_, candidate, _⟩, programs⟩ := decisions_independent_of_order relisted orderless
  exact ⟨relisted, orderless, first, candidate.trans first, (programs {} "pool").2.2⟩

-- Machines with one name in two namespaces come first as they are listed.
example : Cache.candidate? { vmis := [spareMember "a" "m", spareMember "b" "m"] } ≠
    Cache.candidate? { vmis := [spareMember "b" "m", spareMember "a" "m"] } := by decide

end NodeGate
