import NodeGate.Proofs.Cluster.PlainServer
import NodeGate.Proofs.Release.Reserving

/-!
# What is offered is clean

From a cluster without a reserved node the controller does its duties in any order, each
against what is stored, any of their calls may fail, and each may break off anywhere.
Meanwhile the configuration is edited and others write, but reserve no node and take no
claimed machine away. As long as the key of the taints changes only while no node is
reserved, every machine that is available has a node that no taint reserves. An edit of
the key while a machine is claimed breaks this: the machine is given back under the new
key, and the taint of the old one stays on its node.

Two more things are relied on. All machines of the pool are in its namespace, and whatever
calls fail with, a change of a node is answered with `notFound` only if there is no such
node. A machine is given back although its node is not found, so a node that was only said
to be gone would stay reserved.
-/

namespace NodeGate

open Program

/-- Every duty keeps a cluster tidy. -/
theorem Duty.program_maintains (site : Site) (duty : Duty)
    (tidy : site.cache.Tidy site.poolNamespace) :
    Release.KeepsTidy site (duty.program site) site.cache := by
  cases duty with
  | pass text => exact maintains_map.mpr (Release.pass_keepsTidy tidy)
  | farewell pod =>
      exact (Release.podVanished_maintains tidy).relax fun _ unwinds => unwinds.tidy
  | tick =>
      have keeps := (Pool.tick_maintains tidy).relax fun _ unwinds => unwinds.tidy
      exact maintains_map.mpr keeps

namespace Cache

/-- The key of the taints stays, or no node is reserved by it. -/
def KeepsKey (before after : Cache) : Prop :=
  after.taintKey = before.taintKey ∨ ∀ name, before.IsClean name

variable {space : String} {objects : Cache}

theorem Orderly.tidy (orderly : objects.Orderly space)
    (unreserved : ∀ name, objects.IsClean name) : objects.Tidy space :=
  ⟨orderly, fun name key reserves => absurd reserves (unreserved name key)⟩

theorem isClean_of_nodes
    (unreserved : ∀ node ∈ objects.nodes, ∀ taint ∈ node.taintList,
      taint.value ≠ some reservationValue) (name : String) : objects.IsClean name := by
  rintro key ⟨node, stored, taint, member, -, valued⟩
  exact unreserved node (List.mem_of_find?_eq_some stored) taint member valued

/-- An edit that keeps the key keeps a cluster tidy. -/
theorem Tidy.edit {configs : List GateConfig} (tidy : objects.Tidy space)
    (distinct : Distinct GateConfig.metadata configs)
    (keeps : objects.KeepsKey { objects with configs := configs }) :
    Tidy space { objects with configs := configs } := by
  have orderly : Orderly space { objects with configs := configs } :=
    ⟨tidy.vmis, distinct, tidy.keyed, tidy.housed⟩
  rcases keeps with same | clean
  · refine ⟨orderly, fun name key reserves => ?_⟩
    obtain ⟨vmi, member, claimed, named, claimant, told, keyed⟩ := tidy.warranted name key reserves
    exact ⟨vmi, member, claimed, named, claimant, told, same ▸ keyed⟩
  · exact orderly.tidy clean

/-- Others keep a cluster tidy that reserve no node and take no claimed machine away. -/
theorem Tidy.withOthers {before : Cache} (tidy : before.Tidy space)
    (orderly : objects.Orderly space) (configs : objects.configs = before.configs)
    (claims : ∀ vmi ∈ before.vmis, vmi.poolState? = some .claimed →
      ∃ other ∈ objects.vmis, other.poolState? = some .claimed ∧
        other.nodeName = vmi.nodeName ∧ other.claimant? = vmi.claimant?)
    (unreserved : ∀ name key, objects.Reserves name key → before.Reserves name key) :
    objects.Tidy space where
  toOrderly := orderly
  warranted name key reserves := by
    obtain ⟨vmi, member, claimed, named, claimant, told, keyed⟩ :=
      tidy.warranted name key (unreserved name key reserves)
    obtain ⟨other, otherMember, otherClaimed, sameNode, sameClaimant⟩ := claims vmi member claimed
    refine ⟨other, otherMember, otherClaimed, sameNode.trans named, claimant,
      sameClaimant.trans told, ?_⟩
    rw [keyed, taintKey_eq, taintKey_eq, activeConfig?, activeConfig?, configs]

end Cache

/-- The registry with other configurations. -/
def Registry.withConfigs (configs : List GateConfig) (registry : Registry) : Registry :=
  { registry with objects := { registry.objects with configs := configs } }

/-- What the server stores after a duty that sees everything as it is stored. -/
def MergingServer.perform (server : MergingServer) (site : Site) (duty : Duty)
    (registry : Registry) : Registry :=
  ((duty.program { site with cache := registry.objects }).runWith server.answering registry).2

namespace Cleanliness

/-- One step of a cluster. A duty is done against what is stored, up to any point of it, and
any of its calls may fail, but a node is not found only if it is not there (`credible`); the
configuration is edited; or others write. -/
inductive Step (server : MergingServer) (site : Site) (mayEdit : Cache → Cache → Prop) :
    Registry → Registry → Prop where
  | act {before after : Registry} {duty : Duty} {past later : List Happening}
      (run : Runs (duty.program { site with cache := before.objects }) (past ++ later) ())
      (allows : server.Allows before past after) (credible : server.Credible before past) :
      Step server site mayEdit before after
  | edit {registry : Registry} {configs : List GateConfig}
      (distinct : Cache.Distinct GateConfig.metadata configs)
      (may : mayEdit registry.objects (registry.withConfigs configs).objects) :
      Step server site mayEdit registry (registry.withConfigs configs)
  | others {before after : Registry} (orderly : after.objects.Orderly site.poolNamespace)
      (configs : after.objects.configs = before.objects.configs)
      (claims : ∀ vmi ∈ before.objects.vmis, vmi.poolState? = some .claimed →
        ∃ other ∈ after.objects.vmis, other.poolState? = some .claimed ∧
          other.nodeName = vmi.nodeName ∧ other.claimant? = vmi.claimant?)
      (unreserved : ∀ name key,
        after.objects.Reserves name key → before.objects.Reserves name key) :
      Step server site mayEdit before after

/-- Steps in a row. -/
inductive Steps (server : MergingServer) (site : Site) (mayEdit : Cache → Cache → Prop)
    (start : Registry) : Registry → Prop where
  | start : Steps server site mayEdit start start
  | next {before after : Registry} (steps : Steps server site mayEdit start before)
      (step : Step server site mayEdit before after) : Steps server site mayEdit start after

variable {server : MergingServer} {site : Site} {mayEdit : Cache → Cache → Prop}
  {before after : Registry}

/-- A duty may be done as the server answers it. -/
theorem Step.perform (duty : Duty) :
    Step server site mayEdit before (server.perform site duty before) := by
  obtain ⟨trace, run, allows, credible⟩ := server.exists_runs_answered
    (duty.program { site with cache := before.objects }) before
  rw [← List.append_nil trace] at run
  exact .act run allows credible

theorem Step.tidy (step : Step server site Cache.KeepsKey before after)
    (tidy : before.objects.Tidy site.poolNamespace) :
    after.objects.Tidy site.poolNamespace := by
  cases step with
  | @act _ duty past later run allows credible =>
      have maintains :=
        Duty.program_maintains { site with cache := before.objects } duty tidy
      exact maintains.always_of_runs run allows credible
  | edit distinct keeps => exact tidy.edit distinct keeps
  | others orderly configs claims unreserved =>
      exact tidy.withOthers orderly configs claims unreserved

theorem Steps.tidy (steps : Steps server site Cache.KeepsKey before after)
    (tidy : before.objects.Tidy site.poolNamespace) :
    after.objects.Tidy site.poolNamespace := by
  induction steps with
  | start => exact tidy
  | next steps step ih => exact step.tidy ih

/-- Whenever a machine is available no taint reserves its node. This is so if no node was
reserved at first, the key of the taints changes only while none is (`Cache.KeepsKey`), all
machines of the pool are in its namespace (`Cache.Orderly`), and the change of a node is
answered with `notFound` only if there is no such node (`MergingServer.Credible`). -/
theorem available_machine_is_clean (steps : Steps server site Cache.KeepsKey before after)
    (orderly : before.objects.Orderly site.poolNamespace)
    (unreserved : ∀ node ∈ before.objects.nodes, ∀ taint ∈ node.taintList,
      taint.value ≠ some reservationValue) {vmi : Vmi}
    (member : vmi ∈ after.objects.vmis) (available : vmi.poolState? = some .available)
    {node : Node} (joined : after.objects.node? vmi.nodeName = some node) :
    ∀ taint ∈ node.taintList, taint.value ≠ some reservationValue := by
  have tidy := steps.tidy (orderly.tidy (Cache.isClean_of_nodes unreserved))
  have clean := tidy.isClean_of_unclaimed member (Vmi.isPooled_of_poolState? available)
    (by simp [available])
  intro taint among valued
  exact clean taint.key ⟨node, joined, taint, among, rfl, valued⟩

/-- A gated pod that holds no machine. -/
def waitingPod : Pod where
  metadata := { name := some "p", space := some "a", finalizers := some [finalizerName] }
  spec := some { gates := some [gateName] }

/-- The pod, an available machine of the pool and its node. -/
def quietCluster : Registry where
  objects :=
    { pods := [waitingPod]
      vmis :=
        [{ metadata :=
            { name := some "m", space := some controlNamespace, resourceVersion := some "1"
              labels := some [(poolStateLabel, PoolState.available.label)] }
           spec := {}
           status := some { phase := some .running } }]
      nodes := [{ metadata := { name := some "m" } }] }

/-- A configuration under which taints have a key of its own. -/
def otherKey : GateConfig where
  metadata := { name := some "settings" }
  spec := { taintKey := some "example.org" }

theorem quietCluster_orderly : quietCluster.objects.Orderly controlNamespace := by
  constructor <;> simp [Cache.Distinct, quietCluster, Vmi.key]

theorem quietCluster_unreserved : ∀ node ∈ quietCluster.objects.nodes,
    ∀ taint ∈ node.taintList, taint.value ≠ some reservationValue := by
  simp [quietCluster, Node.taintList]

/-- The key is edited while no node is reserved, the machine is claimed and its pod goes: the
machine is offered again and is clean. -/
theorem returned_machine_is_clean :
    let after := plainServer.perform {} (.farewell waitingPod)
      (plainServer.perform {} (.pass "a/p") (quietCluster.withConfigs [otherKey]))
    ∃ vmi ∈ after.objects.vmis, vmi.poolState? = some .available ∧
      ∃ node, after.objects.node? vmi.nodeName = some node ∧
        ∀ taint ∈ node.taintList, taint.value ≠ some reservationValue := by
  intro after
  have edit : Step plainServer {} Cache.KeepsKey quietCluster
      (quietCluster.withConfigs [otherKey]) :=
    .edit (by simp [Cache.Distinct]) (.inr (Cache.isClean_of_nodes quietCluster_unreserved))
  have steps : Steps plainServer {} Cache.KeepsKey quietCluster after :=
    .next (.next (.next .start edit) (.perform (.pass "a/p"))) (.perform (.farewell waitingPod))
  have offered : ∃ vmi ∈ after.objects.vmis, vmi.poolState? = some .available ∧
      (after.objects.node? vmi.nodeName).isSome = true := by
    decide +kernel
  obtain ⟨vmi, member, available, there⟩ := offered
  obtain ⟨node, joined⟩ := Option.isSome_iff_exists.mp there
  refine ⟨vmi, member, available, node, joined, ?_⟩
  exact available_machine_is_clean steps quietCluster_orderly quietCluster_unreserved member
    available joined

/-- The machine is claimed, then the key is edited and the pod goes: the machine is offered
with the taint of its claimant on its node. -/
theorem available_machine_reserved_after_edit :
    ¬∀ (server : MergingServer) (site : Site) (before after : Registry),
      before.objects.Orderly site.poolNamespace →
      (∀ vmi ∈ before.objects.vmis, vmi.poolState? ≠ some .claimed) →
      (∀ node ∈ before.objects.nodes, ∀ taint ∈ node.taintList,
        taint.value ≠ some reservationValue) →
      Steps server site (fun _ _ => True) before after →
      ∀ vmi ∈ after.objects.vmis, vmi.poolState? = some .available →
        ∀ node, after.objects.node? vmi.nodeName = some node →
          ∀ taint ∈ node.taintList, taint.value ≠ some reservationValue := by
  intro always
  let claimed := plainServer.perform {} (.pass "a/p") quietCluster
  let after := plainServer.perform {} (.farewell waitingPod) (claimed.withConfigs [otherKey])
  have edit : Step plainServer {} (fun _ _ => True) claimed (claimed.withConfigs [otherKey]) :=
    .edit (by simp [Cache.Distinct]) trivial
  have steps : Steps plainServer {} (fun _ _ => True) quietCluster after :=
    .next (.next (.next .start (.perform (.pass "a/p"))) edit) (.perform (.farewell waitingPod))
  have reserved : ∃ vmi ∈ after.objects.vmis, vmi.poolState? = some .available ∧
      ∃ node ∈ after.objects.node? vmi.nodeName,
        ∃ taint ∈ node.taintList, taint.value = some reservationValue := by
    decide +kernel
  obtain ⟨vmi, member, available, node, joined, taint, among, valued⟩ := reserved
  exact always _ _ _ _ quietCluster_orderly (by decide) quietCluster_unreserved steps vmi member
    available node joined taint among valued

end Cleanliness

end NodeGate
