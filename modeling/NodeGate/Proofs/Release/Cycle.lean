import NodeGate.Proofs.Cluster.PlainServer
import NodeGate.Proofs.Release.Handover

/-!
# From the claim to the return

A pod claims a machine of the pool, is let go, is deleted and gives the machine back. When
the API server merges the patches and every pass sees everything as it is stored, this
takes three passes, and it leaves the labels of the machine and the taints of its node
exactly as they were before the claim. Of the pod only what had to go is gone.
-/

namespace NodeGate

open Json

/-- A pod waits for a machine while one of the pool is free, whose node is there without a
taint for the pod. -/
structure Cache.Awaits (cache : Cache) (key held : ObjectKey) (trio : Trio) : Prop where
  cached : cache.pod? key = some trio.pod
  staying : trio.pod.isDeleting = false
  gatedOnce : trio.pod.gateCount = 1
  guarded : trio.pod.hasFinalizer = true
  unowned : cache.vmi? key = none
  unclaimed : cache.heldBy? key.text = none
  spare : cache.candidate? = some trio.vmi
  keyed : trio.vmi.key = .ok held
  free : trio.vmi.claimant? = none
  joined : cache.node? trio.vmi.nodeName = some trio.node
  untainted : trio.node.hasTaint
    (reservationKey key.name (MachineDefaults.ofConfig cache.activeConfig?).taintKey) = false

theorem Cache.Awaits.shows {cache : Cache} {key held : ObjectKey} {trio : Trio}
    (awaits : cache.Awaits key held trio) (unambiguous : cache.Unambiguous) :
    cache.Shows key held trio where
  pod := awaits.cached
  vmi := vmi?_of_key unambiguous.vmis (candidate?_eq_some awaits.spare).1 awaits.keyed
  node := awaits.joined

/-- The machine is claimed for a pod and its node reserved. -/
structure Trio.Claims (taintKey : String) (key : ObjectKey) (origin : Trio) (vmi : Vmi)
    (node : Node) : Prop where
  labelled : (VmiPatch.claim origin.vmi.metadata.resourceVersion key.text).Makes origin.vmi vmi
  running : vmi.isRunning = true
  reserved : node.toJson.SameButVersion (merged origin.node.toJson
    (NodePatch.reserving origin.node (reservationKey key.name taintKey)).toJson)

/-- The pod has the machine that it claimed, and the node of that is reserved for it. -/
structure Cache.Assigns (cache : Cache) (key held : ObjectKey) (trio : Trio) : Prop where
  shows : cache.Shows key held trio
  unowned : cache.vmi? key = none
  holds : cache.heldBy? key.text = some trio.vmi
  keyed : trio.vmi.key = .ok held
  running : trio.vmi.isRunning = true
  tainted : trio.node.hasTaint
    (reservationKey key.name (MachineDefaults.ofConfig cache.activeConfig?).taintKey) = true

namespace Trio.Claims

variable {cache : Cache} {key held : ObjectKey} {origin : Trio} {pod : Pod} {vmi : Vmi}
  {node : Node} {taintKey : String}

theorem same (claims : origin.Claims taintKey key vmi node) (akin : pod.Akin origin.pod) :
    Same ⟨pod, vmi, node⟩ origin where
  pod := akin.sameObject
  vmi := ⟨claims.labelled.space_eq, claims.labelled.name_eq⟩
  node := Node.sameObject_merged claims.reserved

/-- What was claimed is assigned to the pod from then on. -/
theorem assigns
    (claims : origin.Claims (MachineDefaults.ofConfig cache.activeConfig?).taintKey key vmi node)
    (akin : pod.Akin origin.pod) (awaits : cache.Awaits key held origin)
    (unambiguous : cache.Unambiguous) :
    (cache.seat ⟨pod, vmi, node⟩).Assigns key held ⟨pod, vmi, node⟩ := by
  have same := claims.same akin
  have shows := (awaits.shows unambiguous).seat same
  constructor
  · exact shows
  · exact Cache.vmi?_seat_eq_none awaits.unowned
  · exact Cache.heldBy?_seat shows.vmi awaits.unclaimed claims.labelled.claim.1
      claims.labelled.claim.2
  · exact Vmi.key_of_sameObject same.vmi awaits.keyed
  · exact claims.running
  · exact Node.hasTaint_reserved claims.reserved

end Trio.Claims

namespace MergingServer

variable {server : MergingServer} {site : Site} {cache : Cache} {key held : ObjectKey}
  {origin trio : Trio} {text : String}

open Release

/-- A gated pod has a specification. -/
theorem isSome_spec_of_gatedOnce {pod : Pod} (gatedOnce : pod.gateCount = 1) :
    pod.spec.isSome = true := by
  cases specified : pod.spec with
  | none => simp [Pod.gateCount, Pod.gates, specified] at gatedOnce
  | some spec => rfl

/-- A pass ends in the disposition that its attempt ends in. -/
theorem Leads.pass {before after : Scene} {disposition : Disposition}
    (leads : server.Leads cache key held (attempt site text) before (.ok disposition) after) :
    server.Leads cache key held (Release.pass site text) before disposition after :=
  leads.bind (.quiet rfl)

/-- The first pass claims the machine, reserves its node and makes the pod select it. -/
theorem leads_binding (server : MergingServer) (site : Site) (before : List Call)
    (awaits : cache.Awaits key held origin) (unambiguous : cache.Unambiguous)
    (named : ObjectKey.ofText text = .ok key) :
    ∃ bound claimed reserved later, server.Leads cache key held
        (Release.pass { site with cache := cache } text) ⟨origin, before⟩ .immediate
        ⟨⟨bound, claimed, reserved⟩, later⟩ ∧
      origin.Claims (MachineDefaults.ofConfig cache.activeConfig?).taintKey key claimed reserved ∧
      origin.pod.Selects origin.vmi.nodeName bound := by
  have shows := awaits.shows unambiguous
  obtain ⟨claimed, written, claiming, claims⟩ :=
    leads_claim server before shows (.refl origin) awaits.keyed
  have sameClaimed := (Trio.Same.refl origin).withVmi (Vmi.sameObject_merged claims)
  obtain ⟨reserved, written, reserving, reserves⟩ :=
    leads_reserveNode server { site with cache := cache } written shows sameClaimed
      (Vmi.nodeName_eq (Vmi.sameObject_merged claims).symm) awaits.joined awaits.untainted
  have sameReserved := sameClaimed.withNode (Node.sameObject_merged reserves)
  obtain ⟨wrote, selecting, later, selectingNode, selects⟩ :=
    leads_selectNode server origin.vmi written shows sameReserved
      (isSome_spec_of_gatedOnce awaits.gatedOnce)
  refine ⟨selecting, claimed, reserved, later, ?_,
    ⟨Vmi.makes_of_merged claims, ?_, reserves⟩, selects⟩
  · apply Leads.pass
    have attempts : attempt { site with cache := cache } text =
        obtainMachine { site with cache := cache } key origin.pod := by
      simp [attempt, named, awaits.cached, attend, awaits.staying, awaits.gatedOnce, serve,
        Cache.machineOf?, awaits.unowned, awaits.unclaimed]
    rw [attempts]
    refine (leads_readMachine awaits.unowned).call_bind ?_
    simp only [Option.filter_none, awaits.spare]
    refine claiming.bind ?_
    exact (reserving.bind selectingNode).bind (.quiet rfl)
  · rw [Vmi.isRunning_merged claims, (Cache.candidate?_eq_some awaits.spare).2.2.2]

/-- The next pass takes the gate off. -/
theorem leads_lifting (server : MergingServer) (site : Site) (before : List Call)
    (shows : cache.Shows key held origin) (same : trio.Same origin)
    (assigns : (cache.seat trio).Assigns key held trio) (named : ObjectKey.ofText text = .ok key)
    (staying : trio.pod.isDeleting = false) (gatedOnce : trio.pod.gateCount = 1)
    (selected : trio.pod.selectedHost? = some trio.vmi.nodeName) :
    ∃ lifted later, server.Leads cache key held
        (Release.pass { site with cache := cache.seat trio } text) ⟨trio, before⟩ .forget
        ⟨{ trio with pod := lifted }, later⟩ ∧
      lifted.toJson.SameButVersion (merged trio.pod.toJson (PodPatch.toJson
        ⟨trio.pod.metadata.resourceVersion, .gates (trio.pod.gates.filter (· ≠ gateName))⟩)) := by
  obtain ⟨lifted, later, lifting, lifts⟩ := leads_changePod server before
    ⟨trio.pod.metadata.resourceVersion, .gates (trio.pod.gates.filter (· ≠ gateName))⟩
    shows same (isSome_spec_of_gatedOnce gatedOnce) rfl
  refine ⟨lifted, later, ?_, lifts⟩
  obtain ⟨_, pooled, _⟩ := Cache.heldBy?_eq_some assigns.holds
  have isGated : trio.pod.isGated = true := by simp [Pod.isGated, gatedOnce]
  have opening : server.Leads cache key held
      (openGate { site with cache := cache.seat trio } key trio.pod trio.vmi) ⟨trio, before⟩
      (.ok .forget) ⟨{ trio with pod := lifted }, later⟩ := by
    simp only [openGate, assigns.running, assigns.shows.node, liftGate, PodPatch.withoutGate?,
      isGated, Bool.true_eq_false, Option.isNone_some, Bool.false_eq_true, if_true, if_false]
    exact lifting.call_bind (.quiet rfl)
  have reserving : server.Leads cache key held
      (reserveNode { site with cache := cache.seat trio } key trio.vmi) ⟨trio, before⟩ (.ok ())
      ⟨trio, before⟩ := leads_reserveNode_of_tainted assigns.shows.node assigns.tainted
  have pinning : server.Leads cache key held
      (pinToMachine { site with cache := cache.seat trio } key trio.pod trio.vmi) ⟨trio, before⟩
      (.ok false) ⟨trio, before⟩ :=
    reserving.bind (leads_selectNode_of_selected selected)
  have serving : (cache.seat trio).machineOf? key = some trio.vmi := by
    simp [Cache.machineOf?, assigns.unowned, assigns.holds]
  have attempts : attempt { site with cache := cache.seat trio } text =
      serve { site with cache := cache.seat trio } key trio.pod := by
    simp [attempt, named, assigns.shows.pod, attend, staying, gatedOnce]
  apply Leads.pass
  rw [attempts]
  simp only [serve, serving]
  rw [if_pos pooled]
  exact pinning.bind opening

/-- The pass over the deleted pod gives the machine back and then drops the finalizer. -/
theorem leads_returning (server : MergingServer) (site : Site) (before : List Call)
    (shows : cache.Shows key held origin) (same : trio.Same origin)
    (absent : cache.vmi? key = none) (assigns : (cache.seat trio).Assigns key held trio)
    (named : ObjectKey.ofText text = .ok key) (specified : trio.pod.spec.isSome = true)
    (deleting : trio.pod.isDeleting = true) (guarded : trio.pod.hasFinalizer = true) :
    ∃ gone returned freed later, server.Leads cache key held
        (Release.pass { site with cache := cache.seat trio } text) ⟨trio, before⟩ .forget
        ⟨⟨gone, returned, freed⟩, later⟩ ∧
      gone.toJson.SameButVersion (merged trio.pod.toJson (PodPatch.toJson
        ⟨trio.pod.metadata.resourceVersion,
          .finalizers (trio.pod.finalizers.filter (· ≠ finalizerName))⟩)) ∧
      returned.toJson.SameButVersion (merged trio.vmi.toJson
        (VmiPatch.giveBack trio.vmi.metadata.resourceVersion).toJson) ∧
      freed.toJson.SameButVersion (merged trio.node.toJson (NodePatch.freeing trio.node
        (reservationKey key.name
          (MachineDefaults.ofConfig cache.activeConfig?).taintKey)).toJson) := by
  obtain ⟨_, _, _, claimant⟩ := Cache.heldBy?_eq_some assigns.holds
  obtain ⟨freed, returned, written, returning, frees, returns⟩ :=
    leads_giveBack server { site with cache := cache.seat trio } before shows same assigns.keyed
      (ObjectKey.afterLastSlash_text named) claimant assigns.shows.node assigns.tainted
  have sameReturned := (same.withNode (Node.sameObject_merged frees)).withVmi
    (Vmi.sameObject_merged returns)
  obtain ⟨gone, later, dismissing, dismisses⟩ := leads_changePod server written
    ⟨trio.pod.metadata.resourceVersion,
      .finalizers (trio.pod.finalizers.filter (· ≠ finalizerName))⟩
    shows sameReturned specified rfl
  refine ⟨gone, returned, freed, later, ?_, dismisses, returns, frees⟩
  have givingBack : server.Leads cache key held
      (giveBackClaimed { site with cache := cache.seat trio } key trio.pod) ⟨trio, before⟩
      (.ok true) ⟨{ trio with node := freed, vmi := returned }, written⟩ := by
    simp only [giveBackClaimed, assigns.holds]
    exact returning.bind (.quiet rfl)
  have releasing : server.Leads cache key held
      (releaseMachine { site with cache := cache.seat trio } key trio.pod) ⟨trio, before⟩
      (.ok ()) ⟨{ trio with node := freed, vmi := returned }, written⟩ := by
    refine givingBack.bind ?_
    simp only [assigns.unowned, if_true]
    exact (leads_readMachine absent).call_bind (.quiet rfl)
  have dropping : server.Leads cache key held (dropFinalizer key trio.pod)
      ⟨{ trio with node := freed, vmi := returned }, written⟩ (.ok ())
      ⟨⟨gone, returned, freed⟩, later⟩ := by
    simp only [dropFinalizer, PodPatch.withoutFinalizer?, guarded, if_true]
    exact dismissing.call_bind (.quiet rfl)
  apply Leads.pass
  simp only [attempt, named, assigns.shows.pod, attend, deleting, depart, guarded,
    Bool.true_eq_false, if_true, if_false]
  exact releasing.bind (dropping.bind (.quiet rfl))

end MergingServer

/-- The pod once its deletion was asked for at a time, at another version. -/
def Pod.condemned (time : Instant) (version : Option String) (pod : Pod) : Pod :=
  { pod with
    metadata := { pod.metadata with
      deletionTimestamp := some time
      resourceVersion := version } }

theorem Pod.akin_condemned (time : Instant) (version : Option String) (pod : Pod) :
    (pod.condemned time version).Akin pod := by
  constructor
  · intro name outside apart
    simp [toJson, condemned, member?, Entries.get?_cons, outside.symm]
  · intro name kept
    simp only [List.mem_cons, List.not_mem_nil, or_false, not_or] at kept
    have unversioned : "resourceVersion" ≠ name := Ne.symm kept.1
    have untimed : "deletionTimestamp" ≠ name := Ne.symm kept.2.2
    rw [metadataMember?_toJson, metadataMember?_toJson]
    simp [ObjectMeta.toJson, condemned, member?, Entries.get?_append, unversioned, untimed]
  · intro name _
    rw [specMember?, spec_toJson, specMember?, spec_toJson]
    rfl

/-- Somebody deletes the pod of a key. It is kept, with the time at which that was asked. -/
def Registry.condemn (key : ObjectKey) (time : Instant) (version : Option String)
    (registry : Registry) : Registry :=
  match registry.objects.pod? key with
  | none => registry
  | some pod =>
    { registry with objects := { registry.objects with
        pods := Cache.superseded Pod.metadata (pod.condemned time version)
          registry.objects.pods } }

theorem Scene.condemn_registry {cache : Cache} {key held : ObjectKey} {origin : Trio}
    {scene : Scene} {time : Instant} {version : Option String}
    (shows : cache.Shows key held origin) (same : scene.trio.Same origin) :
    (scene.registry cache).condemn key time version =
      Scene.registry cache
        ⟨{ scene.trio with pod := scene.trio.pod.condemned time version }, scene.written⟩ := by
  rw [Registry.condemn, registry, (shows.seat same).pod]
  simp only [registry, Cache.seat]
  rw [Cache.superseded_superseded (Pod.akin_condemned time version scene.trio.pod).sameObject]

/-- What is left of a pod that came to select a node, was deleted at a time and is free to
go: all but our gate and our finalizer. -/
structure Pod.IsLetGo (host : String) (time : Instant) (before after : Pod) : Prop where
  akin : after.Akin before
  gates_eq : after.gates = before.gates.filter (· ≠ gateName)
  finalizers_eq : after.finalizers = before.finalizers.filter (· ≠ finalizerName)
  selector_eq : ∀ name, Entries.get? name after.selector =
    if name = hostLabel then some host else Entries.get? name before.selector
  deletion_eq : after.outline.deletion = some time.textInSeconds

theorem Pod.isDeleting_eq (pod : Pod) : pod.isDeleting = pod.outline.deletion.isSome := by
  simp [isDeleting, outline]

/-- A pod that loses its gate has what is left of the others. -/
theorem Pod.outline_lifted {before after : Pod} {version : Option String}
    (lifts : after.toJson.SameButVersion (merged before.toJson
      (PodPatch.toJson ⟨version, .gates (before.gates.filter (· ≠ gateName))⟩))) :
    after.outline =
      { before.outline with gates := before.outline.gates.filter (· ≠ gateName) } :=
  PodPatch.outline_merged lifts

/-- A pod that loses its finalizer has what is left of the others. -/
theorem Pod.outline_dismissed {before after : Pod} {version : Option String}
    (dismisses : after.toJson.SameButVersion (merged before.toJson
      (PodPatch.toJson ⟨version, .finalizers (before.finalizers.filter (· ≠ finalizerName))⟩))) :
    after.outline =
      { before.outline with
        finalizers := before.outline.finalizers.filter (· ≠ finalizerName) } :=
  PodPatch.outline_merged dismisses

/-- What a pod goes through from the selection of its node on leaves all but our gate and
our finalizer. -/
theorem Pod.Selects.isLetGo {before bound lifted gone : Pod} {host : String} {time : Instant}
    {version atLifting atDismissal : Option String} (selects : before.Selects host bound)
    (lifts : lifted.toJson.SameButVersion (merged bound.toJson
      (PodPatch.toJson ⟨atLifting, .gates (bound.gates.filter (· ≠ gateName))⟩)))
    (dismisses : gone.toJson.SameButVersion (merged (lifted.condemned time version).toJson
      (PodPatch.toJson ⟨atDismissal, .finalizers
        ((lifted.condemned time version).finalizers.filter (· ≠ finalizerName))⟩))) :
    before.IsLetGo host time gone := by
  have last := outline_dismissed dismisses
  have earlier : (lifted.condemned time version).outline =
      { lifted.outline with deletion := some time.textInSeconds } := rfl
  rw [earlier, outline_lifted lifts] at last
  simp only [Outline.ext_iff] at last
  obtain ⟨gates, finalizers, selector, deletion⟩ := last
  have selector : gone.selector = bound.selector := selector
  constructor
  · exact (PodPatch.akin_merged dismisses).trans ((akin_condemned time version lifted).trans
      ((PodPatch.akin_merged lifts).trans selects.akin))
  · exact gates.trans (congrArg (List.filter (· ≠ gateName)) selects.gates_eq)
  · exact finalizers.trans (congrArg (List.filter (· ≠ finalizerName)) selects.finalizers_eq)
  · rw [selector]
    exact selects.selector_eq
  · exact deletion

namespace MergingServer

variable {cache : Cache} {key held : ObjectKey} {origin : Trio} {text : String}

/-- Two passes take the gate off: the first claims the machine, the second finds it ready. -/
theorem passes_lift (server : MergingServer) (site : Site) (written : List Call)
    (unambiguous : cache.Unambiguous) (named : ObjectKey.ofText text = .ok key)
    (awaits : cache.Awaits key held origin) :
    ∃ middle bound lifted claimed reserved later version,
      server.pass site text ⟨cache, written⟩ = (.immediate, middle) ∧
      server.pass site text middle =
        (.forget, Scene.registry cache ⟨⟨lifted, claimed, reserved⟩, later⟩) ∧
      OnlyAbout key held written later ∧
      origin.Claims (MachineDefaults.ofConfig cache.activeConfig?).taintKey key claimed reserved ∧
      origin.pod.Selects origin.vmi.nodeName bound ∧
      lifted.toJson.SameButVersion (merged bound.toJson
        (PodPatch.toJson ⟨version, .gates (bound.gates.filter (· ≠ gateName))⟩)) := by
  have shows := awaits.shows unambiguous
  obtain ⟨bound, claimed, reserved, between, binding, claims, selects⟩ :=
    leads_binding server site written awaits unambiguous named
  have sameBound := claims.same selects.akin
  have staying : bound.isDeleting = false := by
    rw [Pod.isDeleting_eq, selects.deletion_eq, ← Pod.isDeleting_eq, awaits.staying]
  have gatedOnce : bound.gateCount = 1 := by
    rw [Pod.gateCount, selects.gates_eq, ← Pod.gateCount, awaits.gatedOnce]
  have selected : bound.selectedHost? = some claimed.nodeName := by
    rw [Pod.selectedHost?_eq, selects.selector_eq, if_pos rfl, Vmi.nodeName_eq sameBound.vmi]
  obtain ⟨lifted, later, lifting, lifts⟩ :=
    leads_lifting server site between shows sameBound
      (claims.assigns selects.akin awaits unambiguous) named staying gatedOnce selected
  have first := binding.runs
  rw [Scene.registry, Cache.seat_self unambiguous shows] at first
  exact ⟨_, bound, lifted, claimed, reserved, later, _, first, lifting.runs,
    binding.about.trans lifting.about, claims, selects, lifts⟩

/-- A pod that waits for a machine claims one of the pool and loses its gate in two passes.
Once it is deleted, another pass gives the machine back and drops the finalizer. Then the
labels of the machine and the taints of its node are what they were at first, of the pod
only what had to change has changed, and nothing else was written. -/
theorem claim_and_return_restore {registry : Registry} (server : MergingServer) (site : Site)
    (time : Instant) (version : Option String) (unambiguous : registry.objects.Unambiguous)
    (named : ObjectKey.ofText text = .ok key) (awaits : registry.objects.Awaits key held origin) :
    let first := server.pass site text registry
    let second := server.pass site text first.2
    let third := server.pass site text (second.2.condemn key time version)
    (first.1 = .immediate ∧ second.1 = .forget ∧ third.1 = .forget) ∧
      (∃ lifted, second.2.objects.pod? key = some lifted ∧ lifted.isGated = false ∧
        lifted.hasFinalizer = true) ∧
      OnlyAbout key held registry.written third.2.written ∧
      ∃ last : Trio, last.Same origin ∧ third.2.objects = registry.objects.seat last ∧
        origin.pod.IsLetGo origin.vmi.nodeName time last.pod ∧
        (∀ name, last.vmi.metadata.label? name = origin.vmi.metadata.label? name) ∧
        last.node.writtenTaints = origin.node.writtenTaints := by
  obtain ⟨cache, written⟩ := registry
  have shows := awaits.shows unambiguous
  obtain ⟨middle, bound, lifted, claimed, reserved, between, _, first, second, about, claims,
    selects, lifts⟩ := passes_lift server site written unambiguous named awaits
  have akinLifted := (PodPatch.akin_merged lifts).trans selects.akin
  have ungated : lifted.isGated = false := by
    have gates : lifted.gates = bound.gates.filter (· ≠ gateName) :=
      congrArg Pod.Outline.gates (Pod.outline_lifted lifts)
    simp [Pod.isGated, Pod.gateCount, gates, List.countP_filter]
  have guarded : lifted.hasFinalizer = true := by
    have finalizers : lifted.finalizers = bound.finalizers :=
      congrArg Pod.Outline.finalizers (Pod.outline_lifted lifts)
    rw [Pod.hasFinalizer, finalizers, selects.finalizers_eq, ← Pod.hasFinalizer, awaits.guarded]
  have akinCondemned := (Pod.akin_condemned time version lifted).trans akinLifted
  have specified : (lifted.condemned time version).spec.isSome = true := by
    rw [akinCondemned.isSome_spec, isSome_spec_of_gatedOnce awaits.gatedOnce]
  obtain ⟨gone, returned, freed, later, returning, dismisses, returns, frees⟩ :=
    leads_returning server site between shows (claims.same akinCondemned) awaits.unowned
      (claims.assigns akinCondemned awaits unambiguous) named specified rfl guarded
  have sameLast : Trio.Same ⟨gone, returned, freed⟩ origin :=
    (((claims.same akinCondemned).withPod (PodPatch.akin_merged dismisses).sameObject).withVmi
      (Vmi.sameObject_merged returns)).withNode (Node.sameObject_merged frees)
  have third : server.pass site text
      ((Scene.registry cache ⟨⟨lifted, claimed, reserved⟩, between⟩).condemn key time version) =
        (.forget, Scene.registry cache ⟨⟨gone, returned, freed⟩, later⟩) := by
    rw [Scene.condemn_registry shows (claims.same akinLifted)]
    exact returning.runs
  simp only [first, second, third, true_and]
  refine ⟨⟨lifted, (shows.seat (claims.same akinLifted)).pod, ungated, guarded⟩,
    about.trans returning.about, ⟨gone, returned, freed⟩, sameLast, rfl,
    selects.isLetGo lifts dismisses, ?_, ?_⟩
  · obtain ⟨_, _, available, _⟩ := Cache.candidate?_eq_some awaits.spare
    exact claims.labelled.labels_restored (Vmi.makes_of_merged returns) available awaits.free
  · exact Node.taints_restored claims.reserved frees awaits.untainted

/-- A gated pod, a spare machine and its node, which others have tainted. -/
def spareTrio : Trio where
  pod :=
    { metadata := { name := some "p", space := some "a", finalizers := some [finalizerName] }
      spec := some { gates := some ["quota", gateName], nodeSelector := some [("disk", "ssd")] } }
  vmi :=
    { metadata :=
        { name := some "m", space := some "pool", resourceVersion := some "1"
          labels := some [(poolStateLabel, PoolState.available.label), ("zone", "west")] }
      spec := {}
      status := some { phase := some .running } }
  node :=
    { metadata := { name := some "m" }
      taints := some [{ key := "maintenance", effect := noSchedule }] }

/-- The objects of the trio and no others. -/
def spareCache : Cache where
  pods := [spareTrio.pod]
  vmis := [spareTrio.vmi]
  nodes := [spareTrio.node]

/-- The spare machine is claimed and returned; the gate, the label and the taint of others
stay. -/
theorem spare_claimed_and_returned :
    spareCache.Unambiguous ∧ spareCache.Awaits ⟨"a", "p"⟩ ⟨"pool", "m"⟩ spareTrio ∧
      let time : Instant := ⟨⟨2026, 1, 1⟩, 0, 0, 0, 0⟩
      let first := plainServer.pass {} "a/p" ⟨spareCache, []⟩
      let second := plainServer.pass {} "a/p" first.2
      let third := plainServer.pass {} "a/p" (second.2.condemn ⟨"a", "p"⟩ time (some "9"))
      (first.1 = .immediate ∧ second.1 = .forget ∧ third.1 = .forget) ∧
        (∃ lifted, second.2.objects.pod? ⟨"a", "p"⟩ = some lifted ∧ lifted.isGated = false ∧
          lifted.hasFinalizer = true) ∧
        OnlyAbout ⟨"a", "p"⟩ ⟨"pool", "m"⟩ [] third.2.written ∧
        ∃ last : Trio, last.Same spareTrio ∧ third.2.objects = spareCache.seat last ∧
          spareTrio.pod.IsLetGo "m" time last.pod ∧
          (∀ name, last.vmi.metadata.label? name = spareTrio.vmi.metadata.label? name) ∧
          last.node.writtenTaints = spareTrio.node.writtenTaints := by
  have unambiguous : spareCache.Unambiguous := by
    constructor <;> simp [Cache.Distinct, spareCache]
  have awaits : spareCache.Awaits ⟨"a", "p"⟩ ⟨"pool", "m"⟩ spareTrio := by
    constructor <;> rfl
  refine ⟨unambiguous, awaits, ?_⟩
  exact claim_and_return_restore plainServer {} ⟨⟨2026, 1, 1⟩, 0, 0, 0, 0⟩ (some "9") unambiguous
    rfl awaits

end MergingServer

end NodeGate
