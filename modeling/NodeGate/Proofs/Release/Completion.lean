import NodeGate.Proofs.Cluster.Trials
import NodeGate.Proofs.Release.Acquisition
import NodeGate.Proofs.Release.Cycle

/-!
# Completing a claim

A machine that is labelled as claimed by a pod serves that pod from then on, whatever else
of the claim failed. The passes that follow take it up where it stands: they taint the
node, make the pod select it and take the gate off, each of them once, and however often
they fail in between they acquire no other machine.
-/

namespace NodeGate

open Json

/-- A pool machine is claimed for a gated pod, and it runs with its node there. Neither the
node nor the pod need know of the claim. -/
structure Cache.HalfClaims (cache : Cache) (key : ObjectKey) (pod : Pod) (vmi : Vmi) : Prop where
  cached : cache.pod? key = some pod
  staying : pod.isDeleting = false
  gatedOnce : pod.gateCount = 1
  unowned : ∀ own, cache.vmi? key = some own → own.isPooled = true
  stored : vmi ∈ cache.vmis
  claimed : vmi.poolState? = some .claimed
  claimant : vmi.claimant? = some key.text
  only : ∀ other ∈ cache.vmis, other.poolState? = some .claimed →
    other.claimant? = some key.text → other = vmi
  running : vmi.isRunning = true
  joined : (cache.node? vmi.nodeName).isSome = true

/-- The node of the machine that serves a pod is tainted for the pod, which selects it and
is not gated any more. -/
structure Cache.ClaimCompleted (cache : Cache) (key : ObjectKey) (vmi : Vmi) (taint : String) :
    Prop where
  serving : cache.machineOf? key = some vmi
  released : ∃ pod, cache.pod? key = some pod ∧ pod.isGated = false ∧
    pod.selectedHost? = some vmi.nodeName
  reserved : ∃ node, cache.node? vmi.nodeName = some node ∧ node.hasTaint taint = true

/-- The pod and the node while a claim is being completed. The gate is off only when the
rest is done. -/
structure Cache.Completing (cache : Cache) (key : ObjectKey) (vmi : Vmi) (taint : String)
    (pod : Pod) (node : Node) : Prop where
  cached : cache.pod? key = some pod
  joined : cache.node? vmi.nodeName = some node
  serving : cache.machineOf? key = some vmi
  pooled : vmi.isPooled = true
  running : vmi.isRunning = true
  taint_eq :
    reservationKey key.name (MachineDefaults.ofConfig cache.activeConfig?).taintKey = taint
  staying : pod.isDeleting = false
  gate : pod.gateCount = 1 ∨
    pod.gateCount = 0 ∧ pod.selectedHost? = some vmi.nodeName ∧ node.hasTaint taint = true

/-- How many passes without a failure it takes at most until the gate is off. -/
def Pod.passesLeft (host : String) (pod : Pod) : Nat :=
  if pod.gateCount = 0 then 0 else if pod.selectedHost? = some host then 1 else 2

theorem Pod.passesLeft_le (pod : Pod) (host : String) : pod.passesLeft host ≤ 2 := by
  unfold passesLeft
  split
  · exact Nat.zero_le 2
  · split <;> decide

namespace Cache

variable {cache : Cache} {key : ObjectKey} {vmi : Vmi} {taint : String} {pod : Pod} {node : Node}

theorem HalfClaims.pooled (halfClaims : cache.HalfClaims key pod vmi) : vmi.isPooled = true :=
  Vmi.isPooled_of_poolState? halfClaims.claimed

/-- The machine that was claimed serves the pod. -/
theorem HalfClaims.machineOf?_eq (halfClaims : cache.HalfClaims key pod vmi) :
    cache.machineOf? key = some vmi := by
  have unowned : ((cache.vmi? key).filter fun own => !own.isPooled) = none := by
    rw [Option.filter_eq_none_iff]
    intro own found
    simp [halfClaims.unowned own found]
  have there : (cache.heldBy? key.text).isSome = true :=
    List.find?_isSome.mpr ⟨vmi, mem_pool.mpr ⟨halfClaims.stored, halfClaims.pooled⟩, by
      simp [halfClaims.claimed, halfClaims.claimant]⟩
  obtain ⟨found, holds⟩ := Option.isSome_iff_exists.mp there
  obtain ⟨stored, -, claimed, claimant⟩ := heldBy?_eq_some holds
  rw [machineOf?, unowned, holds, halfClaims.only found stored claimed claimant]

/-- A claim that was cut short is one to complete. -/
theorem HalfClaims.completing (halfClaims : cache.HalfClaims key pod vmi)
    (joined : cache.node? vmi.nodeName = some node) :
    cache.Completing key vmi
      (reservationKey key.name (MachineDefaults.ofConfig cache.activeConfig?).taintKey) pod
      node where
  cached := halfClaims.cached
  joined := joined
  serving := halfClaims.machineOf?_eq
  pooled := halfClaims.pooled
  running := halfClaims.running
  taint_eq := rfl
  staying := halfClaims.staying
  gate := .inl halfClaims.gatedOnce

/-- When no pass is left the claim is completed. -/
theorem Completing.completed (completing : cache.Completing key vmi taint pod node)
    (done : pod.passesLeft vmi.nodeName = 0) : cache.ClaimCompleted key vmi taint := by
  have ungated : pod.gateCount = 0 := by
    unfold Pod.passesLeft at done
    split at done
    next ungated => exact ungated
    next => split at done <;> contradiction
  rcases completing.gate with gatedOnce | ⟨-, selected, tainted⟩
  · rw [ungated] at gatedOnce
    contradiction
  · exact ⟨completing.serving, ⟨pod, completing.cached, by simp [Pod.isGated, ungated], selected⟩,
      node, completing.joined, tainted⟩

end Cache

namespace MergingServer

variable {server : MergingServer} {registry : Registry} {key : ObjectKey} {vmi : Vmi}
  {taint : String} {pod : Pod} {node : Node}

/-- A patch of a node as it is stored is merged into it. -/
theorem exists_answer_changeNode (server : MergingServer) {name : String} (patch : NodePatch)
    (joined : registry.objects.node? name = some node)
    (current : patch.resourceVersion = node.metadata.resourceVersion) :
    ∃ made, server.answer (.changeNode name patch) registry =
        (.ok (), registry.write (.changeNode name patch) { registry.objects with
          nodes := Cache.superseded Node.metadata made registry.objects.nodes }) ∧
      made.toJson.SameButVersion (merged node.toJson patch.toJson) := by
  refine ⟨_, ?_, server.node_merged registry.written.length node patch⟩
  rw [answer, joined, change_of_current current]
  rfl

/-- A patch of a pod as it is stored is merged into it. -/
theorem exists_answer_changePod (server : MergingServer) (patch : PodPatch)
    (cached : registry.objects.pod? key = some pod) (specified : pod.spec.isSome = true)
    (current : patch.resourceVersion = pod.metadata.resourceVersion) :
    ∃ made, server.answer (.changePod key.space key.name patch) registry =
        (.ok (), registry.write (.changePod key.space key.name patch) { registry.objects with
          pods := Cache.superseded Pod.metadata made registry.objects.pods }) ∧
      made.toJson.SameButVersion (merged pod.toJson patch.toJson) := by
  refine ⟨_, ?_, server.pod_merged registry.written.length pod patch specified⟩
  rw [answer, cached, change_of_current current]
  rfl

/-- Tainting the node goes on with the claim. -/
theorem completing_of_reserve (server : MergingServer)
    (completing : registry.objects.Completing key vmi taint pod node)
    (gatedOnce : pod.gateCount = 1) :
    ∃ made after, server.answer (.changeNode vmi.nodeName (.reserving node taint)) registry =
        (.ok (), after) ∧ after.objects.Completing key vmi taint pod made ∧
      made.hasTaint taint = true := by
  obtain ⟨made, answered, merges⟩ :=
    exists_answer_changeNode server (.reserving node taint) completing.joined rfl
  refine ⟨made, _, answered, ?_, Node.hasTaint_reserved merges⟩
  have joined : ({ registry.objects with
      nodes := Cache.superseded Node.metadata made registry.objects.nodes } : Cache).node?
        vmi.nodeName = some made := by
    change Cache.findExact Node.metadata _ _ (Cache.superseded ..) = _
    rw [Cache.findExact_superseded, ← Cache.node?, completing.joined, Option.map_some,
      Cache.supersede_of_sameObject (Node.sameObject_merged merges)]
  exact { completing with joined := joined, gate := .inl gatedOnce }

/-- A change of the pod goes on with the claim, as long as the gate stays on or all the
rest is done. -/
theorem completing_of_changePod (server : MergingServer) (patch : PodPatch)
    (completing : registry.objects.Completing key vmi taint pod node)
    (specified : pod.spec.isSome = true)
    (current : patch.resourceVersion = pod.metadata.resourceVersion)
    (gate : ∀ made : Pod, made.outline = patch.change.redraw pod.outline →
      made.gateCount = 1 ∨ made.gateCount = 0 ∧ made.selectedHost? = some vmi.nodeName ∧
        node.hasTaint taint = true) :
    ∃ made after, server.answer (.changePod key.space key.name patch) registry =
        (.ok (), after) ∧ after.objects.Completing key vmi taint made node ∧
      made.outline = patch.change.redraw pod.outline := by
  obtain ⟨made, answered, merges⟩ :=
    exists_answer_changePod server patch completing.cached specified current
  have outline := PodPatch.outline_merged merges
  have cached : ({ registry.objects with
      pods := Cache.superseded Pod.metadata made registry.objects.pods } : Cache).pod? key =
        some made := by
    change Cache.findIn Pod.metadata _ _ (Cache.superseded ..) = _
    rw [Cache.findIn_superseded, ← Cache.pod?, completing.cached, Option.map_some,
      Cache.supersede_of_sameObject (PodPatch.akin_merged merges).sameObject]
  have staying : made.isDeleting = false := by
    have deletion : made.outline.deletion = pod.outline.deletion := by
      rw [outline]
      cases patch.change <;> rfl
    rw [Pod.isDeleting_eq, deletion, ← Pod.isDeleting_eq, completing.staying]
  exact ⟨made, _, answered,
    { completing with cached := cached, staying := staying, gate := gate made outline }, outline⟩

/-- Selecting the node goes on with the claim, and one pass is left. -/
theorem completing_of_select (server : MergingServer)
    (completing : registry.objects.Completing key vmi taint pod node)
    (gatedOnce : pod.gateCount = 1) :
    ∃ made after, server.answer (.changePod key.space key.name
        ⟨pod.metadata.resourceVersion, .host vmi.nodeName⟩) registry = (.ok (), after) ∧
      after.objects.Completing key vmi taint made node ∧
      made.passesLeft vmi.nodeName = 1 := by
  have gatedStill (made : Pod)
      (outline : made.outline = (PodChange.host vmi.nodeName).redraw pod.outline) :
      made.gateCount = 1 := by
    have gates : made.gates = pod.gates := congrArg Pod.Outline.gates outline
    rw [Pod.gateCount, gates, ← Pod.gateCount, gatedOnce]
  obtain ⟨made, after, answered, completing, outline⟩ :=
    completing_of_changePod server ⟨pod.metadata.resourceVersion, .host vmi.nodeName⟩ completing
      (isSome_spec_of_gatedOnce gatedOnce) rfl fun made outline => .inl (gatedStill made outline)
  have selected : made.selectedHost? = some vmi.nodeName := by
    have selector : made.selector = pod.selector.insert hostLabel vmi.nodeName :=
      congrArg Pod.Outline.selector outline
    rw [Pod.selectedHost?_eq, selector, Entries.get?_insert_self]
  exact ⟨made, after, answered, completing,
    by simp [Pod.passesLeft, gatedStill made outline, selected]⟩

/-- Lifting the gate ends the completion of a claim. -/
theorem completing_of_lift (server : MergingServer)
    (completing : registry.objects.Completing key vmi taint pod node)
    (gatedOnce : pod.gateCount = 1) (selected : pod.selectedHost? = some vmi.nodeName)
    (tainted : node.hasTaint taint = true) :
    ∃ made after, server.answer (.changePod key.space key.name
        ⟨pod.metadata.resourceVersion, .gates (pod.gates.filter (· ≠ gateName))⟩) registry =
        (.ok (), after) ∧
      after.objects.Completing key vmi taint made node ∧
      made.passesLeft vmi.nodeName = 0 := by
  have ungated (made : Pod) (outline : made.outline =
      (PodChange.gates (pod.gates.filter (· ≠ gateName))).redraw pod.outline) :
      made.gateCount = 0 := by
    have gates : made.gates = pod.gates.filter (· ≠ gateName) :=
      congrArg Pod.Outline.gates outline
    simp [Pod.gateCount, gates, List.countP_filter]
  obtain ⟨made, after, answered, completing, outline⟩ :=
    completing_of_changePod server
      ⟨pod.metadata.resourceVersion, .gates (pod.gates.filter (· ≠ gateName))⟩ completing
      (isSome_spec_of_gatedOnce gatedOnce) rfl <| by
        intro made outline
        have selector : made.selector = pod.selector := congrArg Pod.Outline.selector outline
        refine .inr ⟨ungated made outline, ?_, tainted⟩
        rw [Pod.selectedHost?_eq, selector, ← Pod.selectedHost?_eq, selected]
  exact ⟨made, after, answered, completing, by simp [Pod.passesLeft, ungated made outline]⟩

end MergingServer

namespace Release

open Program MergingServer

variable {server : MergingServer} {registry : Registry} {site : Site} {key : ObjectKey}
  {vmi : Vmi} {taint : String} {pod : Pod} {node : Node} {past : List Happening} {left : Nat}

/-- The call acquires no machine, and the server grants it. -/
def Continues (server : MergingServer) (registry : Registry) (past : List Happening)
    (asked : Call) : Prop :=
  asked.acquires = false ∧ server.Grants (server.replay registry past) asked

/-- At most that many passes are left to complete the claim. -/
def IsLeft (server : MergingServer) (registry : Registry) (key : ObjectKey) (vmi : Vmi)
    (taint : String) (left : Nat) (past : List Happening) : Prop :=
  ∃ pod node, (server.replay registry past).objects.Completing key vmi taint pod node ∧
    pod.passesLeft vmi.nodeName ≤ left

/-- No pass is added to those that are left, and without a failure there is one less. -/
def Advances (server : MergingServer) (registry : Registry) (key : ObjectKey) (vmi : Vmi)
    (taint : String) (left : Nat) (past : List Happening) : Prop :=
  IsLeft server registry key vmi taint left past ∧
    (Unfailing past → IsLeft server registry key vmi taint (left - 1) past)

theorem IsLeft.mono {more : Nat} (isLeft : IsLeft server registry key vmi taint left past)
    (le : left ≤ more) : IsLeft server registry key vmi taint more past := by
  obtain ⟨pod, node, completing, few⟩ := isLeft
  exact ⟨pod, node, completing, Nat.le_trans few le⟩

@[simp]
theorem isLeft_append_told {told : Signal} :
    IsLeft server registry key vmi taint left (past ++ [.told told]) ↔
      IsLeft server registry key vmi taint left past := by
  simp [IsLeft]

theorem reserveNode_continues (joined : site.cache.node? vmi.nodeName = some node)
    (taint_eq : reservationKey key.name site.defaults.taintKey = taint)
    (completing : (server.replay registry past).objects.Completing key vmi taint pod node)
    (gatedOnce : pod.gateCount = 1) :
    (reserveNode site key vmi).Secures (Continues server registry)
      (fun later outcome => match outcome with
        | .ok _ => ∃ made,
          (server.replay registry later).objects.Completing key vmi taint pod made ∧
            made.hasTaint taint = true
        | .error _ => ¬Unfailing later ∧
          (server.replay registry later).objects.Completing key vmi taint pod node) past := by
  unfold reserveNode
  simp only [joined, taint_eq]
  cases tainted : node.hasTaint taint with
  | true =>
      rw [NodePatch.withTaint?_of_tainted tainted]
      exact ⟨node, completing, tainted⟩
  | false =>
      rw [NodePatch.withTaint?_of_untainted tainted]
      obtain ⟨made, after, answered, reserving, reserved⟩ :=
        completing_of_reserve server completing gatedOnce
      refine ⟨⟨rfl, (), by rw [answered]⟩, ?_⟩
      rintro (fault | _)
      · refine ⟨not_unfailing_append_error, ?_⟩
        rw [replay_append, settle_error]
        exact completing
      · refine ⟨made, ?_, reserved⟩
        rw [replay_append, settle_ok, answered]
        exact reserving

/-- The pod is not told again of a node that it selects already. -/
theorem selectNode_continues
    (completing : (server.replay registry past).objects.Completing key vmi taint pod node)
    (gatedOnce : pod.gateCount = 1) :
    (selectNode key pod vmi).Secures (Continues server registry)
      (fun later outcome => match outcome with
        | .ok true => pod.selectedHost? ≠ some vmi.nodeName ∧ ∃ made,
          (server.replay registry later).objects.Completing key vmi taint made node ∧
            made.passesLeft vmi.nodeName = 1
        | .ok false => pod.selectedHost? = some vmi.nodeName ∧
          (server.replay registry later).objects.Completing key vmi taint pod node
        | .error _ => ¬Unfailing later ∧
          (server.replay registry later).objects.Completing key vmi taint pod node) past := by
  unfold selectNode PodPatch.selectHost?
  by_cases selected : pod.selectedHost? = some vmi.nodeName
  · rw [if_pos selected]
    exact ⟨selected, completing⟩
  · rw [if_neg selected]
    obtain ⟨made, after, answered, selecting, one⟩ :=
      completing_of_select server completing gatedOnce
    refine secures_call_bind.mpr ⟨⟨rfl, (), by rw [answered]⟩, ?_⟩
    rintro (fault | _)
    · refine ⟨not_unfailing_append_error, ?_⟩
      rw [replay_append, settle_error]
      exact completing
    · refine ⟨selected, made, ?_, one⟩
      rw [replay_append, settle_ok, answered]
      exact selecting

theorem openGate_continues (joined : (site.cache.node? vmi.nodeName).isSome = true)
    (completing : (server.replay registry past).objects.Completing key vmi taint pod node)
    (gatedOnce : pod.gateCount = 1) (selected : pod.selectedHost? = some vmi.nodeName)
    (tainted : node.hasTaint taint = true) :
    (openGate site key pod vmi).Secures (Continues server registry)
      (fun later _ => Advances server registry key vmi taint 1 later) past := by
  have one : pod.passesLeft vmi.nodeName = 1 := by simp [Pod.passesLeft, gatedOnce, selected]
  have isGated : pod.isGated = true := by simp [Pod.isGated, gatedOnce]
  obtain ⟨made, after, answered, lifting, none⟩ :=
    completing_of_lift server completing gatedOnce selected tainted
  unfold openGate liftGate PodPatch.withoutGate?
  rw [if_neg (by simp [completing.running]),
    if_neg (by simpa [Option.isSome_iff_ne_none] using joined), if_pos isGated]
  refine secures_call_bind.mpr ⟨⟨rfl, (), by rw [answered]⟩, ?_⟩
  rintro (fault | _)
  · refine ⟨⟨pod, node, ?_, Nat.le_of_eq one⟩,
      fun unfailing => absurd unfailing not_unfailing_append_error⟩
    rw [replay_append, settle_error]
    exact completing
  · have lifted : IsLeft server registry key vmi taint 0
        (past ++ [.answered (.changePod key.space key.name
          ⟨pod.metadata.resourceVersion, .gates (pod.gates.filter (· ≠ gateName))⟩) (.ok ())]) := by
      refine ⟨made, node, ?_, Nat.le_of_eq none⟩
      rw [replay_append, settle_ok, answered]
      exact lifting
    exact ⟨isLeft_append_told.mpr (lifted.mono (Nat.zero_le 1)),
      fun _ => isLeft_append_told.mpr lifted⟩

/-- Pinning the pod leaves the node tainted unless it fails. -/
theorem pinToMachine_continues (cached : site.cache = registry.objects)
    (completing : registry.objects.Completing key vmi taint pod node)
    (gatedOnce : pod.gateCount = 1) :
    (pinToMachine site key pod vmi).Secures (Continues server registry)
      (fun later outcome => match outcome with
        | .ok true => pod.selectedHost? ≠ some vmi.nodeName ∧ ∃ made reserved,
          (server.replay registry later).objects.Completing key vmi taint made reserved ∧
            made.passesLeft vmi.nodeName = 1
        | .ok false => pod.selectedHost? = some vmi.nodeName ∧ ∃ reserved,
          (server.replay registry later).objects.Completing key vmi taint pod reserved ∧
            reserved.hasTaint taint = true
        | .error _ => ¬Unfailing later ∧ ∃ reserved,
          (server.replay registry later).objects.Completing key vmi taint pod reserved) [] := by
  have joined : site.cache.node? vmi.nodeName = some node := by rw [cached, completing.joined]
  have taint_eq : reservationKey key.name site.defaults.taintKey = taint := by
    rw [Site.defaults, cached, completing.taint_eq]
  have reserves : (reserveNode site key vmi).Secures (Continues server registry) _ [] :=
    reserveNode_continues joined taint_eq completing gatedOnce
  refine reserves.andThen ?_
  rintro later (fault | _) - reached
  · exact ⟨reached.1, node, reached.2⟩
  · obtain ⟨reserved, reserving, tainted⟩ := reached
    apply (selectNode_continues reserving gatedOnce).weaken
    rintro last (fault | _ | _) selects
    · exact ⟨selects.1, reserved, selects.2⟩
    · exact ⟨selects.1, reserved, selects.2, tainted⟩
    · obtain ⟨other, made, selecting, one⟩ := selects
      exact ⟨other, made, reserved, selecting, one⟩

theorem serve_continues (cached : site.cache = registry.objects)
    (completing : registry.objects.Completing key vmi taint pod node)
    (gatedOnce : pod.gateCount = 1) :
    (serve site key pod).Secures (Continues server registry)
      (fun later _ => Advances server registry key vmi taint (pod.passesLeft vmi.nodeName) later)
      [] := by
  unfold serve
  simp only [cached, completing.serving]
  rw [if_pos completing.pooled]
  apply (pinToMachine_continues cached completing gatedOnce).andThen
  rintro later (fault | _ | _) - reached
  · obtain ⟨failed, reserved, stays⟩ := reached
    exact ⟨⟨pod, reserved, stays, Nat.le_refl _⟩, fun unfailing => absurd unfailing failed⟩
  · obtain ⟨selected, reserved, stays, tainted⟩ := reached
    have one : pod.passesLeft vmi.nodeName = 1 := by simp [Pod.passesLeft, gatedOnce, selected]
    rw [one]
    apply openGate_continues _ stays gatedOnce selected tainted
    rw [cached, completing.joined, Option.isSome_some]
  · obtain ⟨other, made, reserved, selecting, one⟩ := reached
    have two : pod.passesLeft vmi.nodeName = 2 := by simp [Pod.passesLeft, gatedOnce, other]
    rw [two]
    have left : IsLeft server registry key vmi taint 1 later :=
      ⟨made, reserved, selecting, Nat.le_of_eq one⟩
    exact ⟨left.mono (by decide), fun _ => left⟩

theorem attempt_continues (cached : site.cache = registry.objects) {text : String}
    (named : ObjectKey.ofText text = .ok key)
    (completing : registry.objects.Completing key vmi taint pod node) :
    (attempt site text).Secures (Continues server registry)
      (fun later _ => Advances server registry key vmi taint (pod.passesLeft vmi.nodeName) later)
      [] := by
  unfold attempt attend
  simp only [named, cached, completing.cached]
  rw [if_neg (by simp [completing.staying])]
  split
  next ungated =>
    have none : pod.passesLeft vmi.nodeName = 0 := if_pos ungated
    have stays : IsLeft server registry key vmi taint 0 [] :=
      ⟨pod, node, completing, Nat.le_of_eq none⟩
    rw [none]
    exact ⟨stays, fun _ => stays⟩
  next gated =>
    have gatedOnce : pod.gateCount = 1 := completing.gate.resolve_right fun done => gated done.1
    rw [if_pos gatedOnce]
    exact serve_continues cached completing gatedOnce

/-- A pass goes on with the claim: it asks only for what the server grants, acquires no
machine, and without a failure leaves one pass less. -/
theorem pass_continues (server : MergingServer) (site : Site) {text : String}
    (named : ObjectKey.ofText text = .ok key)
    (completing : registry.objects.Completing key vmi taint pod node) :
    (pass { site with cache := registry.objects } text).Secures (Continues server registry)
      (fun later _ => Advances server registry key vmi taint (pod.passesLeft vmi.nodeName) later)
      [] := by
  have attempts : (attempt { site with cache := registry.objects } text).Secures
      (Continues server registry) _ [] := attempt_continues rfl named completing
  apply attempts.andThen
  rintro later (fault | disposition) - advances
  · refine secures_bind.mpr ?_
    refine ⟨isLeft_append_told.mpr advances.1, fun unfailing => isLeft_append_told.mpr ?_⟩
    exact advances.2 (unfailing.earlier (List.prefix_append _ _))
  · exact advances

/-- One pass acquires nothing and goes on with the claim. -/
theorem completing_of_pass {text : String} {after : Registry} {trace : List Happening}
    {disposition : Disposition} (named : ObjectKey.ofText text = .ok key)
    (completing : registry.objects.Completing key vmi taint pod node)
    (run : Runs (pass { site with cache := registry.objects } text) trace disposition)
    (allowed : server.Allows registry trace after) :
    (∀ asked answer, .answered asked answer ∈ trace → asked.acquires = false) ∧
      ∃ podAfter nodeAfter, after.objects.Completing key vmi taint podAfter nodeAfter ∧
        podAfter.passesLeft vmi.nodeName ≤ pod.passesLeft vmi.nodeName ∧
        (Unfailing trace →
          podAfter.passesLeft vmi.nodeName ≤ pod.passesLeft vmi.nodeName - 1) := by
  have continues := pass_continues server site named completing
  constructor
  · intro asked answer member
    obtain ⟨before, rest, split⟩ := List.append_of_mem member
    exact (continues.rule_of_runs run split).1
  · obtain ⟨⟨pod, node, stays, few⟩, fewer⟩ := continues.goal_of_runs run
    rw [List.nil_append, allowed.replay_eq] at stays
    by_cases unfailing : Unfailing trace
    · obtain ⟨pod, node, goes, fewer⟩ := fewer unfailing
      rw [List.nil_append, allowed.replay_eq] at goes
      exact ⟨pod, node, goes, Nat.le_trans fewer (Nat.sub_le _ _), fun _ => fewer⟩
    · exact ⟨pod, node, stays, few, fun never => absurd never unfailing⟩

/-- However many calls fail, the passes acquire nothing and the claim is to be completed
still. -/
theorem completing_of_trials {text : String} {before after : Registry}
    {passes : List (List Happening)} (named : ObjectKey.ofText text = .ok key)
    (completing : before.objects.Completing key vmi taint pod node)
    (trials : server.Trials site text before passes after) :
    (∀ trace ∈ passes, ∀ asked answer, .answered asked answer ∈ trace →
      asked.acquires = false) ∧
      ∃ podAfter nodeAfter, after.objects.Completing key vmi taint podAfter nodeAfter := by
  induction trials generalizing pod node with
  | none => exact ⟨by simp, pod, node, completing⟩
  | next run allowed _ ih =>
      obtain ⟨idle, podAfter, nodeAfter, goes, -⟩ :=
        completing_of_pass named completing run allowed
      obtain ⟨others, last⟩ := ih goes
      exact ⟨List.forall_mem_cons.mpr ⟨idle, others⟩, last⟩

/-- Each pass without a failure leaves one pass less. -/
theorem passesLeft_of_trials {text : String} {before after : Registry}
    {passes : List (List Happening)} (named : ObjectKey.ofText text = .ok key)
    (completing : before.objects.Completing key vmi taint pod node)
    (trials : server.Trials site text before passes after)
    (unfailing : ∀ trace ∈ passes, Unfailing trace) :
    ∃ podAfter nodeAfter, after.objects.Completing key vmi taint podAfter nodeAfter ∧
      podAfter.passesLeft vmi.nodeName ≤ pod.passesLeft vmi.nodeName - passes.length := by
  induction trials generalizing pod node with
  | none => exact ⟨pod, node, completing, Nat.le_refl _⟩
  | next run allowed _ ih =>
      obtain ⟨now, later⟩ := List.forall_mem_cons.mp unfailing
      obtain ⟨-, middlePod, middleNode, goes, -, less⟩ :=
        completing_of_pass named completing run allowed
      obtain ⟨podAfter, nodeAfter, last, few⟩ := ih goes later
      refine ⟨podAfter, nodeAfter, last, ?_⟩
      have := less now
      rw [List.length_cons]
      omega

/-- A claim that was cut short is completed. Whatever calls fail in however many passes, no
pass acquires a machine, there is a pass without a failure at any time, and after two of
those in a row the node is tainted, the pod selects it and the gate is off. -/
theorem half_claim_completed (server : MergingServer) (site : Site) {text : String}
    {start later : Registry} {passes : List (List Happening)}
    (named : ObjectKey.ofText text = .ok key)
    (halfClaims : start.objects.HalfClaims key pod vmi)
    (trials : server.Trials site text start passes later) :
    (∀ trace ∈ passes, ∀ asked answer, .answered asked answer ∈ trace →
      asked.acquires = false) ∧
      (∀ troubled steady, passes = troubled ++ steady →
        (∀ trace ∈ steady, Unfailing trace) → 2 ≤ steady.length →
        later.objects.ClaimCompleted key vmi (reservationKey key.name
          (MachineDefaults.ofConfig start.objects.activeConfig?).taintKey)) ∧
      ∃ trace disposition after,
        Runs (pass { site with cache := later.objects } text) trace disposition ∧
          server.Allows later trace after ∧ Unfailing trace := by
  obtain ⟨node, joined⟩ := Option.isSome_iff_exists.mp halfClaims.joined
  have completing := halfClaims.completing joined
  obtain ⟨idle, lastPod, lastNode, last⟩ := completing_of_trials named completing trials
  refine ⟨idle, ?_, ?_⟩
  · rintro troubled steady rfl unfailing enough
    obtain ⟨middle, earlier, passing⟩ := trials.split
    obtain ⟨-, middlePod, middleNode, between⟩ := completing_of_trials named completing earlier
    obtain ⟨podAfter, nodeAfter, done, few⟩ :=
      passesLeft_of_trials named between passing unfailing
    apply done.completed
    have := middlePod.passesLeft_le vmi.nodeName
    omega
  · exact exists_unfailing (pass_continues server site named last) fun _ _ continues => continues.2

/-- A gated pod whose claim of a machine was cut short behind the label. -/
def halfClaimedCache : Cache where
  pods :=
    [{ metadata := { name := some "p", space := some "a" }
       spec := some { gates := some ["quota", gateName] } }]
  vmis :=
    [{ metadata :=
        { name := some "m", space := some "pool"
          labels := some [(claimantLabel, "a/p"), (poolStateLabel, PoolState.claimed.label)] }
       spec := {}
       status := some { phase := some .running } }]
  nodes := [{ metadata := { name := some "m" } }]

/-- One pass fails to reserve the node, the next reserves it and makes the pod select it,
and there is one after that which completes the claim. -/
theorem cut_claim_completed :
    let reserve : Call :=
      .changeNode "m" ⟨none, [NodePatch.claimedTaint "p.maroonedpods.io"]⟩
    let select : Call := .changePod "a" "p" ⟨none, .host "m"⟩
    ∃ pod vmi line last later, ObjectKey.ofText "a/p" = .ok ⟨"a", "p"⟩ ∧
      halfClaimedCache.HalfClaims ⟨"a", "p"⟩ pod vmi ∧
      plainServer.Trials {} "a/p" ⟨halfClaimedCache, []⟩
        [[.answered reserve (.error (.unanswered "timeout")), .told line],
          [.answered reserve (.ok ()), .answered select (.ok ())], last] later ∧
      later.objects.ClaimCompleted ⟨"a", "p"⟩ vmi "p.maroonedpods.io" := by
  intro reserve select
  obtain ⟨pod, vmi, halfClaims⟩ : ∃ pod vmi, halfClaimedCache.HalfClaims ⟨"a", "p"⟩ pod vmi := by
    have unowned : halfClaimedCache.vmi? ⟨"a", "p"⟩ = none := rfl
    exact ⟨_, _, rfl, rfl, rfl, by simp [unowned], List.mem_singleton_self _, rfl, rfl,
      by simp [halfClaimedCache], rfl, rfl⟩
  obtain ⟨line, failing⟩ : ∃ line, Runs (pass { cache := halfClaimedCache } "a/p")
      [.answered reserve (.error (.unanswered "timeout")), .told line] .backOff :=
    ⟨_, .request (.signal .done)⟩
  have pinning : Runs (pass { cache := halfClaimedCache } "a/p")
      [.answered reserve (.ok ()), .answered select (.ok ())] .immediate :=
    .request (.request .done)
  have trials {passes : List (List Happening)} {later : Registry}
      (rest : plainServer.Trials {} "a/p"
        (plainServer.answer select (plainServer.answer reserve ⟨halfClaimedCache, []⟩).2).2
        passes later) :
      plainServer.Trials {} "a/p" ⟨halfClaimedCache, []⟩
        ([.answered reserve (.error (.unanswered "timeout")), .told line] ::
          [.answered reserve (.ok ()), .answered select (.ok ())] :: passes) later :=
    .next failing (.failed (.told .nothing)) (.next pinning (.granted (.granted .nothing)) rest)
  obtain ⟨last, disposition, later, lifting, allowed, unfailing⟩ :=
    (half_claim_completed plainServer {} rfl halfClaims (trials .none)).2.2
  have unfailingPinning : Unfailing [.answered reserve (.ok ()), .answered select (.ok ())] := by
    intro asked fault failed
    simp only [List.mem_cons, List.not_mem_nil, or_false] at failed
    rcases failed with same | same <;> cases same
  have all := trials (.next lifting allowed .none)
  refine ⟨pod, vmi, line, last, later, rfl, halfClaims, all, ?_⟩
  refine (half_claim_completed plainServer {} rfl halfClaims all).2.1 [_]
    [[.answered reserve (.ok ()), .answered select (.ok ())], last] rfl ?_ (Nat.le_refl _)
  rw [List.forall_mem_cons, List.forall_mem_singleton]
  exact ⟨unfailingPinning, unfailing⟩

end Release

end NodeGate
