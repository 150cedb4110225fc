import NodeGate.Machine.Manifest
import NodeGate.Proofs.Admission.NewPods
import NodeGate.Proofs.Text.Base64
import NodeGate.Resource.Tolerance

/-!
# Whether an admitted pod tolerates its node

The node of a pod gets a taint under one key in one of two ways. The machine that was made
for the pod registers it when it joins, and the controller sets it on the node of a machine
that the pod claimed. Admission adds a toleration that fits both, but only to a pod without
any toleration under that key; a pod that names the key itself is taken at its word.
-/

namespace NodeGate

open Json Admission Manifest

namespace Toleration

variable {taintKey : String} {taint : Taint}

/-- The toleration that admission adds is of all taints with that key that keep pods from
being scheduled. -/
theorem tolerates_tolerationOf (proper : taintKey ≠ "") :
    (tolerationOf taintKey).tolerates taint = true ↔
      taint.key = taintKey ∧ taint.effect = noSchedule := by
  have existence : (tolerationOf taintKey).isOfExistence = true := rfl
  have key : (tolerationOf taintKey).matchesKey taint = true ↔ taint.key = taintKey := by
    simp [matchesKey, tolerationOf, proper, @eq_comm String taintKey]
  have effect : (tolerationOf taintKey).matchesEffect taint = true ↔
      taint.effect = noSchedule := by
    simp [matchesEffect, tolerationOf, noSchedule, @eq_comm String "NoSchedule"]
  rw [tolerates, matchesValue, existence, Bool.true_or, Bool.and_true, Bool.and_eq_true, key,
    effect]

end Toleration

/-- The key of the taint of a node is never empty. -/
theorem reservationKey_ne_empty (name taintKey : String) : reservationKey name taintKey ≠ "" := by
  simp [reservationKey]

namespace Pod

variable {pod : Pod} {name taintKey : String} {taint : Taint}

theorem tolerates_eq_any : pod.tolerates taint = pod.tolerations.any (·.tolerates taint) :=
  rfl

theorem tolerations_guarded_held (pod : Pod) :
    pod.guarded.held.tolerations = pod.tolerations := by
  rw [tolerations, tolerations_held, spec_guarded, tolerations]

/-- A pod that waits for its node has the tolerations that it came with, and one more if
none of them is about the taint of that node. -/
theorem tolerations_awaitingNode (specified : pod.spec.isSome = true) :
    (pod.awaitingNode name taintKey).tolerations =
      if pod.mentions (reservationKey name taintKey) then pod.tolerations
      else pod.tolerations ++ [tolerationOf (reservationKey name taintKey)] := by
  have heldSpec : pod.guarded.held.spec.isSome = true := by
    rw [isSome_spec_held, spec_guarded, specified]
  obtain ⟨spec, isSpec⟩ := Option.isSome_iff_exists.mp heldSpec
  have mentioned : pod.guarded.held.mentions (reservationKey name taintKey) =
      pod.mentions (reservationKey name taintKey) := by
    rw [mentions, tolerations_guarded_held, mentions]
  rw [awaitingNode, tolerations, tolerations_selecting, ← tolerations, tolerating, mentioned]
  split
  · exact tolerations_guarded_held pod
  · rw [← tolerations_guarded_held pod]
    simp [tolerations, isSpec]

/-- A taint under the key of the node of a pod is tolerated by the pod that waits for that
node exactly if the pod did not speak of the key, or tolerated the taint by itself. -/
theorem tolerates_awaitingNode (specified : pod.spec.isSome = true)
    (keyed : taint.key = reservationKey name taintKey) (effect : taint.effect = noSchedule) :
    (pod.awaitingNode name taintKey).tolerates taint = true ↔
      pod.mentions (reservationKey name taintKey) = false ∨ pod.tolerates taint = true := by
  rw [tolerates_eq_any, tolerations_awaitingNode specified]
  by_cases mentioned : pod.mentions (reservationKey name taintKey) = true
  · rw [if_pos mentioned, ← tolerates_eq_any]
    simp [mentioned]
  · have added : (tolerationOf (reservationKey name taintKey)).tolerates taint = true :=
      (Toleration.tolerates_tolerationOf (reservationKey_ne_empty name taintKey)).mpr
        ⟨keyed, effect⟩
    rw [if_neg mentioned]
    simp [added, Bool.eq_false_iff.mpr mentioned]

end Pod

namespace Manifest

variable {space podName : String} {size : MachineSize} {defaults : MachineDefaults}
  {join : JoinSettings}

/-- The script of a machine is what its user data says. -/
theorem userData?_dedicated : userData? (dedicated space podName size defaults join) =
    some (bootScript join (some (reservationKey podName defaults.taintKey))) := by
  simp only [userData?, dedicated, specification, List.getElem?_cons_succ,
    List.getElem?_cons_zero, Option.bind_eq_bind, Option.bind_some, Option.join_some,
    Text.Base64.decodeText?_encodeText]

/-- The script has the node register the taint that it is made with. -/
theorem registration_infix (join : JoinSettings) (taint : Option String) :
    (registration (taint.map bootTaint)).toList <:+: (bootScript join taint).toList := by
  unfold bootScript
  generalize registration _ = part
  simp only [String.toList_append]
  -- Nine parts stand behind the registration, and two before it.
  iterate 9 refine List.IsInfix.trans ?_ (List.prefix_append _ _).isInfix
  exact (List.suffix_append _ _).isInfix

end Manifest

namespace Admission

/-- With one taint key for admission and for machines, both taints that the node of a pod can
get for its sake are under one key: the machine made for the pod registers one of them, and a
claim adds the other. The admitted pod tolerates both exactly if the pod came without any
toleration under that key, or with tolerations of both. -/
theorem admitted_pod_tolerates_node_iff (policy : Policy) (defaults : MachineDefaults)
    {json : Json} {pod : Pod} {name key : String} (shared : policy.taintKey = defaults.taintKey)
    (settled : json.IsSettled) (decoded : Pod.decode json = some pod)
    (isolated : pod.isIsolated = true) (named : pod.metadata.name = some name)
    (proper : name.isEmpty = false) (specified : pod.spec.isSome = true)
    (isKey : key = reservationKey name defaults.taintKey) :
    ∃ operations patched admitted, newPodOperations policy pod = .ok (some operations) ∧
      AddOperation.performAll? operations json = some patched ∧
      Pod.decode patched = some admitted ∧
      (∀ space size join, ∃ script, userData? (dedicated space name size defaults join) =
        some script ∧ (registration (some (bootTaint key))).toList <:+: script.toList) ∧
      (∀ node patch, NodePatch.withTaint? node key = some patch →
        patch.taints = node.taintList ++ [NodePatch.claimedTaint key]) ∧
      (admitted.tolerates (bootTaint key) = true ∧
          admitted.tolerates (NodePatch.claimedTaint key) = true ↔
        pod.mentions key = false ∨ pod.tolerates (bootTaint key) = true ∧
          pod.tolerates (NodePatch.claimedTaint key) = true) := by
  subst isKey
  obtain ⟨document, rfl⟩ := PodDocument.exists_of_decode settled decoded
    (by rw [named, Option.isSome_some]) specified
  obtain ⟨operations, after, found, amends⟩ :=
    PodDocument.exists_amends_new policy decoded isolated named proper
  refine ⟨operations, after.json, _, found, amends.performed, amends.decoded, ?_, ?_, ?_⟩
  · intro space size join
    exact ⟨_, userData?_dedicated, registration_infix join (some _)⟩
  · intro node patch adds
    rw [NodePatch.withTaint?] at adds
    split at adds
    · contradiction
    · cases adds
      rfl
  · rw [← shared, Pod.tolerates_awaitingNode specified rfl rfl,
      Pod.tolerates_awaitingNode specified rfl rfl, or_and_left]

theorem plainPod_tolerates_node : plainPod.IsSettled ∧
    ∃ pod operations patched admitted, Pod.decode plainPod = some pod ∧
      pod.isIsolated = true ∧ pod.metadata.name = some "p1" ∧ "p1".isEmpty = false ∧
      pod.spec.isSome = true ∧ newPodOperations {} pod = .ok (some operations) ∧
      AddOperation.performAll? operations plainPod = some patched ∧
      Pod.decode patched = some admitted ∧
      admitted.tolerates (bootTaint "p1.maroonedpods.io") = true ∧
      admitted.tolerates (NodePatch.claimedTaint "p1.maroonedpods.io") = true := by
  have settled : plainPod.IsSettled := ⟨plainPod, rfl⟩
  obtain ⟨pod, decoded, isolated, named, specified, unmentioned⟩ :
      ∃ pod, Pod.decode plainPod = some pod ∧ pod.isIsolated = true ∧
        pod.metadata.name = some "p1" ∧ pod.spec.isSome = true ∧
        pod.mentions "p1.maroonedpods.io" = false :=
    ⟨_, rfl, by decide, rfl, rfl, by decide⟩
  obtain ⟨operations, patched, admitted, found, performed, decodedAgain, -, -, tolerates⟩ :=
    admitted_pod_tolerates_node_iff {} {} rfl settled decoded isolated named (by decide)
      specified (rfl : "p1.maroonedpods.io" = reservationKey "p1" standardTaintKey)
  obtain ⟨boot, claimed⟩ := tolerates.mpr (.inl unmentioned)
  exact ⟨settled, pod, operations, patched, admitted, decoded, isolated, named, by decide,
    specified, found, performed, decodedAgain, boot, claimed⟩

/-- A pod that tolerates the taint of its node under one value, which no taint of the node
has. -/
def valuedPod : Json :=
  .obj [("apiVersion", .str "v1"), ("kind", .str "Pod"),
    ("metadata", .obj [("labels", .obj [(isolationLabel, .str "true")]), ("name", .str "p1")]),
    ("spec", .obj [("tolerations", .arr [.obj [("effect", .str noSchedule),
      ("key", .str "p1.maroonedpods.io"), ("operator", .str "Equal"),
      ("value", .str "reserved")]])])]

/-- Not every admitted pod tolerates its node: the toleration that one pod came with is under
the key of the taint, so that none is added, and fits neither of the two taints. -/
theorem valuedPod_shuns_node : ¬ ∀ (policy : Policy) (json patched : Json) (pod admitted : Pod)
    (name : String) (operations : List AddOperation), json.IsSettled →
    Pod.decode json = some pod → pod.isIsolated = true → pod.metadata.name = some name →
    name.isEmpty = false → pod.spec.isSome = true →
    newPodOperations policy pod = .ok (some operations) →
    AddOperation.performAll? operations json = some patched →
    Pod.decode patched = some admitted →
    admitted.tolerates (bootTaint (reservationKey name policy.taintKey)) = true ∧
      admitted.tolerates (NodePatch.claimedTaint (reservationKey name policy.taintKey)) =
        true := by
  intro always
  obtain ⟨boot, -⟩ := always {} valuedPod _ _ _ "p1" _ ⟨valuedPod, rfl⟩ rfl (by decide) rfl
    (by decide) rfl rfl rfl rfl
  revert boot
  decide

end Admission

end NodeGate
