import NodeGate.Proofs.Cluster.Conduct
import NodeGate.Proofs.Cluster.Snapshot
import NodeGate.Release.Pass

/-!
# The calls of a pass

What a pass over a pod asks of the cluster, part by part. To *provide* for a pod
is to find it a machine and to reserve the node for it; to *part* from a pod is
to release its machine and to let it go. The only other call takes our gate off.
-/

namespace NodeGate.Release

open Program

/-- What is asked to provide for a pod. The machine whose node is reserved is one
that the pod holds or is just about to claim. -/
inductive Provision (site : Site) (key : ObjectKey) (pod : Pod) : Call → Prop where
  | read : Provision site key pod (.readMachine key.space key.name)
  | claim {vmi : Vmi} {held : ObjectKey} (candidate : site.cache.candidate? = some vmi)
      (keyed : vmi.key = .ok held) :
      Provision site key pod (.changeMachine held.space held.name
        (.claim vmi.metadata.resourceVersion key.text))
  | reserve {vmi : Vmi} {node : Node} {patch : NodePatch}
      (obtained : site.cache.heldBy? key.text = some vmi ∨ site.cache.candidate? = some vmi)
      (joined : site.cache.node? vmi.nodeName = some node)
      (tainted : NodePatch.withTaint? node (reservationKey key.name site.defaults.taintKey) =
        some patch) :
      Provision site key pod (.changeNode vmi.nodeName patch)
  | select {vmi : Vmi} {patch : PodPatch}
      (obtained : site.cache.heldBy? key.text = some vmi ∨ site.cache.candidate? = some vmi)
      (selected : PodPatch.selectHost? pod vmi.nodeName = some patch) :
      Provision site key pod (.changePod key.space key.name patch)
  | create {size : MachineSize} (sized : MachineSize.ofPod site.defaults pod = .ok size) :
      Provision site key pod (.createMachine
        (Manifest.dedicated key.space key.name size site.defaults site.join))

/-- What is asked to part from a pod. -/
inductive Parting (site : Site) (key : ObjectKey) (pod : Pod) : Call → Prop where
  | free {vmi : Vmi} {held : ObjectKey} {node : Node} {claimant : String} {patch : NodePatch}
      (holds : site.cache.heldBy? key.text = some vmi) (keyed : vmi.key = .ok held)
      (claimed : vmi.claimant? = some claimant)
      (joined : site.cache.node? held.name = some node)
      (untainted : NodePatch.withoutTaint? node
        (reservationKey (afterLastSlash claimant) site.defaults.taintKey) = some patch) :
      Parting site key pod (.changeNode held.name patch)
  | giveBack {vmi : Vmi} {held : ObjectKey} (holds : site.cache.heldBy? key.text = some vmi)
      (keyed : vmi.key = .ok held) :
      Parting site key pod (.changeMachine held.space held.name
        (.giveBack vmi.metadata.resourceVersion))
  | read : Parting site key pod (.readMachine key.space key.name)
  | delete : Parting site key pod (.deleteMachine key.space key.name none)
  | dismiss {patch : PodPatch} (dropped : PodPatch.withoutFinalizer? pod = some patch) :
      Parting site key pod (.changePod key.space key.name patch)

/-- The call that takes our gate off a pod. -/
inductive Opening (key : ObjectKey) (pod : Pod) : Call → Prop where
  | lift {patch : PodPatch} (lifted : PodPatch.withoutGate? pod = some patch) :
      Opening key pod (.changePod key.space key.name patch)

/-- Whatever a pass over a pod asks. -/
def PassCall (site : Site) (key : ObjectKey) (pod : Pod) (asked : Call) : Prop :=
  Provision site key pod asked ∨ Parting site key pod asked ∨ Opening key pod asked

/-- Every call of a program obeys a rule that does not look at what happened. -/
abbrev Asks {α : Type} (program : Program α) (rule : Call → Prop)
    (past : List Happening) : Prop :=
  program.Secures (fun _ => rule) (fun _ _ => True) past

/-- Every call that happens in a run obeys the rule. -/
theorem Asks.rule_of_mem {α : Type} {program : Program α} {rule : Call → Prop}
    {trace : List Happening} {value : α} {asked : Call} {answer : Except Fault asked.Answer}
    (asks : Asks program rule []) (run : Runs program trace value)
    (member : .answered asked answer ∈ trace) : rule asked := by
  obtain ⟨before, after, split⟩ := List.append_of_mem member
  exact asks.rule_of_runs run split

variable {site : Site} {key : ObjectKey} {pod : Pod} {vmi : Vmi} {past : List Happening}

/-- Reserving a node writes to that node. -/
theorem reserveNode_obeys {rule : Call → Prop}
    (reserves : ∀ patch, rule (.changeNode vmi.nodeName patch)) :
    Asks (reserveNode site key vmi) rule past := by
  unfold reserveNode
  split
  · trivial
  · split
    · trivial
    · exact ⟨reserves _, fun _ => trivial⟩

/-- Selecting a node writes to the pod. -/
theorem selectNode_obeys {rule : Call → Prop}
    (selects : ∀ patch, rule (.changePod key.space key.name patch)) :
    Asks (selectNode key pod vmi) rule past := by
  unfold selectNode
  split
  · trivial
  · apply secures_call_bind.mpr
    constructor
    · exact selects _
    · rintro (fault | _) <;> trivial

theorem pinToMachine_obeys {rule : Call → Prop}
    (reserves : ∀ patch, rule (.changeNode vmi.nodeName patch))
    (selects : ∀ patch, rule (.changePod key.space key.name patch)) :
    Asks (pinToMachine site key pod vmi) rule past := by
  apply (reserveNode_obeys reserves).andThen
  rintro later (fault | _) - -
  · trivial
  · exact selectNode_obeys selects

theorem claim_asks (candidate : site.cache.candidate? = some vmi) :
    Asks (claim vmi key) (Provision site key pod) past := by
  unfold claim
  cases keyed : vmi.key with
  | error fault => trivial
  | ok held =>
      apply secures_call_bind.mpr
      constructor
      · exact .claim candidate keyed
      · rintro (fault | machine) <;> trivial

/-- The node of a machine carries the taint that reserves it for the pod, in the
cache or by a write of the pass. -/
def IsReserved (site : Site) (key : ObjectKey) (vmi : Vmi) (past : List Happening) : Prop :=
  ∃ node, site.cache.node? vmi.nodeName = some node ∧
    (node.hasTaint (reservationKey key.name site.defaults.taintKey) = true ∨
      ∃ patch, NodePatch.withTaint? node (reservationKey key.name site.defaults.taintKey) =
          some patch ∧
        .answered (.changeNode vmi.nodeName patch) (.ok ()) ∈ past)

theorem IsReserved.later {later : List Happening}
    (reserved : IsReserved site key vmi past) (continued : past <+: later) :
    IsReserved site key vmi later := by
  obtain ⟨node, joined, tainted | ⟨patch, tainted, written⟩⟩ := reserved
  · exact ⟨node, joined, .inl tainted⟩
  · exact ⟨node, joined, .inr ⟨patch, tainted, continued.subset written⟩⟩

/-- Reserving the node of a machine succeeds with the node reserved, if it is
there, and fails only with a call. -/
theorem reserveNode_secures
    (obtained : site.cache.heldBy? key.text = some vmi ∨ site.cache.candidate? = some vmi) :
    (reserveNode site key vmi).Secures (fun _ => Provision site key pod)
      (fun later outcome =>
        (outcome = .ok () → (site.cache.node? vmi.nodeName).isSome = true →
          IsReserved site key vmi later) ∧
        (Unfailing later → outcome = .ok ())) past := by
  unfold reserveNode
  cases joined : site.cache.node? vmi.nodeName with
  | none => simp
  | some node =>
      dsimp only
      cases tainted : NodePatch.withTaint? node
          (reservationKey key.name site.defaults.taintKey) with
      | none =>
          have carried : node.hasTaint (reservationKey key.name site.defaults.taintKey) = true := by
            simpa [NodePatch.withTaint?] using tainted
          exact ⟨fun _ _ => ⟨node, joined, .inl carried⟩, fun _ => rfl⟩
      | some patch =>
          refine ⟨.reserve obtained joined tainted, ?_⟩
          rintro (fault | _)
          · exact ⟨nofun, fun unfailing => absurd unfailing not_unfailing_append_error⟩
          · exact ⟨fun _ _ => ⟨node, joined, .inr ⟨patch, tainted, by simp⟩⟩, fun _ => rfl⟩

/-- No write is needed exactly when the pod selects the node already. -/
theorem selectNode_secures
    (obtained : site.cache.heldBy? key.text = some vmi ∨ site.cache.candidate? = some vmi) :
    (selectNode key pod vmi).Secures (fun _ => Provision site key pod)
      (fun _ outcome => outcome = .ok false ↔ pod.selectedHost? = some vmi.nodeName) past := by
  unfold selectNode
  cases selected : PodPatch.selectHost? pod vmi.nodeName with
  | none =>
      have already : pod.selectedHost? = some vmi.nodeName := by
        simpa [PodPatch.selectHost?] using selected
      exact ⟨fun _ => already, fun _ => rfl⟩
  | some patch =>
      have other : pod.selectedHost? ≠ some vmi.nodeName := by
        intro already
        simp [PodPatch.selectHost?, already] at selected
      apply secures_call_bind.mpr
      constructor
      · exact .select obtained selected
      · rintro (fault | _) <;> exact ⟨nofun, fun already => absurd already other⟩

/-- Pinning a pod to its machine takes no write to the pod exactly when the pod
selects the node already; then the node is reserved, if it is there. -/
theorem pinToMachine_secures
    (obtained : site.cache.heldBy? key.text = some vmi ∨ site.cache.candidate? = some vmi) :
    (pinToMachine site key pod vmi).Secures (fun _ => Provision site key pod)
      (fun later outcome =>
        (outcome = .ok false → pod.selectedHost? = some vmi.nodeName ∧
          ((site.cache.node? vmi.nodeName).isSome = true → IsReserved site key vmi later)) ∧
        (Unfailing later → pod.selectedHost? = some vmi.nodeName → outcome = .ok false))
      past := by
  apply (reserveNode_secures obtained).andThen
  rintro later (fault | _) - ⟨reserved, succeeds⟩
  · exact ⟨nofun, fun unfailing => absurd (succeeds unfailing) nofun⟩
  · apply (selectNode_secures obtained).remember.weaken
    rintro last outcome ⟨continued, selects⟩
    constructor
    · intro unwritten
      exact ⟨selects.mp unwritten, fun joined => (reserved rfl joined).later continued⟩
    · exact fun _ selected => selects.mpr selected

theorem pinToMachine_asks
    (obtained : site.cache.heldBy? key.text = some vmi ∨ site.cache.candidate? = some vmi) :
    Asks (pinToMachine site key pod vmi) (Provision site key pod) past :=
  (pinToMachine_secures obtained).weaken fun _ _ _ => trivial

theorem createDedicated_asks :
    Asks (createDedicated site key pod) (Provision site key pod) past := by
  unfold createDedicated
  cases sized : MachineSize.ofPod site.defaults pod with
  | error fault => trivial
  | ok size =>
      apply secures_call_bind.mpr
      constructor
      · exact .create sized
      · rintro (fault | _)
        · dsimp only
          split <;> trivial
        · trivial

/-- The gate is lifted only while the machine runs and its node is there, and then
the pass is over unless the call fails. -/
theorem openGate_secures {rule : List Happening → Call → Prop}
    (lifting : vmi.isRunning = true → (site.cache.node? vmi.nodeName).isSome = true →
      ∀ patch, PodPatch.withoutGate? pod = some patch →
        rule past (.changePod key.space key.name patch)) :
    (openGate site key pod vmi).Secures rule
      (fun later outcome => vmi.isRunning = true →
        (site.cache.node? vmi.nodeName).isSome = true → pod.isGated = true → Unfailing later →
        outcome = .ok .forget ∧ ∃ patch, PodPatch.withoutGate? pod = some patch ∧
          .answered (.changePod key.space key.name patch) (.ok ()) ∈ later) past := by
  unfold openGate
  split
  next idle => simp [idle]
  next running =>
    split
    next missing =>
      simp only [Option.isNone_iff_eq_none] at missing
      simp [missing]
    next joined =>
      replace running : vmi.isRunning = true := by simpa using running
      replace joined : (site.cache.node? vmi.nodeName).isSome = true := by
        simpa [Option.isSome_iff_ne_none] using joined
      unfold liftGate
      cases lifted : PodPatch.withoutGate? pod with
      | none =>
          have open_already : pod.isGated = false := by
            simpa [PodPatch.withoutGate?] using lifted
          simp [open_already]
      | some patch =>
          apply secures_call_bind.mpr
          constructor
          · exact lifting running joined patch lifted
          · rintro (fault | _)
            · exact fun _ _ _ unfailing => absurd unfailing not_unfailing_append_error
            · exact fun _ _ _ _ => ⟨rfl, patch, rfl, by simp⟩

theorem openGate_asks : Asks (openGate site key pod vmi) (Opening key pod) past :=
  (openGate_secures fun _ _ _ lifted => .lift lifted).weaken fun _ _ _ => trivial

theorem freeNode_asks {name : String} {rule : Call → Prop}
    (frees : ∀ claimant node patch, vmi.claimant? = some claimant →
      site.cache.node? name = some node →
      NodePatch.withoutTaint? node
        (reservationKey (afterLastSlash claimant) site.defaults.taintKey) = some patch →
      rule (.changeNode name patch)) :
    Asks (freeNode site name vmi) rule past := by
  unfold freeNode
  cases claimed : vmi.claimant? with
  | none => trivial
  | some claimant =>
      cases joined : site.cache.node? name with
      | none => trivial
      | some node =>
          dsimp only
          cases untainted : NodePatch.withoutTaint? node
              (reservationKey (afterLastSlash claimant) site.defaults.taintKey) with
          | none => trivial
          | some patch =>
              apply secures_call_bind.mpr
              constructor
              · exact frees claimant node patch claimed joined untainted
              · rintro (fault | _) <;> trivial

/-- Giving a machine back frees its node and then relabels it at the version that
is known of it. -/
theorem giveBack_asks {rule : Call → Prop}
    (frees : ∀ held claimant node patch, vmi.key = .ok held → vmi.claimant? = some claimant →
      site.cache.node? held.name = some node →
      NodePatch.withoutTaint? node
        (reservationKey (afterLastSlash claimant) site.defaults.taintKey) = some patch →
      rule (.changeNode held.name patch))
    (relabels : ∀ held, vmi.key = .ok held →
      rule (.changeMachine held.space held.name (.giveBack vmi.metadata.resourceVersion))) :
    Asks (giveBack site vmi) rule past := by
  unfold giveBack
  cases keyed : vmi.key with
  | error fault => trivial
  | ok held =>
      refine (freeNode_asks fun claimant node patch => frees held claimant node patch keyed).andThen
        ?_
      rintro later (fault | _) - -
      · trivial
      · apply secures_call_bind.mpr
        constructor
        · exact relabels held keyed
        · rintro (fault | machine) <;> trivial

theorem giveBackClaimed_obeys {rule : Call → Prop}
    (gives : ∀ vmi, site.cache.heldBy? key.text = some vmi → Asks (giveBack site vmi) rule past) :
    Asks (giveBackClaimed site key pod) rule past := by
  unfold giveBackClaimed
  cases holds : site.cache.heldBy? key.text with
  | none => trivial
  | some vmi =>
      apply (gives vmi holds).andThen
      rintro later (fault | _) - - <;> trivial

theorem deleteDedicated_obeys {rule : List Happening → Call → Prop}
    (deletes : rule past (.deleteMachine key.space key.name none)) :
    (deleteDedicated key pod).Secures rule (fun _ _ => True) past := by
  apply secures_call_bind.mpr
  constructor
  · exact deletes
  · rintro (fault | _) <;> trivial

/-- A release gives back the machine that the pod holds and deletes the one named after it,
unless the cache shows that one as a machine of the pool. -/
theorem releaseMachine_obeys {rule : Call → Prop}
    (gives : ∀ vmi, site.cache.heldBy? key.text = some vmi → Asks (giveBack site vmi) rule past)
    (reads : rule (.readMachine key.space key.name))
    (deletes : (∀ vmi, site.cache.vmi? key = some vmi → vmi.isPooled = false) →
      rule (.deleteMachine key.space key.name none)) :
    Asks (releaseMachine site key pod) rule past := by
  apply (giveBackClaimed_obeys gives).andThen
  rintro later (fault | returned) - -
  · trivial
  · cases cached : site.cache.vmi? key with
    | some vmi =>
        dsimp only
        split
        · trivial
        next outside =>
          have outside : vmi.isPooled = false := by simpa using outside
          exact deleteDedicated_obeys (deletes (by simpa [cached] using outside))
    | none =>
        have deletes := deletes (by simp [cached])
        dsimp only
        split
        · apply secures_call_bind.mpr
          constructor
          · exact reads
          · rintro (fault | _ | found)
            · trivial
            · trivial
            · dsimp only
              split
              · trivial
              · exact deleteDedicated_obeys deletes
        · exact deleteDedicated_obeys deletes

/-- Releasing a machine asks for what parting from the pod needs. -/
theorem releaseMachine_asks :
    Asks (releaseMachine site key pod) (Parting site key pod) past :=
  releaseMachine_obeys
    (fun _ holds => giveBack_asks
      (fun _ _ _ _ keyed claimed joined untainted => .free holds keyed claimed joined untainted)
      (fun _ keyed => .giveBack holds keyed))
    .read (fun _ => .delete)

theorem dropFinalizer_obeys {rule : List Happening → Call → Prop}
    (dismisses : ∀ patch, PodPatch.withoutFinalizer? pod = some patch →
      rule past (.changePod key.space key.name patch)) :
    (dropFinalizer key pod).Secures rule (fun _ _ => True) past := by
  unfold dropFinalizer
  cases dropped : PodPatch.withoutFinalizer? pod with
  | none => trivial
  | some patch =>
      apply secures_call_bind.mpr
      constructor
      · exact dismisses patch dropped
      · rintro (fault | _) <;> trivial

/-- A departure releases the machine and lets the pod go. -/
theorem depart_obeys {rule : List Happening → Call → Prop}
    (releases : (releaseMachine site key pod).Secures rule (fun _ _ => True) past)
    (dismisses : ∀ later patch, PodPatch.withoutFinalizer? pod = some patch →
      rule later (.changePod key.space key.name patch)) :
    (depart site key pod).Secures rule (fun _ _ => True) past := by
  unfold depart
  split
  · trivial
  · apply releases.andThen
    rintro later (fault | _) - -
    · trivial
    · apply (dropFinalizer_obeys (dismisses later)).andThen
      rintro later (fault | _) - - <;> trivial

/-- A departure asks for what parting from the pod needs. -/
theorem depart_asks : Asks (depart site key pod) (Parting site key pod) past :=
  depart_obeys releaseMachine_asks fun _ _ dropped => .dismiss dropped

/-- Obtaining a machine reads the one named after the pod and then either opens the
gate for it or provides for the pod. -/
theorem obtainMachine_secures {rule : List Happening → Call → Prop}
    {goal : List Happening → Except Fault Disposition → Prop}
    (reads : rule past (.readMachine key.space key.name))
    (fails : ∀ fault,
      goal (past ++ [.answered (.readMachine key.space key.name) (.error fault)]) (.error fault))
    (opens : ∀ found vmi, (Option.filter (fun vmi => !vmi.isPooled) found) = some vmi →
      (openGate site key pod vmi).Secures rule goal
        (past ++ [.answered (.readMachine key.space key.name) (.ok found)]))
    (provides : ∀ found (program : Program (Except Fault Disposition)),
      (Option.filter (fun vmi => !vmi.isPooled) found) = none →
      Asks program (Provision site key pod)
        (past ++ [.answered (.readMachine key.space key.name) (.ok found)]) →
      program.Secures rule goal
        (past ++ [.answered (.readMachine key.space key.name) (.ok found)])) :
    (obtainMachine site key pod).Secures rule goal past := by
  apply secures_call_bind.mpr
  constructor
  · exact reads
  · rintro (fault | found)
    · exact fails fault
    · dsimp only
      split
      next vmi kept => exact opens found vmi kept
      next unkept =>
        refine provides found _ unkept ?_
        split
        · exact createDedicated_asks
        next candidate =>
          apply (claim_asks candidate).andThen
          rintro later (fault | _) - -
          · dsimp only
            split
            · trivial
            · exact createDedicated_asks
          · apply (pinToMachine_asks (.inr candidate)).andThen
            rintro last (fault | _) - - <;> trivial

theorem obtainMachine_asks :
    Asks (obtainMachine site key pod)
      (fun asked => Provision site key pod asked ∨ Opening key pod asked) past := by
  apply obtainMachine_secures
  · exact .inl .read
  · exact fun _ => trivial
  · intro found vmi _
    exact openGate_asks.relax fun _ _ opening => .inr opening
  · intro found program _ asks
    exact asks.relax fun _ _ provision => .inl provision

/-- A pass over a gated pod provides for it or takes its gate off. -/
theorem serve_asks :
    Asks (serve site key pod)
      (fun asked => Provision site key pod asked ∨ Opening key pod asked) past := by
  unfold serve
  cases found : site.cache.machineOf? key with
  | none => exact obtainMachine_asks
  | some vmi =>
      dsimp only
      split
      next pooled =>
        have holds : site.cache.heldBy? key.text = some vmi := by
          rcases Cache.machineOf?_eq_some found with ⟨-, outside⟩ | ⟨holds, -⟩
          · simp [pooled] at outside
          · exact holds
        refine ((pinToMachine_asks (.inl holds)).relax
          fun _ _ provision => .inl provision).andThen ?_
        rintro later (fault | _ | _) - -
        · trivial
        · exact openGate_asks.relax fun _ _ opening => .inr opening
        · trivial
      next => exact openGate_asks.relax fun _ _ opening => .inr opening

/-- A pass over a pod parts from one that is deleting and serves one that is gated once. -/
theorem attend_obeys {rule : List Happening → Call → Prop}
    (departs : pod.isDeleting = true →
      (depart site key pod).Secures rule (fun _ _ => True) past)
    (serves : pod.isDeleting = false → pod.gateCount = 1 →
      (serve site key pod).Secures rule (fun _ _ => True) past) :
    (attend site key pod).Secures rule (fun _ _ => True) past := by
  unfold attend
  split
  next deleting => exact departs deleting
  next staying =>
    replace staying : pod.isDeleting = false := by simpa using staying
    split
    · trivial
    · split
      next gatedOnce => exact serves staying gatedOnce
      · trivial

/-- A pass over a pod asks for what provides for the pod, parts from it or takes
its gate off, and for nothing else. -/
theorem attend_asks : Asks (attend site key pod) (PassCall site key pod) past :=
  attend_obeys (fun _ => depart_asks.relax fun _ _ parting => .inr (.inl parting))
    fun _ _ => serve_asks.relax fun _ _ served => served.imp_right .inr

/-- A pass for a work key is the pass over the cached pod of that key. -/
theorem pass_obeys {text : String} {rule : List Happening → Call → Prop}
    (attends : ∀ key pod, ObjectKey.ofText text = .ok key → site.cache.pod? key = some pod →
      (attend site key pod).Secures rule (fun _ _ => True) past) :
    (pass site text).Secures rule (fun _ _ => True) past := by
  have attempts : (attempt site text).Secures rule (fun _ _ => True) past := by
    unfold attempt
    cases named : ObjectKey.ofText text with
    | error fault => trivial
    | ok key =>
        dsimp only
        cases cached : site.cache.pod? key with
        | none => trivial
        | some pod => exact attends key pod named cached
  apply attempts.andThen
  rintro later (fault | disposition) - - <;> trivial

/-- A pass for a work key asks nothing without a cached pod of that key. -/
theorem pass_asks {text : String} :
    Asks (pass site text)
      (fun asked => ∃ key pod, ObjectKey.ofText text = .ok key ∧ site.cache.pod? key = some pod ∧
        PassCall site key pod asked) past :=
  pass_obeys fun key pod named cached =>
    attend_asks.relax fun _ _ asked => ⟨key, pod, named, cached, asked⟩

/-- When a pod vanished, the machine of its key is released. -/
theorem podVanished_obeys {rule : List Happening → Call → Prop}
    (releases : ∀ text key, pod.key? = some text → ObjectKey.ofText text = .ok key →
      (releaseMachine site key pod).Secures rule (fun _ _ => True) past) :
    (podVanished site pod).Secures rule (fun _ _ => True) past := by
  unfold podVanished
  cases keyed : pod.key? with
  | none => trivial
  | some text =>
      dsimp only
      cases named : ObjectKey.ofText text with
      | error fault => trivial
      | ok key =>
          apply (releases text key keyed named).andThen
          rintro later (fault | _) - - <;> trivial

/-- What is asked when a pod vanished is what parts from it. -/
theorem podVanished_asks :
    Asks (podVanished site pod) (fun asked => ∃ key, Parting site key pod asked) past :=
  podVanished_obeys fun _ key _ _ => releaseMachine_asks.relax fun _ _ parting => ⟨key, parting⟩

end NodeGate.Release
