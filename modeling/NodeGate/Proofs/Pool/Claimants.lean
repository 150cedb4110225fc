import NodeGate.Proofs.Cluster.LabelPatch
import NodeGate.Proofs.Pool.Duty
import NodeGate.Proofs.Pool.Orphans
import NodeGate.Proofs.Release.Skipping

/-!
# Whose machine it is

The label of a claimed machine names its pod by a work key, and is read in three ways: as a
whole by the passes for that key, up to its first slash and after it by a tick that looks for
the pod, and after its last slash when the taint of the pod comes off the node. Only a pass
writes that label, and a pass goes on only with a key whose parts are there and free of
slashes. For such a key all readers agree on the pod.
-/

namespace NodeGate

open Program

/-- What a call writes into the label that names the pod of a machine. -/
def Call.writtenClaimant? : Call → Option String
  | .changeMachine _ _ patch => (Entries.get? claimantLabel patch.labels).join
  | _ => none

/-- A duty that writes a claimant is the pass for the key that it writes, and the machine is
labelled with that key. -/
theorem Duty.MayAsk.claims {site : Site} {past : List Happening} {duty : Duty} {asked : Call}
    {written : String} (may : MayAsk site past duty asked)
    (writes : asked.writtenClaimant? = some written) :
    duty = .pass written ∧ ∃ key, ObjectKey.ofText written = .ok key ∧
      ∃ space name version, asked = .changeMachine space name (.claim version written) := by
  cases may with
  | claim named =>
      obtain ⟨rfl, -⟩ := ObjectKey.ofText_eq_ok_iff.mp named
      obtain rfl : _ = written := by
        simpa [Call.writtenClaimant?, VmiPatch.claim, Entries.get?_cons] using writes
      exact ⟨rfl, _, named, _, _, _, rfl⟩
  | giveBack => simp [Call.writtenClaimant?, VmiPatch.giveBack, Entries.get?_cons] at writes
  | promote =>
      have other : poolStateLabel ≠ claimantLabel := by decide
      simp [Call.writtenClaimant?, VmiPatch.promote, Entries.get?_cons, other] at writes
  | _ => contradiction

/-- The change of a node, with the name of the node. -/
def Happening.nodeChange? : Happening → Option (String × NodePatch)
  | .answered (.changeNode name patch) _ => some (name, patch)
  | _ => none

/-- The changes of nodes that were asked for. -/
def nodeChanges (past : List Happening) : List (String × NodePatch) :=
  (exchanges past).filterMap Happening.nodeChange?

theorem nodeChanges_append {past later : List Happening} :
    nodeChanges (past ++ later) = nodeChanges past ++ nodeChanges later := by
  rw [nodeChanges, exchanges_append, List.filterMap_append, nodeChanges, nodeChanges]

/-- What is asked to edit the node of a name: nothing if the node is not cached or is as the
edit would make it. -/
def Cache.nodeEdits (cache : Cache) (name : String) (edit : Node → Option NodePatch) :
    List (String × NodePatch) :=
  (((cache.node? name).bind edit).map fun patch => (name, patch)).toList

namespace Release

variable {site : Site} {key : ObjectKey} {pod : Pod} {vmi : Vmi} {trace : List Happening}

theorem nodeChanges_reserveNode {outcome : Except Fault Unit}
    (run : Runs (reserveNode site key vmi) trace outcome) :
    nodeChanges trace = site.cache.nodeEdits vmi.nodeName
      (NodePatch.withTaint? · (reservationKey key.name site.defaults.taintKey)) := by
  unfold reserveNode at run
  unfold Cache.nodeEdits
  cases joined : site.cache.node? vmi.nodeName with
  | none =>
      simp only [joined] at run
      obtain ⟨rfl, -⟩ := runs_pure_iff.mp run
      rfl
  | some node =>
      rw [Option.bind_some]
      cases tainted : NodePatch.withTaint? node
          (reservationKey key.name site.defaults.taintKey) with
      | none =>
          simp only [joined, tainted] at run
          obtain ⟨rfl, -⟩ := runs_pure_iff.mp run
          rfl
      | some patch =>
          simp only [joined, tainted] at run
          obtain ⟨answer, rest, rfl, ending⟩ := runs_request_iff.mp run
          obtain ⟨rfl, -⟩ := runs_done_iff.mp ending
          rfl

theorem nodeChanges_selectNode {outcome : Except Fault Bool}
    (run : Runs (selectNode key pod vmi) trace outcome) : nodeChanges trace = [] := by
  unfold selectNode at run
  split at run
  · obtain ⟨rfl, -⟩ := runs_pure_iff.mp run
    rfl
  · obtain ⟨answer, rest, rfl, next⟩ := runs_call_bind_iff.mp run
    have ended : rest = [] := by
      cases answer <;> exact (runs_pure_iff.mp next).1
    rw [ended]
    rfl

/-- Pinning a pod to its machine changes the node to carry the taint of the pod. -/
theorem nodeChanges_pinToMachine {outcome : Except Fault Bool}
    (run : Runs (pinToMachine site key pod vmi) trace outcome) :
    nodeChanges trace = site.cache.nodeEdits vmi.nodeName
      (NodePatch.withTaint? · (reservationKey key.name site.defaults.taintKey)) := by
  obtain ⟨before, after, reserved, rfl, reserves, next⟩ := runs_bind_iff.mp run
  have unchanged : nodeChanges after = [] := by
    cases reserved with
    | error fault =>
        obtain ⟨rfl, -⟩ := runs_pure_iff.mp next
        rfl
    | ok _ => exact nodeChanges_selectNode next
  rw [nodeChanges_append, unchanged, List.append_nil, nodeChanges_reserveNode reserves]

end Release

namespace Pool

variable {site : Site} {key held : ObjectKey} {vmi : Vmi} {trace : List Happening}
  {written : String}

/-- Putting a machine back changes its node to lack the taint of the claimant. -/
theorem nodeChanges_giveBack {outcome : Except Fault Unit} (keyed : vmi.key = .ok held)
    (claimed : vmi.claimant? = some written)
    (run : Runs (Release.giveBack site vmi) trace outcome) :
    nodeChanges trace = site.cache.nodeEdits vmi.nodeName
      (NodePatch.withoutTaint? · (claimTaint site written)) := by
  rw [Vmi.nodeName_of_key keyed, nodeChanges]
  obtain ⟨putsBack, -⟩ := runs_giveBack keyed claimed run
  generalize exchanges trace = past at putsBack
  cases putsBack with
  | bare own told untainted =>
      obtain rfl := Except.ok.inj (keyed.symm.trans own)
      obtain rfl := Option.some.inj (claimed.symm.trans told)
      cases joined : site.cache.node? held.name with
      | none => simp [Cache.nodeEdits, joined, Happening.nodeChange?]
      | some node =>
          simp [Cache.nodeEdits, joined, Happening.nodeChange?, NodePatch.withoutTaint?,
            untainted node joined]
  | freed own told joined tainted =>
      obtain rfl := Except.ok.inj (keyed.symm.trans own)
      obtain rfl := Option.some.inj (claimed.symm.trans told)
      simp [Cache.nodeEdits, joined, tainted, Happening.nodeChange?]
  | stuck own told joined tainted =>
      obtain rfl := Except.ok.inj (keyed.symm.trans own)
      obtain rfl := Option.some.inj (claimed.symm.trans told)
      simp [Cache.nodeEdits, joined, tainted, Happening.nodeChange?]

/-- The label of a machine means the pod of the key to everyone who takes it apart. -/
structure IsReadAs (vmi : Vmi) (key : ObjectKey) : Prop where
  /-- At the first slash it comes apart into the namespace and the name. -/
  parts_eq : vmi.claimant?.bind splitAtSlash? = some (key.space, key.name)
  /-- After the last slash stands the name. -/
  name_eq : vmi.claimant?.map afterLastSlash = some key.name
  /-- A tick puts the machine back exactly if it is claimed and the pod of the key is gone. -/
  reclaimed : ∀ (site : Site) (config : GateConfig) (trace : List Happening) (report : Report),
    site.cache.activeConfig? = some config → 0 < config.spec.poolSize →
    Runs (tick site) trace report → ∃ handbacks, Reclaims site trace report handbacks ∧
      (vmi ∈ handbacks.map Handback.vmi ↔ vmi ∈ site.cache.pool ∧
        vmi.poolState? = some .claimed ∧ vmi.key.isOk = true ∧ site.cache.pod? key = none)
  /-- Under one configuration, the taint that comes off the node when the machine is put back
  is the one that pinning the pod to any version of the machine puts on it. -/
  untainted : ∀ (site later : Site) (pod : Pod) (pinned : Vmi) (pinning returning : List Happening)
    (outcome : Except Fault Bool) (returned : Except Fault Unit),
    later.cache.activeConfig? = site.cache.activeConfig? → pinned.nodeName = vmi.nodeName →
    vmi.key.isOk = true → Runs (Release.pinToMachine site key pod pinned) pinning outcome →
    Runs (Release.giveBack later vmi) returning returned →
      nodeChanges pinning = site.cache.nodeEdits vmi.nodeName
        (NodePatch.withTaint? · (reservationKey key.name site.defaults.taintKey)) ∧
      nodeChanges returning = later.cache.nodeEdits vmi.nodeName
        (NodePatch.withoutTaint? · (reservationKey key.name site.defaults.taintKey))

/-- A machine that is claimed for a pod is orphaned exactly if that pod is gone. -/
theorem orphaned_iff_of_claimed (named : ObjectKey.ofText written = .ok key)
    (claimed : vmi.claimant? = some written) :
    Orphaned site vmi ↔ vmi.poolState? = some .claimed ∧ vmi.key.isOk = true ∧
      site.cache.pod? key = none := by
  obtain ⟨rfl, proper⟩ := ObjectKey.ofText_eq_ok_iff.mp named
  have orphan : isOrphan site vmi = true ↔ site.cache.pod? key = none := by
    simp [isOrphan, claimed, proper.splitAtSlash?_text]
  rw [orphaned_iff, orphan, and_assoc, and_comm (a := site.cache.pod? key = none)]

/-- A label that is read as a key in the whole is read as that key in its parts. -/
theorem isReadAs_of_claimed (named : ObjectKey.ofText written = .ok key)
    (claimed : vmi.claimant? = some written) : IsReadAs vmi key := by
  obtain ⟨rfl, proper⟩ := ObjectKey.ofText_eq_ok_iff.mp named
  have lastPart : afterLastSlash key.text = key.name := ObjectKey.afterLastSlash_text named
  constructor
  case parts_eq => rw [claimed, Option.bind_some, proper.splitAtSlash?_text]
  case name_eq => rw [claimed, Option.map_some, lastPart]
  case reclaimed =>
    intro site config trace report configured wanted run
    obtain ⟨handbacks, reclaims⟩ := exists_reclaims (tend_of_wanted run configured wanted)
    refine ⟨handbacks, reclaims, ?_⟩
    rw [reclaims.machines, List.mem_filter, decide_eq_true_iff,
      orphaned_iff_of_claimed named claimed]
  case untainted =>
    intro site later pod pinned pinning returning outcome returned same sameNode keyed pins returns
    obtain ⟨held, keyed⟩ := isOk_key_iff.mp keyed
    have taint : claimTaint later key.text = reservationKey key.name site.defaults.taintKey := by
      rw [claimTaint, lastPart, Site.defaults, same, Site.defaults]
    constructor
    · rw [Release.nodeChanges_pinToMachine pins, sameNode]
    · rw [nodeChanges_giveBack keyed claimed returns, taint]

-- Of a text with more slashes than one the readers would make different pods.
example : splitAtSlash? "a/b/c" = some ("a", "b/c") ∧ afterLastSlash "a/b/c" = "c" := by decide

/-- A text is read as a key exactly if it joins a namespace and a name that are there and free
of slashes. So the key of a pod with such a namespace and name is read as them, and only pods
of that namespace and name have it. A text that a duty labels a machine with as its claimant
is the key of the pass that it writes it in, and whoever takes the label apart reads
that key. -/
theorem work_keys_unambiguous :
    (∀ text key, ObjectKey.ofText text = .ok key ↔
      text = key.space ++ "/" ++ key.name ∧ key.IsProper) ∧
    (∀ (pod : Pod) key, pod.IsAddressed key →
      pod.key?.map ObjectKey.ofText = some (.ok key) ∧
      ∀ other : Pod, other.key? = pod.key? ↔ other.IsAddressed key) ∧
    ∀ (site : Site) (duty : Duty) trace, Runs (duty.program site) trace () →
      ∀ asked answer written, .answered asked answer ∈ trace →
        asked.writtenClaimant? = some written →
        ∃ key space name version, duty = .pass written ∧ ObjectKey.ofText written = .ok key ∧
          asked = .changeMachine space name (.claim version written) ∧
          (∀ before after, (VmiPatch.claim version written).Makes before after →
            after.claimant? = some written) ∧
          ∀ vmi : Vmi, vmi.claimant? = some written → IsReadAs vmi key := by
  refine ⟨fun _ _ => ObjectKey.ofText_eq_ok_iff, ?_, ?_⟩
  · intro pod key addressed
    constructor
    · rw [addressed.key?_eq, Option.map_some,
        ObjectKey.ofText_eq_ok_iff.mpr ⟨rfl, addressed.proper⟩]
    · exact fun other => addressed.key?_eq_iff
  · intro site duty trace run asked answer written member writes
    have heeds : Duty.Heeds site duty (duty.program site) [] := Duty.heeds_program duty
    obtain ⟨before, after, split⟩ := List.append_of_mem member
    obtain ⟨isPass, key, named, space, name, version, claims⟩ :=
      (heeds.rule_of_runs run split).claims writes
    refine ⟨key, space, name, version, isPass, named, claims, ?_, ?_⟩
    · exact fun _ _ makes => makes.claim.2
    · exact fun vmi claimed => isReadAs_of_claimed named claimed

/-- The pod that is gone later, while it waits for a node. -/
def gonePod : Pod where
  metadata := { name := some "gone", space := some "default" }
  spec := some { gates := some [gateName] }

/-- The waiting pod and an available machine, whose node is not reserved. -/
def gonePodSite : Site where
  cache :=
    { strandedSite.cache with
      pods := [gonePod]
      vmis := [poolMachine "a" "1" .available]
      nodes := [{ metadata := { name := some "a" } }] }

/-- The pod is pinned to the machine that it claimed. -/
def pinningTrace : List Happening :=
  [.answered (.changeNode "a" ⟨none, [NodePatch.claimedTaint "gone.maroonedpods.io"]⟩) (.ok ()),
    .answered (.changePod "default" "gone" ⟨none, .host "a"⟩) (.ok ())]

/-- The pass for the waiting pod. -/
def gonePodTrace (told : Signal) : List Happening :=
  .answered (.readMachine "default" "gone") (.ok none) ::
    .answered (.changeMachine "pool" "a" (.claim (some "1") "default/gone"))
      (.ok (heldMachine "a" "default/gone")) ::
    (pinningTrace ++ [.told told])

theorem gonePodTrace_runs :
    ∃ told, Runs ((Duty.pass "default/gone").program gonePodSite) (gonePodTrace told) () :=
  ⟨_, .request (.request (.request (.request (.signal .done))))⟩

theorem pinningTrace_runs :
    Runs (Release.pinToMachine gonePodSite ⟨"default", "gone"⟩ gonePod
      (poolMachine "a" "1" .available)) pinningTrace (.ok true) :=
  .request (.request .done)

/-- The machine is put back after the pod is gone. -/
def returningTrace : List Happening :=
  [.answered (.changeNode "a" ⟨none, []⟩) (.ok ()),
    .answered (.changeMachine "pool" "a" (.giveBack (some "1")))
      (.ok (poolMachine "a" "2" .available)),
    .told .returned]

theorem returningTrace_runs :
    Runs (Release.giveBack strandedSite (heldMachine "a" "default/gone")) returningTrace
      (.ok ()) :=
  .request (.request (.signal .done))

/-- The machine that the pod claims is put back once the pod is gone, and its node loses the
taint that it was given. -/
theorem gonePod_read_alike : gonePod.IsAddressed ⟨"default", "gone"⟩ ∧
    gonePod.key?.map ObjectKey.ofText = some (.ok ⟨"default", "gone"⟩) ∧
    (∃ told, Runs ((Duty.pass "default/gone").program gonePodSite) (gonePodTrace told) ()) ∧
    IsReadAs (heldMachine "a" "default/gone") ⟨"default", "gone"⟩ ∧
    (∃ trace handbacks, Runs (tick strandedSite) trace strandedReport ∧
      Reclaims strandedSite trace strandedReport handbacks ∧
      heldMachine "a" "default/gone" ∈ handbacks.map Handback.vmi) ∧
    nodeChanges pinningTrace = gonePodSite.cache.nodeEdits "a"
      (NodePatch.withTaint? · "gone.maroonedpods.io") ∧
    nodeChanges returningTrace = strandedSite.cache.nodeEdits "a"
      (NodePatch.withoutTaint? · "gone.maroonedpods.io") := by
  obtain ⟨-, named, written⟩ := work_keys_unambiguous
  have addressed : gonePod.IsAddressed ⟨"default", "gone"⟩ :=
    ⟨rfl, rfl, by decide, by decide, by decide⟩
  have isKey : ObjectKey.ofText "default/gone" = .ok ⟨"default", "gone"⟩ := by decide
  obtain ⟨told, claims⟩ := gonePodTrace_runs
  obtain ⟨key, -, -, -, -, read, -, -, readers⟩ :=
    written _ _ _ claims _ _ "default/gone" (.tail _ (.head _)) (by decide)
  obtain rfl := Except.ok.inj (isKey.symm.trans read)
  have isRead := readers (heldMachine "a" "default/gone") (by decide)
  refine ⟨addressed, (named _ _ addressed).1, ⟨told, claims⟩, isRead, ?_, ?_⟩
  · obtain ⟨patch, run⟩ := strandedTrace_runs
    obtain ⟨handbacks, reclaims, putBack⟩ := isRead.reclaimed _ _ _ _ rfl (by decide) run
    have pooled : heldMachine "a" "default/gone" ∈ strandedSite.cache.pool :=
      Cache.mem_pool.mpr ⟨.tail _ (.head _), by decide⟩
    exact ⟨_, handbacks, run, reclaims, putBack.mpr ⟨pooled, by decide, by decide, by decide⟩⟩
  · exact isRead.untainted gonePodSite strandedSite gonePod _ _ _ _ _ rfl rfl rfl
      pinningTrace_runs returningTrace_runs

end Pool

end NodeGate
