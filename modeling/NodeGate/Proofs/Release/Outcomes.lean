import Mathlib.Tactic.SplitIfs
import NodeGate.Proofs.Release.DepartureCalls

/-!
# What a pass ends in

The disposition of a pass is settled by the cached pod and by which of its writes went
through. The key is dropped when there is nothing to do for the pod or the last write that
it needed was made; it is queued again at once when a write made the cached pod stale; in
every other case, each failed call among them, it backs off.
-/

namespace NodeGate

/-- Whether a patch leaves a pod without our finalizer. -/
def PodPatch.dropsFinalizer (patch : PodPatch) : Bool :=
  match patch.change with
  | .finalizers names => !names.contains finalizerName
  | _ => false

/-- Whether a patch makes a pod select a node. -/
def PodPatch.selectsHost (patch : PodPatch) : Bool :=
  match patch.change with
  | .host _ => true
  | _ => false

/-- Whether a patch labels a machine as claimed by the pod of a key. -/
def VmiPatch.claimsFor (key : String) (patch : VmiPatch) : Bool :=
  Entries.get? claimantLabel patch.labels == some (some key)

theorem PodPatch.dropsFinalizer_of_withoutFinalizer? {pod : Pod} {patch : PodPatch}
    (dropped : PodPatch.withoutFinalizer? pod = some patch) : patch.dropsFinalizer = true := by
  obtain ⟨-, rfl⟩ := PodPatch.withoutFinalizer?_eq_some_iff.mp dropped
  simp [PodPatch.dropsFinalizer]

theorem PodPatch.selectsHost_of_selectHost? {pod : Pod} {patch : PodPatch} {name : String}
    (selected : PodPatch.selectHost? pod name = some patch) :
    patch.selectsHost = true ∧ patch.dropsGate = false := by
  obtain ⟨-, rfl⟩ := PodPatch.selectHost?_eq_some_iff.mp selected
  exact ⟨rfl, rfl⟩

theorem VmiPatch.claimsFor_claim {version : Option String} {key : String} :
    (VmiPatch.claim version key).claimsFor key = true := by
  simp [VmiPatch.claimsFor, VmiPatch.claim, Entries.get?]

namespace Release

open Program

/-- Whether a call failed. -/
def fails : Happening → Bool
  | .answered _ (.error _) => true
  | _ => false

/-- Whether a call failed that a departure does not take as done. -/
def lapses : Happening → Bool
  | .answered asked (.error fault) => !(mayBeGone asked && fault.isNotFound)
  | _ => false

/-- Whether our gate was taken off the pod of the key. -/
def opens (key : ObjectKey) : Happening → Bool
  | .answered (.changePod space name patch) (.ok _) =>
    decide (ObjectKey.mk space name = key) && patch.dropsGate
  | _ => false

/-- Whether the pod of the key was found gone or made to be without our finalizer. -/
def dismisses (key : ObjectKey) : Happening → Bool
  | .answered (.changePod space name patch) (.ok _) =>
    decide (ObjectKey.mk space name = key) && patch.dropsFinalizer
  | .answered (.changePod space name patch) (.error fault) =>
    decide (ObjectKey.mk space name = key) && patch.dropsFinalizer && fault.isNotFound
  | _ => false

/-- Whether a machine was claimed for the pod of the key, or the pod made to select a
node. -/
def pins (key : ObjectKey) : Happening → Bool
  | .answered (.changeMachine _ _ patch) (.ok _) => patch.claimsFor key.text
  | .answered (.changePod space name patch) (.ok _) =>
    decide (ObjectKey.mk space name = key) && patch.selectsHost
  | _ => false

/-- Whether something of that kind happened. -/
def Happened (kind : Happening → Bool) (past : List Happening) : Prop :=
  ∃ happening ∈ past, kind happening = true

instance (kind : Happening → Bool) (past : List Happening) : Decidable (Happened kind past) :=
  inferInstanceAs (Decidable (∃ happening ∈ past, kind happening = true))

@[simp]
theorem happened_nil {kind : Happening → Bool} : ¬Happened kind [] := by
  simp [Happened]

@[simp]
theorem happened_cons {kind : Happening → Bool} {first : Happening} {rest : List Happening} :
    Happened kind (first :: rest) ↔ kind first = true ∨ Happened kind rest := by
  simp [Happened]

@[simp]
theorem happened_append {kind : Happening → Bool} {before after : List Happening} :
    Happened kind (before ++ after) ↔ Happened kind before ∨ Happened kind after := by
  simp [Happened, or_and_right, exists_or]

/-- What becomes of the key of a gated pod after what a pass did. -/
def stayingVerdict (key : ObjectKey) (past : List Happening) : Disposition :=
  if Happened fails past then .backOff
  else if Happened (opens key) past then .forget
  else if Happened (pins key) past then .immediate
  else .backOff

/-- What becomes of the key of a departing pod after what a pass did. -/
def leavingVerdict (key : ObjectKey) (past : List Happening) : Disposition :=
  if Happened lapses past then .backOff
  else if Happened (dismisses key) past then .forget
  else .backOff

/-- What becomes of a work key after what a pass did. -/
def verdict (site : Site) (text : String) (past : List Happening) : Disposition :=
  match ObjectKey.ofText text with
  | .error _ => .backOff
  | .ok key =>
    match site.cache.pod? key with
    | none => .forget
    | some pod =>
      if pod.isDeleting then
        if pod.hasFinalizer then leavingVerdict key past else .forget
      else if pod.gateCount = 0 then .forget
      else stayingVerdict key past

/-- What a pass makes of the outcome up to its first fault. -/
def settled : Except Fault Disposition → Disposition
  | .ok disposition => disposition
  | .error _ => .backOff

variable {site : Site} {key : ObjectKey} {pod : Pod} {vmi : Vmi} {past : List Happening}
  {text : String}

/-- Nothing is asked of the calls, and the pass goes by the verdict. -/
abbrev Concludes (program : Program (Except Fault Disposition)) (key : ObjectKey)
    (past : List Happening) : Prop :=
  program.Secures (fun _ _ => True)
    (fun later outcome => settled outcome = stayingVerdict key later) past

/-- No write made the cached pod stale. -/
structure Unwritten (key : ObjectKey) (past : List Happening) : Prop where
  unopened : ¬Happened (opens key) past
  unpinned : ¬Happened (pins key) past

/-- No call failed and the gate is on; whether there was a claim or a selection is told
apart. -/
structure Underway (key : ObjectKey) (pinned : Prop) (past : List Happening) : Prop where
  unfailing : ¬Happened fails past
  unopened : ¬Happened (opens key) past
  pinned_iff : Happened (pins key) past ↔ pinned

theorem Underway.unwritten (underway : Underway key False past) : Unwritten key past :=
  ⟨underway.unopened, underway.pinned_iff.mp⟩

theorem underway_nil : Underway key False [] :=
  ⟨happened_nil, happened_nil, iff_of_false happened_nil id⟩

theorem openGate_concludes (gated : pod.isGated = true) (underway : Underway key False past) :
    Concludes (openGate site key pod vmi) key past := by
  obtain ⟨unfailing, unopened, pinned_iff⟩ := underway
  unfold openGate
  split
  · simp [stayingVerdict, settled, unfailing, unopened, pinned_iff, fails, opens, pins]
  · split
    · simp [stayingVerdict, settled, unfailing, unopened, pinned_iff, fails, opens, pins]
    · unfold liftGate
      cases lifted : PodPatch.withoutGate? pod with
      | none => simp [PodPatch.withoutGate?, gated] at lifted
      | some patch =>
          have drops := dropsGate_of_withoutGate? lifted
          refine secures_call_bind.mpr ⟨trivial, ?_⟩
          rintro (fault | _)
          · simp [stayingVerdict, settled, fails]
          · simp [stayingVerdict, settled, unfailing, fails, opens, drops]

theorem createDedicated_concludes (unwritten : Unwritten key past) :
    Concludes (createDedicated site key pod) key past := by
  obtain ⟨unopened, unpinned⟩ := unwritten
  unfold createDedicated
  split
  · simp [refuse, stayingVerdict, settled, unopened, unpinned, opens, pins]
  · refine secures_call_bind.mpr ⟨trivial, ?_⟩
    rintro (fault | _)
    · dsimp only
      split <;> simp [stayingVerdict, settled, fails]
    · simp [stayingVerdict, settled, unopened, unpinned, opens, pins]

theorem reserveNode_underway {pinned : Prop} (underway : Underway key pinned past) :
    (reserveNode site key vmi).Secures (fun _ _ => True)
      (fun later outcome => match outcome with
        | .ok _ => Underway key pinned later
        | .error _ => Happened fails later) past := by
  unfold reserveNode
  split
  · exact underway
  · split
    · exact underway
    · refine ⟨trivial, ?_⟩
      obtain ⟨unfailing, unopened, pinned_iff⟩ := underway
      rintro (fault | _)
      · simp [Secures, fails]
      · constructor <;> simp [unfailing, unopened, pinned_iff, fails, opens, pins]

/-- Whether the pod was told to select a node is told by the outcome. -/
theorem selectNode_underway {pinned : Prop} (underway : Underway key pinned past) :
    (selectNode key pod vmi).Secures (fun _ _ => True)
      (fun later outcome => match outcome with
        | .ok written => Underway key (pinned ∨ written = true) later
        | .error _ => Happened fails later) past := by
  unfold selectNode
  cases selected : PodPatch.selectHost? pod vmi.nodeName with
  | none => simpa using underway
  | some patch =>
      obtain ⟨selects, keeps⟩ := PodPatch.selectsHost_of_selectHost? selected
      obtain ⟨unfailing, unopened, pinned_iff⟩ := underway
      refine secures_call_bind.mpr ⟨trivial, ?_⟩
      rintro (fault | _)
      · simp [fails]
      · constructor <;> simp [unfailing, unopened, pinned_iff, fails, opens, pins, selects, keeps]

theorem pinToMachine_underway {pinned : Prop} (underway : Underway key pinned past) :
    (pinToMachine site key pod vmi).Secures (fun _ _ => True)
      (fun later outcome => match outcome with
        | .ok written => Underway key (pinned ∨ written = true) later
        | .error _ => Happened fails later) past := by
  apply (reserveNode_underway underway).andThen
  rintro later (fault | _) - reached
  · exact reached
  · exact selectNode_underway reached

/-- A claim that failed is no claim. -/
theorem claim_underway (underway : Underway key False past) :
    (claim vmi key).Secures (fun _ _ => True)
      (fun later outcome => match outcome with
        | .ok _ => Underway key True later
        | .error _ => Unwritten key later) past := by
  unfold claim
  split
  · exact underway.unwritten
  · obtain ⟨unfailing, unopened, pinned_iff⟩ := underway
    refine secures_call_bind.mpr ⟨trivial, ?_⟩
    rintro (fault | stored)
    · constructor <;> simp [unopened, pinned_iff, opens, pins]
    · constructor <;> simp [unfailing, unopened, fails, opens, pins, VmiPatch.claimsFor_claim]

theorem obtainMachine_concludes (gated : pod.isGated = true) :
    Concludes (obtainMachine site key pod) key [] := by
  refine secures_call_bind.mpr ⟨trivial, ?_⟩
  rintro (fault | found)
  · simp [stayingVerdict, settled, fails]
  · have underway : Underway key False
        ([] ++ [.answered (.readMachine key.space key.name) (.ok found)]) := by
      constructor <;> simp [fails, opens, pins]
    dsimp only
    split
    · exact openGate_concludes gated underway
    · split
      · exact createDedicated_concludes underway.unwritten
      · apply (claim_underway underway).andThen
        rintro later (fault | _) - reached
        · obtain ⟨unopened, unpinned⟩ := reached
          dsimp only
          split
          · simp [stayingVerdict, settled, unopened, unpinned]
          · refine secures_bind.mpr (createDedicated_concludes ?_)
            constructor <;> simp [unopened, unpinned, opens, pins]
        · apply (pinToMachine_underway reached).andThen
          rintro last (fault | written) - reached
          · simp [stayingVerdict, settled, show Happened fails last from reached]
          · obtain ⟨unfailing, unopened, pinned_iff⟩ := reached
            simp [stayingVerdict, settled, unfailing, unopened, pinned_iff, fails, opens, pins]

theorem serve_concludes (gated : pod.isGated = true) : Concludes (serve site key pod) key [] := by
  unfold serve
  split
  · exact obtainMachine_concludes gated
  · split
    · apply (pinToMachine_underway underway_nil).andThen
      rintro later (fault | written) - reached
      · simp [stayingVerdict, settled, show Happened fails later from reached]
      · cases written with
        | false => exact openGate_concludes gated (by simpa using reached)
        | true =>
            obtain ⟨unfailing, unopened, pinned_iff⟩ := reached
            simp [stayingVerdict, settled, unfailing, unopened, pinned_iff]
    · exact openGate_concludes gated underway_nil

/-- The finalizer was not dropped yet, and no call failed that a departure needs. -/
structure Leaving (key : ObjectKey) (past : List Happening) : Prop where
  unlapsed : ¬Happened lapses past
  undismissed : ¬Happened (dismisses key) past

/-- A part of a departure that succeeds lets it go on, and the finalizer is not dropped in
any case. -/
abbrev Parts {α : Type} (program : Program (Except Fault α)) (key : ObjectKey)
    (past : List Happening) : Prop :=
  program.Secures (fun _ _ => True)
    (fun later outcome => match outcome with
      | .ok _ => Leaving key later
      | .error _ => ¬Happened (dismisses key) later) past

theorem leaving_nil : Leaving key [] :=
  ⟨happened_nil, happened_nil⟩

/-- What is done and drops no finalizer lets a departure go on. -/
theorem Leaving.append {happening : Happening} (leaving : Leaving key past)
    (done : lapses happening = false) (keeps : dismisses key happening = false) :
    Leaving key (past ++ [happening]) := by
  constructor
  · simp [leaving.unlapsed, done]
  · simp [leaving.undismissed, keeps]

theorem freeNode_parts {name : String} (leaving : Leaving key past) :
    Parts (freeNode site name vmi) key past := by
  unfold freeNode
  split
  · split
    · exact leaving
    · refine secures_call_bind.mpr ⟨trivial, ?_⟩
      rintro (fault | _)
      · cases gone : fault.isNotFound with
        | false => simp [gone, leaving.undismissed, dismisses]
        | true =>
            simp only [gone, if_true, secures_pure]
            exact leaving.append (by simp [lapses, mayBeGone, gone]) rfl
      · exact leaving.append rfl rfl
  · exact leaving

theorem giveBack_parts (leaving : Leaving key past) : Parts (giveBack site vmi) key past := by
  unfold giveBack
  split
  · exact leaving.undismissed
  · apply (freeNode_parts leaving).andThen
    rintro later (fault | _) - reached
    · exact reached
    · refine secures_call_bind.mpr ⟨trivial, ?_⟩
      rintro (fault | _)
      · simp [reached.undismissed, dismisses]
      · exact (reached.append rfl rfl).append rfl rfl

theorem giveBackClaimed_parts (leaving : Leaving key past) :
    Parts (giveBackClaimed site key pod) key past := by
  unfold giveBackClaimed
  split
  · exact leaving
  · apply (giveBack_parts leaving).andThen
    rintro later (fault | _) - reached
    · exact reached
    · exact Leaving.append reached rfl rfl

theorem deleteDedicated_parts (leaving : Leaving key past) :
    Parts (deleteDedicated key pod) key past := by
  refine secures_call_bind.mpr ⟨trivial, ?_⟩
  rintro (fault | _)
  · cases gone : fault.isNotFound with
    | false => simp [gone, leaving.undismissed, dismisses]
    | true =>
        simp only [gone, if_true, secures_pure]
        exact leaving.append (by simp [lapses, mayBeGone, gone]) rfl
  · exact (leaving.append rfl rfl).append rfl rfl

theorem releaseMachine_parts (leaving : Leaving key past) :
    Parts (releaseMachine site key pod) key past := by
  apply (giveBackClaimed_parts leaving).andThen
  rintro later (fault | returned) - reached
  · exact reached
  · dsimp only
    split
    · split
      · exact reached
      · exact deleteDedicated_parts reached
    · split
      · refine secures_call_bind.mpr ⟨trivial, ?_⟩
        rintro (fault | _ | vmi)
        · simp [Leaving.undismissed reached, dismisses]
        · exact Leaving.append reached rfl rfl
        · have read : Leaving key
              (later ++ [.answered (.readMachine key.space key.name) (.ok (some vmi))]) :=
            Leaving.append reached rfl rfl
          dsimp only
          split
          · exact read
          · exact deleteDedicated_parts read
      · exact deleteDedicated_parts reached

theorem dropFinalizer_dismisses (ours : pod.hasFinalizer = true) (leaving : Leaving key past) :
    (dropFinalizer key pod).Secures (fun _ _ => True)
      (fun later outcome => match outcome with
        | .ok _ => ¬Happened lapses later ∧ Happened (dismisses key) later
        | .error _ => ¬Happened (dismisses key) later) past := by
  obtain ⟨unlapsed, undismissed⟩ := leaving
  unfold dropFinalizer
  cases dropped : PodPatch.withoutFinalizer? pod with
  | none => simp [PodPatch.withoutFinalizer?, ours] at dropped
  | some patch =>
      have drops := PodPatch.dropsFinalizer_of_withoutFinalizer? dropped
      refine secures_call_bind.mpr ⟨trivial, ?_⟩
      rintro (fault | _)
      · cases gone : fault.isNotFound with
        | false => simp [gone, undismissed, dismisses]
        | true => simp [gone, unlapsed, lapses, mayBeGone, dismisses, drops]
      · simp [unlapsed, lapses, dismisses, drops]

theorem depart_concludes (ours : pod.hasFinalizer = true) :
    (depart site key pod).Secures (fun _ _ => True)
      (fun later outcome => settled outcome = leavingVerdict key later) [] := by
  unfold depart
  rw [if_neg (by simp [ours])]
  apply (releaseMachine_parts leaving_nil).andThen
  rintro later (fault | _) - reached
  · simp [settled, leavingVerdict, show ¬Happened (dismisses key) later from reached]
  · apply (dropFinalizer_dismisses ours reached).andThen
    rintro last (fault | _) - reached
    · simp [settled, leavingVerdict, show ¬Happened (dismisses key) last from reached]
    · simp [settled, leavingVerdict, reached.1, reached.2]

/-- The cached pod of a work key is gated, or departs with our finalizer still on. -/
inductive Busy (site : Site) (text : String) : Prop where
  | gated {key : ObjectKey} {pod : Pod} (named : ObjectKey.ofText text = .ok key)
      (cached : site.cache.pod? key = some pod) (staying : pod.isDeleting = false)
      (gated : pod.gateCount ≠ 0)
  | marked {key : ObjectKey} {pod : Pod} (named : ObjectKey.ofText text = .ok key)
      (cached : site.cache.pod? key = some pod) (leaving : pod.isDeleting = true)
      (ours : pod.hasFinalizer = true)

theorem attend_concludes (named : ObjectKey.ofText text = .ok key)
    (cached : site.cache.pod? key = some pod) :
    (attend site key pod).Secures (fun _ _ => Busy site text)
      (fun later outcome => settled outcome = verdict site text later) [] := by
  simp only [verdict, named, cached]
  unfold attend
  split
  next leaving =>
    split
    next ours =>
      exact (depart_concludes ours).relax fun _ _ _ => .marked named cached leaving ours
    next unmarked => simp [depart, settled, unmarked]
  next staying =>
    split
    · rfl
    next gated =>
      split
      next gatedOnce =>
        apply (serve_concludes (by simp [Pod.isGated, gatedOnce])).relax
        exact fun _ _ _ => .gated named cached (by simpa using staying) gated
      next => simp [refuse, settled, stayingVerdict, fails, opens, pins]

theorem attempt_concludes :
    (attempt site text).Secures (fun _ _ => Busy site text)
      (fun later outcome => settled outcome = verdict site text later) [] := by
  unfold attempt
  cases named : ObjectKey.ofText text with
  | error fault => simp [verdict, named, settled]
  | ok key =>
      dsimp only
      cases cached : site.cache.pod? key with
      | none => simp [verdict, named, cached, settled]
      | some pod => exact attend_concludes named cached

/-- A line in the log is no matter for the verdict. -/
theorem verdict_append_log {line : LogLine} :
    verdict site text (past ++ [.told (.log line)]) = verdict site text past := by
  simp [verdict, stayingVerdict, leavingVerdict, fails, lapses, opens, dismisses, pins]

/-- A pass calls only for a pod that it has work for, and it ends as that pod and what was
done tell. -/
theorem pass_concludes :
    (pass site text).Secures (fun _ _ => Busy site text)
      (fun later disposition => disposition = verdict site text later) [] := by
  apply attempt_concludes.andThen
  rintro later (fault | disposition) - settles
  · refine secures_bind.mpr ?_
    exact settles.trans verdict_append_log.symm
  · exact settles

/-- There is nothing to do for the pod of a work key. -/
inductive Idle (site : Site) (text : String) : Prop where
  | gone {key : ObjectKey} (named : ObjectKey.ofText text = .ok key)
      (uncached : site.cache.pod? key = none)
  | ungated {key : ObjectKey} {pod : Pod} (named : ObjectKey.ofText text = .ok key)
      (cached : site.cache.pod? key = some pod) (staying : pod.isDeleting = false)
      (ungated : pod.gateCount = 0)
  | unmarked {key : ObjectKey} {pod : Pod} (named : ObjectKey.ofText text = .ok key)
      (cached : site.cache.pod? key = some pod) (leaving : pod.isDeleting = true)
      (unmarked : pod.hasFinalizer = false)

/-- The last write for the pod of a work key went through. -/
inductive Completed (site : Site) (text : String) (past : List Happening) : Prop where
  /-- The gate was taken off. -/
  | opened {key : ObjectKey} {pod : Pod} (named : ObjectKey.ofText text = .ok key)
      (cached : site.cache.pod? key = some pod) (staying : pod.isDeleting = false)
      (unfailing : ¬Happened fails past) (opened : Happened (opens key) past)
  /-- The finalizer was dropped, or the pod was found gone. -/
  | dismissed {key : ObjectKey} {pod : Pod} (named : ObjectKey.ofText text = .ok key)
      (cached : site.cache.pod? key = some pod) (leaving : pod.isDeleting = true)
      (unlapsed : ¬Happened lapses past) (dismissed : Happened (dismisses key) past)

/-- A machine was claimed for the gated pod of a work key, or the pod was told to select
a node, and no call failed. -/
structure Pinned (site : Site) (text : String) (past : List Happening) : Prop where
  gated : ∃ key pod, ObjectKey.ofText text = .ok key ∧ site.cache.pod? key = some pod ∧
    pod.isDeleting = false ∧ pod.gateCount ≠ 0 ∧ ¬Happened (opens key) past ∧
    Happened (pins key) past
  unfailing : ¬Happened fails past

theorem stayingVerdict_eq_forget_iff :
    stayingVerdict key past = .forget ↔ ¬Happened fails past ∧ Happened (opens key) past := by
  unfold stayingVerdict
  split_ifs <;> simp_all

theorem stayingVerdict_eq_immediate_iff :
    stayingVerdict key past = .immediate ↔
      ¬Happened fails past ∧ ¬Happened (opens key) past ∧ Happened (pins key) past := by
  unfold stayingVerdict
  split_ifs <;> simp_all

theorem leavingVerdict_eq_forget_iff :
    leavingVerdict key past = .forget ↔
      ¬Happened lapses past ∧ Happened (dismisses key) past := by
  unfold leavingVerdict
  split_ifs <;> simp_all

theorem leavingVerdict_ne_immediate : leavingVerdict key past ≠ .immediate := by
  unfold leavingVerdict
  split_ifs <;> simp

/-- The verdict on a work key is settled by the cached pod, but for a gated pod and for one
that departs with our finalizer still on. -/
theorem verdict_cases (site : Site) (text : String) (past : List Happening) :
    verdict site text past = .backOff ∨
      (Idle site text ∧ verdict site text past = .forget) ∨
      (∃ key pod, ObjectKey.ofText text = .ok key ∧ site.cache.pod? key = some pod ∧
        pod.isDeleting = false ∧ pod.gateCount ≠ 0 ∧
        verdict site text past = stayingVerdict key past) ∨
      ∃ key pod, ObjectKey.ofText text = .ok key ∧ site.cache.pod? key = some pod ∧
        pod.isDeleting = true ∧ verdict site text past = leavingVerdict key past := by
  cases named : ObjectKey.ofText text with
  | error fault => exact .inl (by simp [verdict, named])
  | ok key =>
      right
      cases cached : site.cache.pod? key with
      | none => exact .inl ⟨.gone named cached, by simp [verdict, named, cached]⟩
      | some pod =>
          cases deleting : pod.isDeleting with
          | true =>
              cases marked : pod.hasFinalizer with
              | true =>
                  exact .inr (.inr ⟨key, pod, rfl, cached, deleting, by
                    simp [verdict, named, cached, deleting, marked]⟩)
              | false =>
                  exact .inl ⟨.unmarked named cached deleting marked, by
                    simp [verdict, named, cached, deleting, marked]⟩
          | false =>
              by_cases ungated : pod.gateCount = 0
              · exact .inl ⟨.ungated named cached deleting ungated, by
                  simp [verdict, named, cached, deleting, ungated]⟩
              · exact .inr (.inl ⟨key, pod, rfl, cached, deleting, ungated, by
                  simp [verdict, named, cached, deleting, ungated]⟩)

theorem verdict_eq_forget_iff :
    verdict site text past = .forget ↔ Idle site text ∨ Completed site text past := by
  constructor
  · intro forgets
    rcases verdict_cases site text past with told | ⟨idle, -⟩ |
      ⟨key, pod, named, cached, staying, -, told⟩ | ⟨key, pod, named, cached, leaving, told⟩
    · rw [told] at forgets
      contradiction
    · exact .inl idle
    · obtain ⟨unfailing, opened⟩ := stayingVerdict_eq_forget_iff.mp (told.symm.trans forgets)
      exact .inr (.opened named cached staying unfailing opened)
    · obtain ⟨unlapsed, dismissed⟩ := leavingVerdict_eq_forget_iff.mp (told.symm.trans forgets)
      exact .inr (.dismissed named cached leaving unlapsed dismissed)
  · rintro ((⟨named, uncached⟩ | ⟨named, cached, staying, ungated⟩ |
      ⟨named, cached, leaving, unmarked⟩) | ⟨named, cached, staying, unfailing, opened⟩ |
      ⟨named, cached, leaving, unlapsed, dismissed⟩)
    · simp [verdict, named, uncached]
    · simp [verdict, named, cached, staying, ungated]
    · simp [verdict, named, cached, leaving, unmarked]
    · simp [verdict, named, cached, staying, stayingVerdict_eq_forget_iff, unfailing, opened]
    · simp [verdict, named, cached, leaving, leavingVerdict_eq_forget_iff, unlapsed, dismissed]

theorem verdict_eq_immediate_iff :
    verdict site text past = .immediate ↔ Pinned site text past := by
  constructor
  · intro hurries
    rcases verdict_cases site text past with told | ⟨-, told⟩ |
      ⟨key, pod, named, cached, staying, gated, told⟩ | ⟨key, pod, -, -, -, told⟩
    · rw [told] at hurries
      contradiction
    · rw [told] at hurries
      contradiction
    · obtain ⟨unfailing, unopened, pinned⟩ :=
        stayingVerdict_eq_immediate_iff.mp (told.symm.trans hurries)
      exact ⟨⟨key, pod, named, cached, staying, gated, unopened, pinned⟩, unfailing⟩
    · exact absurd (told.symm.trans hurries) leavingVerdict_ne_immediate
  · rintro ⟨⟨key, pod, named, cached, staying, gated, unopened, pinned⟩, unfailing⟩
    simp [verdict, named, cached, staying, gated, stayingVerdict_eq_immediate_iff, unfailing,
      unopened, pinned]

/-- A call that failed makes a pass back off, unless the pod departs and the call only found
gone what the departure does away with. -/
theorem verdict_of_failed {asked : Call} {fault : Fault} (busy : Busy site text)
    (failed : .answered asked (.error fault) ∈ past) :
    verdict site text past = .backOff ∨ mayBeGone asked = true ∧ fault.isNotFound = true ∧
      ∃ key pod, ObjectKey.ofText text = .ok key ∧ site.cache.pod? key = some pod ∧
        pod.isDeleting = true := by
  rcases busy with ⟨named, cached, staying, gated⟩ | ⟨named, cached, leaving, ours⟩
  · left
    have fails : Happened fails past := ⟨_, failed, rfl⟩
    simp [verdict, named, cached, staying, gated, stayingVerdict, fails]
  · by_cases excused : (mayBeGone asked && fault.isNotFound) = true
    · obtain ⟨mayBe, gone⟩ := Bool.and_eq_true_iff.mp excused
      exact .inr ⟨mayBe, gone, _, _, named, cached, leaving⟩
    · left
      have lapses : Happened lapses past := by
        refine ⟨_, failed, ?_⟩
        rw [Bool.not_eq_true] at excused
        rw [lapses, excused]
        rfl
      simp [verdict, named, cached, leaving, ours, leavingVerdict, lapses]

/-- In every run of a pass, the key is dropped exactly when there is nothing to do for the
pod or the last write for it went through, it is queued again at once exactly when a claim
or a selection went through and no call failed, and it backs off otherwise. A failed call
makes it back off, but for one that finds gone what a departure does away with. -/
theorem dispositions_sound {trace : List Happening} {disposition : Disposition}
    (run : Runs (pass site text) trace disposition) :
    (disposition = .forget ↔ Idle site text ∨ Completed site text trace) ∧
      (disposition = .immediate ↔ Pinned site text trace) ∧
      (¬(Idle site text ∨ Completed site text trace) → ¬Pinned site text trace →
        disposition = .backOff) ∧
      ∀ asked fault, .answered asked (.error fault) ∈ trace → disposition = .backOff ∨
        mayBeGone asked = true ∧ fault.isNotFound = true ∧
          ∃ key pod, ObjectKey.ofText text = .ok key ∧ site.cache.pod? key = some pod ∧
            pod.isDeleting = true := by
  obtain rfl : disposition = verdict site text trace := by
    simpa using pass_concludes.goal_of_runs run
  refine ⟨verdict_eq_forget_iff, verdict_eq_immediate_iff, ?_, ?_⟩
  · intro unfinished unpinned
    cases ends : verdict site text trace with
    | forget => exact absurd (verdict_eq_forget_iff.mp ends) unfinished
    | immediate => exact absurd (verdict_eq_immediate_iff.mp ends) unpinned
    | backOff => rfl
  · intro asked fault failed
    obtain ⟨before, after, split⟩ := List.append_of_mem failed
    exact verdict_of_failed (pass_concludes.rule_of_runs run split) failed

/-- The key of a pod whose machine is ready is dropped as its gate was taken off, and backs
off when its node cannot be reserved. -/
theorem claimed_machine_disposed_of :
    let reserve : Call :=
      .changeNode "m" ⟨none, [NodePatch.claimedTaint "p.maroonedpods.io"]⟩
    let lift : Call := .changePod "a" "p" ⟨none, .gates []⟩
    (∃ told, Runs (pass claimedSite "a/p")
        [.answered reserve (.ok ()), .answered lift (.ok ()), .told told] .forget ∧
      (Idle claimedSite "a/p" ∨ Completed claimedSite "a/p"
        [.answered reserve (.ok ()), .answered lift (.ok ()), .told told])) ∧
    ∃ told, Runs (pass claimedSite "a/p")
        [.answered reserve (.error (.conflict "node changed")), .told told] .backOff ∧
      ¬Pinned claimedSite "a/p"
        [.answered reserve (.error (.conflict "node changed")), .told told] := by
  intro reserve lift
  obtain ⟨told, released⟩ : ∃ told, Runs (pass claimedSite "a/p")
      [.answered reserve (.ok ()), .answered lift (.ok ()), .told told] .forget :=
    ⟨_, .request (.request (.signal .done))⟩
  obtain ⟨line, refused⟩ : ∃ line, Runs (pass claimedSite "a/p")
      [.answered reserve (.error (.conflict "node changed")), .told line] .backOff :=
    ⟨_, .request (.signal .done)⟩
  refine ⟨⟨told, released, (dispositions_sound released).1.mp rfl⟩, line, refused, ?_⟩
  intro pinned
  exact nomatch (dispositions_sound refused).2.1.mpr pinned

end Release

end NodeGate
