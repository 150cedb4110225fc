import NodeGate.Proofs.Release.Carrying
import NodeGate.Proofs.Release.Gate

/-!
# The calls of a departure

The cache and the answer to its one question settle the calls of a departure: the node of
the claimed machine is freed, the machine is put back into the pool, the machine named
after the pod is deleted, and then the finalizer is dropped. Each part of the departure
carries out its calls.
-/

namespace NodeGate.Release

open Program

/-- How the node of a claimed machine is freed, if it is there with the taint. -/
def freeing (site : Site) (key held : ObjectKey) : List Call :=
  match site.cache.node? held.name with
  | none => []
  | some node =>
    ((NodePatch.withoutTaint? node (reservationKey key.name site.defaults.taintKey)).map
      (Call.changeNode held.name)).toList

/-- How the machine that the pod holds is put back into the pool. -/
def returning (site : Site) (key : ObjectKey) : List Call :=
  match site.cache.heldBy? key.text with
  | none => []
  | some vmi =>
    match vmi.key with
    | .error _ => []
    | .ok held =>
      freeing site key held ++
        [.changeMachine held.space held.name (.giveBack vmi.metadata.resourceVersion)]

/-- How a machine named after the pod is deleted, unless it is one of the pool. -/
def deletion (key : ObjectKey) : Option Vmi → List Call
  | none => []
  | some vmi => if vmi.isPooled then [] else [.deleteMachine key.space key.name none]

/-- How the machine named after the pod is deleted. When none is cached the API server
is asked first about a pod that held another, and what it tells is the one found. -/
def deleting (site : Site) (key : ObjectKey) (found : Option Vmi) : List Call :=
  match site.cache.vmi? key with
  | some vmi => deletion key (some vmi)
  | none =>
    if (site.cache.heldBy? key.text).isSome then
      .readMachine key.space key.name :: deletion key found
    else [.deleteMachine key.space key.name none]

/-- How the finalizer is dropped. -/
def dismissing (key : ObjectKey) (pod : Pod) : List Call :=
  ((PodPatch.withoutFinalizer? pod).map (Call.changePod key.space key.name)).toList

/-- The calls of a departure. -/
def departing (site : Site) (key : ObjectKey) (pod : Pod) (found : Option Vmi) : List Call :=
  returning site key ++ deleting site key found ++ dismissing key pod

variable {site : Site} {key : ObjectKey} {pod : Pod} {vmi : Vmi}
  {past trace before after : List Happening}

theorem freeNode_carries {held : ObjectKey} {outcome : Except Fault Unit}
    (claimed : vmi.claimant? = some key.text) (bare : afterLastSlash key.text = key.name)
    (run : Runs (freeNode site held.name vmi) trace outcome) :
    Carries (freeing site key held) trace outcome := by
  unfold freeNode at run
  unfold freeing
  cases joined : site.cache.node? held.name with
  | none =>
      simp only [claimed, joined] at run
      obtain ⟨rfl, rfl⟩ := runs_done_iff.mp run
      exact .done
  | some node =>
      simp only [claimed, joined, bare] at run
      dsimp only
      cases untainted : NodePatch.withoutTaint? node
          (reservationKey key.name site.defaults.taintKey) with
      | none =>
          simp only [untainted] at run
          obtain ⟨rfl, rfl⟩ := runs_done_iff.mp run
          exact .done
      | some patch =>
          simp only [untainted] at run
          refine carries_lenient rfl ?_ (fun _ => rfl) run
          intro answer rest last ended
          obtain ⟨rfl, rfl⟩ := runs_done_iff.mp ended
          exact .done

/-- Giving a machine back frees its node and then puts it back into the pool. -/
theorem giveBack_carries {held : ObjectKey} {outcome : Except Fault Unit}
    (keyed : vmi.key = .ok held) (claimed : vmi.claimant? = some key.text)
    (bare : afterLastSlash key.text = key.name)
    (run : Runs (giveBack site vmi) trace outcome) :
    Carries (freeing site key held ++
      [.changeMachine held.space held.name (.giveBack vmi.metadata.resourceVersion)])
      trace outcome := by
  unfold giveBack at run
  simp only [keyed] at run
  refine carries_bind (fun _ _ => freeNode_carries claimed bare) ?_ ?_ run
  · intro _ rest last relabels
    obtain ⟨_, after, answer, rfl, first, ended⟩ := runs_bind_iff.mp relabels
    obtain ⟨_, _, rfl, called⟩ := runs_request_iff.mp first
    obtain ⟨rfl, rfl⟩ := runs_done_iff.mp called
    cases answer with
    | error fault =>
        obtain ⟨rfl, rfl⟩ := runs_done_iff.mp ended
        exact .failed (by simp [Done, mayBeGone])
    | ok stored =>
        obtain ⟨_, rfl, finished⟩ := runs_signal_iff.mp ended
        obtain ⟨rfl, rfl⟩ := runs_done_iff.mp finished
        exact .returned .done
  · exact fun _ => rfl

/-- The machine that the pod holds has a namespace and a name. -/
def IsAddressed (site : Site) (key : ObjectKey) : Prop :=
  ∀ vmi, site.cache.heldBy? key.text = some vmi → ∃ held, vmi.key = .ok held

/-- What the pod holds is given back, and that there was something is told. -/
theorem giveBackClaimed_carries {outcome : Except Fault Bool}
    (bare : afterLastSlash key.text = key.name) (addressed : IsAddressed site key)
    (run : Runs (giveBackClaimed site key pod) trace outcome) :
    Carries (returning site key) trace outcome ∧
      ∀ returned, outcome = .ok returned →
        returned = (site.cache.heldBy? key.text).isSome := by
  unfold giveBackClaimed at run
  unfold returning
  cases holds : site.cache.heldBy? key.text with
  | none =>
      simp only [holds] at run
      obtain ⟨rfl, rfl⟩ := runs_done_iff.mp run
      exact ⟨.done, fun _ ended => (Except.ok.inj ended).symm⟩
  | some vmi =>
      obtain ⟨held, keyed⟩ := addressed vmi holds
      have claimed := (Cache.heldBy?_eq_some holds).2.2.2
      simp only [holds] at run
      simp only [keyed]
      obtain ⟨before, after, middle, rfl, first, last⟩ := runs_bind_iff.mp run
      have carries := giveBack_carries keyed claimed bare first
      cases middle with
      | error fault =>
          obtain ⟨rfl, rfl⟩ := runs_done_iff.mp last
          rw [List.append_nil]
          exact ⟨carries.map fun _ => true, nofun⟩
      | ok _ =>
          obtain ⟨_, rfl, finished⟩ := runs_signal_iff.mp last
          obtain ⟨rfl, rfl⟩ := runs_done_iff.mp finished
          rw [← List.append_nil (freeing site key held ++ _)]
          exact ⟨carries.append (.told nofun .done), fun _ ended => (Except.ok.inj ended).symm⟩

theorem deleteDedicated_carries {outcome : Except Fault Unit}
    (run : Runs (deleteDedicated key pod) trace outcome) :
    Carries [.deleteMachine key.space key.name none] trace outcome := by
  refine carries_lenient rfl ?_ (fun _ => rfl) run
  intro answer rest last ended
  obtain ⟨_, rfl, finished⟩ := runs_signal_iff.mp ended
  obtain ⟨rfl, rfl⟩ := runs_done_iff.mp finished
  exact .told nofun .done

theorem dropFinalizer_carries {outcome : Except Fault Unit}
    (run : Runs (dropFinalizer key pod) trace outcome) :
    Carries (dismissing key pod) trace outcome := by
  unfold dropFinalizer at run
  unfold dismissing
  cases dropped : PodPatch.withoutFinalizer? pod with
  | none =>
      simp only [dropped] at run
      obtain ⟨rfl, rfl⟩ := runs_done_iff.mp run
      exact .done
  | some patch =>
      simp only [dropped] at run
      refine carries_lenient rfl ?_ (fun _ => rfl) run
      intro answer rest last ended
      obtain ⟨rfl, rfl⟩ := runs_done_iff.mp ended
      exact .done

/-- Nothing was read of a machine. -/
def Unread (past : List Happening) : Prop :=
  ∀ space name, .readMachine space name ∉ calls past

theorem toldMachine?_append_left (unread : Unread before) :
    toldMachine? key (before ++ after) = toldMachine? key after := by
  induction before with
  | nil => rfl
  | cons first before ih =>
      have later : Unread before := by
        intro space name member
        apply unread space name
        cases first <;> simp [member]
      cases first with
      | told => exact ih later
      | answered asked answer =>
          cases asked with
          | readMachine space name => exact absurd (by simp) (unread space name)
          | _ => exact ih later

theorem toldMachine?_append_right (unread : Unread after) :
    toldMachine? key (before ++ after) = toldMachine? key before := by
  have silent : toldMachine? key after = none := by
    rw [← List.append_nil after, toldMachine?_append_left unread]
    rfl
  induction before with
  | nil => exact silent
  | cons first before ih =>
      rcases first with ⟨asked, answer⟩ | told
      · cases asked with
        | readMachine space name =>
            cases answer with
            | error fault => exact ih
            | ok found =>
                simp only [List.cons_append, toldMachine?]
                split
                · rfl
                · exact ih
        | _ => exact ih
      · exact ih

theorem Carries.unread (carries : Carries plan trace outcome)
    (unasked : ∀ space name, .readMachine space name ∉ plan) : Unread trace :=
  fun space name member => unasked space name (carries.calls_prefix.subset member)

theorem not_read_returning {space name : String} :
    .readMachine space name ∉ returning site key := by
  unfold returning
  split
  · simp
  · split
    · simp
    · unfold freeing
      split <;> simp

theorem not_read_dismissing {space name : String} :
    .readMachine space name ∉ dismissing key pod := by
  simp [dismissing]

/-- A machine named after the pod that turned up is deleted unless it is one of the pool. -/
theorem deletion_carries {outcome : Except Fault Unit}
    (run : Runs (if vmi.isPooled then pure (.ok ()) else deleteDedicated key pod) trace outcome) :
    Carries (deletion key (some vmi)) trace outcome := by
  simp only [deletion]
  split at run
  next pooled =>
    obtain ⟨rfl, rfl⟩ := runs_done_iff.mp run
    rw [if_pos pooled]
    exact .done
  next own =>
    rw [if_neg own]
    exact deleteDedicated_carries run

/-- Releasing a machine puts what the pod holds back into the pool, and then deletes
what is named after the pod. -/
theorem releaseMachine_carries {outcome : Except Fault Unit}
    (bare : afterLastSlash key.text = key.name) (addressed : IsAddressed site key)
    (run : Runs (releaseMachine site key pod) trace outcome) :
    Carries (returning site key ++ deleting site key (toldMachine? key trace)) trace outcome := by
  obtain ⟨before, after, middle, rfl, first, last⟩ := runs_bind_iff.mp run
  obtain ⟨carries, returned_eq⟩ := giveBackClaimed_carries bare addressed first
  rw [toldMachine?_append_left (carries.unread fun _ _ => not_read_returning)]
  cases middle with
  | error fault =>
      obtain ⟨rfl, rfl⟩ := runs_done_iff.mp last
      rw [List.append_nil]
      exact carries.abandon
  | ok returned =>
      obtain rfl := returned_eq returned rfl
      refine carries.append ?_
      unfold deleting
      cases cached : site.cache.vmi? key with
      | some vmi =>
          simp only [cached] at last
          exact deletion_carries last
      | none =>
          simp only [cached] at last
          dsimp only
          split at last
          next holds =>
            rw [if_pos holds]
            obtain ⟨_, rest, answer, rfl, read, ended⟩ := runs_bind_iff.mp last
            obtain ⟨_, _, rfl, called⟩ := runs_request_iff.mp read
            obtain ⟨rfl, rfl⟩ := runs_done_iff.mp called
            rcases answer with fault | _ | vmi
            · obtain ⟨rfl, rfl⟩ := runs_done_iff.mp ended
              exact .failed (by simp [Done, mayBeGone])
            · obtain ⟨rfl, rfl⟩ := runs_done_iff.mp ended
              rw [List.append_nil, toldMachine?_cons_read]
              exact .answered rfl trivial .done
            · rw [List.singleton_append, toldMachine?_cons_read]
              exact .answered rfl trivial (deletion_carries ended)
          next idle =>
            rw [if_neg idle]
            exact deleteDedicated_carries last

/-- A departure carries out its calls. -/
theorem depart_carries {outcome : Except Fault Disposition}
    (bare : afterLastSlash key.text = key.name) (addressed : IsAddressed site key)
    (ours : pod.hasFinalizer = true) (run : Runs (depart site key pod) trace outcome) :
    Carries (departing site key pod (toldMachine? key trace)) trace outcome ∧
      ∀ disposition, outcome = .ok disposition → disposition = .forget := by
  unfold depart at run
  rw [if_neg (by simp [ours])] at run
  obtain ⟨before, after, released, rfl, first, last⟩ := runs_bind_iff.mp run
  have carries := releaseMachine_carries bare addressed first
  cases released with
  | error fault =>
      obtain ⟨rfl, rfl⟩ := runs_done_iff.mp last
      rw [List.append_nil]
      exact ⟨carries.abandon, nofun⟩
  | ok _ =>
      obtain ⟨between, rest, dropped, rfl, drops, ended⟩ := runs_bind_iff.mp last
      have dismisses := dropFinalizer_carries drops
      have unread := dismisses.unread fun _ _ => not_read_dismissing
      have whole := carries.append dismisses
      rw [← toldMachine?_append_right unread] at whole
      cases dropped with
      | error fault =>
          obtain ⟨rfl, rfl⟩ := runs_done_iff.mp ended
          rw [List.append_nil]
          exact ⟨whole.map fun _ => Disposition.forget, nofun⟩
      | ok _ =>
          obtain ⟨rfl, rfl⟩ := runs_done_iff.mp ended
          rw [List.append_nil]
          exact ⟨whole.map fun _ => Disposition.forget, fun _ same => (Except.ok.inj same).symm⟩

end NodeGate.Release
