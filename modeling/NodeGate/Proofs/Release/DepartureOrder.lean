import NodeGate.Proofs.Release.DepartureCalls

/-!
# The order of a departure

What a pass over a deleting pod does, in which order and up to which failure. It makes the
calls of a departure one after the other and stops at the first that is not done, so that
the finalizer goes only after everything else was done. A machine is counted as returned
exactly when it was put back into the pool.
-/

namespace NodeGate.Release

open Program

variable {site : Site} {key : ObjectKey} {pod : Pod} {vmi : Vmi}
  {past trace before after : List Happening}

/-- A machine without a namespace or a name cannot be given back, and then nothing else
is done either. -/
theorem depart_of_unaddressed {outcome : Except Fault Disposition}
    (unaddressed : ¬IsAddressed site key) (ours : pod.hasFinalizer = true)
    (run : Runs (depart site key pod) trace outcome) :
    trace = [] ∧ ∃ fault, outcome = .error fault := by
  unfold IsAddressed at unaddressed
  simp only [Classical.not_forall, not_exists] at unaddressed
  obtain ⟨vmi, holds, unkeyed⟩ := unaddressed
  cases keyed : vmi.key with
  | ok held => exact absurd keyed (unkeyed held)
  | error fault =>
      have fails : depart site key pod = pure (.error fault) := by
        simp [depart, ours, releaseMachine, giveBackClaimed, holds, giveBack, keyed]
      rw [fails] at run
      obtain ⟨rfl, rfl⟩ := runs_done_iff.mp run
      exact ⟨rfl, fault, rfl⟩

/-- A pass over a deleting pod is its departure, and a fault of it is logged and backs
off. -/
theorem pass_departs {text : String} {disposition : Disposition}
    (run : Runs (pass site text) trace disposition) (named : ObjectKey.ofText text = .ok key)
    (cached : site.cache.pod? key = some pod) (leaving : pod.isDeleting = true) :
    Runs (depart site key pod) trace (.ok disposition) ∨
      ∃ before line fault, trace = before ++ [.told (.log line)] ∧ disposition = .backOff ∧
        Runs (depart site key pod) before (.error fault) := by
  obtain ⟨before, after, outcome, rfl, first, last⟩ := runs_bind_iff.mp run
  have departs : attempt site text = depart site key pod := by
    simp [attempt, named, cached, attend, leaving]
  rw [departs] at first
  cases outcome with
  | ok value =>
      obtain ⟨rfl, rfl⟩ := runs_done_iff.mp last
      rw [List.append_nil]
      exact .inl first
  | error fault =>
      obtain ⟨_, rfl, finished⟩ := runs_signal_iff.mp last
      obtain ⟨rfl, rfl⟩ := runs_done_iff.mp finished
      exact .inr ⟨before, _, fault, rfl, rfl, first⟩

/-- What the pod holds in the cache was put back into the pool. -/
def IsReturned (site : Site) (key : ObjectKey) (past : List Happening) : Prop :=
  ∀ vmi, site.cache.heldBy? key.text = some vmi → ∃ held stored, vmi.key = .ok held ∧
    .answered (.changeMachine held.space held.name (.giveBack vmi.metadata.resourceVersion))
      (.ok stored) ∈ past

/-- The machine named after the pod was deleted or found gone; or it is one of the pool in
the cache; or the API server, asked because none is cached, told of none but one of the
pool. -/
def IsDeleted (site : Site) (key : ObjectKey) (past : List Happening) : Prop :=
  (∃ answer, .answered (.deleteMachine key.space key.name none) answer ∈ past ∧
    Done (.deleteMachine key.space key.name none) answer) ∨
  (∃ vmi, site.cache.vmi? key = some vmi ∧ vmi.isPooled = true) ∨
  (site.cache.vmi? key = none ∧ ∃ found,
    .answered (.readMachine key.space key.name) (.ok found) ∈ past ∧
      ∀ vmi, found = some vmi → vmi.isPooled = true)

/-- A pass over a deleting pod goes through its departure in order. -/
structure DepartsInOrder (site : Site) (key : ObjectKey) (pod : Pod) (trace : List Happening)
    (disposition : Disposition) : Prop where
  /-- The calls come in the order of the departure, from its first on. -/
  planned : calls trace <+: departing site key pod (toldMachine? key trace)
  /-- A call that is not done is the last, and the key backs off. -/
  stops : ∀ before asked answer after, trace = before ++ .answered asked answer :: after →
    ¬Done asked answer → calls after = [] ∧ disposition = .backOff
  /-- When every call is done, all of them are made and the key is dropped. -/
  completes : IsAddressed site key →
    (∀ asked answer, .answered asked answer ∈ trace → Done asked answer) →
      calls trace = departing site key pod (toldMachine? key trace) ∧ disposition = .forget
  /-- The finalizer is dropped only after all machines of the pod were seen to. -/
  dismisses : ∀ before patch answer after,
    trace = before ++ .answered (.changePod key.space key.name patch) answer :: after →
      IsReturned site key before ∧ IsDeleted site key before
  /-- A return is counted when the machine was put back into the pool. -/
  counts : ∀ counters : Counters, (∃ happening ∈ trace, isReturn happening = true) →
    ((signals trace).foldl Counters.observe counters).returned = counters.returned + 1
  /-- No other return is counted. -/
  counts_only : ∀ counters : Counters, (∀ happening ∈ trace, isReturn happening = false) →
    ((signals trace).foldl Counters.observe counters).returned = counters.returned

theorem exists_answered {asked : Call} {past : List Happening} (member : asked ∈ calls past) :
    ∃ answer, .answered asked answer ∈ past := by
  obtain ⟨⟨other, answer⟩ | told, happened, same⟩ := List.mem_filterMap.mp member
  · cases same
    exact ⟨answer, happened⟩
  · contradiction

/-- Of a machine that was read something was told, and the first of it stays. -/
theorem exists_told_of_read {found : Option Vmi} (after : List Happening)
    (read : .answered (.readMachine key.space key.name) (.ok found) ∈ before) :
    .answered (.readMachine key.space key.name) (.ok (toldMachine? key (before ++ after))) ∈
      before := by
  induction before with
  | nil => simp at read
  | cons first before ih =>
      rcases List.mem_cons.mp read with rfl | read
      · rw [List.cons_append, toldMachine?_cons_read]
        exact List.mem_cons_self
      · have later := List.mem_cons_of_mem first (ih read)
        rcases first with ⟨asked, answer⟩ | told
        · cases asked with
          | readMachine space name =>
              cases answer with
              | error fault => exact later
              | ok other =>
                  simp only [List.cons_append, toldMachine?]
                  split
                  next same =>
                    obtain ⟨rfl, rfl⟩ := same
                    exact List.mem_cons_self
                  next => exact later
          | _ => exact later
        · exact later

/-- What precedes a call that is not in the first part of a plan is all of that part. -/
theorem prefix_of_not_mem {front first last : List Call} {asked : Call}
    (planned : front ++ [asked] <+: first ++ last) (absent : asked ∉ first) :
    first <+: front := by
  rcases List.prefix_or_prefix_of_prefix planned (List.prefix_append first last) with inside | past
  · exact absurd (inside.subset (by simp)) absent
  · rcases List.prefix_concat_iff.mp past with rfl | past
    · exact absurd (by simp) absent
    · exact past

theorem not_dismiss_returning {space name : String} {patch : PodPatch} :
    .changePod space name patch ∉ returning site key := by
  unfold returning
  split
  · simp
  · split
    · simp
    · unfold freeing
      split <;> simp

theorem not_dismiss_deleting {found : Option Vmi} {space name : String} {patch : PodPatch} :
    .changePod space name patch ∉ deleting site key found := by
  have undismissed (found : Option Vmi) : .changePod space name patch ∉ deletion key found := by
    unfold deletion
    split
    · simp
    · split <;> simp
  unfold deleting
  split
  · exact undismissed _
  · split <;> simp [undismissed]

theorem isReturned_of_calls (addressed : IsAddressed site key)
    (made : ∀ asked ∈ returning site key, asked ∈ calls before)
    (done : ∀ asked answer, .answered asked answer ∈ before → Done asked answer) :
    IsReturned site key before := by
  intro vmi holds
  obtain ⟨held, keyed⟩ := addressed vmi holds
  have planned : .changeMachine held.space held.name (.giveBack vmi.metadata.resourceVersion) ∈
      returning site key := by
    simp [returning, holds, keyed]
  obtain ⟨answer, answered⟩ := exists_answered (made _ planned)
  cases answer with
  | error fault => exact absurd (done _ _ answered).1 (by simp [mayBeGone])
  | ok stored => exact ⟨held, stored, keyed, answered⟩

theorem isDeleted_of_calls
    (made : ∀ asked ∈ deleting site key (toldMachine? key (before ++ after)),
      asked ∈ calls before)
    (done : ∀ asked answer, .answered asked answer ∈ before → Done asked answer) :
    IsDeleted site key before := by
  have deleted (planned : .deleteMachine key.space key.name none ∈
      deleting site key (toldMachine? key (before ++ after))) : IsDeleted site key before := by
    obtain ⟨answer, answered⟩ := exists_answered (made _ planned)
    exact .inl ⟨answer, answered, done _ _ answered⟩
  cases cached : site.cache.vmi? key with
  | some vmi =>
      cases pooled : vmi.isPooled with
      | true => exact .inr (.inl ⟨vmi, cached, pooled⟩)
      | false => exact deleted (by simp [deleting, cached, deletion, pooled])
  | none =>
      cases holds : (site.cache.heldBy? key.text).isSome with
      | false => exact deleted (by simp [deleting, cached, holds])
      | true =>
          have planned : .readMachine key.space key.name ∈
              deleting site key (toldMachine? key (before ++ after)) := by
            simp [deleting, cached, holds]
          obtain ⟨answer, answered⟩ := exists_answered (made _ planned)
          cases answer with
          | error fault => exact absurd (done _ _ answered).1 (by simp [mayBeGone])
          | ok found =>
              have told := exists_told_of_read after answered
              cases found_eq : toldMachine? key (before ++ after) with
              | none =>
                  rw [found_eq] at told
                  exact .inr (.inr ⟨cached, none, told, by simp⟩)
              | some vmi =>
                  cases pooled : vmi.isPooled with
                  | true =>
                      rw [found_eq] at told
                      refine .inr (.inr ⟨cached, some vmi, told, ?_⟩)
                      rintro _ ⟨⟩
                      exact pooled
                  | false =>
                      exact deleted (by simp [deleting, cached, holds, deletion, found_eq, pooled])

/-- A departure has at most one machine put back into the pool. -/
theorem countP_departing_le (site : Site) (key : ObjectKey) (pod : Pod) (found : Option Vmi) :
    (departing site key pod found).countP isRelabel ≤ 1 := by
  have freed (held : ObjectKey) : (freeing site key held).countP isRelabel = 0 := by
    rw [List.countP_eq_zero]
    unfold freeing
    split <;> simp [isRelabel]
  have deleted (found : Option Vmi) : (deletion key found).countP isRelabel = 0 := by
    unfold deletion
    split
    · rfl
    · split <;> rfl
  have dismissed : (dismissing key pod).countP isRelabel = 0 := by
    simp [dismissing, isRelabel]
  have second : (deleting site key found).countP isRelabel = 0 := by
    unfold deleting
    split
    · exact deleted _
    · split
      · rw [List.countP_cons_of_neg (by simp [isRelabel])]
        exact deleted _
      · rfl
  rw [departing, List.countP_append, List.countP_append, second, dismissed]
  unfold returning
  split
  · simp
  · split
    · simp
    · rw [List.countP_append, freed]
      exact Nat.le_refl 1

/-- Only lines were logged. -/
def OnlyLogs (past : List Happening) : Prop :=
  ∀ happening ∈ past, ∃ line, happening = .told (.log line)

theorem OnlyLogs.calls_eq (logged : OnlyLogs past) : calls past = [] := by
  refine List.filterMap_eq_nil_iff.mpr fun happening member => ?_
  obtain ⟨line, rfl⟩ := logged happening member
  rfl

theorem OnlyLogs.not_isReturn (logged : OnlyLogs past) {happening : Happening}
    (member : happening ∈ past) : isReturn happening = false := by
  obtain ⟨line, rfl⟩ := logged happening member
  rfl

theorem OnlyLogs.counted (logged : OnlyLogs past) (counters : Counters) :
    (signals past).foldl Counters.observe counters = counters := by
  induction past with
  | nil => rfl
  | cons first past ih =>
      obtain ⟨line, rfl⟩ := logged first (by simp)
      exact ih fun happening member => logged happening (List.mem_cons_of_mem _ member)

/-- A call that was made was made before the lines that were logged at the end. -/
theorem OnlyLogs.split {logs : List Happening} {asked : Call} {answer : Except Fault asked.Answer}
    (logged : OnlyLogs logs) (split : trace ++ logs = before ++ .answered asked answer :: after) :
    ∃ between, trace = before ++ .answered asked answer :: between ∧ after = between ++ logs := by
  have silent : .answered asked answer ∉ logs := by
    intro member
    obtain ⟨line, same⟩ := logged _ member
    contradiction
  rcases List.append_eq_append_iff.mp split with ⟨late, rfl, rest⟩ | ⟨early, rfl, rest⟩
  · exact absurd (by simp [rest]) silent
  · cases early with
    | nil => exact absurd (by rw [← List.nil_append logs, ← rest]; simp) silent
    | cons first between =>
        obtain ⟨rfl, rfl⟩ := List.cons.inj rest
        exact ⟨between, rfl, rfl⟩

/-- A departure that is carried out up to its end or its failure is in order. -/
theorem Carries.departsInOrder {outcome : Except Fault Disposition} {disposition : Disposition}
    {logs : List Happening}
    (carries : Carries (departing site key pod (toldMachine? key trace)) trace outcome)
    (addressed : IsAddressed site key) (logged : OnlyLogs logs)
    (ends : ∀ value, outcome = .ok value → disposition = .forget)
    (fails : ∀ fault, outcome = .error fault → disposition = .backOff) :
    DepartsInOrder site key pod (trace ++ logs) disposition := by
  have calls_eq : calls (trace ++ logs) = calls trace := by
    rw [calls_append, logged.calls_eq, List.append_nil]
  have told_eq : toldMachine? key (trace ++ logs) = toldMachine? key trace := by
    apply toldMachine?_append_right
    simp [Unread, logged.calls_eq]
  have counted (counters : Counters) :
      ((signals (trace ++ logs)).foldl Counters.observe counters).returned =
        counters.returned + trace.countP isReturn := by
    rw [signals_append, List.foldl_append, logged.counted, carries.counted]
  constructor
  · rw [calls_eq, told_eq]
    exact carries.calls_prefix
  · intro before asked answer after split undone
    obtain ⟨between, rfl, rfl⟩ := logged.split split
    obtain ⟨cut, fault, failed⟩ := (carries.around rfl).2 undone
    rw [calls_append, cut, logged.calls_eq]
    exact ⟨rfl, fails fault failed⟩
  · intro _ done
    obtain ⟨all, value, ended⟩ :=
      carries.complete fun asked answer member => done asked answer (List.mem_append_left _ member)
    rw [calls_eq, told_eq]
    exact ⟨all, ends value ended⟩
  · intro before patch answer after split
    obtain ⟨between, rfl, -⟩ := logged.split split
    have done := (carries.around rfl).1
    have planned : calls before ++ [.changePod key.space key.name patch] <+:
        departing site key pod (toldMachine? key
          (before ++ .answered (.changePod key.space key.name patch) answer :: between)) := by
      refine List.IsPrefix.trans ?_ carries.calls_prefix
      rw [calls_append]
      exact (List.prefix_append_right_inj _).mpr (by simp)
    have made := (prefix_of_not_mem planned (by
      simp [not_dismiss_returning, not_dismiss_deleting])).subset
    exact ⟨isReturned_of_calls addressed
        (fun asked member => made (List.mem_append_left _ member)) done,
      isDeleted_of_calls (fun asked member => made (List.mem_append_right _ member)) done⟩
  · rintro counters ⟨happening, member, returns⟩
    have among : happening ∈ trace := by
      refine (List.mem_append.mp member).resolve_right fun late => ?_
      simp [logged.not_isReturn late] at returns
    have positive : 0 < trace.countP isReturn := List.countP_pos_iff.mpr ⟨_, among, returns⟩
    have atMost : trace.countP isReturn ≤ 1 :=
      Nat.le_trans carries.countP_isReturn_le (countP_departing_le ..)
    rw [counted]
    omega
  · intro counters unreturned
    have none : trace.countP isReturn = 0 := by
      rw [List.countP_eq_zero]
      intro happening member
      simp [unreturned happening (List.mem_append_left _ member)]
    rw [counted, none, Nat.add_zero]

/-- Every pass over a deleting pod that carries our finalizer goes through its departure
in order, whatever its calls are answered. -/
theorem pass_departs_in_order {text : String} {disposition : Disposition}
    (run : Runs (pass site text) trace disposition) (named : ObjectKey.ofText text = .ok key)
    (cached : site.cache.pod? key = some pod) (leaving : pod.isDeleting = true)
    (ours : pod.hasFinalizer = true) : DepartsInOrder site key pod trace disposition := by
  have bare := ObjectKey.afterLastSlash_text named
  by_cases addressed : IsAddressed site key
  · rcases pass_departs run named cached leaving with
      departs | ⟨before, line, fault, rfl, rfl, departs⟩
    · obtain ⟨carries, forgets⟩ := depart_carries bare addressed ours departs
      rw [← List.append_nil trace]
      exact carries.departsInOrder addressed (by simp [OnlyLogs])
        (fun _ _ => forgets disposition rfl) nofun
    · obtain ⟨carries, -⟩ := depart_carries bare addressed ours departs
      exact carries.departsInOrder addressed (by simp [OnlyLogs]) nofun (fun _ _ => rfl)
  · -- Nothing is called for a machine that cannot be addressed.
    rcases pass_departs run named cached leaving with
      departs | ⟨before, line, fault, rfl, rfl, departs⟩
    · obtain ⟨-, fault, ended⟩ := depart_of_unaddressed addressed ours departs
      contradiction
    · obtain ⟨rfl, -⟩ := depart_of_unaddressed addressed ours departs
      constructor
      · exact List.nil_prefix
      · intro before asked answer after split
        cases before <;> simp at split
      · exact fun other => absurd other addressed
      · intro before patch answer after split
        cases before <;> simp at split
      · rintro counters ⟨happening, member, returns⟩
        rw [List.nil_append, List.mem_singleton] at member
        simp [member, isReturn] at returns
      · exact fun counters _ => rfl

/-- A pod whose deletion was asked for. -/
def leavingPod : Pod where
  metadata :=
    { name := some "p"
      space := some "a"
      finalizers := some [finalizerName]
      deletionTimestamp := some ⟨⟨2024, 1, 1⟩, 0, 0, 0, 0⟩ }

/-- A pool machine that the pod holds, with its tainted node. -/
def leavingSite : Site where
  cache :=
    { pods := [leavingPod]
      vmis :=
        [{ metadata :=
            { name := some "m"
              space := some "pool"
              labels := some
                [(claimantLabel, "a/p"), (poolStateLabel, PoolState.claimed.label)] }
           spec := {} }]
      nodes :=
        [{ metadata := { name := some "m" }
           taints := some [NodePatch.claimedTaint "p.maroonedpods.io"] }] }

/-- All five calls of a departure are made, though the machine of the pod's own was gone
when it was to be deleted. -/
theorem leavingPod_departs_in_order :
    let stored : Vmi := { metadata := {}, spec := {} }
    let trace (told : Signal) : List Happening :=
      [.answered (.changeNode "m" ⟨none, []⟩) (.ok ()),
        .answered (.changeMachine "pool" "m" (.giveBack none)) (.ok stored), .told .returned,
        .told told, .answered (.readMachine "a" "p") (.ok (some stored)),
        .answered (.deleteMachine "a" "p" none) (.error (.notFound "gone")),
        .answered (.changePod "a" "p" ⟨none, .finalizers []⟩) (.ok ())]
    ∃ told, Runs (pass leavingSite "a/p") (trace told) .forget ∧
      DepartsInOrder leavingSite ⟨"a", "p"⟩ leavingPod (trace told) .forget := by
  intro stored trace
  obtain ⟨told, run⟩ : ∃ told, Runs (pass leavingSite "a/p") (trace told) .forget :=
    ⟨_, .request (.request (.signal (.signal (.request (.request (.request .done))))))⟩
  exact ⟨told, run, pass_departs_in_order run rfl rfl rfl rfl⟩

end NodeGate.Release
