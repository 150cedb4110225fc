import NodeGate.Cluster.Trace

/-!
# Carrying out calls in order

A part of a pass has its calls laid out before it: it makes them one after the other, and
stops at the first that does not do its work. Such a part *carries out* its calls, and
parts that follow each other carry out theirs in a row. The relation is between the calls
that are planned, what happened and the outcome, so that what the calls of a trace are,
where it stops and what it counts are read off it by induction.
-/

namespace NodeGate.Release

open Program

/-- The calls that were made. -/
def calls (past : List Happening) : List Call :=
  past.filterMap fun
    | .answered asked _ => some asked
    | .told _ => none

/-- The signals that were given. -/
def signals (past : List Happening) : List Signal :=
  past.filterMap fun
    | .answered _ _ => none
    | .told told => some told

/-- Whether a departure has nothing left to do by a call that finds its object gone. -/
def mayBeGone : Call → Bool
  | .changeNode .. | .deleteMachine .. | .changePod .. => true
  | _ => false

/-- A departure takes a call as done: it succeeded, or its object is gone and nothing is
left to do. -/
def Done (asked : Call) : Except Fault asked.Answer → Prop
  | .ok _ => True
  | .error fault => mayBeGone asked = true ∧ fault.isNotFound = true

/-- Whether a call changes a machine. In a departure that puts it back into the pool. -/
def isRelabel : Call → Bool
  | .changeMachine .. => true
  | _ => false

/-- Whether a machine was put back into the pool. -/
def isReturn : Happening → Bool
  | .answered (.changeMachine ..) (.ok _) => true
  | _ => false

/-- The calls of a plan were made in their order, each after the one before was done, and
all of them unless one failed, which then was the last. Every machine that was put back
into the pool is told of at once, and no other. -/
inductive Carries {α : Type} : List Call → List Happening → Except Fault α → Prop where
  | done {value : α} : Carries [] [] (.ok value)
  | told {told : Signal} {plan : List Call} {trace : List Happening} {outcome : Except Fault α}
      (quiet : told ≠ .returned) (rest : Carries plan trace outcome) :
      Carries plan (.told told :: trace) outcome
  | answered {asked : Call} {answer : Except Fault asked.Answer} {plan : List Call}
      {trace : List Happening} {outcome : Except Fault α} (other : isRelabel asked = false)
      (done : Done asked answer) (rest : Carries plan trace outcome) :
      Carries (asked :: plan) (.answered asked answer :: trace) outcome
  | returned {space name : String} {patch : VmiPatch} {stored : Vmi} {plan : List Call}
      {trace : List Happening} {outcome : Except Fault α} (rest : Carries plan trace outcome) :
      Carries (.changeMachine space name patch :: plan)
        (.answered (.changeMachine space name patch) (.ok stored) :: .told .returned :: trace)
        outcome
  | failed {asked : Call} {fault : Fault} {plan : List Call} (undone : ¬Done asked (.error fault)) :
      Carries (asked :: plan) [.answered asked (.error fault)] (.error fault)

variable {α β : Type} {plan later : List Call} {past trace before after : List Happening}
  {outcome : Except Fault α}

theorem Done.of_eq {asked other : Call} {answer : Except Fault asked.Answer}
    {reply : Except Fault other.Answer}
    (same : Happening.answered asked answer = .answered other reply) (done : Done asked answer) :
    Done other reply := by
  cases same
  exact done

@[simp]
theorem calls_told {told : Signal} : calls (.told told :: trace) = calls trace :=
  rfl

@[simp]
theorem calls_answered {asked : Call} {answer : Except Fault asked.Answer} :
    calls (.answered asked answer :: trace) = asked :: calls trace :=
  rfl

@[simp]
theorem signals_told {told : Signal} : signals (.told told :: trace) = told :: signals trace :=
  rfl

@[simp]
theorem signals_answered {asked : Call} {answer : Except Fault asked.Answer} :
    signals (.answered asked answer :: trace) = signals trace :=
  rfl

theorem calls_append : calls (before ++ after) = calls before ++ calls after :=
  List.filterMap_append

theorem signals_append : signals (before ++ after) = signals before ++ signals after :=
  List.filterMap_append

/-- Parts that follow each other carry out their calls in a row. -/
theorem Carries.append {value : α} {last : Except Fault β}
    (first : Carries plan before (.ok value)) (second : Carries later after last) :
    Carries (plan ++ later) (before ++ after) last := by
  generalize ended : (Except.ok value : Except Fault α) = outcome at first
  induction first with
  | done => exact second
  | told quiet _ ih => exact .told quiet (ih ended)
  | answered other done _ ih => exact .answered other done (ih ended)
  | returned _ ih => exact .returned (ih ended)
  | failed => contradiction

/-- After a failure nothing of what was to follow is carried out. -/
theorem Carries.abandon {fault : Fault}
    (first : Carries plan trace (.error fault : Except Fault α)) :
    Carries (plan ++ later) trace (.error fault : Except Fault β) := by
  generalize ended : (Except.error fault : Except Fault α) = outcome at first
  induction first with
  | done => contradiction
  | told quiet _ ih => exact .told quiet (ih ended)
  | answered other done _ ih => exact .answered other done (ih ended)
  | returned _ ih => exact .returned (ih ended)
  | failed undone =>
      cases ended
      exact .failed undone

/-- It does not matter what is made of the value at the end. -/
theorem Carries.map (carries : Carries plan trace outcome) (change : α → β) :
    Carries plan trace (outcome.map change) := by
  induction carries with
  | done => exact .done
  | told quiet _ ih => exact .told quiet ih
  | answered other done _ ih => exact .answered other done ih
  | returned _ ih => exact .returned ih
  | failed undone => exact .failed undone

/-- What is called is planned, in that order. -/
theorem Carries.calls_prefix (carries : Carries plan trace outcome) : calls trace <+: plan := by
  induction carries with
  | done => exact List.prefix_rfl
  | told _ _ ih => exact ih
  | answered _ _ _ ih => exact List.cons_prefix_cons.mpr ⟨rfl, ih⟩
  | returned _ ih => exact List.cons_prefix_cons.mpr ⟨rfl, ih⟩
  | failed => exact List.cons_prefix_cons.mpr ⟨rfl, List.nil_prefix⟩

/-- As long as every call is done, all that is planned is called, and there is an end
without a fault. -/
theorem Carries.complete (carries : Carries plan trace outcome)
    (done : ∀ asked answer, .answered asked answer ∈ trace → Done asked answer) :
    calls trace = plan ∧ ∃ value, outcome = .ok value := by
  induction carries with
  | done => exact ⟨rfl, _, rfl⟩
  | told _ _ ih => exact ih fun asked answer member => done asked answer (.tail _ member)
  | answered _ _ _ ih =>
      obtain ⟨all, ends⟩ := ih fun asked answer member => done asked answer (.tail _ member)
      exact ⟨congrArg _ all, ends⟩
  | returned _ ih =>
      obtain ⟨all, ends⟩ :=
        ih fun asked answer member => done asked answer (.tail _ (.tail _ member))
      exact ⟨congrArg _ all, ends⟩
  | failed undone => exact absurd (done _ _ (.head _)) undone

/-- What comes before a call was done; and a call that is not done is the last, and the
fault of the end. -/
theorem Carries.around {asked : Call} {answer : Except Fault asked.Answer}
    (carries : Carries plan trace outcome)
    (split : trace = before ++ .answered asked answer :: after) :
    (∀ earlier reply, .answered earlier reply ∈ before → Done earlier reply) ∧
      (¬Done asked answer → calls after = [] ∧ ∃ fault, outcome = .error fault) := by
  induction carries generalizing before with
  | done => simp at split
  | told _ _ ih =>
      cases before with
      | nil => simp at split
      | cons first before =>
          obtain ⟨rfl, rest⟩ := List.cons.inj split
          simpa using ih rest
  | answered _ done _ ih =>
      cases before with
      | nil =>
          obtain ⟨head, -⟩ := List.cons.inj split
          exact ⟨by simp, fun undone => absurd (Done.of_eq head done) undone⟩
      | cons first before =>
          obtain ⟨rfl, rest⟩ := List.cons.inj split
          refine ⟨?_, (ih rest).2⟩
          intro earlier reply member
          rcases List.mem_cons.mp member with head | member
          · exact Done.of_eq head.symm done
          · exact (ih rest).1 earlier reply member
  | @returned space name patch stored _ _ _ _ ih =>
      have done : Done (.changeMachine space name patch) (.ok stored) := trivial
      cases before with
      | nil =>
          obtain ⟨head, -⟩ := List.cons.inj split
          exact ⟨by simp, fun undone => absurd (Done.of_eq head done) undone⟩
      | cons first before =>
          obtain ⟨rfl, next⟩ := List.cons.inj split
          cases before with
          | nil => exact nomatch (List.cons.inj next).1
          | cons second before =>
              obtain ⟨rfl, rest⟩ := List.cons.inj next
              refine ⟨?_, (ih rest).2⟩
              intro earlier reply member
              rcases List.mem_cons.mp member with head | member
              · exact Done.of_eq head.symm done
              · exact (ih rest).1 earlier reply (by simpa using member)
  | failed =>
      rcases before with _ | ⟨first, before⟩
      · obtain ⟨-, rfl⟩ := List.cons.inj split
        exact ⟨by simp, fun _ => ⟨rfl, _, rfl⟩⟩
      · simp at split

/-- A signal other than that of a return leaves the count of returns. -/
theorem returned_observe {counters : Counters} {told : Signal} (quiet : told ≠ .returned) :
    (counters.observe told).returned = counters.returned := by
  cases told with
  | created kind => cases kind <;> rfl
  | returned => exact absurd rfl quiet
  | _ => rfl

theorem isReturn_eq_false {asked : Call} {answer : Except Fault asked.Answer}
    (other : isRelabel asked = false) : isReturn (.answered asked answer) = false := by
  cases asked with
  | changeMachine => contradiction
  | _ => rfl

/-- Every machine that is put back into the pool is counted. -/
theorem Carries.counted (carries : Carries plan trace outcome) (counters : Counters) :
    ((signals trace).foldl Counters.observe counters).returned =
      counters.returned + trace.countP isReturn := by
  induction carries generalizing counters with
  | done => rfl
  | told quiet _ ih =>
      rw [signals_told, List.foldl_cons, ih, returned_observe quiet,
        List.countP_cons_of_neg (by simp [isReturn])]
  | answered other _ _ ih =>
      rw [signals_answered, ih, List.countP_cons_of_neg (by simp [isReturn_eq_false other])]
  | returned _ ih =>
      rw [signals_answered, signals_told, List.foldl_cons, ih, List.countP_cons_of_pos rfl,
        List.countP_cons_of_neg (by simp [isReturn])]
      exact Nat.add_right_comm counters.returned 1 _
  | @failed asked => cases asked <;> simp [signals, isReturn]

/-- No more machines are put back into the pool than are to be. -/
theorem Carries.countP_isReturn_le (carries : Carries plan trace outcome) :
    trace.countP isReturn ≤ plan.countP isRelabel := by
  refine Nat.le_trans ?_ carries.calls_prefix.sublist.countP_le
  rw [calls, List.countP_filterMap]
  refine List.countP_mono_left ?_
  rintro (⟨asked, answer⟩ | told) _ returns
  · cases asked with
    | changeMachine => rfl
    | _ => exact absurd returns (by simp [isReturn])
  · simp [isReturn] at returns

/-- A call that is done is followed by what is left of the plan, and one that is not by
nothing. -/
theorem carries_call {asked : Call} {next : Except Fault asked.Answer → Program (Except Fault α)}
    (other : isRelabel asked = false)
    (goesOn : ∀ answer trace outcome, Done asked answer → Runs (next answer) trace outcome →
      Carries plan trace outcome)
    (stops : ∀ fault, ¬Done asked (.error fault) → next (.error fault) = pure (.error fault))
    (run : Runs (call asked >>= next) trace outcome) : Carries (asked :: plan) trace outcome := by
  obtain ⟨_, rest, answer, rfl, first, last⟩ := runs_bind_iff.mp run
  obtain ⟨_, _, rfl, ended⟩ := runs_request_iff.mp first
  obtain ⟨rfl, rfl⟩ := runs_done_iff.mp ended
  by_cases done : Done asked answer
  · exact .answered other done (goesOn answer rest outcome done last)
  · cases answer with
    | ok value => exact absurd trivial done
    | error fault =>
        rw [stops fault done] at last
        obtain ⟨rfl, rfl⟩ := runs_done_iff.mp last
        exact .failed done

/-- A part that carries out its calls is followed by the next unless it fails. -/
theorem carries_bind {program : Program (Except Fault β)}
    {next : Except Fault β → Program (Except Fault α)}
    (first : ∀ trace outcome, Runs program trace outcome → Carries plan trace outcome)
    (goesOn : ∀ value trace outcome, Runs (next (.ok value)) trace outcome →
      Carries later trace outcome)
    (stops : ∀ fault, next (.error fault) = pure (.error fault))
    (run : Runs (program >>= next) trace outcome) : Carries (plan ++ later) trace outcome := by
  obtain ⟨before, after, middle, rfl, leading, last⟩ := runs_bind_iff.mp run
  cases middle with
  | ok value => exact (first _ _ leading).append (goesOn value _ _ last)
  | error fault =>
      rw [stops fault] at last
      obtain ⟨rfl, rfl⟩ := runs_done_iff.mp last
      rw [List.append_nil]
      exact (first _ _ leading).abandon

/-- A call that may find its object gone is all that is carried out. -/
theorem carries_lenient {asked : Call}
    {next : Except Fault asked.Answer → Program (Except Fault Unit)}
    {outcome : Except Fault Unit} (absent : mayBeGone asked = true)
    (goesOn : ∀ answer trace outcome, Runs (next (.ok answer)) trace outcome →
      Carries [] trace outcome)
    (stops : ∀ fault, next (.error fault) =
      pure (if fault.isNotFound = true then .ok () else .error fault))
    (run : Runs (call asked >>= next) trace outcome) : Carries [asked] trace outcome := by
  refine carries_call (by cases asked <;> first | rfl | contradiction) ?_ ?_ run
  · rintro (fault | answer) rest last done ended
    · rw [stops, if_pos done.2] at ended
      obtain ⟨rfl, rfl⟩ := runs_done_iff.mp ended
      exact .done
    · exact goesOn answer rest last ended
  · intro fault undone
    rw [stops, if_neg fun gone => undone ⟨absent, gone⟩]

end NodeGate.Release
