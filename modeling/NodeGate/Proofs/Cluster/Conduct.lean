import NodeGate.Cluster.Trace

/-!
# The conduct of programs

What a program does whatever it is answered, told along its tree. A rule
restrains each call by what happened before it, and a goal says what the program
ends in after what happened. That a program *secures* a goal under a rule is
taken apart part by part where programs are put together, and it says exactly
that every trace of the program keeps the rule and reaches the goal.
-/

namespace NodeGate

/-- No call failed. -/
def Unfailing (past : List Happening) : Prop :=
  ∀ asked fault, .answered asked (.error fault) ∉ past

theorem Unfailing.earlier {past later : List Happening} (unfailing : Unfailing later)
    (continued : past <+: later) : Unfailing past :=
  fun asked fault member => unfailing asked fault (continued.subset member)

theorem not_unfailing_append_error {past : List Happening} {asked : Call} {fault : Fault} :
    ¬Unfailing (past ++ [.answered asked (.error fault)]) :=
  fun unfailing => unfailing asked fault (by simp)

/-- Every call that happened is of that kind. -/
def AllCalls (kept : Call → Prop) (past : List Happening) : Prop :=
  ∀ asked answer, .answered asked answer ∈ past → kept asked

section AllCalls

variable {kept : Call → Prop} {past : List Happening}

@[simp]
theorem allCalls_nil : AllCalls kept [] := by
  simp [AllCalls]

@[simp]
theorem allCalls_append_told {told : Signal} :
    AllCalls kept (past ++ [.told told]) ↔ AllCalls kept past := by
  simp [AllCalls]

theorem allCalls_append_answered {asked : Call} {answer : Except Fault asked.Answer} :
    AllCalls kept (past ++ [.answered asked answer]) ↔ AllCalls kept past ∧ kept asked := by
  constructor
  · intro all
    exact ⟨fun other reply member => all other reply (List.mem_append_left _ member),
      all asked answer (by simp)⟩
  · rintro ⟨all, last⟩ other reply member
    rcases List.mem_append.mp member with member | member
    · exact all other reply member
    · obtain ⟨rfl, -⟩ := Happening.answered.inj (List.mem_singleton.mp member)
      exact last

end AllCalls

namespace Program

variable {α β : Type}

/-- Whatever the program is answered from here on, every call that it makes keeps
the rule and its end meets the goal. Both may look at all that happened before. -/
def Secures (rule : List Happening → Call → Prop) (goal : List Happening → α → Prop) :
    Program α → List Happening → Prop
  | .done value, past => goal past value
  | .request asked next, past =>
    rule past asked ∧
      ∀ answer, (next answer).Secures rule goal (past ++ [.answered asked answer])
  | .signal told next, past => next.Secures rule goal (past ++ [.told told])
  | .freshPart next, past => ∀ part, (next part).Secures rule goal past
  | .presentTime next, past => ∀ now, (next now).Secures rule goal past

variable {rule : List Happening → Call → Prop} {goal : List Happening → α → Prop}
  {past : List Happening}

@[simp]
theorem secures_pure {value : α} :
    (pure value : Program α).Secures rule goal past ↔ goal past value :=
  Iff.rfl

@[simp]
theorem secures_emit {told : Signal} {goal : List Happening → Unit → Prop} :
    (emit told).Secures rule goal past ↔ goal (past ++ [.told told]) () :=
  Iff.rfl

@[simp]
theorem secures_newPart {goal : List Happening → String → Prop} :
    newPart.Secures rule goal past ↔ ∀ part, goal past part :=
  Iff.rfl

@[simp]
theorem secures_now {goal : List Happening → Instant → Prop} :
    now.Secures rule goal past ↔ ∀ instant, goal past instant :=
  Iff.rfl

@[simp]
theorem secures_remark {said : Remark} {object : ObjectReference} {note : String}
    {goal : List Happening → Unit → Prop} :
    (remark said object note).Secures rule goal past ↔
      goal (past ++ [.told (.event (said.event object note))]) () :=
  Iff.rfl

/-- A sequence secures a goal when its first part secures that its second part
will. -/
@[simp]
theorem secures_bind {program : Program α} {next : α → Program β}
    {goal : List Happening → β → Prop} :
    (program >>= next).Secures rule goal past ↔
      program.Secures rule (fun past value => (next value).Secures rule goal past) past := by
  change (program.andThen next).Secures rule goal past ↔ _
  induction program generalizing past with
  | done value => rfl
  | request asked rest ih => simp only [andThen, Secures, ih]
  | signal told rest ih => simp only [andThen, Secures, ih]
  | freshPart rest ih => simp only [andThen, Secures, ih]
  | presentTime rest ih => simp only [andThen, Secures, ih]

/-- What follows a call secures the goal after any answer. -/
theorem secures_call_bind {asked : Call} {next : Except Fault asked.Answer → Program β}
    {goal : List Happening → β → Prop} :
    (call asked >>= next).Secures rule goal past ↔
      rule past asked ∧
        ∀ answer, (next answer).Secures rule goal (past ++ [.answered asked answer]) :=
  secures_bind

@[simp]
theorem secures_map {program : Program α} {change : α → β} {goal : List Happening → β → Prop} :
    (change <$> program).Secures rule goal past ↔
      program.Secures rule (fun past value => goal past (change value)) past := by
  rw [map_eq_pure_bind, secures_bind]
  rfl

/-- A weaker goal is secured as well. -/
theorem Secures.weaken {program : Program α} {other : List Happening → α → Prop}
    (secures : program.Secures rule goal past)
    (weaker : ∀ past value, goal past value → other past value) :
    program.Secures rule other past := by
  induction program generalizing past with
  | done value => exact weaker _ _ secures
  | request asked rest ih => exact ⟨secures.1, fun answer => ih answer (secures.2 answer)⟩
  | signal told rest ih => exact ih secures
  | freshPart rest ih => exact fun part => ih part (secures part)
  | presentTime rest ih => exact fun now => ih now (secures now)

/-- What keeps a rule keeps a laxer one. -/
theorem Secures.relax {program : Program α} {laxer : List Happening → Call → Prop}
    (secures : program.Secures rule goal past)
    (laxer_of : ∀ past asked, rule past asked → laxer past asked) :
    program.Secures laxer goal past := by
  induction program generalizing past with
  | done value => exact secures
  | request asked rest ih =>
      exact ⟨laxer_of _ _ secures.1, fun answer => ih answer (secures.2 answer)⟩
  | signal told rest ih => exact ih secures
  | freshPart rest ih => exact fun part => ih part (secures part)
  | presentTime rest ih => exact fun now => ih now (secures now)

/-- What keeps two rules and meets two goals keeps and meets them at once. -/
theorem Secures.both {program : Program α} {otherRule : List Happening → Call → Prop}
    {otherGoal : List Happening → α → Prop} (one : program.Secures rule goal past)
    (other : program.Secures otherRule otherGoal past) :
    program.Secures (fun past asked => rule past asked ∧ otherRule past asked)
      (fun past value => goal past value ∧ otherGoal past value) past := by
  induction program generalizing past with
  | done value => exact ⟨one, other⟩
  | request asked rest ih =>
      exact ⟨⟨one.1, other.1⟩, fun answer => ih answer (one.2 answer) (other.2 answer)⟩
  | signal told rest ih => exact ih one other
  | freshPart rest ih => exact fun part => ih part (one part) (other part)
  | presentTime rest ih => exact fun now => ih now (one now) (other now)

/-- What has happened stays the beginning of what will have happened. -/
theorem Secures.remember {program : Program α} (secures : program.Secures rule goal past) :
    program.Secures rule (fun later value => past <+: later ∧ goal later value) past := by
  induction program generalizing past with
  | done value => exact ⟨List.prefix_rfl, secures⟩
  | request asked rest ih =>
      refine ⟨secures.1, fun answer => (ih answer (secures.2 answer)).weaken ?_⟩
      exact fun later value reached => ⟨(List.prefix_append _ _).trans reached.1, reached.2⟩
  | signal told rest ih =>
      apply (ih secures).weaken
      exact fun later value reached => ⟨(List.prefix_append _ _).trans reached.1, reached.2⟩
  | freshPart rest ih => exact fun part => ih part (secures part)
  | presentTime rest ih => exact fun now => ih now (secures now)

/-- What a rule says of each call, whatever happened before, it says of all of them at each
call and at the end. -/
theorem Secures.collect {program : Program α} {kept : Call → Prop}
    (secures : program.Secures (fun _ => kept) goal past) (before : AllCalls kept past) :
    program.Secures (fun past asked => AllCalls kept past ∧ kept asked)
      (fun later value => AllCalls kept later ∧ goal later value) past := by
  induction program generalizing past with
  | done value => exact ⟨before, secures⟩
  | request asked rest ih =>
      refine ⟨⟨before, secures.1⟩, fun answer => ih answer (secures.2 answer) ?_⟩
      exact allCalls_append_answered.mpr ⟨before, secures.1⟩
  | signal told rest ih => exact ih secures (allCalls_append_told.mpr before)
  | freshPart rest ih => exact fun part => ih part (secures part) before
  | presentTime rest ih => exact fun now => ih now (secures now) before

/-- A part that secures nothing in particular may be followed by whatever secures
the goal after any continuation of what happened. -/
theorem Secures.andThen {program : Program α} {next : α → Program β}
    {after : List Happening → β → Prop} (first : program.Secures rule goal past)
    (second : ∀ later value, past <+: later → goal later value →
      (next value).Secures rule after later) :
    (program >>= next).Secures rule after past :=
  secures_bind.mpr
    (first.remember.weaken fun later value reached => second later value reached.1 reached.2)

/-- Every trace reaches the goal. -/
theorem Secures.goal_of_runs {program : Program α} {trace : List Happening} {value : α}
    (secures : program.Secures rule goal past) (run : Runs program trace value) :
    goal (past ++ trace) value := by
  induction run generalizing past with
  | done => simpa [Secures] using secures
  | request rest ih => simpa using ih (secures.2 _)
  | signal rest ih => simpa using @ih (_ ++ [_]) secures
  | freshPart rest ih => exact ih (secures _)
  | presentTime rest ih => exact ih (secures _)

/-- Every call of a trace keeps the rule, after what came before it. -/
theorem Secures.rule_of_runs {program : Program α} {trace before after : List Happening}
    {value : α} {asked : Call} {answer : Except Fault asked.Answer}
    (secures : program.Secures rule goal past) (run : Runs program trace value)
    (split : trace = before ++ .answered asked answer :: after) :
    rule (past ++ before) asked := by
  induction run generalizing past before with
  | done => simp at split
  | request rest ih =>
      cases before with
      | nil =>
          obtain ⟨rfl, -⟩ := Happening.answered.inj (List.cons.inj split).1
          simpa using secures.1
      | cons first before =>
          obtain ⟨rfl, remainder⟩ := List.cons.inj split
          simpa using ih (secures.2 _) remainder
  | signal rest ih =>
      cases before with
      | nil => simp at split
      | cons first before =>
          obtain ⟨rfl, remainder⟩ := List.cons.inj split
          simpa using @ih (_ ++ [_]) _ secures remainder
  | freshPart rest ih => exact ih (secures _) split
  | presentTime rest ih => exact ih (secures _) split

/-- Nothing is asked of a program and nothing is promised about its end. -/
theorem secures_trivially (program : Program α) :
    program.Secures (fun _ _ => True) (fun _ _ => True) past := by
  induction program generalizing past with
  | done value => trivial
  | request asked rest ih => exact ⟨trivial, fun answer => ih answer⟩
  | signal told rest ih => exact ih
  | freshPart rest ih => exact fun part => ih part
  | presentTime rest ih => exact fun now => ih now

/-- A program runs to its end however its calls are answered. -/
theorem exists_runs_answering (reply : (asked : Call) → Except Fault asked.Answer)
    (instant : Instant) (program : Program α) :
    ∃ trace value, Runs program trace value ∧
      ∀ asked answer, .answered asked answer ∈ trace → answer = reply asked := by
  induction program with
  | done value => exact ⟨[], value, .done, by simp⟩
  | request asked rest ih =>
      obtain ⟨trace, value, run, replied⟩ := ih (reply asked)
      refine ⟨.answered asked (reply asked) :: trace, value, .request run, ?_⟩
      intro other answer member
      rcases List.mem_cons.mp member with here | member
      · cases here
        rfl
      · exact replied other answer member
  | signal told rest ih =>
      obtain ⟨trace, value, run, replied⟩ := ih
      exact ⟨.told told :: trace, value, .signal run, by simpa using replied⟩
  | freshPart rest ih =>
      obtain ⟨trace, value, run, replied⟩ := ih ""
      exact ⟨trace, value, .freshPart run, replied⟩
  | presentTime rest ih =>
      obtain ⟨trace, value, run, replied⟩ := ih instant
      exact ⟨trace, value, .presentTime run, replied⟩

end Program

end NodeGate
