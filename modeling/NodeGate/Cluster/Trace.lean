import NodeGate.Cluster.Program

/-!
# Traces of programs

What may happen while a program runs: every call with an answer that it may get,
and every signal. A trace belongs to a program when the program can end in a
value after exactly these things happened in this order. Names and times are
arbitrary and leave no mark of their own.
-/

namespace NodeGate

/-- One thing that happens while a program runs. -/
inductive Happening where
  /-- A call and what it gave. -/
  | answered (asked : Call) (answer : Except Fault asked.Answer)
  /-- A signal. -/
  | told (signal : Signal)

namespace Program

variable {α β : Type}

/-- The program may end in the value after these things happened. -/
inductive Runs : Program α → List Happening → α → Prop where
  | done {value : α} : Runs (.done value) [] value
  | request {asked : Call} {next : Except Fault asked.Answer → Program α}
      {answer : Except Fault asked.Answer} {trace : List Happening} {value : α}
      (rest : Runs (next answer) trace value) :
      Runs (.request asked next) (.answered asked answer :: trace) value
  | signal {told : Signal} {next : Program α} {trace : List Happening} {value : α}
      (rest : Runs next trace value) : Runs (.signal told next) (.told told :: trace) value
  | freshPart {next : String → Program α} {part : String} {trace : List Happening} {value : α}
      (rest : Runs (next part) trace value) : Runs (.freshPart next) trace value
  | presentTime {next : Instant → Program α} {now : Instant} {trace : List Happening}
      {value : α} (rest : Runs (next now) trace value) : Runs (.presentTime next) trace value

/-- A finished program does nothing more. -/
@[simp]
theorem runs_done_iff {ended value : α} {trace : List Happening} :
    Runs (.done ended) trace value ↔ trace = [] ∧ value = ended := by
  constructor
  · rintro ⟨⟩
    exact ⟨rfl, rfl⟩
  · rintro ⟨rfl, rfl⟩
    exact .done

/-- A call comes first, with any answer. -/
@[simp]
theorem runs_request_iff {asked : Call} {next : Except Fault asked.Answer → Program α}
    {trace : List Happening} {value : α} :
    Runs (.request asked next) trace value ↔
      ∃ answer rest, trace = .answered asked answer :: rest ∧ Runs (next answer) rest value := by
  constructor
  · rintro ⟨⟩
    exact ⟨_, _, rfl, by assumption⟩
  · rintro ⟨answer, rest, rfl, run⟩
    exact .request run

/-- A signal comes first. -/
@[simp]
theorem runs_signal_iff {told : Signal} {next : Program α} {trace : List Happening}
    {value : α} :
    Runs (.signal told next) trace value ↔
      ∃ rest, trace = .told told :: rest ∧ Runs next rest value := by
  constructor
  · rintro ⟨⟩
    exact ⟨_, rfl, by assumption⟩
  · rintro ⟨rest, rfl, run⟩
    exact .signal run

/-- Any name may be the fresh one. -/
@[simp]
theorem runs_freshPart_iff {next : String → Program α} {trace : List Happening} {value : α} :
    Runs (.freshPart next) trace value ↔ ∃ part, Runs (next part) trace value := by
  constructor
  · rintro ⟨⟩
    exact ⟨_, by assumption⟩
  · rintro ⟨part, run⟩
    exact .freshPart run

/-- Any instant may be the present one. -/
@[simp]
theorem runs_presentTime_iff {next : Instant → Program α} {trace : List Happening}
    {value : α} : Runs (.presentTime next) trace value ↔ ∃ now, Runs (next now) trace value := by
  constructor
  · rintro ⟨⟩
    exact ⟨_, by assumption⟩
  · rintro ⟨now, run⟩
    exact .presentTime run

/-- The traces of a sequence are those of its first part followed by those of
its second part. -/
theorem runs_andThen_iff {program : Program α} {next : α → Program β}
    {trace : List Happening} {value : β} :
    Runs (program.andThen next) trace value ↔
      ∃ before after middle, trace = before ++ after ∧ Runs program before middle ∧
        Runs (next middle) after value := by
  induction program generalizing trace with
  | done ended =>
      constructor
      · intro run
        exact ⟨[], trace, ended, rfl, .done, run⟩
      · rintro ⟨_, after, _, rfl, first, second⟩
        obtain ⟨rfl, rfl⟩ := runs_done_iff.mp first
        exact second
  | request asked rest ih =>
      simp only [andThen, runs_request_iff, ih]
      constructor
      · rintro ⟨answer, _, rfl, before, after, middle, rfl, first, second⟩
        exact ⟨.answered asked answer :: before, after, middle, rfl,
          ⟨answer, before, rfl, first⟩, second⟩
      · rintro ⟨_, after, middle, rfl, ⟨answer, before, rfl, first⟩, second⟩
        exact ⟨answer, before ++ after, rfl, before, after, middle, rfl, first, second⟩
  | signal told rest ih =>
      simp only [andThen, runs_signal_iff, ih]
      constructor
      · rintro ⟨_, rfl, before, after, middle, rfl, first, second⟩
        exact ⟨.told told :: before, after, middle, rfl, ⟨before, rfl, first⟩, second⟩
      · rintro ⟨_, after, middle, rfl, ⟨before, rfl, first⟩, second⟩
        exact ⟨before ++ after, rfl, before, after, middle, rfl, first, second⟩
  | freshPart rest ih =>
      simp only [andThen, runs_freshPart_iff, ih]
      constructor
      · rintro ⟨part, before, after, middle, rfl, first, second⟩
        exact ⟨before, after, middle, rfl, ⟨part, first⟩, second⟩
      · rintro ⟨before, after, middle, rfl, ⟨part, first⟩, second⟩
        exact ⟨part, before, after, middle, rfl, first, second⟩
  | presentTime rest ih =>
      simp only [andThen, runs_presentTime_iff, ih]
      constructor
      · rintro ⟨now, before, after, middle, rfl, first, second⟩
        exact ⟨before, after, middle, rfl, ⟨now, first⟩, second⟩
      · rintro ⟨before, after, middle, rfl, ⟨now, first⟩, second⟩
        exact ⟨now, before, after, middle, rfl, first, second⟩

/-- The traces of a sequence, in the notation of programs. -/
theorem runs_bind_iff {program : Program α} {next : α → Program β}
    {trace : List Happening} {value : β} :
    Runs (program >>= next) trace value ↔
      ∃ before after middle, trace = before ++ after ∧ Runs program before middle ∧
        Runs (next middle) after value :=
  runs_andThen_iff

end Program

end NodeGate
