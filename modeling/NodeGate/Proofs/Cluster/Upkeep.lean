import NodeGate.Proofs.Cluster.Trials

/-!
# What a program keeps up

A program maintains a condition on what is stored when the condition holds before each of
its calls and at its end, whatever comes of the calls: each of them may fail without an
effect, or is granted by an API server that merges patches. This is taken apart part by
part where programs are put together, and it says of every run of the program that the
condition holds after everything that happened in it, also where the run breaks off.
-/

namespace NodeGate

namespace Cache

/-- A fault is believed unless it says that a node is not found which is there. -/
def Believes (objects : Cache) : Call → Fault → Prop
  | .changeNode name _, fault => fault.isNotFound = true → objects.node? name = none
  | _, _ => True

/-- What may come of a call: it fails and changes nothing, or what it asks for is done. -/
inductive Outcome (objects : Cache) :
    (asked : Call) → Except Fault asked.Answer → Cache → Prop where
  | failed {asked : Call} {fault : Fault} (believed : objects.Believes asked fault) :
      Outcome objects asked (.error fault) objects
  | createMachine {vmi : Vmi} (version : Option String)
      (absent : ∀ other ∈ objects.vmis, sameIdentity other.metadata vmi.metadata = false) :
      Outcome objects (.createMachine vmi) (.ok ())
        { objects with
          vmis := objects.vmis ++
            [{ vmi with metadata := { vmi.metadata with resourceVersion := version } }] }
  | readMachine {space name : String} :
      Outcome objects (.readMachine space name) (.ok (objects.vmi? ⟨space, name⟩)) objects
  | changeMachine {space name : String} {patch : VmiPatch} {vmi made : Vmi}
      (found : objects.vmi? ⟨space, name⟩ = some vmi) (makes : patch.Makes vmi made) :
      Outcome objects (.changeMachine space name patch) (.ok made)
        { objects with vmis := superseded Vmi.metadata made objects.vmis }
  | deleteMachine {space name : String} {version : Option String} {vmi : Vmi}
      (found : objects.vmi? ⟨space, name⟩ = some vmi) :
      Outcome objects (.deleteMachine space name version) (.ok ())
        { objects with vmis := drop Vmi.metadata vmi objects.vmis }
  | changePod {space name : String} {patch : PodPatch} (pods : List Pod) :
      Outcome objects (.changePod space name patch) (.ok ()) { objects with pods := pods }
  | changeNode {name : String} {patch : NodePatch} {node made : Node}
      (found : objects.node? name = some node)
      (merges : made.toJson.SameButVersion (Json.merged node.toJson patch.toJson)) :
      Outcome objects (.changeNode name patch) (.ok ())
        { objects with nodes := superseded Node.metadata made objects.nodes }
  | reportCounts {name : String} {patch : StatusPatch} {config : GateConfig}
      (status : Option PoolStatus)
      (found : findExact GateConfig.metadata none name objects.configs = some config) :
      Outcome objects (.reportCounts name patch) (.ok ())
        { objects with
          configs := superseded GateConfig.metadata { config with status := status }
            objects.configs }

end Cache

namespace MergingServer

variable {α : Type} {server : MergingServer} {registry : Registry}

/-- A change is refused and nothing is done, or it is made of an object that is there. -/
theorem change_cases {motive : Except Fault α × Registry → Prop} {asked : Call}
    {metadata : α → ObjectMeta} {found : Option α} {pin : Option String} {make : Nat → α → α}
    {place : α → Cache}
    (refused : ∀ fault, (fault.isNotFound = true → found = none) →
      motive (.error fault, registry))
    (granted : ∀ object, found = some object →
      motive (.ok (make registry.written.length object),
        registry.write asked (place (make registry.written.length object)))) :
    motive (registry.change asked metadata found pin make place) := by
  unfold Registry.change
  split
  · exact refused _ fun _ => rfl
  next object =>
    split
    · exact granted object rfl
    · exact refused _ nofun

/-- What the server answers and stores is what may come of a call. -/
theorem outcome_answer (server : MergingServer) (asked : Call) (registry : Registry) :
    registry.objects.Outcome asked (server.answer asked registry).1
      (server.answer asked registry).2.objects := by
  cases asked with
  | createMachine vmi =>
      unfold answer
      dsimp only
      split
      · exact .failed trivial
      next absent => exact .createMachine _ (by simpa using absent)
  | readMachine space name => exact .readMachine
  | changeMachine space name patch =>
      apply change_cases (motive := fun done =>
        registry.objects.Outcome (.changeMachine space name patch) done.1 done.2.objects)
      · intro fault absent
        exact .failed trivial
      · intro vmi found
        exact .changeMachine found (Vmi.makes_of_merged (server.vmi_merged _ vmi patch))
  | deleteMachine space name pin =>
      apply change_cases (motive := fun done =>
        registry.objects.Outcome (.deleteMachine space name pin) (Registry.untold done).1
          done.2.objects)
      · intro fault absent
        exact .failed trivial
      · intro vmi found
        exact .deleteMachine found
  | changePod space name patch =>
      apply change_cases (motive := fun done =>
        registry.objects.Outcome (.changePod space name patch) (Registry.untold done).1
          done.2.objects)
      · intro fault absent
        exact .failed trivial
      · intro pod found
        exact .changePod _
  | changeNode name patch =>
      apply change_cases (motive := fun done =>
        registry.objects.Outcome (.changeNode name patch) (Registry.untold done).1
          done.2.objects)
      · intro fault absent
        exact .failed absent
      · intro node found
        exact .changeNode found (server.node_merged _ node patch)
  | reportCounts name patch =>
      apply change_cases (motive := fun done =>
        registry.objects.Outcome (.reportCounts name patch) (Registry.untold done).1
          done.2.objects)
      · intro fault absent
        exact .failed trivial
      · intro config found
        exact .reportCounts _ found

/-- Every fault in what happens is believed where it comes: a node that is said not to be
found is not there. -/
def Credible (server : MergingServer) : Registry → List Happening → Prop
  | _, [] => True
  | registry, happening :: trace =>
    (∀ asked fault, happening = .answered asked (.error fault) →
        registry.objects.Believes asked fault) ∧
      server.Credible (server.settle registry happening) trace

/-- The server's own faults are believed. -/
theorem believes_of_refused {asked : Call} {fault : Fault}
    (refused : (server.answer asked registry).1 = .error fault) :
    registry.objects.Believes asked fault := by
  have outcome := server.outcome_answer asked registry
  rw [refused] at outcome
  generalize (server.answer asked registry).2.objects = after at outcome
  cases outcome with
  | failed believed => exact believed

/-- A program may run as the server answers it. -/
theorem exists_runs_answered (server : MergingServer) (program : Program α)
    (registry : Registry) :
    ∃ trace, Program.Runs program trace (program.runWith server.answering registry).1 ∧
      server.Allows registry trace (program.runWith server.answering registry).2 ∧
      server.Credible registry trace := by
  induction program generalizing registry with
  | done value => exact ⟨[], .done, .nothing, trivial⟩
  | request asked next ih =>
      obtain ⟨trace, run, allows, credible⟩ :=
        ih (server.answer asked registry).1 (server.answer asked registry).2
      refine ⟨_, .request run, .granted allows, ?_, by rwa [settle_answer]⟩
      rintro other fault same
      injection same with sameAsked sameAnswer
      subst sameAsked
      exact believes_of_refused (eq_of_heq sameAnswer)
  | signal told next ih =>
      obtain ⟨trace, run, allows, credible⟩ := ih registry
      refine ⟨_, .signal run, .told allows, ?_, credible⟩
      intro asked fault impossible
      contradiction
  | freshPart next ih =>
      obtain ⟨trace, run, rest⟩ := ih _ registry
      exact ⟨trace, .freshPart run, rest⟩
  | presentTime next ih =>
      obtain ⟨trace, run, rest⟩ := ih _ registry
      exact ⟨trace, .presentTime run, rest⟩

end MergingServer

namespace Program

variable {α β : Type} {always : Cache → Prop} {goal : Cache → α → Prop} {objects : Cache}

/-- Whatever comes of its calls, the condition holds before each call of the program and
at its end, and the end meets the goal. -/
def Maintains (always : Cache → Prop) (goal : Cache → α → Prop) : Program α → Cache → Prop
  | .done value, objects => always objects ∧ goal objects value
  | .request asked next, objects =>
    always objects ∧
      ∀ answer after, objects.Outcome asked answer after →
        (next answer).Maintains always goal after
  | .signal _ next, objects => next.Maintains always goal objects
  | .freshPart next, objects => ∀ part, (next part).Maintains always goal objects
  | .presentTime next, objects => ∀ now, (next now).Maintains always goal objects

/-- The condition is maintained, and nothing is asked of the end. -/
abbrev Keeps (always : Cache → Prop) (program : Program α) (objects : Cache) : Prop :=
  program.Maintains always (fun _ _ => True) objects

/-- The condition holds already. -/
theorem Maintains.here {program : Program α} (maintains : program.Maintains always goal objects) :
    always objects := by
  induction program with
  | done value => exact maintains.1
  | request asked rest ih => exact maintains.1
  | signal told rest ih => exact ih maintains
  | freshPart rest ih => exact ih "" (maintains "")
  | presentTime rest ih => exact ih ⟨⟨2026, 1, 1⟩, 0, 0, 0, 0⟩ (maintains _)

@[simp]
theorem maintains_emit {told : Signal} {goal : Cache → Unit → Prop} :
    (emit told).Maintains always goal objects ↔ always objects ∧ goal objects () :=
  Iff.rfl

@[simp]
theorem maintains_newPart {goal : Cache → String → Prop} :
    newPart.Maintains always goal objects ↔ ∀ part, always objects ∧ goal objects part :=
  Iff.rfl

@[simp]
theorem maintains_now {goal : Cache → Instant → Prop} :
    now.Maintains always goal objects ↔ ∀ instant, always objects ∧ goal objects instant :=
  Iff.rfl

/-- A sequence maintains a condition when its first part does and ends where its second
part does. -/
@[simp]
theorem maintains_bind {program : Program α} {next : α → Program β}
    {goal : Cache → β → Prop} :
    (program >>= next).Maintains always goal objects ↔
      program.Maintains always (fun objects value => (next value).Maintains always goal objects)
        objects := by
  change (program.andThen next).Maintains always goal objects ↔ _
  induction program generalizing objects with
  | done value => exact ⟨fun maintains => ⟨maintains.here, maintains⟩, And.right⟩
  | request asked rest ih => simp only [andThen, Maintains, ih]
  | signal told rest ih => simp only [andThen, Maintains, ih]
  | freshPart rest ih => simp only [andThen, Maintains, ih]
  | presentTime rest ih => simp only [andThen, Maintains, ih]

/-- What follows a call maintains the condition whatever comes of the call. -/
theorem maintains_call_bind {asked : Call} {next : Except Fault asked.Answer → Program β}
    {goal : Cache → β → Prop} :
    (call asked >>= next).Maintains always goal objects ↔
      always objects ∧
        ∀ answer after, objects.Outcome asked answer after →
          (next answer).Maintains always goal after :=
  Iff.rfl

/-- A weaker condition is maintained as well, and a weaker goal is met. -/
theorem Maintains.weaken {program : Program α} {lax : Cache → Prop} {other : Cache → α → Prop}
    (maintains : program.Maintains always goal objects)
    (laxer : ∀ objects, always objects → lax objects)
    (weaker : ∀ objects value, always objects → goal objects value → other objects value) :
    program.Maintains lax other objects := by
  induction program generalizing objects with
  | done value => exact ⟨laxer _ maintains.1, weaker _ _ maintains.1 maintains.2⟩
  | request asked rest ih =>
      exact ⟨laxer _ maintains.1, fun answer after outcome => ih answer (maintains.2 _ _ outcome)⟩
  | signal told rest ih => exact ih maintains
  | freshPart rest ih => exact fun part => ih part (maintains part)
  | presentTime rest ih => exact fun now => ih now (maintains now)

theorem Keeps.relax {program : Program α} {lax : Cache → Prop}
    (keeps : program.Keeps always objects)
    (laxer : ∀ objects, always objects → lax objects) : program.Keeps lax objects :=
  Maintains.weaken keeps laxer fun _ _ _ _ => trivial

@[simp]
theorem maintains_map {program : Program α} {change : α → β} {goal : Cache → β → Prop} :
    (change <$> program).Maintains always goal objects ↔
      program.Maintains always (fun objects value => goal objects (change value)) objects := by
  rw [map_eq_pure_bind, maintains_bind]
  constructor
  · intro maintains
    exact maintains.weaken (fun _ holds => holds) fun _ _ _ reached => reached.2
  · intro maintains
    exact maintains.weaken (fun _ holds => holds) fun _ _ holds reached => ⟨holds, reached⟩

/-- A part that ends well may be followed by whatever maintains the condition from there. -/
theorem Maintains.andThen {program : Program α} {next : α → Program β} {last : Cache → β → Prop}
    (first : program.Maintains always goal objects)
    (second : ∀ objects value, always objects → goal objects value →
      (next value).Maintains always last objects) :
    (program >>= next).Maintains always last objects :=
  maintains_bind.mpr (first.weaken (fun _ holds => holds) second)

open MergingServer in
/-- The condition holds after whatever happened in a run of the program so far. -/
theorem Maintains.always_of_runs {program : Program α} {server : MergingServer}
    {before after : Registry} {past later : List Happening} {value : α}
    (maintains : program.Maintains always goal before.objects)
    (run : Runs program (past ++ later) value) (allows : server.Allows before past after)
    (credible : server.Credible before past) : always after.objects := by
  induction program generalizing before past with
  | done ended =>
      obtain ⟨nothing, -⟩ := runs_done_iff.mp run
      obtain ⟨rfl, -⟩ := List.append_eq_nil_iff.mp nothing
      cases allows
      exact maintains.here
  | request asked next ih =>
      obtain ⟨answer, rest, split, run⟩ := runs_request_iff.mp run
      cases past with
      | nil =>
          cases allows
          exact maintains.here
      | cons happening past =>
          obtain ⟨rfl, rfl⟩ := List.cons.inj split
          obtain ⟨believed, credible⟩ := credible
          cases allows with
          | failed allows =>
              exact ih _ (maintains.2 _ _ (.failed (believed _ _ rfl))) run allows credible
          | granted allows =>
              rw [settle_answer] at credible
              exact ih _ (maintains.2 _ _ (server.outcome_answer asked before)) run allows credible
  | signal told next ih =>
      obtain ⟨rest, split, run⟩ := runs_signal_iff.mp run
      cases past with
      | nil =>
          cases allows
          exact maintains.here
      | cons happening past =>
          obtain ⟨rfl, rfl⟩ := List.cons.inj split
          cases allows with
          | told allows => exact ih maintains run allows credible.2
  | freshPart next ih =>
      obtain ⟨part, run⟩ := runs_freshPart_iff.mp run
      exact ih part (maintains part) run allows credible
  | presentTime next ih =>
      obtain ⟨now, run⟩ := runs_presentTime_iff.mp run
      exact ih now (maintains now) run allows credible

end Program

end NodeGate
