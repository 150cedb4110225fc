import NodeGate.Proofs.Cluster.Conduct
import NodeGate.Proofs.Cluster.Registry

/-!
# Calls that may fail

A call gets the answer of the API server, or it fails for whatever reason and nothing is
written. The trace of a program tells which, and so it tells what is stored after it. The
passes for a work key follow each other, and each of them sees everything as it is stored.
-/

namespace NodeGate.MergingServer

open Program

/-- These things may happen with the server from one registry to another. Of each call it
is told whether it failed or was answered by the server. -/
inductive Allows (server : MergingServer) : Registry → List Happening → Registry → Prop where
  | nothing {registry : Registry} : Allows server registry [] registry
  | told {before after : Registry} {told : Signal} {trace : List Happening}
      (rest : Allows server before trace after) :
      Allows server before (.told told :: trace) after
  | failed {before after : Registry} {asked : Call} {fault : Fault} {trace : List Happening}
      (rest : Allows server before trace after) :
      Allows server before (.answered asked (.error fault) :: trace) after
  | granted {before after : Registry} {asked : Call} {trace : List Happening}
      (rest : Allows server (server.answer asked before).2 trace after) :
      Allows server before (.answered asked (server.answer asked before).1 :: trace) after

/-- What is stored after one thing that happened. A call that failed had no effect. -/
def settle (server : MergingServer) (registry : Registry) : Happening → Registry
  | .answered asked (.ok _) => (server.answer asked registry).2
  | _ => registry

/-- What is stored after what happened. -/
def replay (server : MergingServer) (registry : Registry) (past : List Happening) : Registry :=
  past.foldl server.settle registry

/-- The server answers the call and does what it asks for. -/
def Grants (server : MergingServer) (registry : Registry) (asked : Call) : Prop :=
  ∃ reply, (server.answer asked registry).1 = .ok reply

/-- Passes for a work key follow each other. -/
inductive Trials (server : MergingServer) (site : Site) (text : String) :
    Registry → List (List Happening) → Registry → Prop where
  | none {registry : Registry} : Trials server site text registry [] registry
  | next {before middle after : Registry} {trace : List Happening} {disposition : Disposition}
      {passes : List (List Happening)}
      (run : Runs (Release.pass { site with cache := before.objects } text) trace disposition)
      (allowed : server.Allows before trace middle)
      (rest : Trials server site text middle passes after) :
      Trials server site text before (trace :: passes) after

variable {server : MergingServer} {registry before after : Registry} {asked : Call}
  {past trace : List Happening}

@[simp]
theorem replay_nil : server.replay registry [] = registry :=
  rfl

theorem replay_cons {happening : Happening} :
    server.replay registry (happening :: past) =
      server.replay (server.settle registry happening) past :=
  rfl

@[simp]
theorem replay_append {happening : Happening} :
    server.replay registry (past ++ [happening]) =
      server.settle (server.replay registry past) happening := by
  simp [replay]

@[simp]
theorem settle_told {told : Signal} : server.settle registry (.told told) = registry :=
  rfl

@[simp]
theorem settle_error {fault : Fault} :
    server.settle registry (.answered asked (.error fault)) = registry :=
  rfl

@[simp]
theorem settle_ok {reply : asked.Answer} :
    server.settle registry (.answered asked (.ok reply)) = (server.answer asked registry).2 :=
  rfl

/-- A change that is refused is not made. -/
theorem change_of_refused {α : Type} {metadata : α → ObjectMeta} {found : Option α}
    {pin : Option String} {make : Nat → α → α} {place : α → Cache} {fault : Fault}
    (refused : (registry.change asked metadata found pin make place).1 = .error fault) :
    (registry.change asked metadata found pin make place).2 = registry := by
  unfold Registry.change at refused ⊢
  split
  · rfl
  · split
    next current => simp [current] at refused
    next => rfl

theorem untold_of_refused {α : Type} {done : Except Fault α × Registry} {fault : Fault}
    (unchanged : ∀ fault, done.1 = .error fault → done.2 = registry)
    (refused : (Registry.untold done).1 = .error fault) : (Registry.untold done).2 = registry := by
  obtain ⟨answer, later⟩ := done
  cases answer with
  | ok value => simp [Registry.untold, Except.map] at refused
  | error other => exact unchanged other rfl

/-- A call that the server refuses writes nothing. -/
theorem answer_of_refused {fault : Fault}
    (refused : (server.answer asked registry).1 = .error fault) :
    (server.answer asked registry).2 = registry := by
  cases asked with
  | createMachine vmi =>
      unfold answer at refused ⊢
      dsimp only at refused ⊢
      split
      · rfl
      next fresh => simp [fresh] at refused
  | readMachine space name => rfl
  | changeMachine space name patch => exact change_of_refused refused
  | deleteMachine space name pin => exact untold_of_refused (fun _ => change_of_refused) refused
  | changePod space name patch => exact untold_of_refused (fun _ => change_of_refused) refused
  | changeNode name patch => exact untold_of_refused (fun _ => change_of_refused) refused
  | reportCounts name patch => exact untold_of_refused (fun _ => change_of_refused) refused

/-- The answer of the server tells what it stores. -/
theorem settle_answer :
    server.settle registry (.answered asked (server.answer asked registry).1) =
      (server.answer asked registry).2 := by
  cases answered : (server.answer asked registry).1 with
  | ok reply => rw [settle_ok]
  | error fault => rw [settle_error, answer_of_refused answered]

/-- What is stored after a trace is told by it. -/
theorem Allows.replay_eq (allows : server.Allows before trace after) :
    server.replay before trace = after := by
  induction allows with
  | nothing => rfl
  | told _ ih => exact ih
  | failed _ ih => exact ih
  | granted _ ih =>
      rw [replay_cons, settle_answer, ih]

/-- A program runs to its end when no call fails but by the server. -/
theorem exists_granted {α : Type} (server : MergingServer) (program : Program α)
    (registry : Registry) :
    ∃ trace value after, Runs program trace value ∧ server.Allows registry trace after ∧
      ∀ before asked answer rest, trace = before ++ .answered asked answer :: rest →
        answer = (server.answer asked (server.replay registry before)).1 := by
  induction program generalizing registry with
  | done value => exact ⟨[], value, registry, .done, .nothing, by simp⟩
  | request asked next ih =>
      obtain ⟨trace, value, after, run, allows, granted⟩ :=
        ih (server.answer asked registry).1 (server.answer asked registry).2
      refine ⟨_ :: trace, value, after, .request run, .granted allows, ?_⟩
      intro before other answer rest split
      cases before with
      | nil =>
          cases (List.cons.inj split).1
          rfl
      | cons first before =>
          obtain ⟨rfl, remainder⟩ := List.cons.inj split
          rw [replay_cons, settle_answer]
          exact granted before other answer rest remainder
  | signal told next ih =>
      obtain ⟨trace, value, after, run, allows, granted⟩ := ih registry
      refine ⟨_ :: trace, value, after, .signal run, .told allows, ?_⟩
      intro before other answer rest split
      cases before with
      | nil => cases (List.cons.inj split).1
      | cons first before =>
          obtain ⟨rfl, remainder⟩ := List.cons.inj split
          exact granted before other answer rest remainder
  | freshPart next ih =>
      obtain ⟨trace, value, after, run, rest⟩ := ih "" registry
      exact ⟨trace, value, after, .freshPart run, rest⟩
  | presentTime next ih =>
      obtain ⟨trace, value, after, run, rest⟩ := ih ⟨⟨2026, 1, 1⟩, 0, 0, 0, 0⟩ registry
      exact ⟨trace, value, after, .presentTime run, rest⟩

/-- A program that asks only for what the server grants may run without a failure. -/
theorem exists_unfailing {α : Type} {program : Program α}
    {rule : List Happening → Call → Prop} {goal : List Happening → α → Prop}
    (secures : program.Secures rule goal [])
    (grants : ∀ past asked, rule past asked → server.Grants (server.replay registry past) asked) :
    ∃ trace value after, Runs program trace value ∧ server.Allows registry trace after ∧
      Unfailing trace := by
  obtain ⟨trace, value, after, run, allows, granted⟩ := exists_granted server program registry
  refine ⟨trace, value, after, run, allows, ?_⟩
  intro asked fault failed
  obtain ⟨before, rest, split⟩ := List.append_of_mem failed
  obtain ⟨reply, ok⟩ := grants _ _ (secures.rule_of_runs run split)
  have same := granted before asked (.error fault) rest split
  rw [List.nil_append] at ok
  rw [ok] at same
  contradiction

/-- Passes in a row are some of them and then the others. -/
theorem Trials.split {site : Site} {text : String} {first second : List (List Happening)}
    (trials : server.Trials site text before (first ++ second) after) :
    ∃ middle, server.Trials site text before first middle ∧
      server.Trials site text middle second after := by
  induction first generalizing before with
  | nil => exact ⟨before, .none, trials⟩
  | cons trace passes ih =>
      cases trials with
      | next run allowed rest =>
          obtain ⟨middle, earlier, later⟩ := ih rest
          exact ⟨middle, .next run allowed earlier, later⟩

end NodeGate.MergingServer
