import NodeGate.Cluster.Key
import NodeGate.Cluster.Trace

/-!
# What a trace exchanges

The calls of a trace with their answers, without the signals between them, and among them
those that create a machine, delete one, make one available, put one back into the pool or
report the counts. A program that is a sequence is taken apart at its first call, signal or
choice.
-/

namespace NodeGate

/-- What a call that concerns the pool is for. -/
inductive Purpose where
  | create
  | trim
  | promote
  /-- A machine is put back into the pool, and its node freed for that. -/
  | restore
  | report
deriving DecidableEq

namespace Happening

/-- Whether it is a call with its answer. -/
def isExchange : Happening → Bool
  | .answered .. => true
  | .told _ => false

/-- The machine that was to be created. -/
def creation? : Happening → Option Vmi
  | .answered (.createMachine vmi) _ => some vmi
  | _ => none

/-- The key of the machine that was to be deleted, and the version it had to have. -/
def deletion? : Happening → Option (ObjectKey × Option String)
  | .answered (.deleteMachine space name version) _ => some (⟨space, name⟩, version)
  | _ => none

/-- Whether a machine was to be made available. -/
def isPromotion : Happening → Bool
  | .answered (.changeMachine _ _ patch) _ => patch == .promote patch.resourceVersion
  | _ => false

/-- Whether a machine was to be put back into the pool, or a node to be changed. -/
def isRestoration : Happening → Bool
  | .answered (.changeNode ..) _ => true
  | .answered (.changeMachine _ _ patch) _ => patch == .giveBack patch.resourceVersion
  | _ => false

/-- The status that was to be reported. -/
def report? : Happening → Option PoolStatus
  | .answered (.reportCounts _ patch) _ => some patch.status
  | _ => none

/-- A call that concerns the pool is for one thing. -/
inductive IsFor : Happening → Purpose → Prop where
  | create {vmi : Vmi} {answer : Except Fault Unit} :
      IsFor (.answered (.createMachine vmi) answer) .create
  | trim {space name : String} {version : Option String} {answer : Except Fault Unit} :
      IsFor (.answered (.deleteMachine space name version) answer) .trim
  | promote {space name : String} {version : Option String} {answer : Except Fault Vmi} :
      IsFor (.answered (.changeMachine space name (.promote version)) answer) .promote
  | giveBack {space name : String} {version : Option String} {answer : Except Fault Vmi} :
      IsFor (.answered (.changeMachine space name (.giveBack version)) answer) .restore
  | free {name : String} {patch : NodePatch} {answer : Except Fault Unit} :
      IsFor (.answered (.changeNode name patch) answer) .restore
  | report {name : String} {patch : StatusPatch} {answer : Except Fault Unit} :
      IsFor (.answered (.reportCounts name patch) answer) .report

end Happening

/-- The calls with their answers. -/
def exchanges (past : List Happening) : List Happening :=
  past.filter Happening.isExchange

/-- The machines that were to be created. -/
def creations (past : List Happening) : List Vmi :=
  (exchanges past).filterMap Happening.creation?

/-- The machines that were to be deleted, by their keys, with the versions they had to
have. -/
def deletions (past : List Happening) : List (ObjectKey × Option String) :=
  (exchanges past).filterMap Happening.deletion?

/-- The calls that were to make machines available, with their answers. -/
def promotions (past : List Happening) : List Happening :=
  (exchanges past).filter Happening.isPromotion

/-- The calls that were to put machines back into the pool or to change nodes, with their
answers. -/
def restorations (past : List Happening) : List Happening :=
  (exchanges past).filter Happening.isRestoration

/-- The statuses that were to be reported. -/
def reports (past : List Happening) : List PoolStatus :=
  (exchanges past).filterMap Happening.report?

/-- Every call is for one thing. -/
def OnlyFor (purpose : Purpose) (past : List Happening) : Prop :=
  ∀ happening ∈ exchanges past, happening.IsFor purpose

section Exchanges

variable {past later : List Happening} {asked : Call} {answer : Except Fault asked.Answer}

@[simp]
theorem exchanges_nil : exchanges [] = [] :=
  rfl

@[simp]
theorem exchanges_told {told : Signal} : exchanges (.told told :: past) = exchanges past :=
  rfl

@[simp]
theorem exchanges_answered :
    exchanges (.answered asked answer :: past) = .answered asked answer :: exchanges past :=
  rfl

@[simp]
theorem exchanges_append : exchanges (past ++ later) = exchanges past ++ exchanges later :=
  List.filter_append ..

@[simp]
theorem mem_exchanges :
    .answered asked answer ∈ exchanges past ↔ .answered asked answer ∈ past := by
  simp [exchanges, Happening.isExchange]

@[simp]
theorem creations_told {told : Signal} : creations (.told told :: past) = creations past :=
  rfl

@[simp]
theorem deletions_told {told : Signal} : deletions (.told told :: past) = deletions past :=
  rfl

@[simp]
theorem promotions_told {told : Signal} : promotions (.told told :: past) = promotions past :=
  rfl

@[simp]
theorem restorations_told {told : Signal} :
    restorations (.told told :: past) = restorations past :=
  rfl

@[simp]
theorem reports_told {told : Signal} : reports (.told told :: past) = reports past :=
  rfl

@[simp]
theorem creations_append : creations (past ++ later) = creations past ++ creations later := by
  simp [creations]

@[simp]
theorem deletions_append : deletions (past ++ later) = deletions past ++ deletions later := by
  simp [deletions]

@[simp]
theorem promotions_append : promotions (past ++ later) = promotions past ++ promotions later := by
  simp [promotions]

@[simp]
theorem restorations_append :
    restorations (past ++ later) = restorations past ++ restorations later := by
  simp [restorations]

@[simp]
theorem reports_append : reports (past ++ later) = reports past ++ reports later := by
  simp [reports]

theorem mem_promotions {space name : String} {version : Option String}
    {outcome : Except Fault Vmi} :
    .answered (.changeMachine space name (.promote version)) outcome ∈ promotions past ↔
      .answered (.changeMachine space name (.promote version)) outcome ∈ past := by
  simp [promotions, Happening.isPromotion, VmiPatch.promote]

end Exchanges

namespace OnlyFor

variable {purpose : Purpose} {past : List Happening} (only : OnlyFor purpose past)

include only

theorem creations_eq_nil (other : purpose ≠ .create) : creations past = [] := by
  refine List.filterMap_eq_nil_iff.mpr fun happening member => ?_
  cases only happening member with
  | create => contradiction
  | _ => rfl

theorem deletions_eq_nil (other : purpose ≠ .trim) : deletions past = [] := by
  refine List.filterMap_eq_nil_iff.mpr fun happening member => ?_
  cases only happening member with
  | trim => contradiction
  | _ => rfl

theorem promotions_eq_nil (other : purpose ≠ .promote) : promotions past = [] := by
  refine List.filter_eq_nil_iff.mpr fun happening member => ?_
  cases only happening member with
  | promote => contradiction
  | _ => simp [Happening.isPromotion, VmiPatch.giveBack, VmiPatch.promote]

theorem restorations_eq_nil (other : purpose ≠ .restore) : restorations past = [] := by
  refine List.filter_eq_nil_iff.mpr fun happening member => ?_
  cases only happening member with
  | giveBack => contradiction
  | free => contradiction
  | _ => simp [Happening.isRestoration, VmiPatch.giveBack, VmiPatch.promote]

theorem reports_eq_nil (other : purpose ≠ .report) : reports past = [] := by
  refine List.filterMap_eq_nil_iff.mpr fun happening member => ?_
  cases only happening member with
  | report => contradiction
  | _ => rfl

end OnlyFor

theorem OnlyFor.promotions_eq {past : List Happening} (only : OnlyFor .promote past) :
    promotions past = exchanges past := by
  refine List.filter_eq_self.mpr fun happening member => ?_
  cases only happening member
  simp [Happening.isPromotion, VmiPatch.promote]

theorem OnlyFor.restorations_eq {past : List Happening} (only : OnlyFor .restore past) :
    restorations past = exchanges past := by
  refine List.filter_eq_self.mpr fun happening member => ?_
  cases only happening member <;> simp [Happening.isRestoration, VmiPatch.giveBack]

namespace Program

variable {α : Type} {trace : List Happening} {value : α}

theorem runs_pure_iff {ended : α} : Runs (pure ended) trace value ↔ trace = [] ∧ value = ended :=
  runs_done_iff

/-- A call is answered before what follows it. -/
theorem runs_call_bind_iff {asked : Call} {next : Except Fault asked.Answer → Program α} :
    Runs (call asked >>= next) trace value ↔
      ∃ answer rest, trace = .answered asked answer :: rest ∧ Runs (next answer) rest value :=
  runs_request_iff

/-- A signal is given before what follows it. -/
theorem runs_emit_bind_iff {told : Signal} {next : Unit → Program α} :
    Runs (emit told >>= next) trace value ↔
      ∃ rest, trace = .told told :: rest ∧ Runs (next ()) rest value :=
  runs_signal_iff

/-- What follows a new name goes on with some name. -/
theorem runs_newPart_bind_iff {next : String → Program α} :
    Runs (newPart >>= next) trace value ↔ ∃ part, Runs (next part) trace value :=
  runs_freshPart_iff

/-- What follows the present time goes on at some instant. -/
theorem runs_now_bind_iff {next : Instant → Program α} :
    Runs (now >>= next) trace value ↔ ∃ instant, Runs (next instant) trace value :=
  runs_presentTime_iff

end Program

end NodeGate
