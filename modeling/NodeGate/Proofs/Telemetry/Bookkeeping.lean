import NodeGate.Cluster.Trace
import NodeGate.Pool.Tick
import NodeGate.Release.Pass

/-!
# Programs that keep books

The counters count machines that were created or put back into the pool. A program earns a
credit with each answer that says so; failed calls, conflicts among them, earn none. It keeps
books if it tells each credit right after it earned it and tells no other, whatever its calls
are answered. Only the tick of the pool tells the counts of the pool, once, and it reports the
counts that it told.
-/

namespace NodeGate

open Program

/-- What is counted once it was earned. -/
inductive Credit where
  /-- A machine was created. -/
  | created (kind : MachineKind)
  /-- A claimed machine was put back into the pool. -/
  | returned
deriving DecidableEq, Repr

/-- The credit that a signal tells. -/
def Signal.credit? : Signal → Option Credit
  | .created kind => some (.created kind)
  | .returned => some .returned
  | _ => none

/-- The credit that is earned with an answer. A machine is created for the pool if it is
labelled as one of the pool. -/
def Happening.credit? : Happening → Option Credit
  | .answered (.createMachine vmi) (.ok _) =>
    some (.created (if vmi.isPooled then .pool else .dedicated))
  | .answered (.changeMachine _ _ patch) (.ok _) =>
    if patch = .giveBack patch.resourceVersion then some .returned else none
  | _ => none

/-- Whether the counts of the pool may be told. -/
inductive Page where
  /-- They are not to be told. -/
  | closed
  /-- They are still to be told. -/
  | blank
  /-- They were told. -/
  | filled (tally : Tally)
deriving DecidableEq, Repr

/-- The page after a signal, if that may be told. -/
def Page.after? (page : Page) : Signal → Option Page
  | .pool tally => if page = .blank then some (.filled tally) else none
  | _ => some page

namespace Program

variable {α β : Type}

/-- Whatever the program is answered, it tells the credit that is due before anything else
happens, then every credit of its own right after it earned it, and no other. Its end meets the
goal. -/
def KeepsBooks (goal : Page → α → Prop) : Page → Option Credit → Program α → Prop
  | page, due, .done value => due = none ∧ goal page value
  | page, due, .request asked next =>
    due = none ∧
      ∀ answer, (next answer).KeepsBooks goal page (Happening.credit? (.answered asked answer))
  | page, due, .signal told next =>
    told.credit? = due ∧
      ∃ turned, page.after? told = some turned ∧ next.KeepsBooks goal turned none
  | page, due, .freshPart next => due = none ∧ ∀ part, (next part).KeepsBooks goal page none
  | page, due, .presentTime next => due = none ∧ ∀ now, (next now).KeepsBooks goal page none

/-- The program keeps books and tells no counts of the pool. -/
def LeavesBooks (due : Option Credit) (program : Program α) : Prop :=
  ∀ page, program.KeepsBooks (fun last _ => last = page) page due

/-- The credit that a program is about to tell. -/
def owed? : Program α → Option Credit
  | .signal told _ => told.credit?
  | _ => none

@[simp]
theorem owed?_done {value : α} : (Program.done value).owed? = none :=
  rfl

@[simp]
theorem owed?_request {asked : Call} {next : Except Fault asked.Answer → Program α} :
    (Program.request asked next).owed? = none :=
  rfl

@[simp]
theorem owed?_signal {told : Signal} {next : Program α} :
    (Program.signal told next).owed? = told.credit? :=
  rfl

@[simp]
theorem owed?_freshPart {next : String → Program α} : (Program.freshPart next).owed? = none :=
  rfl

@[simp]
theorem owed?_presentTime {next : Instant → Program α} :
    (Program.presentTime next).owed? = none :=
  rfl

variable {goal : Page → α → Prop} {page : Page} {due : Option Credit} {program : Program α}

/-- What is due is what the program is about to tell. -/
theorem KeepsBooks.owed?_eq (keeps : program.KeepsBooks goal page due) : program.owed? = due := by
  cases program with
  | signal told rest => exact keeps.1
  | _ => exact keeps.1.symm

theorem KeepsBooks.weaken {other : Page → α → Prop} (keeps : program.KeepsBooks goal page due)
    (weaker : ∀ page value, goal page value → other page value) :
    program.KeepsBooks other page due := by
  induction program generalizing page due with
  | done value => exact ⟨keeps.1, weaker _ _ keeps.2⟩
  | request asked rest ih => exact ⟨keeps.1, fun answer => ih answer (keeps.2 answer)⟩
  | signal told rest ih =>
      obtain ⟨tells, turned, turns, later⟩ := keeps
      exact ⟨tells, turned, turns, ih later⟩
  | freshPart rest ih => exact ⟨keeps.1, fun part => ih part (keeps.2 part)⟩
  | presentTime rest ih => exact ⟨keeps.1, fun now => ih now (keeps.2 now)⟩

/-- A sequence keeps books if its second part does from where the first part leaves them. -/
theorem KeepsBooks.bind {next : α → Program β} {goal : Page → β → Prop}
    (keeps : program.KeepsBooks (fun last value => (next value).KeepsBooks goal last none) page
      due) :
    (program >>= next).KeepsBooks goal page due := by
  change (program.andThen next).KeepsBooks goal page due
  induction program generalizing page due with
  | done value =>
      obtain ⟨rfl, later⟩ := keeps
      exact later
  | request asked rest ih => exact ⟨keeps.1, fun answer => ih answer (keeps.2 answer)⟩
  | signal told rest ih =>
      obtain ⟨tells, turned, turns, later⟩ := keeps
      exact ⟨tells, turned, turns, ih later⟩
  | freshPart rest ih => exact ⟨keeps.1, fun part => ih part (keeps.2 part)⟩
  | presentTime rest ih => exact ⟨keeps.1, fun now => ih now (keeps.2 now)⟩

theorem KeepsBooks.map {change : α → β} {goal : Page → β → Prop}
    (keeps : program.KeepsBooks (fun last value => goal last (change value)) page due) :
    (change <$> program).KeepsBooks goal page due := by
  rw [map_eq_pure_bind]
  exact (keeps.weaken fun _ _ reached => ⟨rfl, reached⟩).bind

/-- What follows a part that leaves the books as they are goes on with them. -/
theorem LeavesBooks.andThen {next : α → Program β} {goal : Page → β → Prop}
    (first : program.LeavesBooks due) (second : ∀ value, (next value).KeepsBooks goal page none) :
    (program >>= next).KeepsBooks goal page due :=
  ((first page).weaken fun _ value unturned => unturned ▸ second value).bind

theorem LeavesBooks.bind {next : α → Program β} (first : program.LeavesBooks due)
    (second : ∀ value, (next value).LeavesBooks none) : (program >>= next).LeavesBooks due :=
  fun page => first.andThen fun value => second value page

theorem leavesBooks_pure {value : α} : (pure value : Program α).LeavesBooks none :=
  fun _ => ⟨rfl, rfl⟩

/-- What follows a call has to tell the credit that the answer earned. -/
theorem leavesBooks_call_bind {asked : Call} {next : Except Fault asked.Answer → Program β}
    (rest : ∀ answer, (next answer).LeavesBooks (Happening.credit? (.answered asked answer))) :
    (call asked >>= next).LeavesBooks none :=
  fun page => ⟨rfl, fun answer => rest answer page⟩

/-- A call that earns no credit leaves the books as they are. -/
theorem leavesBooks_call {asked : Call}
    (idle : ∀ answer, Happening.credit? (.answered asked answer) = none) :
    (call asked).LeavesBooks none :=
  fun _ => ⟨rfl, fun answer => ⟨idle answer, rfl⟩⟩

theorem leavesBooks_newPart_bind {next : String → Program β}
    (rest : ∀ part, (next part).LeavesBooks none) : (newPart >>= next).LeavesBooks none :=
  fun page => ⟨rfl, fun part => rest part page⟩

theorem leavesBooks_now_bind {next : Instant → Program β}
    (rest : ∀ instant, (next instant).LeavesBooks none) : (now >>= next).LeavesBooks none :=
  fun page => ⟨rfl, fun instant => rest instant page⟩

/-- A credit that is told is no longer due. -/
theorem leavesBooks_tell_bind {credit : Credit} {told : Signal} {next : Unit → Program β}
    (tells : told.credit? = some credit) (rest : (next ()).LeavesBooks none) :
    (emit told >>= next).LeavesBooks (some credit) := by
  intro page
  refine ⟨tells, page, ?_, rest page⟩
  cases told with
  | pool tally => contradiction
  | _ => rfl

theorem leavesBooks_remark {said : Remark} {object : ObjectReference} {note : String} :
    (remark said object note).LeavesBooks none :=
  fun page => ⟨rfl, page, rfl, rfl, rfl⟩

theorem leavesBooks_logFault {context : String} {fault : Fault} :
    (logFault context fault).LeavesBooks none :=
  fun page => ⟨rfl, page, rfl, rfl, rfl⟩

end Program

section Credits

variable {space name key : String} {version : Option String} {answer : Except Fault Vmi}

theorem credit?_claim :
    Happening.credit? (.answered (.changeMachine space name (.claim version key)) answer) = none := by
  cases answer <;> simp [Happening.credit?, VmiPatch.claim, VmiPatch.giveBack]

theorem credit?_promote :
    Happening.credit? (.answered (.changeMachine space name (.promote version)) answer) =
      none := by
  cases answer <;> simp [Happening.credit?, VmiPatch.promote, VmiPatch.giveBack]

theorem credit?_giveBack {stored : Vmi} :
    Happening.credit? (.answered (.changeMachine space name (.giveBack version)) (.ok stored)) =
      some .returned := by
  simp [Happening.credit?, VmiPatch.giveBack]

theorem Manifest.isPooled_dedicated {size : MachineSize} {defaults : MachineDefaults}
    {join : JoinSettings} : (dedicated space name size defaults join).isPooled = false :=
  rfl

theorem Manifest.isPooled_pool {defaults : MachineDefaults} {join : JoinSettings} :
    (pool space name defaults join).isPooled = true := by
  simp [pool, Vmi.isPooled, ObjectMeta.label?, Entries.get?_cons]

end Credits

namespace Release

variable {site : Site} {key : ObjectKey} {pod : Pod} {vmi : Vmi} {text : String}

theorem refuse_leavesBooks {α : Type} {reason : String} :
    (refuse key pod reason : Program (Except Fault α)).LeavesBooks none :=
  leavesBooks_remark.bind fun _ => leavesBooks_pure

theorem liftGate_leavesBooks : (liftGate key pod).LeavesBooks none := by
  unfold liftGate
  split
  · exact leavesBooks_pure
  · exact leavesBooks_call fun _ => rfl

theorem openGate_leavesBooks : (openGate site key pod vmi).LeavesBooks none := by
  unfold openGate
  split
  · exact leavesBooks_remark.bind fun _ => leavesBooks_pure
  · split
    · exact leavesBooks_remark.bind fun _ => leavesBooks_pure
    · refine liftGate_leavesBooks.bind ?_
      rintro (fault | _)
      · exact leavesBooks_pure
      · exact leavesBooks_remark.bind fun _ => leavesBooks_pure

/-- The machine that is created is counted as one of the pod's own. -/
theorem createDedicated_leavesBooks : (createDedicated site key pod).LeavesBooks none := by
  unfold createDedicated
  split
  · exact refuse_leavesBooks
  · apply leavesBooks_call_bind
    rintro (fault | _)
    · dsimp only
      split
      · exact leavesBooks_pure
      · exact leavesBooks_remark.bind fun _ => leavesBooks_pure
    · exact leavesBooks_tell_bind rfl (leavesBooks_remark.bind fun _ => leavesBooks_pure)

theorem claim_leavesBooks : (claim vmi key).LeavesBooks none := by
  unfold claim
  split
  · exact leavesBooks_pure
  · apply leavesBooks_call_bind
    intro answer
    rw [credit?_claim]
    cases answer <;> exact leavesBooks_pure

theorem reserveNode_leavesBooks : (reserveNode site key vmi).LeavesBooks none := by
  unfold reserveNode
  split
  · exact leavesBooks_pure
  · split
    · exact leavesBooks_pure
    · exact leavesBooks_call fun _ => rfl

theorem selectNode_leavesBooks : (selectNode key pod vmi).LeavesBooks none := by
  unfold selectNode
  split
  · exact leavesBooks_pure
  · apply leavesBooks_call_bind
    rintro (fault | _) <;> exact leavesBooks_pure

theorem pinToMachine_leavesBooks : (pinToMachine site key pod vmi).LeavesBooks none := by
  refine reserveNode_leavesBooks.bind ?_
  rintro (fault | _)
  · exact leavesBooks_pure
  · exact selectNode_leavesBooks

theorem obtainMachine_leavesBooks : (obtainMachine site key pod).LeavesBooks none := by
  apply leavesBooks_call_bind
  rintro (fault | found)
  · exact leavesBooks_pure
  · dsimp only
    split
    · exact openGate_leavesBooks
    · split
      · exact createDedicated_leavesBooks
      · refine claim_leavesBooks.bind ?_
        rintro (fault | _)
        · dsimp only
          split
          · exact leavesBooks_pure
          · exact leavesBooks_logFault.bind fun _ => createDedicated_leavesBooks
        · refine pinToMachine_leavesBooks.bind ?_
          rintro (fault | _)
          · exact leavesBooks_pure
          · exact leavesBooks_remark.bind fun _ => leavesBooks_pure

theorem serve_leavesBooks : (serve site key pod).LeavesBooks none := by
  unfold serve
  split
  · exact obtainMachine_leavesBooks
  · split
    · refine pinToMachine_leavesBooks.bind ?_
      rintro (fault | _ | _)
      · exact leavesBooks_pure
      · exact openGate_leavesBooks
      · exact leavesBooks_pure
    · exact openGate_leavesBooks

theorem freeNode_leavesBooks {name : String} : (freeNode site name vmi).LeavesBooks none := by
  unfold freeNode
  split
  · split
    · exact leavesBooks_pure
    · apply leavesBooks_call_bind
      rintro (fault | _) <;> exact leavesBooks_pure
  · exact leavesBooks_pure

/-- The machine that is put back is counted, whoever gives it back. -/
theorem giveBack_leavesBooks : (giveBack site vmi).LeavesBooks none := by
  unfold giveBack
  split
  · exact leavesBooks_pure
  · refine freeNode_leavesBooks.bind ?_
    rintro (fault | _)
    · exact leavesBooks_pure
    · apply leavesBooks_call_bind
      rintro (fault | stored)
      · exact leavesBooks_pure
      · rw [credit?_giveBack]
        exact leavesBooks_tell_bind rfl leavesBooks_pure

theorem giveBackClaimed_leavesBooks : (giveBackClaimed site key pod).LeavesBooks none := by
  unfold giveBackClaimed
  split
  · exact leavesBooks_pure
  · refine giveBack_leavesBooks.bind ?_
    rintro (fault | _)
    · exact leavesBooks_pure
    · exact leavesBooks_remark.bind fun _ => leavesBooks_pure

theorem deleteDedicated_leavesBooks : (deleteDedicated key pod).LeavesBooks none := by
  apply leavesBooks_call_bind
  rintro (fault | _)
  · exact leavesBooks_pure
  · exact leavesBooks_remark.bind fun _ => leavesBooks_pure

theorem releaseMachine_leavesBooks : (releaseMachine site key pod).LeavesBooks none := by
  refine giveBackClaimed_leavesBooks.bind ?_
  rintro (fault | returned)
  · exact leavesBooks_pure
  · dsimp only
    split
    · split
      · exact leavesBooks_pure
      · exact deleteDedicated_leavesBooks
    · split
      · apply leavesBooks_call_bind
        rintro (fault | _ | found)
        · exact leavesBooks_pure
        · exact leavesBooks_pure
        · dsimp only
          split
          · exact leavesBooks_pure
          · exact deleteDedicated_leavesBooks
      · exact deleteDedicated_leavesBooks

theorem dropFinalizer_leavesBooks : (dropFinalizer key pod).LeavesBooks none := by
  unfold dropFinalizer
  split
  · exact leavesBooks_pure
  · apply leavesBooks_call_bind
    rintro (fault | _) <;> exact leavesBooks_pure

theorem depart_leavesBooks : (depart site key pod).LeavesBooks none := by
  unfold depart
  split
  · exact leavesBooks_pure
  · refine releaseMachine_leavesBooks.bind ?_
    rintro (fault | _)
    · exact leavesBooks_pure
    · refine dropFinalizer_leavesBooks.bind ?_
      rintro (fault | _) <;> exact leavesBooks_pure

theorem attempt_leavesBooks : (attempt site text).LeavesBooks none := by
  unfold attempt
  split
  · exact leavesBooks_pure
  · split
    · exact leavesBooks_pure
    · unfold attend
      split
      · exact depart_leavesBooks
      · split
        · exact leavesBooks_pure
        · split
          · exact serve_leavesBooks
          · exact refuse_leavesBooks

/-- A pass keeps books. -/
theorem pass_leavesBooks : (pass site text).LeavesBooks none := by
  refine attempt_leavesBooks.bind ?_
  rintro (fault | _)
  · exact leavesBooks_logFault.bind fun _ => leavesBooks_pure
  · exact leavesBooks_pure

/-- The release of what served a pod that vanished keeps books. -/
theorem podVanished_leavesBooks : (podVanished site pod).LeavesBooks none := by
  unfold podVanished
  cases pod.key? with
  | none => exact leavesBooks_pure
  | some text =>
      dsimp only
      cases ObjectKey.ofText text with
      | error fault => exact leavesBooks_logFault
      | ok key =>
          refine releaseMachine_leavesBooks.bind ?_
          rintro (fault | _)
          · exact leavesBooks_logFault
          · exact leavesBooks_pure

end Release

namespace Pool

variable {site : Site} {survey : Survey} {vmi : Vmi}

theorem promote_leavesBooks : (promote site vmi).LeavesBooks none := by
  unfold promote
  split
  · exact leavesBooks_pure
  · split
    · apply leavesBooks_call_bind
      intro answer
      rw [credit?_promote]
      cases answer with
      | error fault => exact leavesBooks_logFault.bind fun _ => leavesBooks_pure
      | ok promoted => exact leavesBooks_pure
    · exact leavesBooks_pure

theorem survey_add_leavesBooks : (survey.add site vmi).LeavesBooks none := by
  unfold Survey.add
  split
  · refine promote_leavesBooks.bind ?_
    rintro (_ | promoted) <;> exact leavesBooks_pure
  all_goals exact leavesBooks_pure

theorem survey_addAll_leavesBooks {members : List Vmi} :
    (survey.addAll site members).LeavesBooks none := by
  induction members generalizing survey with
  | nil => exact leavesBooks_pure
  | cons first rest ih => exact survey_add_leavesBooks.bind fun _ => ih

theorem reportStatus_leavesBooks {config : GateConfig} {tally : Tally} :
    (reportStatus config tally).LeavesBooks none := by
  apply leavesBooks_now_bind
  intro instant
  dsimp only
  split
  · split
    · exact leavesBooks_pure
    · apply leavesBooks_call_bind
      rintro (fault | _)
      · exact leavesBooks_logFault.bind fun _ => leavesBooks_pure
      · exact leavesBooks_pure
  · exact leavesBooks_pure

/-- Every machine that is created is counted as one of the pool, and a name that is taken is
not. -/
theorem enlarge_leavesBooks {count : Nat} : (enlarge site count).LeavesBooks none := by
  induction count with
  | zero => exact leavesBooks_pure
  | succ count ih =>
      apply leavesBooks_newPart_bind
      intro part
      apply leavesBooks_call_bind
      rintro (fault | _)
      · dsimp only
        split
        · exact ih
        · exact leavesBooks_logFault.bind fun _ => ih.bind fun _ => leavesBooks_pure
      · refine leavesBooks_tell_bind ?_ (ih.bind fun _ => leavesBooks_pure)
        rw [Manifest.isPooled_pool]
        rfl

theorem shrink_leavesBooks {excess : List Vmi} : (shrink excess).LeavesBooks none := by
  induction excess with
  | nil => exact leavesBooks_pure
  | cons first rest ih =>
      unfold shrink
      split
      · exact ih
      · apply leavesBooks_call_bind
        rintro (fault | _)
        · exact leavesBooks_logFault.bind fun _ => ih
        · exact ih.bind fun _ => leavesBooks_pure

theorem reclaim_leavesBooks {orphans : List Vmi} : (reclaim site orphans).LeavesBooks none := by
  induction orphans with
  | nil => exact leavesBooks_pure
  | cons first rest ih =>
      refine Release.giveBack_leavesBooks.bind ?_
      rintro (fault | _)
      · exact leavesBooks_logFault.bind fun _ => ih
      · exact ih.bind fun _ => leavesBooks_pure

/-- The tick of a pool that is wanted reports the counts that it told. -/
theorem tend_keepsBooks {config : GateConfig} {desired : Nat} :
    (tend site config desired).KeepsBooks (fun page report => page = .filled report.tally)
      .blank none := by
  apply survey_addAll_leavesBooks.andThen
  intro survey
  refine ⟨rfl, .filled survey.tally, rfl, ?_⟩
  apply reportStatus_leavesBooks.andThen
  intro published
  apply enlarge_leavesBooks.andThen
  intro counts
  apply shrink_leavesBooks.andThen
  intro deleted
  apply reclaim_leavesBooks.andThen
  intro reclaimed
  exact ⟨rfl, rfl⟩

/-- A tick keeps books and reports the counts that it told. -/
theorem tick_keepsBooks :
    (tick site).KeepsBooks (fun page report => page = .filled report.tally) .blank none := by
  unfold tick
  dsimp only
  split
  · exact ⟨rfl, _, rfl, rfl, rfl⟩
  · split
    · exact ⟨rfl, _, rfl, rfl, rfl⟩
    · exact tend_keepsBooks

end Pool

end NodeGate
