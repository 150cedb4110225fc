import NodeGate.Proofs.Telemetry.Provenance

/-!
# The counters as a ledger

Any number of passes and releases and at most one tick of the pool go on at once, their calls
are answered in any order and anyhow, and all of them tell the same counters. A log holds
whatever happened. At any time the counters agree with it: each credit that was earned is
counted, unless the job that earned it is just about to tell it; each pass that ended is counted
by its disposition; and while no tick goes on, the counts of the pool are those that the last
tick reported.
-/

namespace NodeGate

open Program

namespace Duty

/-- What a duty ends in. -/
inductive Result where
  | passed (disposition : Disposition)
  | parted
  | ticked (report : Pool.Report)
deriving DecidableEq

/-- The program of a duty, with what it ends in. -/
def work (site : Site) : Duty → Program Result
  | .pass text => .passed <$> Release.pass site text
  | .farewell pod => (fun _ => .parted) <$> Release.podVanished site pod
  | .tick => .ticked <$> Pool.tick site

/-- Only a tick tells the counts of the pool. -/
def page : Duty → Page
  | .tick => .blank
  | _ => .closed

/-- What a duty may end in. A tick reports the counts that it told. -/
inductive EndsIn : Duty → Page → Result → Prop where
  | passed {text : String} {disposition : Disposition} :
      EndsIn (.pass text) .closed (.passed disposition)
  | parted {pod : Pod} : EndsIn (.farewell pod) .closed .parted
  | ticked {report : Pool.Report} : EndsIn .tick (.filled report.tally) (.ticked report)

variable {duty : Duty} {site : Site} {past : List Happening}

theorem program_eq_work : duty.program site = (fun _ => ()) <$> duty.work site := by
  cases duty <;> simp [program, work]

theorem work_keepsBooks : (duty.work site).KeepsBooks duty.EndsIn duty.page none := by
  cases duty with
  | pass text =>
      refine ((Release.pass_leavesBooks .closed).weaken ?_).map
      rintro page disposition rfl
      exact .passed
  | farewell pod =>
      refine ((Release.podVanished_leavesBooks .closed).weaken ?_).map
      rintro page - rfl
      exact .parted
  | tick =>
      refine (Pool.tick_keepsBooks.weaken ?_).map
      rintro page report rfl
      exact .ticked

theorem work_accounts :
    Release.Asks (duty.work site) (fun asked => duty.MakesBy asked ∧ RefillsBy site asked)
      past := by
  have accounts : Release.Asks (duty.program site) _ past := program_accounts
  rw [program_eq_work] at accounts
  exact secures_map.mp accounts

end Duty

/-- A duty under way: what is left of it. -/
structure Job where
  duty : Duty
  site : Site
  rest : Program Duty.Result

/-- What is logged. -/
inductive Entry where
  /-- Something happened in a duty. -/
  | happened (duty : Duty) (site : Site) (happening : Happening)
  /-- A duty ended. -/
  | ended (result : Duty.Result)

/-- The controller at work. -/
structure Engine where
  counters : Counters := {}
  jobs : List Job := []

namespace Counters

/-- Counts a pass that ended. -/
def conclude (counters : Counters) : Duty.Result → Counters
  | .passed disposition => counters.recordPass disposition
  | _ => counters

/-- The credits that are counted. -/
def count (counters : Counters) : Credit → Nat
  | .created kind => counters.created kind
  | .returned => counters.returned

end Counters

namespace Job

/-- A duty that begins. -/
def start (duty : Duty) (site : Site) : Job :=
  ⟨duty, site, duty.work site⟩

/-- What a job does next: it makes a call, which is answered anyhow, or goes on by itself. -/
inductive Goes (counters : Counters) : Job → Option Entry → Job → Counters → Prop where
  | call {duty : Duty} {site : Site} {asked : Call}
      {next : Except Fault asked.Answer → Program Duty.Result}
      (answer : Except Fault asked.Answer) :
      Goes counters ⟨duty, site, .request asked next⟩
        (some (.happened duty site (.answered asked answer))) ⟨duty, site, next answer⟩ counters
  | signal {duty : Duty} {site : Site} {told : Signal} {rest : Program Duty.Result} :
      Goes counters ⟨duty, site, .signal told rest⟩ (some (.happened duty site (.told told)))
        ⟨duty, site, rest⟩ (counters.observe told)
  | freshPart {duty : Duty} {site : Site} {next : String → Program Duty.Result}
      (part : String) : Goes counters ⟨duty, site, .freshPart next⟩ none ⟨duty, site, next part⟩
        counters
  | presentTime {duty : Duty} {site : Site} {next : Instant → Program Duty.Result}
      (now : Instant) : Goes counters ⟨duty, site, .presentTime next⟩ none
        ⟨duty, site, next now⟩ counters

/-- The job is about to tell the credit. -/
def owes (credit : Credit) (job : Job) : Bool :=
  job.rest.owed? = some credit

end Job

namespace Entry

/-- The credit was earned. -/
def earns (credit : Credit) : Entry → Bool
  | .happened _ _ happening => happening.credit? = some credit
  | .ended _ => false

/-- A pass ended with the disposition. -/
def concludes (disposition : Disposition) : Entry → Bool
  | .ended (.passed other) => other = disposition
  | _ => false

/-- The counts that a tick reported when it ended. -/
def tally? : Entry → Option Tally
  | .ended (.ticked report) => some report.tally
  | _ => none

/-- A machine that was made or made available is one that the duty makes or makes available. -/
def IsAccounted : Entry → Prop
  | .happened duty site (.answered asked _) => duty.MakesBy asked ∧ Duty.RefillsBy site asked
  | _ => True

end Entry

/-- The counts that the last tick reported. -/
def lastTally? (log : List Entry) : Option Tally :=
  (log.filterMap Entry.tally?).getLast?

namespace Engine

/-- One step of the controller. A duty begins, but no tick while another goes on; a job goes on
or ends; or the length of the queue is reported. -/
inductive Step : Engine → Option Entry → Engine → Prop where
  | begin {counters : Counters} {jobs : List Job} (duty : Duty) (site : Site)
      (alone : duty = .tick → ∀ job ∈ jobs, job.duty ≠ .tick) :
      Step ⟨counters, jobs⟩ none ⟨counters, .start duty site :: jobs⟩
  | go {counters counted : Counters} {before after : List Job} {job next : Job}
      {entry : Option Entry} (goes : job.Goes counters entry next counted) :
      Step ⟨counters, before ++ job :: after⟩ entry ⟨counted, before ++ next :: after⟩
  | finish {counters : Counters} {before after : List Job} {duty : Duty} {site : Site}
      {result : Duty.Result} :
      Step ⟨counters, before ++ ⟨duty, site, .done result⟩ :: after⟩ (some (.ended result))
        ⟨counters.conclude result, before ++ after⟩
  | gauge {counters : Counters} {jobs : List Job} (length : Nat) :
      Step ⟨counters, jobs⟩ none ⟨counters.recordQueueLength length, jobs⟩

/-- What the controller comes to from fresh counters, with what was logged. -/
inductive Reaches : List Entry → Engine → Prop where
  | fresh : Reaches [] {}
  | step {log : List Entry} {engine later : Engine} {entry : Option Entry}
      (reached : Reaches log engine) (step : Step engine entry later) :
      Reaches (log ++ entry.toList) later

/-- The number of credits that were earned and are just about to be told. -/
def owed (engine : Engine) (credit : Credit) : Nat :=
  engine.jobs.countP (Job.owes credit)

end Engine

section Counts

variable {counters : Counters} {told : Signal} {result : Duty.Result} {credit : Credit}
  {disposition : Disposition} {length : Nat}

/-- A signal counts the credit that it tells. -/
theorem Counters.count_observe :
    (counters.observe told).count credit =
      counters.count credit + if told.credit? = some credit then 1 else 0 := by
  cases told with
  | created kind => cases kind <;> cases credit with
    | created other => cases other <;> rfl
    | returned => rfl
  | _ => cases credit with
    | created other => cases other <;> rfl
    | returned => rfl

theorem Counters.passes_observe :
    (counters.observe told).passes disposition = counters.passes disposition := by
  cases told with
  | created kind => cases kind <;> cases disposition <;> rfl
  | _ => cases disposition <;> rfl

/-- Only the counts of the pool change what they are. -/
theorem Counters.pool_observe (other : ∀ tally, told ≠ .pool tally) :
    (counters.observe told).pool = counters.pool := by
  cases told with
  | pool tally => exact absurd rfl (other tally)
  | created kind => cases kind <;> rfl
  | _ => rfl

theorem Counters.count_conclude :
    (counters.conclude result).count credit = counters.count credit := by
  cases result with
  | passed disposition => cases disposition <;> cases credit with
    | created kind => cases kind <;> rfl
    | returned => rfl
  | _ => rfl

/-- A pass that ends is counted by its disposition. -/
theorem Counters.passes_conclude :
    (counters.conclude result).passes disposition =
      counters.passes disposition +
        if (Entry.ended result).concludes disposition then 1 else 0 := by
  cases result with
  | passed other => cases other <;> cases disposition <;> rfl
  | _ => rfl

theorem Counters.pool_conclude : (counters.conclude result).pool = counters.pool := by
  cases result with
  | passed disposition => cases disposition <;> rfl
  | _ => rfl

theorem Counters.count_recordQueueLength :
    (counters.recordQueueLength length).count credit = counters.count credit := by
  cases credit with
  | created kind => cases kind <;> rfl
  | returned => rfl

theorem Counters.passes_recordQueueLength :
    (counters.recordQueueLength length).passes disposition = counters.passes disposition := by
  cases disposition <;> rfl

end Counts

/-- The counts of the pool agree with a page: still as they were last reported, or just told. -/
def Page.Agrees (last shown : Option Tally) : Page → Prop
  | .closed => True
  | .blank => shown = last
  | .filled tally => shown = some tally

/-- A signal that may be told leaves the page in agreement, and a closed page allows no counts of
the pool. -/
theorem Page.Agrees.observe {page turned : Page} {last : Option Tally} {counters : Counters}
    {told : Signal} (agrees : page.Agrees last counters.pool)
    (turns : page.after? told = some turned) :
    turned.Agrees last (counters.observe told).pool ∧
      (page = .closed → turned = .closed ∧ (counters.observe told).pool = counters.pool) := by
  cases told with
  | pool tally =>
      obtain ⟨rfl, same⟩ := Option.ite_none_right_eq_some.mp turns
      obtain rfl := Option.some.inj same
      exact ⟨rfl, nofun⟩
  | _ =>
      obtain rfl := Option.some.inj turns
      refine ⟨?_, fun closed => ⟨closed, Counters.pool_observe nofun⟩⟩
      rw [Counters.pool_observe]
      · exact agrees
      · nofun

namespace Job

/-- Whatever a job is answered, it keeps books, from a page that agrees with the counts of the
pool, and accounts for what it makes. -/
structure Sound (last shown : Option Tally) (job : Job) : Prop where
  keeps : ∃ page, job.rest.KeepsBooks job.duty.EndsIn page job.rest.owed? ∧
    page.Agrees last shown ∧ (job.duty ≠ .tick → page = .closed)
  accounts : ∃ past, Release.Asks job.rest
    (fun asked => job.duty.MakesBy asked ∧ Duty.RefillsBy job.site asked) past

variable {counters counted : Counters} {job next : Job} {entry : Option Entry}
  {last shown : Option Tally} {credit : Credit} {disposition : Disposition}

theorem owes_iff : job.owes credit = true ↔ job.rest.owed? = some credit :=
  decide_eq_true_iff

theorem start_owes {duty : Duty} {site : Site} : (start duty site).owes credit = false := by
  have keeps : (duty.work site).KeepsBooks duty.EndsIn duty.page none := Duty.work_keepsBooks
  simp [owes, start, keeps.owed?_eq]

/-- A job begins sound while the counts of the pool are those last reported. -/
theorem start_sound {duty : Duty} {site : Site} (same : duty = .tick → shown = last) :
    (start duty site).Sound last shown := by
  have keeps : (duty.work site).KeepsBooks duty.EndsIn duty.page none := Duty.work_keepsBooks
  constructor
  · refine ⟨duty.page, ?_, ?_, ?_⟩
    · rw [start, keeps.owed?_eq]
      exact keeps
    · cases duty with
      | tick => exact same rfl
      | _ => trivial
    · intro other
      cases duty with
      | tick => exact absurd rfl other
      | _ => rfl
  · exact ⟨[], Duty.work_accounts⟩

/-- What the counts of the pool are matters to a tick only. -/
theorem Sound.of_ne_tick {otherLast otherShown : Option Tally} (sound : job.Sound last shown)
    (other : job.duty ≠ .tick) : job.Sound otherLast otherShown := by
  obtain ⟨page, keeps, -, closed⟩ := sound.keeps
  obtain rfl := closed other
  exact ⟨⟨.closed, keeps, trivial, closed⟩, sound.accounts⟩

theorem Goes.duty_eq (goes : job.Goes counters entry next counted) : next.duty = job.duty := by
  cases goes <;> rfl

/-- Nothing is reported while a job goes on. -/
theorem Goes.reports_nothing (goes : job.Goes counters entry next counted) :
    entry.toList.filterMap Entry.tally? = [] := by
  cases goes <;> rfl

theorem Goes.concludes_nothing (goes : job.Goes counters entry next counted) :
    entry.toList.countP (Entry.concludes disposition) = 0 := by
  cases goes <;> rfl

theorem Goes.passes_eq (goes : job.Goes counters entry next counted) :
    counted.passes disposition = counters.passes disposition := by
  cases goes with
  | signal => exact Counters.passes_observe
  | _ => rfl

theorem Sound.isAccounted (sound : job.Sound last shown)
    (goes : job.Goes counters entry next counted) : ∀ logged ∈ entry, logged.IsAccounted := by
  rintro logged ⟨⟩
  obtain ⟨past, accounts⟩ := sound.accounts
  cases goes with
  | call answer => exact accounts.1
  | signal => trivial

/-- A job that goes on stays sound, and only a tick changes the counts of the pool. -/
theorem Sound.goes (sound : job.Sound last counters.pool)
    (goes : job.Goes counters entry next counted) :
    next.Sound last counted.pool ∧ (job.duty ≠ .tick → counted.pool = counters.pool) := by
  obtain ⟨page, keeps, agrees, closed⟩ := sound.keeps
  obtain ⟨past, accounts⟩ := sound.accounts
  cases goes with
  | call answer =>
      have later := keeps.2 answer
      rw [← later.owed?_eq] at later
      exact ⟨⟨⟨page, later, agrees, closed⟩, _, accounts.2 answer⟩, fun _ => rfl⟩
  | freshPart part =>
      have later := keeps.2 part
      rw [← later.owed?_eq] at later
      exact ⟨⟨⟨page, later, agrees, closed⟩, _, accounts part⟩, fun _ => rfl⟩
  | presentTime now =>
      have later := keeps.2 now
      rw [← later.owed?_eq] at later
      exact ⟨⟨⟨page, later, agrees, closed⟩, _, accounts now⟩, fun _ => rfl⟩
  | signal =>
      obtain ⟨-, turned, turns, later⟩ := keeps
      rw [← later.owed?_eq] at later
      obtain ⟨agree, stays⟩ := agrees.observe turns
      exact ⟨⟨⟨turned, later, agree, fun other => (stays (closed other)).1⟩, _, accounts⟩,
        fun other => (stays (closed other)).2⟩

/-- While a job goes on, what it earns is what it owes from then on, and what it tells is counted
and no longer owed. -/
theorem Sound.count_eq (sound : job.Sound last shown)
    (goes : job.Goes counters entry next counted) :
    counted.count credit + (if next.owes credit then 1 else 0) =
      counters.count credit + (if job.owes credit then 1 else 0) +
        entry.toList.countP (Entry.earns credit) := by
  obtain ⟨page, keeps, -⟩ := sound.keeps
  cases goes with
  | call answer =>
      have due := (keeps.2 answer).owed?_eq
      simp [owes_iff, due, Entry.earns]
  | signal =>
      obtain ⟨-, turned, -, later⟩ := keeps
      simp [owes_iff, later.owed?_eq, Counters.count_observe, Entry.earns, Happening.credit?]
  | freshPart part =>
      have due := (keeps.2 part).owed?_eq
      simp [owes_iff, due]
  | presentTime now =>
      have due := (keeps.2 now).owed?_eq
      simp [owes_iff, due]

/-- What a tick ends in has the counts that are shown, and no other duty reports any. -/
theorem Sound.agrees_of_done {duty : Duty} {site : Site} {result : Duty.Result}
    (sound : Job.Sound last shown ⟨duty, site, .done result⟩) :
    (duty = .tick → ∃ tally, (Entry.ended result).tally? = some tally ∧ shown = some tally) ∧
      (duty ≠ .tick → (Entry.ended result).tally? = none) := by
  obtain ⟨page, ⟨-, ends⟩, agrees, -⟩ := sound.keeps
  cases ends with
  | passed => exact ⟨nofun, fun _ => rfl⟩
  | parted => exact ⟨nofun, fun _ => rfl⟩
  | ticked => exact ⟨fun _ => ⟨_, rfl, agrees⟩, fun other => absurd rfl other⟩

end Job

section LastTally

variable {log entries : List Entry} {tally : Tally}

theorem lastTally?_append_of_silent (silent : entries.filterMap Entry.tally? = []) :
    lastTally? (log ++ entries) = lastTally? log := by
  rw [lastTally?, List.filterMap_append, silent, List.append_nil, lastTally?]

theorem lastTally?_append_of_tally {ended : Entry} (reported : ended.tally? = some tally) :
    lastTally? (log ++ [ended]) = some tally := by
  simp [lastTally?, reported]

end LastTally

namespace Engine

/-- What the counters tell of all that was logged. -/
structure Accounts (log : List Entry) (engine : Engine) : Prop where
  /-- What was earned is counted, but for what is just about to be told. -/
  counted : ∀ credit, engine.counters.count credit + engine.owed credit =
    log.countP (Entry.earns credit)
  /-- The passes are counted by their dispositions. -/
  passed : ∀ disposition,
    engine.counters.passes disposition = log.countP (Entry.concludes disposition)
  /-- From the end of a tick to the begin of the next one its counts are shown. -/
  shown : (∀ job ∈ engine.jobs, job.duty ≠ .tick) → engine.counters.pool = lastTally? log
  /-- What is counted for pods was named after them, what is counted for the pool has a
  generated name, and what is counted as returned was cached as claimed. -/
  accounted : ∀ entry ∈ log, entry.IsAccounted

/-- At most one of the jobs is a tick. -/
def NotBothTicks (one other : Job) : Prop :=
  one.duty = .tick → other.duty ≠ .tick

/-- The counters account for the log, all jobs are sound, and at most one is a tick. -/
structure Balanced (log : List Entry) (engine : Engine) : Prop extends
    Accounts log engine where
  sound : ∀ job ∈ engine.jobs, job.Sound (lastTally? log) engine.counters.pool
  alone : engine.jobs.Pairwise NotBothTicks

variable {log : List Entry} {engine later : Engine} {entry : Option Entry} {credit : Credit}
  {counters counted : Counters} {before after : List Job} {job next : Job}

theorem balanced_fresh : Balanced [] {} := by
  refine { counted := ?_, passed := ?_, shown := ?_, accounted := ?_, sound := ?_, alone := ?_ }
  · rintro (kind | _)
    · cases kind <;> rfl
    · rfl
  · intro disposition
    cases disposition <;> rfl
  · exact fun _ => rfl
  · simp
  · simp
  · exact .nil

theorem owed_append_cons :
    owed ⟨counters, before ++ job :: after⟩ credit =
      (before ++ after).countP (Job.owes credit) + if job.owes credit then 1 else 0 := by
  simp only [owed, List.countP_append, List.countP_cons, Nat.add_assoc]

/-- What holds of one job and of all others holds of all. -/
theorem forall_around {holds : Job → Prop} :
    (∀ one ∈ before ++ job :: after, holds one) ↔
      holds job ∧ ∀ one ∈ before ++ after, holds one := by
  rw [List.forall_mem_append, List.forall_mem_cons, List.forall_mem_append, and_left_comm]

theorem pairwise_around :
    (before ++ job :: after).Pairwise NotBothTicks ↔
      (job.duty = .tick → ∀ other ∈ before ++ after, other.duty ≠ .tick) ∧
        (before ++ after).Pairwise NotBothTicks := by
  have symmetric {one other : Job} (apart : NotBothTicks one other) : NotBothTicks other one :=
    fun tick otherTick => apart otherTick tick
  rw [List.pairwise_middle symmetric, List.pairwise_cons]
  refine and_congr_left' ?_
  exact ⟨fun apart tick other member => apart other member tick,
    fun apart other member tick => apart tick other member⟩

/-- The other jobs are sound for any counts of the pool that a tick tells or reports. -/
theorem Balanced.others_sound (balanced : Balanced log ⟨counters, before ++ job :: after⟩)
    {last shown : Option Tally}
    (same : job.duty ≠ .tick → last = lastTally? log ∧ shown = counters.pool) :
    ∀ other ∈ before ++ after, other.Sound last shown := by
  intro other member
  have sound : other.Sound (lastTally? log) counters.pool :=
    (forall_around.mp balanced.sound).2 other member
  by_cases tick : job.duty = .tick
  · exact sound.of_ne_tick ((pairwise_around.mp balanced.alone).1 tick other member)
  · obtain ⟨rfl, rfl⟩ := same tick
    exact sound

theorem Balanced.begin {jobs : List Job} {duty : Duty} {site : Site}
    (balanced : Balanced log ⟨counters, jobs⟩)
    (alone : duty = .tick → ∀ job ∈ jobs, job.duty ≠ .tick) :
    Balanced log ⟨counters, .start duty site :: jobs⟩ := by
  refine { counted := ?_, passed := ?_, shown := ?_, accounted := ?_, sound := ?_, alone := ?_ }
  · intro credit
    rw [← balanced.counted credit]
    simp [owed, Job.start_owes]
  · exact balanced.passed
  · exact fun others => balanced.shown fun job member => others job (List.mem_cons_of_mem _ member)
  · exact balanced.accounted
  · intro job member
    rcases List.mem_cons.mp member with rfl | member
    · exact Job.start_sound fun tick => balanced.shown (alone tick)
    · exact balanced.sound job member
  · exact List.pairwise_cons.mpr ⟨fun job member tick => alone tick job member, balanced.alone⟩

theorem Balanced.go (balanced : Balanced log ⟨counters, before ++ job :: after⟩)
    (goes : job.Goes counters entry next counted) :
    Balanced (log ++ entry.toList) ⟨counted, before ++ next :: after⟩ := by
  have sound : job.Sound (lastTally? log) counters.pool := (forall_around.mp balanced.sound).1
  obtain ⟨goesOn, unshown⟩ := sound.goes goes
  have last : lastTally? (log ++ entry.toList) = lastTally? log :=
    lastTally?_append_of_silent goes.reports_nothing
  refine { counted := ?_, passed := ?_, shown := ?_, accounted := ?_, sound := ?_, alone := ?_ }
  · intro credit
    have books := balanced.counted credit
    have step : _ = _ + entry.toList.countP (Entry.earns credit) := sound.count_eq goes
    rw [owed_append_cons] at books ⊢
    simp only [List.countP_append] at books ⊢
    omega
  · intro disposition
    rw [List.countP_append, goes.concludes_nothing, goes.passes_eq, balanced.passed disposition,
      Nat.add_zero]
  · intro noTick
    obtain ⟨nextOther, others⟩ := forall_around.mp noTick
    have other : job.duty ≠ .tick := goes.duty_eq ▸ nextOther
    rw [last, unshown other]
    exact balanced.shown (forall_around.mpr ⟨other, others⟩)
  · intro logged member
    rcases List.mem_append.mp member with member | member
    · exact balanced.accounted logged member
    · exact sound.isAccounted goes logged (Option.mem_toList.mp member)
  · rw [last]
    have others : ∀ other ∈ before ++ after, other.Sound (lastTally? log) counted.pool :=
      balanced.others_sound fun ordinary => ⟨rfl, unshown ordinary⟩
    exact forall_around.mpr ⟨goesOn, others⟩
  · rw [pairwise_around, goes.duty_eq]
    exact pairwise_around.mp balanced.alone

/-- A job that ended earns and owes nothing. -/
theorem Balanced.finish {duty : Duty} {site : Site} {result : Duty.Result}
    (balanced : Balanced log ⟨counters, before ++ ⟨duty, site, .done result⟩ :: after⟩) :
    Balanced (log ++ [.ended result]) ⟨counters.conclude result, before ++ after⟩ := by
  have sound : Job.Sound (lastTally? log) counters.pool ⟨duty, site, .done result⟩ :=
    (forall_around.mp balanced.sound).1
  obtain ⟨reports, silent⟩ := sound.agrees_of_done
  have last (ordinary : duty ≠ .tick) : lastTally? (log ++ [.ended result]) = lastTally? log :=
    lastTally?_append_of_silent (by simp [silent ordinary])
  refine { counted := ?_, passed := ?_, shown := ?_, accounted := ?_, sound := ?_, alone := ?_ }
  · intro credit
    have books := balanced.counted credit
    rw [owed_append_cons] at books
    rw [List.countP_append, ← books]
    simp [Counters.count_conclude, Job.owes, Entry.earns, owed]
  · intro disposition
    rw [List.countP_append, ← balanced.passed disposition, List.countP_singleton]
    exact Counters.passes_conclude
  · intro others
    rw [Counters.pool_conclude]
    by_cases tick : duty = .tick
    · obtain ⟨tally, reported, shown⟩ := reports tick
      rw [lastTally?_append_of_tally reported]
      exact shown
    · rw [last tick]
      exact balanced.shown (forall_around.mpr ⟨tick, others⟩)
  · intro logged member
    rcases List.mem_append.mp member with member | member
    · exact balanced.accounted logged member
    · rw [List.mem_singleton.mp member]
      trivial
  · rw [Counters.pool_conclude]
    exact balanced.others_sound fun ordinary => ⟨last ordinary, rfl⟩
  · exact (pairwise_around.mp balanced.alone).2

theorem Balanced.gauge {jobs : List Job} {length : Nat} (balanced : Balanced log ⟨counters, jobs⟩) :
    Balanced log ⟨counters.recordQueueLength length, jobs⟩ := by
  refine { counted := ?_, passed := ?_, shown := ?_, accounted := ?_, sound := ?_, alone := ?_ }
  · intro credit
    rw [Counters.count_recordQueueLength]
    exact balanced.counted credit
  · intro disposition
    rw [Counters.passes_recordQueueLength]
    exact balanced.passed disposition
  · exact balanced.shown
  · exact balanced.accounted
  · exact balanced.sound
  · exact balanced.alone

/-- A step keeps the balance. -/
theorem Balanced.step (balanced : Balanced log engine) (step : Step engine entry later) :
    Balanced (log ++ entry.toList) later := by
  cases step with
  | begin duty site alone => simpa using balanced.begin alone
  | go goes => exact balanced.go goes
  | finish => exact balanced.finish
  | gauge length => simpa using balanced.gauge

theorem Reaches.balanced (reaches : Reaches log engine) : Balanced log engine := by
  induction reaches with
  | fresh => exact balanced_fresh
  | step _ step ih => exact ih.step step

end Engine

namespace Counters

/-- Counts what happens in a job. -/
def heed (counters : Counters) : Happening → Counters
  | .told told => counters.observe told
  | .answered _ _ => counters

@[simp]
theorem heed_told {counters : Counters} {told : Signal} :
    counters.heed (.told told) = counters.observe told :=
  rfl

@[simp]
theorem heed_answered {counters : Counters} {asked : Call} {answer : Except Fault asked.Answer} :
    counters.heed (.answered asked answer) = counters :=
  rfl

end Counters

namespace Engine

variable {log : List Entry} {counters : Counters} {jobs : List Job} {duty : Duty} {site : Site}
  {program : Program Duty.Result} {trace : List Happening} {result : Duty.Result}
  {engine : Engine}

/-- A report of the length of the queue is not logged. -/
theorem Reaches.gauge (reaches : Reaches log ⟨counters, jobs⟩) (length : Nat) :
    Reaches log ⟨counters.recordQueueLength length, jobs⟩ := by
  simpa using reaches.step (.gauge length)

/-- A job goes on to its end as its program runs. -/
theorem Reaches.runs (reaches : Reaches log ⟨counters, ⟨duty, site, program⟩ :: jobs⟩)
    (run : Runs program trace result) :
    Reaches (log ++ trace.map (.happened duty site))
      ⟨trace.foldl Counters.heed counters, ⟨duty, site, .done result⟩ :: jobs⟩ := by
  induction run generalizing log counters with
  | done => simpa using reaches
  | @request asked next answer trace value rest ih =>
      have answered := reaches.step (@Step.go _ _ [] jobs _ _ _ (.call answer))
      simpa using ih answered
  | @signal told next trace value rest ih =>
      have told := reaches.step (@Step.go _ _ [] jobs _ _ _ .signal)
      simpa using ih told
  | @freshPart next part trace value rest ih =>
      have made := reaches.step (@Step.go _ _ [] jobs _ _ _ (.freshPart part))
      exact ih (by simpa using made)
  | @presentTime next now trace value rest ih =>
      have timed := reaches.step (@Step.go _ _ [] jobs _ _ _ (.presentTime now))
      exact ih (by simpa using timed)

/-- What is logged of a duty that is done in one go. -/
def entries (duty : Duty) (site : Site) (trace : List Happening) (result : Duty.Result) :
    List Entry :=
  trace.map (.happened duty site) ++ [.ended result]

/-- A duty is done in one go. -/
theorem Reaches.perform (reaches : Reaches log ⟨counters, []⟩)
    (run : Runs (duty.work site) trace result) :
    Reaches (log ++ entries duty site trace result)
      ⟨(trace.foldl Counters.heed counters).conclude result, []⟩ := by
  have began := reaches.step (.begin duty site (by simp))
  have ran := Reaches.runs began run
  have ended := ran.step (@Step.finish _ [] [] _ _ _)
  simpa [entries] using ended

/-- The counters account for every effect, whatever comes of each call. When nothing goes on,
all that was earned is counted. -/
theorem counters_account_for_effects (reaches : Reaches log engine) :
    engine.Accounts log ∧
      (engine.jobs = [] →
        ∀ credit, engine.counters.count credit = log.countP (Entry.earns credit)) := by
  have accounts : engine.Accounts log := reaches.balanced.toAccounts
  refine ⟨accounts, ?_⟩
  intro idle credit
  rw [← accounts.counted credit, owed, idle, List.countP_nil, Nat.add_zero]

/-- A gated pod is cached, and nothing else. -/
def gatedSite : Site where
  cache :=
    { pods :=
        [{ metadata := { name := some "p", space := some "a" }
           spec := some { gates := some [gateName] } }] }

/-- A pass creates a machine for the pod and asks for a retry; both are counted. -/
theorem gatedSite_accounts : ∃ log engine, Reaches log engine ∧ engine.Accounts log ∧
    log.countP (Entry.earns (.created .dedicated)) = 1 ∧
      engine.counters.created .dedicated = 1 ∧ engine.counters.passes .backOff = 1 := by
  obtain ⟨made, said, run⟩ : ∃ made said, Runs (Duty.work gatedSite (.pass "a/p"))
      [.answered (.readMachine "a" "p") (.ok none), .answered (.createMachine made) (.ok ()),
        .told (.created .dedicated), .told (.event said)] (.passed .backOff) :=
    ⟨_, _, .request (.request (.signal (.signal .done)))⟩
  have reaches := Reaches.fresh.perform run
  obtain ⟨accounts, settled⟩ := counters_account_for_effects reaches
  exact ⟨_, _, reaches, accounts, (settled rfl (.created .dedicated)).symm, rfl, rfl⟩

end Engine

end NodeGate
