import NodeGate.Proofs.Pool.Duty
import NodeGate.Proofs.Pool.Inspection

/-!
# The phases of a tick

A tick that tends the pool looks at every machine, reports the counts, asks for the machines
that the pool lacks, trims those that it has too many of and gives back those whose pod is
gone. Machines are made available only in the first phase, created only in the third and
deleted only in the fourth, and how many are to be created or deleted is settled by the
first.
-/

namespace NodeGate.Pool

open Program

variable {site : Site} {config : GateConfig} {desired count : Nat} {trace : List Happening}
  {report : Report} {excess : List Vmi}

/-- A program makes calls for one thing if it asks for nothing else. -/
theorem onlyFor_of_asks {α : Type} {program : Program α} {purpose : Purpose} {value : α}
    (asks : Release.Asks program
      (fun asked => ∀ answer, (Happening.answered asked answer).IsFor purpose) [])
    (run : Runs program trace value) : OnlyFor purpose trace := by
  rintro (⟨asked, answer⟩ | told) member
  · exact asks.rule_of_mem run (mem_exchanges.mp member) answer
  · simp [exchanges, Happening.isExchange] at member

theorem onlyFor_reportStatus {tally : Tally} {published : Bool}
    (run : Runs (reportStatus config tally) trace published) : OnlyFor .report trace :=
  onlyFor_of_asks (Duty.reportStatus_asks fun _ _ _ => .report) run

/-- The counts at some instant are reported to a configuration that has a name and other counts.
Otherwise nothing is asked. -/
theorem runs_reportStatus_cases {tally : Tally} {published : Bool}
    (run : Runs (reportStatus config tally) trace published) :
    ∃ instant,
      (trace = [] ∧ ((tally.status instant).hasOtherCounts (config.status.getD {}) = true →
        config.metadata.name = none)) ∨
      ∃ name answer, (tally.status instant).hasOtherCounts (config.status.getD {}) = true ∧
        config.metadata.name = some name ∧
        exchanges trace = [.answered (.reportCounts name ⟨tally.status instant⟩) answer] := by
  obtain ⟨instant, asks⟩ := runs_now_bind_iff.mp run
  refine ⟨instant, ?_⟩
  dsimp only at asks
  split at asks
  next other =>
    split at asks
    next unnamed =>
      obtain ⟨rfl, -⟩ := runs_pure_iff.mp asks
      exact .inl ⟨rfl, fun _ => unnamed⟩
    next name named =>
      obtain ⟨answer, rest, rfl, answered⟩ := runs_call_bind_iff.mp asks
      have silent : exchanges rest = [] := by
        cases answer with
        | ok _ =>
            obtain ⟨rfl, -⟩ := runs_pure_iff.mp answered
            rfl
        | error fault =>
            obtain ⟨_, rfl, ends⟩ := runs_emit_bind_iff.mp answered
            obtain ⟨rfl, -⟩ := runs_pure_iff.mp ends
            rfl
      refine .inr ⟨name, answer, other, named, ?_⟩
      rw [exchanges_answered, silent]
  next same =>
    obtain ⟨rfl, -⟩ := runs_pure_iff.mp asks
    exact .inl ⟨rfl, fun other => absurd other same⟩

/-- What is reported are the counts at some instant. -/
theorem runs_reportStatus {tally : Tally} {published : Bool}
    (run : Runs (reportStatus config tally) trace published) :
    ∀ status ∈ reports trace, ∃ instant, status = tally.status instant := by
  obtain ⟨instant, ⟨rfl, -⟩ | ⟨name, answer, -, -, asked⟩⟩ := runs_reportStatus_cases run
  · simp [reports]
  · rw [reports, asked]
    rintro status (_ | ⟨_, ⟨⟩⟩)
    exact ⟨instant, rfl⟩

theorem onlyFor_reclaim {orphans : List Vmi} {reclaimed : Nat}
    (run : Runs (reclaim site orphans) trace reclaimed) : OnlyFor .restore trace :=
  onlyFor_of_asks (Duty.reclaim_asks (fun _ _ _ => .free) fun _ _ _ _ _ => .giveBack) run

/-- The machine of the pool that is made with a distinguishing part. -/
def newMachine (site : Site) (part : String) : Vmi :=
  Manifest.pool site.poolNamespace (Manifest.poolName part) site.defaults site.join

/-- As many machines are asked for as there are to be, whatever becomes of each. -/
theorem runs_enlarge {counts : Nat × Nat} (run : Runs (enlarge site count) trace counts) :
    (∃ parts : List String, parts.length = count ∧
      creations trace = parts.map (newMachine site)) ∧ OnlyFor .create trace := by
  induction count generalizing trace counts with
  | zero =>
      obtain ⟨rfl, rfl⟩ := runs_pure_iff.mp run
      exact ⟨⟨[], rfl, rfl⟩, by simp [OnlyFor]⟩
  | succ count ih =>
      obtain ⟨part, asks⟩ := runs_newPart_bind_iff.mp run
      obtain ⟨answer, rest, rfl, answered⟩ := runs_call_bind_iff.mp asks
      -- Every answer leads on to asking for the others, between signals at most.
      have others : ∃ later counts, Runs (enlarge site count) later counts ∧
          exchanges rest = exchanges later := by
        cases answer with
        | ok _ =>
            obtain ⟨rest, rfl, told⟩ := runs_emit_bind_iff.mp answered
            obtain ⟨later, last, counts, rfl, enlarges, ends⟩ := runs_bind_iff.mp told
            obtain ⟨rfl, -⟩ := runs_pure_iff.mp ends
            exact ⟨later, counts, enlarges, by simp⟩
        | error fault =>
            dsimp only at answered
            split at answered
            · exact ⟨rest, _, answered, rfl⟩
            · obtain ⟨rest, rfl, told⟩ := runs_emit_bind_iff.mp answered
              obtain ⟨later, last, counts, rfl, enlarges, ends⟩ := runs_bind_iff.mp told
              obtain ⟨rfl, -⟩ := runs_pure_iff.mp ends
              exact ⟨later, counts, enlarges, by simp⟩
      obtain ⟨later, counts, enlarges, same⟩ := others
      obtain ⟨⟨parts, counted, created⟩, only⟩ := ih enlarges
      refine ⟨⟨part :: parts, by simp [counted], ?_⟩, ?_⟩
      · simpa [creations, same, Happening.creation?, newMachine] using created
      · rw [OnlyFor, exchanges_answered, same]
        exact List.forall_mem_cons.mpr ⟨.create, only⟩

/-- The key of a machine and the version at which it is known. -/
def pinned? (vmi : Vmi) : Option (ObjectKey × Option String) :=
  match vmi.key with
  | .ok held => some (held, vmi.metadata.resourceVersion)
  | .error _ => none

/-- Every machine in excess is to be deleted at its known version, whatever becomes of
each. -/
theorem runs_shrink {deleted : Nat} (run : Runs (shrink excess) trace deleted) :
    deletions trace = excess.filterMap pinned? ∧ OnlyFor .trim trace := by
  induction excess generalizing trace deleted with
  | nil =>
      obtain ⟨rfl, rfl⟩ := runs_pure_iff.mp run
      exact ⟨rfl, by simp [OnlyFor]⟩
  | cons first rest ih =>
      unfold shrink at run
      cases keyed : first.key with
      | error fault =>
          simp only [keyed] at run
          simpa [pinned?, keyed] using ih run
      | ok held =>
          simp only [keyed] at run
          obtain ⟨answer, next, rfl, answered⟩ := runs_call_bind_iff.mp run
          have others : ∃ later deleted, Runs (shrink rest) later deleted ∧
              exchanges next = exchanges later := by
            cases answer with
            | ok _ =>
                obtain ⟨later, last, deleted, rfl, shrinks, ends⟩ := runs_bind_iff.mp answered
                obtain ⟨rfl, -⟩ := runs_pure_iff.mp ends
                exact ⟨later, deleted, shrinks, by simp⟩
            | error fault =>
                obtain ⟨later, rfl, shrinks⟩ := runs_emit_bind_iff.mp answered
                exact ⟨later, _, shrinks, rfl⟩
          obtain ⟨later, deleted, shrinks, same⟩ := others
          obtain ⟨trimmed, only⟩ := ih shrinks
          constructor
          · simpa [deletions, same, Happening.deletion?, pinned?, keyed] using trimmed
          · rw [OnlyFor, exchanges_answered, same]
            exact List.forall_mem_cons.mpr ⟨.trim, only⟩

/-- A survey only makes machines available. -/
theorem onlyFor_of_exchanges {inspections : List Inspection}
    (asked : exchanges trace = inspections.filterMap Inspection.exchange?) :
    OnlyFor .promote trace := by
  intro happening member
  rw [asked] at member
  obtain ⟨inspection, -, exchange⟩ := List.mem_filterMap.mp member
  unfold Inspection.exchange? at exchange
  split at exchange
  next held answer keyed answered =>
    obtain rfl := Option.some.inj exchange
    exact .promote
  next => contradiction

/-- What a tick that tends the pool asks and tells of the machines, by what it found at
each of them. -/
structure Tended (site : Site) (desired : Nat) (inspections : List Inspection)
    (trace : List Happening) (report : Report) : Prop where
  members : inspections.map Inspection.vmi = site.cache.pool
  sound : ∀ inspection ∈ inspections, inspection.Sound site
  tally_eq : report.tally = (inspections.foldl Survey.note {}).tally
  promoted_eq : report.promoted = (inspections.foldl Survey.note {}).promoted
  promotions_eq : promotions trace = inspections.filterMap Inspection.exchange?
  exists_creations : ∃ parts : List String, parts.length = desired - report.tally.total ∧
    creations trace = parts.map (newMachine site)
  deletions_eq : deletions trace =
    ((inspections.filterMap Inspection.spare?).reverse.take
      (report.tally.available - desired)).filterMap pinned?
  reported : ∀ status ∈ reports trace, ∃ instant, status = report.tally.status instant

/-- What happens in each phase of a tick that tends the pool. -/
structure Phases where
  surveyed : List Happening
  reported : List Happening
  enlarged : List Happening
  shrunk : List Happening
  reclaimed : List Happening

/-- The phases are those of a tick that tends the pool and took this survey of it. -/
structure Phases.Tend (phases : Phases) (site : Site) (config : GateConfig) (desired : Nat)
    (survey : Survey) (trace : List Happening) (report : Report) : Prop where
  trace_eq : trace = phases.surveyed ++ .told (.pool survey.tally) ::
    (phases.reported ++ (phases.enlarged ++ (phases.shrunk ++ phases.reclaimed)))
  surveys : Runs (Survey.addAll site {} site.cache.pool) phases.surveyed survey
  tally_eq : report.tally = survey.tally
  promoted_eq : report.promoted = survey.promoted
  reports : Runs (reportStatus config survey.tally) phases.reported report.published
  enlarges : Runs (enlarge site (desired - survey.tally.total)) phases.enlarged
    (report.created, report.notCreated)
  shrinks : Runs (shrink (survey.available.reverse.take (survey.tally.available - desired)))
    phases.shrunk report.deleted
  reclaims : Runs (reclaim site (survey.claimed.filter (isOrphan site))) phases.reclaimed
    report.reclaimed

/-- A tick that tends the pool goes through its phases one after the other. -/
theorem exists_phases (run : Runs (tend site config desired) trace report) :
    ∃ phases survey, Phases.Tend phases site config desired survey trace report := by
  obtain ⟨surveyed, _, survey, rfl, surveys, telling⟩ := runs_bind_iff.mp run
  obtain ⟨_, rfl, reporting⟩ := runs_emit_bind_iff.mp telling
  obtain ⟨reported, _, published, rfl, reports, enlarging⟩ := runs_bind_iff.mp reporting
  obtain ⟨enlarged, _, ⟨created, notCreated⟩, rfl, enlarges, shrinking⟩ :=
    runs_bind_iff.mp enlarging
  obtain ⟨shrunk, _, deleted, rfl, shrinks, reclaiming⟩ := runs_bind_iff.mp shrinking
  obtain ⟨reclaimed, _, given, rfl, reclaims, ending⟩ := runs_bind_iff.mp reclaiming
  obtain ⟨rfl, rfl⟩ := runs_pure_iff.mp ending
  exact ⟨⟨surveyed, reported, enlarged, shrunk, reclaimed⟩, survey, by simp, surveys, rfl, rfl,
    reports, enlarges, shrinks, reclaims⟩

/-- The phases of a tick follow from what it finds. -/
theorem runs_tend (run : Runs (tend site config desired) trace report) :
    ∃ inspections, Tended site desired inspections trace report := by
  obtain ⟨phases, survey, tends⟩ := exists_phases run
  obtain ⟨inspections, members, sound, asked, rfl⟩ := runs_addAll tends.surveys
  have surveysOnly := onlyFor_of_exchanges asked
  have reportsOnly := onlyFor_reportStatus tends.reports
  obtain ⟨⟨parts, counted, creates⟩, enlargesOnly⟩ := runs_enlarge tends.enlarges
  obtain ⟨trims, shrinksOnly⟩ := runs_shrink tends.shrinks
  have reclaimsOnly := onlyFor_reclaim tends.reclaims
  refine ⟨inspections, members, sound, tends.tally_eq, tends.promoted_eq, ?_,
    ⟨parts, tends.tally_eq ▸ counted, ?_⟩, ?_, ?_⟩
  · simp [tends.trace_eq, surveysOnly.promotions_eq, asked, reportsOnly.promotions_eq_nil,
      enlargesOnly.promotions_eq_nil, shrinksOnly.promotions_eq_nil,
      reclaimsOnly.promotions_eq_nil]
  · simp [tends.trace_eq, surveysOnly.creations_eq_nil, reportsOnly.creations_eq_nil, creates,
      shrinksOnly.creations_eq_nil, reclaimsOnly.creations_eq_nil]
  · simp [tends.trace_eq, tends.tally_eq, surveysOnly.deletions_eq_nil,
      reportsOnly.deletions_eq_nil, enlargesOnly.deletions_eq_nil, trims,
      reclaimsOnly.deletions_eq_nil, available_foldl_note]
  · have all : reports trace = reports phases.reported := by
      simp [tends.trace_eq, surveysOnly.reports_eq_nil, enlargesOnly.reports_eq_nil,
        shrinksOnly.reports_eq_nil, reclaimsOnly.reports_eq_nil]
    rw [all, tends.tally_eq]
    exact runs_reportStatus tends.reports

/-- Without a configuration, or with a size of zero, a tick only tells how many machines are
in which state. -/
theorem runs_tick_of_unwanted (run : Runs (tick site) trace report)
    (unwanted : ∀ config, site.cache.activeConfig? = some config → config.spec.poolSize = 0) :
    exchanges trace = [] ∧ report = { tally := Tally.ofMembers site.cache.pool } := by
  have idle : Runs (do
      emit (.pool (Tally.ofMembers site.cache.pool))
      return ({ tally := Tally.ofMembers site.cache.pool } : Report)) trace report := by
    unfold tick at run
    cases configured : site.cache.activeConfig? with
    | none => simpa only [configured] using run
    | some config => simpa only [configured, unwanted config configured, if_true] using run
  obtain ⟨_, rfl, ending⟩ := runs_emit_bind_iff.mp idle
  obtain ⟨rfl, rfl⟩ := runs_pure_iff.mp ending
  exact ⟨rfl, rfl⟩

/-- With a size that is not zero a tick tends the pool. -/
theorem tend_of_wanted (run : Runs (tick site) trace report)
    (configured : site.cache.activeConfig? = some config) (wanted : 0 < config.spec.poolSize) :
    Runs (tend site config config.spec.poolSize) trace report := by
  unfold tick at run
  simpa only [configured, Nat.ne_of_gt wanted, if_false] using run

theorem runs_tick_of_wanted (run : Runs (tick site) trace report)
    (configured : site.cache.activeConfig? = some config) (wanted : 0 < config.spec.poolSize) :
    ∃ inspections, Tended site config.spec.poolSize inspections trace report :=
  runs_tend (tend_of_wanted run configured wanted)

end NodeGate.Pool
