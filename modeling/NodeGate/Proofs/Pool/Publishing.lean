import NodeGate.Proofs.Cluster.MergedConfigs
import NodeGate.Proofs.Pool.Conservation

/-!
# The report of the counts

A tick reports its counts in the status of the configuration exactly if they differ from those
that it finds there, each taken to be at most the largest number of thirty-two bits with sign.
What it reports is what is found there from then on, so a pool that does not change is reported
once.
-/

namespace NodeGate

namespace Tally

/-- The counts of the machines that count towards the size, of those available and of those
claimed, as far as they can be reported, are not the counts of the status. -/
def DiffersFrom (tally : Tally) (status : PoolStatus) : Prop :=
  min (tally.creating + tally.available : Int) (2 ^ 31 - 1) ≠ status.total ∨
    min (tally.available : Int) (2 ^ 31 - 1) ≠ status.available ∨
    min (tally.claimed : Int) (2 ^ 31 - 1) ≠ status.claimed

variable {tally : Tally} {now : Instant} {status : PoolStatus}

/-- The time of a report makes no difference. -/
theorem hasOtherCounts_status :
    (tally.status now).hasOtherCounts status = true ↔ tally.DiffersFrom status := by
  simp only [PoolStatus.hasOtherCounts, Tally.status, Bool.or_eq_true, bne_iff_ne, or_assoc]
  rfl

/-- A tally does not differ from its own report. -/
theorem not_differsFrom_status : ¬tally.DiffersFrom (tally.status now) := by
  rw [← @hasOtherCounts_status _ now]
  simp [PoolStatus.hasOtherCounts]

theorem asCount_reported (count : Nat) :
    asCount (.int (reported count)) = some (reported count) := by
  have largest : Int.pow 2 31 = 2147483648 := by decide
  rw [asCount, Json.asInt, if_pos]
  rw [reported, largest]
  omega

theorem isBounded_status : (tally.status now).IsBounded :=
  ⟨asCount_reported _, asCount_reported _, asCount_reported _⟩

end Tally

/-- The calls that report counts, with their answers. -/
def reportings (past : List Happening) : List Happening :=
  (exchanges past).filter fun happening => happening.report?.isSome

@[simp]
theorem reportings_told {told : Signal} {past : List Happening} :
    reportings (.told told :: past) = reportings past :=
  rfl

@[simp]
theorem reportings_append {past later : List Happening} :
    reportings (past ++ later) = reportings past ++ reportings later := by
  simp [reportings]

theorem mem_reportings {past : List Happening} {name : String} {patch : StatusPatch}
    {answer : Except Fault Unit} :
    .answered (.reportCounts name patch) answer ∈ reportings past ↔
      .answered (.reportCounts name patch) answer ∈ past := by
  simp [reportings, Happening.report?]

theorem reportings_of_exchanges_eq_nil {past : List Happening} (silent : exchanges past = []) :
    reportings past = [] := by
  rw [reportings, silent, List.filter_nil]

theorem OnlyFor.reportings_eq_nil {purpose : Purpose} {past : List Happening}
    (only : OnlyFor purpose past) (other : purpose ≠ .report) : reportings past = [] := by
  refine List.filter_eq_nil_iff.mpr fun happening member => ?_
  cases only happening member with
  | report => contradiction
  | _ => simp [Happening.report?]

namespace Pool

open Program Json

variable {site : Site} {config : GateConfig} {name : String} {tally : Tally} {published : Bool}
  {trace : List Happening} {report : Report}

/-- Counts that are known already are not reported. -/
theorem runs_reportStatus_of_same (same : ¬tally.DiffersFrom (config.status.getD {}))
    (run : Runs (reportStatus config tally) trace published) : trace = [] := by
  obtain ⟨instant, ⟨silent, -⟩ | ⟨name, answer, other, -⟩⟩ := runs_reportStatus_cases run
  · exact silent
  · exact absurd (Tally.hasOtherCounts_status.mp other) same

/-- Counts that are not known yet are reported at once, to the configuration by its name. -/
theorem runs_reportStatus_of_other (other : tally.DiffersFrom (config.status.getD {}))
    (named : config.metadata.name = some name)
    (run : Runs (reportStatus config tally) trace published) :
    ∃ instant answer, reportings trace =
      [.answered (.reportCounts name ⟨tally.status instant⟩) answer] := by
  obtain ⟨instant, ⟨-, unnamed⟩ | ⟨found, answer, -, isNamed, asked⟩⟩ :=
    runs_reportStatus_cases run
  · rw [unnamed (Tally.hasOtherCounts_status.mpr other)] at named
    contradiction
  · obtain rfl := Option.some.inj (named.symm.trans isNamed)
    refine ⟨instant, answer, ?_⟩
    rw [reportings, asked]
    rfl

/-- Only the second phase of a tick reports counts. -/
theorem Phases.Tend.reportings_eq {phases : Phases} {desired : Nat} {survey : Survey}
    (tends : Phases.Tend phases site config desired survey trace report) :
    reportings trace = reportings phases.reported := by
  obtain ⟨inspections, -, -, asked, -⟩ := runs_addAll tends.surveys
  have surveysOnly := onlyFor_of_exchanges asked
  have enlargesOnly := (runs_enlarge tends.enlarges).2
  have shrinksOnly := (runs_shrink tends.shrinks).2
  have reclaimsOnly := onlyFor_reclaim tends.reclaims
  simp [tends.trace_eq, surveysOnly.reportings_eq_nil, enlargesOnly.reportings_eq_nil,
    shrinksOnly.reportings_eq_nil, reclaimsOnly.reportings_eq_nil]

/-- A tick that finds its counts in the status of the configuration does not report them. -/
theorem reportings_of_same (run : Runs (tick site) trace report)
    (configured : site.cache.activeConfig? = some config)
    (same : ¬report.tally.DiffersFrom (config.status.getD {})) : reportings trace = [] := by
  rcases Nat.eq_zero_or_pos config.spec.poolSize with unwanted | wanted
  · refine reportings_of_exchanges_eq_nil (runs_tick_of_unwanted run ?_).1
    intro other found
    rw [configured, Option.some.injEq] at found
    rw [← found, unwanted]
  · obtain ⟨phases, survey, tends⟩ := exists_phases (tend_of_wanted run configured wanted)
    rw [tends.tally_eq] at same
    rw [tends.reportings_eq, runs_reportStatus_of_same same tends.reports]
    rfl

/-- A tick that finds other counts there reports its own. -/
theorem reportings_of_other (run : Runs (tick site) trace report)
    (configured : site.cache.activeConfig? = some config) (wanted : 0 < config.spec.poolSize)
    (named : config.metadata.name = some name)
    (other : report.tally.DiffersFrom (config.status.getD {})) :
    ∃ instant answer, reportings trace =
      [.answered (.reportCounts name ⟨report.tally.status instant⟩) answer] := by
  obtain ⟨phases, survey, tends⟩ := exists_phases (tend_of_wanted run configured wanted)
  rw [tends.tally_eq] at other ⊢
  rw [tends.reportings_eq]
  exact runs_reportStatus_of_other other named tends.reports

/-- What a tick reports depends on what it finds in the status: nothing if that has its counts,
and otherwise its counts once, to the configuration of that name. -/
structure ReportsChange (name : String) (known : PoolStatus) (tally : Tally)
    (trace : List Happening) : Prop where
  same : ¬tally.DiffersFrom known → reportings trace = []
  other : tally.DiffersFrom known → ∃ instant answer,
    reportings trace = [.answered (.reportCounts name ⟨tally.status instant⟩) answer]

/-- Once a report was merged into the document of the configuration, the configuration has the
status that was reported and is otherwise as it was. While its status stays like that, no tick
with the same counts reports them again. -/
structure Settles (fields : Members) (config : GateConfig) (patch : StatusPatch) (tally : Tally) :
    Prop where
  decoded : GateConfig.decode (merged (.obj fields) patch.toJson) =
    some { config with status := some patch.status }
  silent : ∀ site later trace report, site.cache.activeConfig? = some later →
    later.status = some patch.status → Runs (tick site) trace report → report.tally = tally →
      reportings trace = []

/-- A tick of an enabled pool reports its counts exactly if they are not those of the status,
and once that report is stored an unchanged pool is not reported again. -/
theorem counts_reported_once (configured : site.cache.activeConfig? = some config)
    (wanted : 0 < config.spec.poolSize) (named : config.metadata.name = some name)
    (run : Runs (tick site) trace report) :
    ReportsChange name (config.status.getD {}) report.tally trace ∧
      ∀ fields patch answer instant, IsSettled (.obj fields) →
        GateConfig.decode (.obj fields) = some config →
        .answered (.reportCounts name patch) answer ∈ trace →
        patch.status.lastUpdate = some instant → instant.IsProper →
          Settles fields config patch report.tally := by
  have reports : ReportsChange name (config.status.getD {}) report.tally trace :=
    ⟨reportings_of_same run configured, reportings_of_other run configured wanted named⟩
  refine ⟨reports, ?_⟩
  intro fields patch answer instant settled decoded sent timed proper
  obtain ⟨now, rfl⟩ : ∃ now, patch = ⟨report.tally.status now⟩ := by
    by_cases other : report.tally.DiffersFrom (config.status.getD {})
    · obtain ⟨now, _, only⟩ := reports.other other
      have member := mem_reportings.mpr sent
      rw [only, List.mem_singleton] at member
      cases member
      exact ⟨now, rfl⟩
    · have member := mem_reportings.mpr sent
      rw [reports.same other] at member
      contradiction
  constructor
  · exact GateConfig.decode_merged settled decoded Tally.isBounded_status timed proper
  · intro site later trace laterReport configured known run same
    refine reportings_of_same run configured ?_
    rw [known, same]
    exact Tally.not_differsFrom_status

/-- The document of a configuration whose status is out of date. -/
def staleFields : Members :=
  [("metadata", .obj [("name", .str "settings")]), ("spec", .obj [("warmPoolSize", .int 1)]),
    ("status", .obj [("lastPoolUpdate", .str "2025-12-31T23:59:60Z"),
      ("warmPoolAvailable", .int 5)])]

/-- What is decoded of it. -/
def staleConfig : GateConfig where
  metadata := { name := some "settings" }
  spec := { poolSize := 1 }
  status := some { available := 5, lastUpdate := some ⟨⟨2025, 12, 31⟩, 23, 59, 60, 0⟩ }

/-- One machine is there, as many as are wanted. -/
def staleSite : Site where
  cache :=
    { vmis := [poolMachine "a" "1" .available]
      configs := [staleConfig] }

/-- The time of the report. -/
def reportTime : Instant :=
  ⟨⟨2026, 1, 1⟩, 0, 0, 0, 250000000⟩

/-- The one machine is reported. -/
def staleTrace : List Happening :=
  [.told (.pool { available := 1 }),
    .answered (.reportCounts "settings" ⟨Tally.status reportTime { available := 1 }⟩) (.ok ())]

/-- What the tick did. -/
def staleReport : Report where
  tally := { available := 1 }
  published := true

theorem staleTrace_runs : Runs (tick staleSite) staleTrace staleReport :=
  .signal (.presentTime (.request .done))

/-- The counts of a stale status are reported, and the report settles them. -/
theorem staleSite_settled : IsSettled (.obj staleFields) ∧
    GateConfig.decode (.obj staleFields) = some staleConfig ∧
    Runs (tick staleSite) staleTrace staleReport ∧ reportTime.IsProper ∧
    ReportsChange "settings" { available := 5, lastUpdate := some ⟨⟨2025, 12, 31⟩, 23, 59, 60, 0⟩ }
      staleReport.tally staleTrace ∧
    Settles staleFields staleConfig ⟨Tally.status reportTime { available := 1 }⟩
      staleReport.tally := by
  have settled : IsSettled (.obj staleFields) := ⟨.obj staleFields, rfl⟩
  have decoded : GateConfig.decode (.obj staleFields) = some staleConfig := by decide +kernel
  have proper : reportTime.IsProper := by constructor <;> decide
  obtain ⟨reports, settles⟩ :=
    counts_reported_once (by rfl) (by decide) (by rfl) staleTrace_runs
  refine ⟨settled, decoded, staleTrace_runs, proper, reports, ?_⟩
  exact settles staleFields _ _ reportTime settled decoded (.tail _ (.head _)) rfl proper

end Pool

end NodeGate
