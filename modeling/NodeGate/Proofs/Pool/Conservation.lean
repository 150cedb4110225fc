import NodeGate.Proofs.Pool.Phases

/-!
# The conservation of the pool

A tick counts every machine that has a state label once, and differs from the mere count of
the labels by the machines that it made available: these it takes from those being created
and adds to those available. They are exactly those that were ready and whose call
succeeded.
-/

namespace NodeGate

namespace Tally

/-- All machines that were counted. -/
def size (tally : Tally) : Nat :=
  tally.creating + tally.available + tally.claimed + tally.unrecognized

/-- Every machine is counted once, whatever its state. -/
@[simp]
theorem size_count (tally : Tally) (state : Option PoolState) :
    (tally.count state).size = tally.size + 1 := by
  rcases state with _ | state
  · rfl
  · cases state <;> simp only [count, size] <;> omega

theorem size_foldl_count (tally : Tally) (members : List Vmi) :
    (members.foldl (fun tally vmi => tally.count vmi.poolState?) tally).size =
      tally.size + members.length := by
  induction members generalizing tally with
  | nil => rfl
  | cons first rest ih =>
      rw [List.foldl_cons, ih, size_count, List.length_cons]
      omega

/-- Some of the machines that the first tally counts as being created are counted as
available by the second. -/
structure Promotes (before after : Tally) (promoted : Nat) : Prop where
  creating : after.creating + promoted = before.creating
  available : after.available = before.available + promoted
  claimed : after.claimed = before.claimed
  unrecognized : after.unrecognized = before.unrecognized

namespace Promotes

variable {before after : Tally} {promoted : Nat}

protected theorem refl (tally : Tally) : Promotes tally tally 0 :=
  ⟨rfl, rfl, rfl, rfl⟩

theorem size_eq (promotes : Promotes before after promoted) : after.size = before.size := by
  obtain ⟨creating, available, claimed, unrecognized⟩ := promotes
  simp only [size]
  omega

/-- A machine that both tallies count alike changes nothing. -/
theorem count (promotes : Promotes before after promoted) (state : Option PoolState) :
    Promotes (before.count state) (after.count state) promoted := by
  obtain ⟨creating, available, claimed, unrecognized⟩ := promotes
  rcases state with _ | state
  · exact ⟨creating, available, claimed, congrArg (· + 1) unrecognized⟩
  · cases state <;> constructor <;> simp only [Tally.count] <;> omega

/-- One machine more was made available. -/
theorem promote (promotes : Promotes before after promoted) :
    Promotes (before.count (some .creating)) (after.count (some .available)) (promoted + 1) := by
  obtain ⟨creating, available, claimed, unrecognized⟩ := promotes
  constructor <;> simp only [Tally.count] <;> omega

end Promotes

end Tally

namespace Pool

open Program

variable {site : Site} {trace : List Happening} {report : Report}

/-- A machine that a tick makes available was being created. -/
theorem Inspection.creating_of_promoted {inspection : Inspection}
    (sound : inspection.Sound site) (promoted : inspection.promoted?.isSome = true) :
    inspection.vmi.poolState? = some .creating := by
  unfold promoted? at promoted
  split at promoted
  next stored answered =>
    have ready : isReady site inspection.vmi = true := by simpa [answered] using sound.symm
    simp only [isReady, Bool.and_eq_true, beq_iff_eq] at ready
    exact ready.1.1
  next => contradiction

/-- What a look at a machine adds to the tally is what its label adds, but for a machine
that is made available. -/
theorem promotes_note {before : Tally} {survey : Survey} {inspection : Inspection}
    (promotes : before.Promotes survey.tally survey.promoted) (sound : inspection.Sound site) :
    (before.count inspection.vmi.poolState?).Promotes (survey.note inspection).tally
      (survey.note inspection).promoted := by
  rw [Survey.note, Inspection.state?]
  cases promoted : inspection.promoted? with
  | none => exact promotes.count _
  | some stored =>
      rw [Inspection.creating_of_promoted sound (by simp [promoted])]
      exact promotes.promote

/-- The same for all machines. -/
theorem promotes_foldl_note {inspections : List Inspection} {before : Tally} {survey : Survey}
    (promotes : before.Promotes survey.tally survey.promoted)
    (sound : ∀ inspection ∈ inspections, inspection.Sound site) :
    ((inspections.map Inspection.vmi).foldl (fun tally vmi => tally.count vmi.poolState?)
      before).Promotes (inspections.foldl Survey.note survey).tally
        (inspections.foldl Survey.note survey).promoted := by
  induction inspections generalizing before survey with
  | nil => exact promotes
  | cons first rest ih =>
      rw [List.map_cons, List.foldl_cons, List.foldl_cons]
      exact ih (promotes_note promotes (sound first List.mem_cons_self))
        fun inspection member => sound inspection (List.mem_cons_of_mem _ member)

/-- What a tick found differs from what the labels tell by what it made available. -/
theorem Tended.promotes {desired : Nat} {inspections : List Inspection}
    (tended : Tended site desired inspections trace report) :
    (Tally.ofMembers site.cache.pool).Promotes report.tally report.promoted := by
  rw [tended.tally_eq, tended.promoted_eq, ← tended.members]
  exact promotes_foldl_note (.refl _) tended.sound

/-- As many machines are members of the pool as are cached with a state label. -/
theorem length_pool (cache : Cache) : cache.pool.length = cache.vmis.countP Vmi.isPooled := by
  rw [Cache.pool, (Cache.sortByName_perm _ _).length_eq, List.countP_eq_length_filter]

/-- A tick accounts for every machine of the pool. -/
structure Conserves (site : Site) (trace : List Happening) (report : Report) : Prop where
  /-- Every machine with a state label is counted once. -/
  counted : report.tally.creating + report.tally.available + report.tally.claimed +
    report.tally.unrecognized = site.cache.vmis.countP Vmi.isPooled
  /-- The counts differ from those of the labels by the machines made available. -/
  promotes : (Tally.ofMembers site.cache.pool).Promotes report.tally report.promoted
  /-- Of the machines of the pool exactly those that are ready were to be made available,
  and those are counted for which that succeeded. -/
  promoted : ∃ inspections : List Inspection,
    inspections.map Inspection.vmi = site.cache.pool ∧
    (∀ inspection ∈ inspections, inspection.answer.isSome = isReady site inspection.vmi) ∧
    promotions trace = inspections.filterMap Inspection.exchange? ∧
    report.promoted = inspections.countP fun inspection => inspection.promoted?.isSome

theorem Tended.conserves {desired : Nat} {inspections : List Inspection}
    (tended : Tended site desired inspections trace report) : Conserves site trace report where
  counted := by
    have size := tended.promotes.size_eq
    rw [Tally.ofMembers, Tally.size_foldl_count, length_pool] at size
    simpa [Tally.size] using size
  promotes := tended.promotes
  promoted := by
    refine ⟨inspections, tended.members, tended.sound, tended.promotions_eq, ?_⟩
    rw [tended.promoted_eq, promoted_foldl_note]
    exact Nat.zero_add _

/-- With a size that is not zero a tick counts every machine of the pool once, and its
counts differ from those of the labels by the machines that it made available. Otherwise it
asks nothing and its counts are those of the labels. -/
theorem pool_conserved (run : Runs (tick site) trace report) :
    (∀ config, site.cache.activeConfig? = some config → 0 < config.spec.poolSize →
      Conserves site trace report) ∧
    ((∀ config, site.cache.activeConfig? = some config → config.spec.poolSize = 0) →
      exchanges trace = [] ∧ report.tally = Tally.ofMembers site.cache.pool) := by
  constructor
  · intro config configured wanted
    obtain ⟨inspections, tended⟩ := runs_tick_of_wanted run configured wanted
    exact tended.conserves
  · intro unwanted
    obtain ⟨asksNothing, rfl⟩ := runs_tick_of_unwanted run unwanted
    exact ⟨asksNothing, rfl⟩

/-- A machine of the pool in a state, as it is stored at a version. -/
def poolMachine (name version : String) (state : PoolState) : Vmi where
  metadata :=
    { name := some name
      space := some "pool"
      labels := some [(poolStateLabel, state.label)]
      resourceVersion := some version }
  spec := (Manifest.pool "pool" name {} {}).spec
  status := some { phase := some .running }

/-- One machine is available and another one just came up, but only one is wanted. -/
def crowdedSite : Site where
  cache :=
    { vmis := [poolMachine "b" "1" .creating, poolMachine "a" "1" .available]
      nodes := [{ metadata := { name := some "b" } }]
      configs := [{ metadata := { name := some "settings" }, spec := { poolSize := 1 } }] }

/-- The machine that came up is made available and is deleted after that. -/
def crowdedTrace (patch : StatusPatch) : List Happening :=
  [.answered (.changeMachine "pool" "b" (.promote (some "1")))
      (.ok (poolMachine "b" "2" .available)),
    .told (.pool { available := 2 }),
    .answered (.reportCounts "settings" patch) (.ok ()),
    .answered (.deleteMachine "pool" "b" (some "2")) (.ok ())]

/-- What the tick did. -/
def crowdedReport : Report where
  tally := { available := 2 }
  promoted := 1
  deleted := 1
  published := true

theorem crowdedTrace_runs :
    ∃ patch, Runs (tick crowdedSite) (crowdedTrace patch) crowdedReport :=
  ⟨⟨Tally.status ⟨⟨2026, 1, 1⟩, 0, 0, 0, 0⟩ { available := 2 }⟩,
    .request (.signal (.presentTime (.request (.request .done))))⟩

theorem crowdedSite_conserved : ∃ trace, Runs (tick crowdedSite) trace crowdedReport ∧
    Conserves crowdedSite trace crowdedReport := by
  obtain ⟨patch, run⟩ := crowdedTrace_runs
  exact ⟨_, run, (pool_conserved run).1 _ rfl (by decide)⟩

end Pool

end NodeGate
