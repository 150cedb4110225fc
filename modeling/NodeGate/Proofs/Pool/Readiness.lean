import NodeGate.Proofs.Pool.Spares

/-!
# What counts as available

A tick counts the machines of the pool by their labels, and reports how many are available. A
pod is offered only machines that run. The two agree, once the machines that the tick made
available are cached, exactly when every machine that is labelled as available runs. One that
stopped is counted on and on: no pod is offered it, and no other is made in its place.
-/

namespace NodeGate.Pool

open Program Cache

variable {site : Site} {config : GateConfig} {desired : Nat} {vmi : Vmi} {trace : List Happening}
  {report : Report} {inspections : List Inspection}

/-- Whether a machine is labelled as available. -/
def isOffered (vmi : Vmi) : Bool :=
  vmi.poolState? == some .available

/-- Whether a machine is labelled as available but does not run. -/
def isStalled (vmi : Vmi) : Bool :=
  isOffered vmi && !vmi.isRunning

/-- The machines that were made available, as they were given back. -/
def arrivals (past : List Happening) : List Vmi :=
  (promotions past).filterMap fun
    | .answered (.changeMachine ..) (.ok stored) => some stored
    | _ => none

/-- The cache once it has the machines that were made available. -/
def refreshed (cache : Cache) (past : List Happening) : Cache :=
  { cache with
    vmis := (arrivals past).foldl (fun vmis made => put Vmi.metadata made vmis) cache.vmis }

/-- A machine that was to be made available is given back as that machine with its new
label. -/
def Relabels (trace : List Happening) : Prop :=
  ∀ space name version stored,
    .answered (.changeMachine space name (.promote version)) (.ok stored) ∈ trace →
      stored.key = .ok ⟨space, name⟩ ∧ stored.poolState? = some .available

theorem available_foldl_count (tally : Tally) (members : List Vmi) :
    (members.foldl (fun tally vmi => tally.count vmi.poolState?) tally).available =
      tally.available + members.countP isOffered := by
  induction members generalizing tally with
  | nil => rfl
  | cons first rest ih =>
      have counted : (tally.count first.poolState?).available =
          tally.available + if isOffered first then 1 else 0 := by
        rw [isOffered]
        rcases first.poolState? with _ | state
        · rfl
        · cases state <;> rfl
      rw [List.foldl_cons, ih, List.countP_cons, counted]
      omega

theorem isPooled_of_isOffered (offered : isOffered vmi = true) : vmi.isPooled = true :=
  Vmi.isPooled_of_poolState? (beq_iff_eq.mp offered)

/-- Machines that are labelled as available run, or are stalled. -/
theorem countP_isOffered (members : List Vmi) :
    members.countP isOffered = members.countP isClaimable + members.countP isStalled := by
  have split := List.length_eq_countP_add_countP Vmi.isRunning (l := members.filter isOffered)
  rw [← List.countP_eq_length_filter, List.countP_filter, List.countP_filter] at split
  have claimable : members.countP isClaimable =
      members.countP fun vmi => vmi.isRunning && isOffered vmi :=
    List.countP_congr fun vmi _ => by simp [isClaimable, isOffered, and_comm]
  have stalled : members.countP isStalled =
      members.countP fun vmi => decide (¬vmi.isRunning = true) && isOffered vmi :=
    List.countP_congr fun vmi _ => by simp [isStalled, and_comm]
  rw [split, claimable, stalled]

namespace Tended

variable (tended : Tended site desired inspections trace report)

include tended

theorem arrivals_eq : arrivals trace = inspections.filterMap Inspection.promoted? := by
  rw [arrivals, tended.promotions_eq, List.filterMap_filterMap]
  refine List.filterMap_congr fun inspection member => ?_
  cases promoted : inspection.promoted? with
  | some stored =>
      obtain ⟨held, -, exchange⟩ := (tended.sound inspection member).exchange_of_promoted promoted
      rw [exchange, Option.bind_some]
  | none =>
      unfold Inspection.exchange?
      split
      next held answer keyed answered =>
        cases answer with
        | error fault => rfl
        | ok stored => simp [Inspection.promoted?, answered] at promoted
      next => rfl

/-- A machine that was made available has the place of the one that was being created. -/
theorem place_of_promoted {inspection : Inspection} {stored : Vmi} (relabels : Relabels trace)
    (member : inspection ∈ inspections) (promoted : inspection.promoted? = some stored) :
    sameIdentity inspection.vmi.metadata stored.metadata = true ∧
      isOffered inspection.vmi = false ∧ isOffered stored = true := by
  obtain ⟨held, keyed, answered⟩ := tended.answered_of_promoted member promoted
  obtain ⟨storedKeyed, available⟩ := relabels _ _ _ _ answered
  have creating := Inspection.creating_of_promoted (tended.sound inspection member)
    (by simp [promoted])
  refine ⟨(Vmi.sameIdentity_iff_key keyed storedKeyed).mpr rfl, ?_, ?_⟩
  · simp [isOffered, creating]
  · simp [isOffered, available]

theorem apart_arrivals (apart : Apart Vmi.metadata site.cache.vmis) (relabels : Relabels trace) :
    Apart Vmi.metadata (arrivals trace) := by
  have pool := apart.pool
  rw [Apart, ← tended.members, List.pairwise_map] at pool
  rw [Apart, tended.arrivals_eq]
  refine List.pairwise_filterMap.mpr (pool.imp_of_mem ?_)
  intro one other oneAmong otherAmong differs stored oneMade otherStored otherMade
  have place := (tended.place_of_promoted relabels oneAmong oneMade).1
  have otherPlace := (tended.place_of_promoted relabels otherAmong otherMade).1
  rw [Bool.eq_false_iff] at differs ⊢
  intro same
  rw [sameIdentity_symm] at otherPlace
  exact differs (sameIdentity_trans place (sameIdentity_trans same otherPlace))

/-- What a tick counts as available are the machines that are labelled so once the cache has
those that it made available. -/
theorem available_eq (apart : Apart Vmi.metadata site.cache.vmis) (relabels : Relabels trace) :
    report.tally.available = (refreshed site.cache trace).pool.countP isOffered := by
  have labelled : (Tally.ofMembers site.cache.pool).available =
      site.cache.vmis.countP isOffered := by
    rw [Tally.ofMembers, available_foldl_count, countP_pool fun _ => isPooled_of_isOffered]
    exact Nat.zero_add _
  have promoted : report.promoted = (arrivals trace).length := by
    rw [tended.promoted_eq, promoted_foldl_note, tended.arrivals_eq,
      List.length_filterMap_eq_countP]
    exact Nat.zero_add _
  have arrived : (refreshed site.cache trace).vmis.countP isOffered =
      site.cache.vmis.countP isOffered + (arrivals trace).length := by
    refine countP_foldl_put apart (tended.apart_arrivals apart relabels) ?_ ?_
    · rw [tended.arrivals_eq]
      intro made among
      obtain ⟨inspection, member, found⟩ := List.mem_filterMap.mp among
      obtain ⟨same, creating, -⟩ := tended.place_of_promoted relabels member found
      exact ⟨inspection.vmi, tended.mem_vmis member, same, creating⟩
    · rw [tended.arrivals_eq]
      intro made among
      obtain ⟨inspection, member, found⟩ := List.mem_filterMap.mp among
      exact (tended.place_of_promoted relabels member found).2.2
  rw [countP_pool fun _ => isPooled_of_isOffered, arrived, tended.promotes.available, labelled,
    promoted]

end Tended

/-- How what a tick counts as available agrees with what a pod is offered once the machines
that were made available are cached. -/
structure Offers (site : Site) (desired : Nat) (trace : List Happening) (report : Report) :
    Prop where
  counted : report.tally.available = (refreshed site.cache trace).pool.countP isClaimable +
    (refreshed site.cache trace).pool.countP isStalled
  agrees_iff : report.tally.available = (refreshed site.cache trace).pool.countP isClaimable ↔
    ∀ vmi ∈ (refreshed site.cache trace).pool, vmi.poolState? = some .available →
      vmi.isRunning = true
  reported : ∀ status ∈ reports trace,
    status.available = Tally.reported report.tally.available
  created : (creations trace).length =
    desired - (report.tally.creating + report.tally.available)

/-- Nothing is stalled exactly if all that is labelled as available runs. -/
theorem countP_isStalled_eq_zero {members : List Vmi} : members.countP isStalled = 0 ↔
    ∀ vmi ∈ members, vmi.poolState? = some .available → vmi.isRunning = true := by
  simp [List.countP_eq_zero, isStalled, isOffered]

/-- What a tick counts and reports as available can be claimed exactly if every machine runs
that is labelled as available. -/
theorem available_claimable_iff_running (apart : Apart Vmi.metadata site.cache.vmis)
    (configured : site.cache.activeConfig? = some config) (wanted : 0 < config.spec.poolSize)
    (run : Runs (tick site) trace report) (relabels : Relabels trace) :
    Offers site config.spec.poolSize trace report := by
  obtain ⟨inspections, tended⟩ := runs_tick_of_wanted run configured wanted
  have counted := tended.available_eq apart relabels
  rw [countP_isOffered] at counted
  refine ⟨counted, ?_, ?_, ?_⟩
  · rw [← countP_isStalled_eq_zero]
    omega
  · intro status member
    obtain ⟨instant, rfl⟩ := tended.reported status member
    rfl
  · obtain ⟨parts, length, creates⟩ := tended.exists_creations
    rw [creates, List.length_map, length, Tally.total]

theorem crowdedTrace_relabels (patch : StatusPatch) : Relabels (crowdedTrace patch) := by
  intro space name version stored member
  simp only [crowdedTrace, List.mem_cons, Happening.answered.injEq, Call.changeMachine.injEq,
    List.not_mem_nil, reduceCtorEq, false_and, or_false] at member
  obtain ⟨⟨rfl, rfl, -⟩, same⟩ := member
  cases same
  exact ⟨rfl, by decide⟩

theorem crowdedSite_offers : ∃ trace, Runs (tick crowdedSite) trace crowdedReport ∧
    Offers crowdedSite 1 trace crowdedReport := by
  obtain ⟨patch, run⟩ := crowdedTrace_runs
  have apart : Apart Vmi.metadata crowdedSite.cache.vmis := List.pairwise_pair.mpr (by decide)
  exact ⟨_, run, available_claimable_iff_running apart rfl (by decide) run
    (crowdedTrace_relabels patch)⟩

/-- The only machine that is labelled as available failed. -/
def stalledSite : Site where
  cache :=
    { vmis := [{ poolMachine "a" "1" .available with status := some { phase := some .failed } }]
      configs := [{ metadata := { name := some "settings" }, spec := { poolSize := 1 } }] }

/-- It is reported as available, and no other machine is made. -/
def stalledTrace (patch : StatusPatch) : List Happening :=
  [.told (.pool { available := 1 }), .answered (.reportCounts "settings" patch) (.ok ())]

theorem stalledTrace_runs : ∃ patch, Runs (tick stalledSite) (stalledTrace patch)
    { tally := { available := 1 }, published := true } :=
  ⟨⟨Tally.status ⟨⟨2026, 1, 1⟩, 0, 0, 0, 0⟩ { available := 1 }⟩,
    .signal (.presentTime (.request .done))⟩

/-- A machine that failed counts as available, but no pod is offered it. -/
theorem stalled_counts_as_available : ¬∀ site config trace report,
    Apart Vmi.metadata site.cache.vmis → site.cache.activeConfig? = some config →
      0 < config.spec.poolSize → Runs (tick site) trace report → Relabels trace →
        report.tally.available = (refreshed site.cache trace).pool.countP isClaimable := by
  intro agrees
  obtain ⟨patch, run⟩ := stalledTrace_runs
  have relabels : Relabels (stalledTrace patch) := by
    intro space name version stored member
    simp [stalledTrace] at member
  have apart : Apart Vmi.metadata stalledSite.cache.vmis := List.pairwise_singleton _ _
  have same := agrees stalledSite _ _ _ apart rfl (by decide) run relabels
  have none : (refreshed stalledSite.cache (stalledTrace patch)).pool.countP isClaimable = 0 := rfl
  rw [none] at same
  contradiction

end NodeGate.Pool
