import NodeGate.Proofs.Pool.Spares

/-!
# The convergence of the pool

A tick asks for exactly the machines that the pool lacks and trims exactly those that it has
too many of, and never does both. What it trims are the last of the spare machines by name,
each at its known version, so that as many available machines stay as are wanted, whatever
becomes of the calls. If these calls succeed, the pool then holds the wanted number of
machines, or as many more as are being created.
-/

namespace NodeGate.Pool

open Program Cache

variable {site : Site} {config : GateConfig} {desired : Nat} {trace : List Happening}
  {report : Report} {inspections : List Inspection} {vmi : Vmi} {keys : List ObjectKey}

/-- What a call makes of the keys of the machines that stand in the pool. -/
def settle (keys : List ObjectKey) : Happening → List ObjectKey
  | .answered (.createMachine vmi) (.ok ()) => keys ++ vmi.key.toOption.toList
  | .answered (.deleteMachine space name _) (.ok ()) => keys.filter (· ≠ ⟨space, name⟩)
  | _ => keys

/-- The keys of the machines that stand in the pool after what happened. -/
def standing (keys : List ObjectKey) (past : List Happening) : List ObjectKey :=
  past.foldl settle keys

/-- Whether a machine of the pool counts towards its size: it is being created or
available. -/
def isUnclaimed (vmi : Vmi) : Bool :=
  vmi.poolState? == some .creating || vmi.poolState? == some .available

/-- The keys of the cached machines that count towards the size of the pool. -/
def stock (cache : Cache) : List ObjectKey :=
  (cache.vmis.filter isUnclaimed).filterMap fun vmi => vmi.key.toOption

/-- No creation and no deletion of a machine failed. -/
structure Resized (past : List Happening) : Prop where
  created : ∀ vmi fault, .answered (.createMachine vmi) (.error fault) ∉ past
  deleted : ∀ space name version fault,
    .answered (.deleteMachine space name version) (.error fault) ∉ past

theorem Resized.tail {first : Happening} (resized : Resized (first :: trace)) : Resized trace :=
  ⟨fun vmi fault member => resized.created vmi fault (List.mem_cons_of_mem _ member),
    fun space name version fault member =>
      resized.deleted space name version fault (List.mem_cons_of_mem _ member)⟩

/-- Without deletions the created machines are added. -/
theorem standing_of_no_deletions (resized : Resized trace) (kept : deletions trace = []) :
    standing keys trace = keys ++ (creations trace).filterMap fun vmi => vmi.key.toOption := by
  induction trace generalizing keys with
  | nil => simp [standing, creations]
  | cons first rest ih =>
      rcases first with ⟨asked, answer⟩ | told
      · cases asked with
        | createMachine vmi =>
            cases answer with
            | error fault => exact absurd List.mem_cons_self (resized.created vmi fault)
            | ok _ =>
                have others := @ih (keys ++ vmi.key.toOption.toList) resized.tail kept
                have created : creations (.answered (.createMachine vmi) (.ok ()) :: rest) =
                    vmi :: creations rest := rfl
                rw [standing, List.foldl_cons, settle, ← standing, others, created,
                  List.append_assoc, List.filterMap_cons]
                cases vmi.key.toOption <;> rfl
        | deleteMachine space name version => simp [deletions, Happening.deletion?] at kept
        | _ => exact ih resized.tail kept
      · exact ih resized.tail kept

/-- Without creations the deleted machines are gone. -/
theorem standing_of_no_creations (resized : Resized trace) (none : creations trace = []) :
    standing keys trace = keys.filter (· ∉ (deletions trace).map Prod.fst) := by
  induction trace generalizing keys with
  | nil => simp [standing, deletions]
  | cons first rest ih =>
      rcases first with ⟨asked, answer⟩ | told
      · cases asked with
        | createMachine vmi => simp [creations, Happening.creation?] at none
        | deleteMachine space name version =>
            cases answer with
            | error fault =>
                exact absurd List.mem_cons_self (resized.deleted space name version fault)
            | ok _ =>
                have others := @ih (keys.filter (· ≠ ⟨space, name⟩)) resized.tail none
                have deleted : deletions
                    (.answered (.deleteMachine space name version) (.ok ()) :: rest) =
                      (⟨space, name⟩, version) :: deletions rest := rfl
                rw [standing, List.foldl_cons, settle, ← standing, others, deleted,
                  List.filter_filter]
                refine List.filter_congr fun key _ => ?_
                rw [Bool.eq_iff_iff]
                simp [not_or, and_comm]
        | _ => exact ih resized.tail none
      · exact ih resized.tail none

/-- Of distinct keys as many stay as there are more than those taken away. -/
theorem length_filter_not_mem {gone : List ObjectKey} (distinct : gone.Nodup)
    (nodup : keys.Nodup) (among : ∀ key ∈ gone, key ∈ keys) :
    (keys.filter (· ∉ gone)).length + gone.length = keys.length := by
  have taken : (keys.filter (· ∈ gone)).Perm gone := by
    refine (List.perm_ext_iff_of_nodup (nodup.filter _) distinct).mpr fun key => ?_
    simpa using among key
  have split := List.length_eq_length_filter_add (l := keys) fun key => decide (key ∈ gone)
  rw [taken.length_eq] at split
  simpa [Nat.add_comm] using split.symm

section Stock

theorem toOption_eq_some_iff {held : ObjectKey} :
    vmi.key.toOption = some held ↔ vmi.key = .ok held := by
  cases vmi.key <;> simp [Except.toOption]

theorem total_foldl_count (tally : Tally) (members : List Vmi) :
    (members.foldl (fun tally vmi => tally.count vmi.poolState?) tally).total =
      tally.total + members.countP isUnclaimed := by
  induction members generalizing tally with
  | nil => rfl
  | cons first rest ih =>
      rw [List.foldl_cons, ih, List.countP_cons, isUnclaimed]
      rcases first.poolState? with _ | state
      · rfl
      · cases state <;> simp [Tally.count, Tally.total] <;> omega

theorem isPooled_of_isUnclaimed (unclaimed : isUnclaimed vmi = true) : vmi.isPooled = true := by
  simp only [isUnclaimed, Bool.or_eq_true, beq_iff_eq] at unclaimed
  rcases unclaimed with creating | available
  · exact Vmi.isPooled_of_poolState? creating
  · exact Vmi.isPooled_of_poolState? available

theorem length_stock (keyed : Keyed site.cache.vmis) :
    (stock site.cache).length = (Tally.ofMembers site.cache.pool).total := by
  have members : site.cache.pool.countP isUnclaimed = site.cache.vmis.countP isUnclaimed :=
    countP_pool fun _ => isPooled_of_isUnclaimed
  have all : ∀ vmi ∈ site.cache.vmis.filter isUnclaimed,
      vmi.key.toOption.isSome = true := fun vmi member => by
    obtain ⟨held, key⟩ := keyed.keyed vmi (List.mem_filter.mp member).1
    rw [key]
    rfl
  rw [Tally.ofMembers, total_foldl_count, members, List.countP_eq_length_filter, stock,
    List.length_filterMap_eq_countP, List.countP_eq_length.mpr all]
  exact (Nat.zero_add _).symm

theorem nodup_stock (keyed : Keyed site.cache.vmis) : (stock site.cache).Nodup := by
  have apart : (site.cache.vmis.filter isUnclaimed).Pairwise fun one other =>
      one.key ≠ other.key :=
    List.pairwise_map.mp (keyed.nodup.sublist (List.filter_sublist.map _))
  refine List.pairwise_filterMap.mpr (apart.imp ?_)
  rintro one other differs held oneHolds otherHeld otherHolds rfl
  rw [toOption_eq_some_iff] at oneHolds otherHolds
  exact differs (oneHolds.trans otherHolds.symm)

theorem mem_stock {held : ObjectKey} (member : vmi ∈ site.cache.vmis)
    (unclaimed : isUnclaimed vmi = true) (keyed : vmi.key = .ok held) :
    held ∈ stock site.cache :=
  List.mem_filterMap.mpr
    ⟨vmi, List.mem_filter.mpr ⟨member, unclaimed⟩, toOption_eq_some_iff.mpr keyed⟩

end Stock

/-- The last of the spare machines by name are to be deleted, each at its known version, and
as many stay as are wanted if there are as many. -/
structure Trims (site : Site) (desired : Nat) (trace : List Happening) (tally : Tally)
    (spares : List Vmi) : Prop extends Spares site trace spares where
  counted : spares.length = tally.available
  last : (deletions trace).map (fun deletion => (Except.ok deletion.1, deletion.2)) =
    (spares.reverse.take (tally.available - desired)).map
      fun vmi => (vmi.key, vmi.metadata.resourceVersion)
  stay : ∀ vmi ∈ spares.take (min tally.available desired), ∀ deletion ∈ deletions trace,
    vmi.key ≠ .ok deletion.1

/-- A tick brings the pool closer to the wanted size and not beyond. -/
structure Converges (site : Site) (desired : Nat) (trace : List Happening) (tally : Tally) :
    Prop where
  /-- As many machines are to be created as the pool lacks. -/
  created : (creations trace).length = desired - tally.total
  /-- They are machines of the pool that are being created. -/
  fresh : ∀ vmi ∈ creations trace, vmi.poolState? = some .creating ∧
    ∃ part, vmi = newMachine site part
  /-- As many are to be deleted as there are available ones beyond those wanted. -/
  deleted : (deletions trace).length = tally.available - desired
  oneWay : creations trace = [] ∨ deletions trace = []
  distinct : ((deletions trace).map Prod.fst).Nodup
  trimmed : ∃ spares, Trims site desired trace tally spares
  /-- No cached machine is to be deleted but one that is available or was made so. -/
  spared : ∀ vmi ∈ site.cache.vmis, ∀ deletion ∈ deletions trace, vmi.key = .ok deletion.1 →
    Disposable trace vmi deletion.1 deletion.2
  /-- What counts towards the size of the pool when the calls succeeded. -/
  settled : Resized trace → (standing (stock site.cache) trace).length =
    max desired (tally.creating + min tally.available desired)

theorem Disposable.isUnclaimed {held : ObjectKey} {version : Option String}
    (disposable : Disposable trace vmi held version) : isUnclaimed vmi = true := by
  cases disposable with
  | available _ available => simp [Pool.isUnclaimed, available]
  | promoted _ creating _ => simp [Pool.isUnclaimed, creating]

/-- Machines with keys are to be deleted under their keys at their versions. -/
theorem map_pinned {vmis : List Vmi} (keyed : ∀ vmi ∈ vmis, ∃ held, vmi.key = .ok held) :
    (vmis.filterMap pinned?).map (fun deletion => (Except.ok deletion.1, deletion.2)) =
      vmis.map fun vmi => (vmi.key, vmi.metadata.resourceVersion) := by
  induction vmis with
  | nil => rfl
  | cons first rest ih =>
      obtain ⟨⟨held, first_keyed⟩, others⟩ := List.forall_mem_cons.mp keyed
      have pinned : pinned? first = some (held, first.metadata.resourceVersion) := by
        rw [pinned?, first_keyed]
      rw [List.filterMap_cons, pinned, List.map_cons, List.map_cons, ih others, first_keyed]

theorem key_of_pinned {deletion : ObjectKey × Option String}
    (pinned : pinned? vmi = some deletion) :
    vmi.key = .ok deletion.1 ∧ deletion.2 = vmi.metadata.resourceVersion := by
  unfold pinned? at pinned
  split at pinned
  next held keyed =>
    obtain rfl := Option.some.inj pinned
    exact ⟨keyed, rfl⟩
  next => contradiction

namespace Tended

variable {deletion : ObjectKey × Option String}
  (tended : Tended site desired inspections trace report)

include tended

/-- What is to be deleted is a spare machine at its version. -/
theorem spare_of_deletion (member : deletion ∈ deletions trace) :
    ∃ vmi ∈ (inspections.filterMap Inspection.spare?).reverse.take
        (report.tally.available - desired),
      vmi.key = .ok deletion.1 ∧ deletion.2 = vmi.metadata.resourceVersion := by
  rw [tended.deletions_eq] at member
  obtain ⟨vmi, among, pinned⟩ := List.mem_filterMap.mp member
  exact ⟨vmi, among, key_of_pinned pinned⟩

/-- What is to be deleted is cached and may be deleted. -/
theorem disposable_of_deletion (keyed : Keyed site.cache.vmis) (echoes : Echoes trace)
    (member : deletion ∈ deletions trace) :
    ∃ vmi ∈ site.cache.vmis, vmi.key = .ok deletion.1 ∧
      Disposable trace vmi deletion.1 deletion.2 := by
  obtain ⟨spare, among, spare_keyed, version⟩ := tended.spare_of_deletion member
  have isSpare := List.mem_reverse.mp (List.mem_of_mem_take among)
  obtain ⟨inspection, inspected, found⟩ := List.mem_filterMap.mp isSpare
  obtain ⟨held, vmi_keyed, disposable⟩ := tended.disposable_of_spare keyed inspected found
  have same := (tended.key_of_spare echoes inspected found).symm.trans spare_keyed
  obtain rfl := Except.ok.inj (vmi_keyed.symm.trans same)
  rw [← version] at disposable
  exact ⟨inspection.vmi, tended.mem_vmis inspected, vmi_keyed, disposable⟩

theorem map_deletions (keyed : Keyed site.cache.vmis) (echoes : Echoes trace) :
    (deletions trace).map (fun deletion => (Except.ok deletion.1, deletion.2)) =
      ((inspections.filterMap Inspection.spare?).reverse.take
        (report.tally.available - desired)).map
          fun vmi => (vmi.key, vmi.metadata.resourceVersion) := by
  rw [tended.deletions_eq]
  refine map_pinned fun vmi member => (tended.spares keyed echoes).keyed.keyed vmi ?_
  exact List.mem_reverse.mp (List.mem_of_mem_take member)

/-- No key is to be deleted twice. -/
theorem nodup_deletions (keyed : Keyed site.cache.vmis) (echoes : Echoes trace) :
    ((deletions trace).map Prod.fst).Nodup := by
  have spares := (tended.spares keyed echoes).keyed.nodup
  have excess : (((inspections.filterMap Inspection.spare?).reverse.take
      (report.tally.available - desired)).map Vmi.key).Nodup := by
    refine List.Nodup.sublist ((List.take_sublist _ _).map _) ?_
    rw [List.map_reverse]
    exact List.nodup_reverse.mpr spares
  have same := congrArg (List.map Prod.fst) (tended.map_deletions keyed echoes)
  rw [List.map_map, List.map_map] at same
  refine List.Nodup.of_map (Except.ok : ObjectKey → Except Fault ObjectKey) ?_
  rw [List.map_map]
  exact same.symm ▸ excess

/-- The first of the spare machines stay. -/
theorem not_deleted (keyed : Keyed site.cache.vmis) (echoes : Echoes trace)
    (first : vmi ∈ (inspections.filterMap Inspection.spare?).take
      (min report.tally.available desired))
    (member : deletion ∈ deletions trace) : vmi.key ≠ .ok deletion.1 := by
  obtain ⟨spare, among, spare_keyed, -⟩ := tended.spare_of_deletion member
  have nodup := (tended.spares keyed echoes).keyed.nodup
  have bound : (inspections.filterMap Inspection.spare?).length -
      (report.tally.available - desired) = min report.tally.available desired := by
    rw [tended.length_spares]
    omega
  rw [List.take_reverse, bound, List.mem_reverse] at among
  rw [← List.take_append_drop (min report.tally.available desired)
    (inspections.filterMap Inspection.spare?), List.map_append, List.nodup_append] at nodup
  rw [← spare_keyed]
  exact nodup.2.2 _ (List.mem_map_of_mem first) _ (List.mem_map_of_mem among)

/-- The machines that are to be deleted stood in the pool. -/
theorem mem_stock_of_deletion (keyed : Keyed site.cache.vmis) (echoes : Echoes trace)
    (member : deletion ∈ deletions trace) : deletion.1 ∈ stock site.cache := by
  obtain ⟨vmi, cached, vmi_keyed, disposable⟩ :=
    tended.disposable_of_deletion keyed echoes member
  exact mem_stock cached disposable.isUnclaimed vmi_keyed

theorem trims (keyed : Keyed site.cache.vmis) (echoes : Echoes trace) :
    Trims site desired trace report.tally (inspections.filterMap Inspection.spare?) where
  toSpares := tended.spares keyed echoes
  counted := tended.length_spares
  last := tended.map_deletions keyed echoes
  stay _ first _ member := tended.not_deleted keyed echoes first member

theorem length_creations : (creations trace).length = desired - report.tally.total := by
  obtain ⟨parts, counted, creates⟩ := tended.exists_creations
  rw [creates, List.length_map, counted]

theorem length_deletions (keyed : Keyed site.cache.vmis) (echoes : Echoes trace) :
    (deletions trace).length = report.tally.available - desired := by
  have same := congrArg List.length (tended.map_deletions keyed echoes)
  rw [List.length_map, List.length_map, List.length_take, List.length_reverse,
    tended.length_spares] at same
  omega

/-- The pool cannot lack machines and have too many available ones at once. -/
theorem creations_or_deletions (keyed : Keyed site.cache.vmis) (echoes : Echoes trace) :
    creations trace = [] ∨ deletions trace = [] := by
  rw [← List.length_eq_zero_iff, ← List.length_eq_zero_iff, tended.length_creations,
    tended.length_deletions keyed echoes, Tally.total]
  omega

theorem fresh_of_creation (member : vmi ∈ creations trace) :
    vmi.poolState? = some .creating ∧ ∃ part, vmi = newMachine site part := by
  obtain ⟨parts, -, creates⟩ := tended.exists_creations
  rw [creates] at member
  obtain ⟨part, -, rfl⟩ := List.mem_map.mp member
  exact ⟨Manifest.poolState?_pool, part, rfl⟩

/-- Making machines available changes nothing about how many stand in the pool. -/
theorem length_stock (keyed : Keyed site.cache.vmis) :
    (stock site.cache).length = report.tally.creating + report.tally.available := by
  have creating := tended.promotes.creating
  have available := tended.promotes.available
  rw [Pool.length_stock keyed, Tally.total]
  omega

/-- What stands in the pool when the calls succeeded. -/
theorem length_standing (keyed : Keyed site.cache.vmis) (echoes : Echoes trace)
    (resized : Resized trace) : (standing (stock site.cache) trace).length =
      report.tally.creating + report.tally.available + (creations trace).length -
        (deletions trace).length := by
  rcases tended.creations_or_deletions keyed echoes with none | kept
  · have among : ∀ key ∈ (deletions trace).map Prod.fst, key ∈ stock site.cache := by
      intro key gone
      obtain ⟨deletion, member, rfl⟩ := List.mem_map.mp gone
      exact tended.mem_stock_of_deletion keyed echoes member
    have left := length_filter_not_mem (tended.nodup_deletions keyed echoes)
      (nodup_stock keyed) among
    rw [List.length_map, tended.length_stock keyed] at left
    rw [standing_of_no_creations resized none, none, List.length_nil]
    omega
  · have all : ∀ vmi ∈ creations trace, vmi.key.toOption.isSome = true := by
      intro vmi member
      obtain ⟨-, part, rfl⟩ := tended.fresh_of_creation member
      rfl
    rw [standing_of_no_deletions resized kept, kept, List.length_append,
      tended.length_stock keyed, List.length_filterMap_eq_countP, List.countP_eq_length.mpr all]
    rfl

theorem converges (keyed : Keyed site.cache.vmis) (echoes : Echoes trace) :
    Converges site desired trace report.tally where
  created := tended.length_creations
  fresh _ member := tended.fresh_of_creation member
  deleted := tended.length_deletions keyed echoes
  oneWay := tended.creations_or_deletions keyed echoes
  distinct := tended.nodup_deletions keyed echoes
  trimmed := ⟨_, tended.trims keyed echoes⟩
  spared := by
    intro vmi cached deletion member vmi_keyed
    obtain ⟨other, otherCached, other_keyed, disposable⟩ :=
      tended.disposable_of_deletion keyed echoes member
    rwa [keyed.eq_of_key cached otherCached (vmi_keyed.trans other_keyed.symm)]
  settled := by
    intro resized
    rw [tended.length_standing keyed echoes resized, tended.length_creations,
      tended.length_deletions keyed echoes, Tally.total]
    omega

end Tended

/-- With a size that is not zero a tick brings the pool closer to that size, whatever its
calls are answered. -/
theorem pool_converges (keyed : Keyed site.cache.vmis)
    (configured : site.cache.activeConfig? = some config) (wanted : 0 < config.spec.poolSize)
    (run : Runs (tick site) trace report) (echoes : Echoes trace) :
    Converges site config.spec.poolSize trace report.tally := by
  obtain ⟨inspections, tended⟩ := runs_tick_of_wanted run configured wanted
  exact tended.converges keyed echoes

theorem crowdedSite_keyed : Keyed crowdedSite.cache.vmis := by
  constructor <;> simp [crowdedSite, poolMachine, Vmi.key]

theorem crowdedTrace_echoes (patch : StatusPatch) : Echoes (crowdedTrace patch) := by
  intro space name change stored member
  simp only [crowdedTrace, List.mem_cons, Happening.answered.injEq, Call.changeMachine.injEq,
    List.not_mem_nil, reduceCtorEq, false_and, or_false] at member
  obtain ⟨⟨rfl, rfl, rfl⟩, same⟩ := member
  cases same
  rfl

/-- The machine that just came up is the last by name, and it goes at its new version. -/
theorem crowdedSite_converges : ∃ trace, Runs (tick crowdedSite) trace crowdedReport ∧
    Echoes trace ∧ deletions trace = [(⟨"pool", "b"⟩, some "2")] ∧
      Converges crowdedSite 1 trace crowdedReport.tally := by
  obtain ⟨patch, run⟩ := crowdedTrace_runs
  have echoes := crowdedTrace_echoes patch
  exact ⟨_, run, echoes, rfl, pool_converges crowdedSite_keyed rfl (by decide) run echoes⟩

end NodeGate.Pool
