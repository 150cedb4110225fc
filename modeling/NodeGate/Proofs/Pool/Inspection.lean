import NodeGate.Pool.Tick
import NodeGate.Proofs.Cluster.Exchanges
import NodeGate.Proofs.Cluster.Snapshot

/-!
# What a tick finds

A tick looks at the machines of the pool one after the other. At each it makes at most one
call, exactly if the machine is ready to be made available, and what it then takes the
machine for is told by the cached label and the answer. The survey of the pool is the sum of
these looks.
-/

namespace NodeGate

namespace Pool

open Program

variable {site : Site} {vmi : Vmi} {trace : List Happening}

/-- Whether a tick is to make the machine available: it is being created, runs and has a
node. -/
def isReady (site : Site) (vmi : Vmi) : Bool :=
  vmi.poolState? == some .creating && vmi.isRunning &&
    match vmi.key with
    | .ok held => (site.cache.node? held.name).isSome
    | .error _ => false

/-- A machine of the pool that a tick looked at, and what the call gave that was to make it
available, if there was one. -/
structure Inspection where
  vmi : Vmi
  answer : Option (Except Fault Vmi) := none

namespace Inspection

/-- The machine as it was made available. -/
def promoted? (inspection : Inspection) : Option Vmi :=
  match inspection.answer with
  | some (.ok stored) => some stored
  | _ => none

/-- The state of the machine after the look at it. -/
def state? (inspection : Inspection) : Option PoolState :=
  if inspection.promoted?.isSome then some .available else inspection.vmi.poolState?

/-- The machine if it is available after the look at it. -/
def spare? (inspection : Inspection) : Option Vmi :=
  match inspection.promoted? with
  | some stored => some stored
  | none => if inspection.vmi.poolState? = some .available then some inspection.vmi else none

/-- The machine if a pod holds it. -/
def held? (inspection : Inspection) : Option Vmi :=
  if inspection.vmi.poolState? = some .claimed then some inspection.vmi else none

/-- The call that was to make the machine available, with its answer. -/
def exchange? (inspection : Inspection) : Option Happening :=
  match inspection.vmi.key, inspection.answer with
  | .ok held, some answer =>
    some (.answered (.changeMachine held.space held.name
      (.promote inspection.vmi.metadata.resourceVersion)) answer)
  | _, _ => none

/-- A call is made for the machine exactly if it is ready. -/
def Sound (site : Site) (inspection : Inspection) : Prop :=
  inspection.answer.isSome = isReady site inspection.vmi

end Inspection

/-- The survey after one look more. -/
def Survey.note (survey : Survey) (inspection : Inspection) : Survey where
  tally := survey.tally.count inspection.state?
  promoted := survey.promoted + inspection.promoted?.toList.length
  available := survey.available ++ inspection.spare?.toList
  claimed := survey.claimed ++ inspection.held?.toList

theorem runs_promote {outcome : Option Vmi} (creating : vmi.poolState? = some .creating)
    (run : Runs (promote site vmi) trace outcome) :
    ∃ inspection : Inspection, inspection.vmi = vmi ∧ inspection.Sound site ∧
      exchanges trace = inspection.exchange?.toList ∧ inspection.promoted? = outcome := by
  unfold promote at run
  split at run
  next keyed =>
    obtain ⟨rfl, rfl⟩ := runs_pure_iff.mp run
    exact ⟨⟨vmi, none⟩, rfl, by simp [Inspection.Sound, isReady, keyed], by
      simp [Inspection.exchange?, keyed], rfl⟩
  next held keyed =>
    split at run
    next ready =>
      obtain ⟨answer, rest, rfl, next⟩ := runs_call_bind_iff.mp run
      refine ⟨⟨vmi, some answer⟩, rfl, ?_, ?_⟩
      · simpa [Inspection.Sound, isReady, keyed, creating] using ready
      · cases answer with
        | ok stored =>
            obtain ⟨rfl, rfl⟩ := runs_pure_iff.mp next
            exact ⟨by simp [Inspection.exchange?, keyed], rfl⟩
        | error fault =>
            obtain ⟨rest, rfl, last⟩ := runs_emit_bind_iff.mp next
            obtain ⟨rfl, rfl⟩ := runs_pure_iff.mp last
            exact ⟨by simp [Inspection.exchange?, keyed], rfl⟩
    next unready =>
      obtain ⟨rfl, rfl⟩ := runs_pure_iff.mp run
      refine ⟨⟨vmi, none⟩, rfl, ?_, by simp [Inspection.exchange?, keyed], rfl⟩
      simpa [Inspection.Sound, isReady, keyed, creating] using unready

/-- Looking at a machine that is not being created asks nothing. -/
theorem Inspection.sound_of_not_creating (other : vmi.poolState? ≠ some .creating) :
    (⟨vmi, none⟩ : Inspection).Sound site := by
  simp [Sound, isReady, other]

theorem runs_add {survey after : Survey} (run : Runs (survey.add site vmi) trace after) :
    ∃ inspection : Inspection, inspection.vmi = vmi ∧ inspection.Sound site ∧
      exchanges trace = inspection.exchange?.toList ∧ after = survey.note inspection := by
  have unasked (other : vmi.poolState? ≠ some .creating)
      (quiet : trace = [] ∧ after = survey.note ⟨vmi, none⟩) :
      ∃ inspection : Inspection, inspection.vmi = vmi ∧ inspection.Sound site ∧
        exchanges trace = inspection.exchange?.toList ∧ after = survey.note inspection := by
    obtain ⟨rfl, rfl⟩ := quiet
    exact ⟨⟨vmi, none⟩, rfl, Inspection.sound_of_not_creating other,
      by simp [Inspection.exchange?], rfl⟩
  unfold Survey.add at run
  split at run
  next creating =>
    obtain ⟨before, rest, outcome, rfl, promotes, next⟩ := runs_bind_iff.mp run
    obtain ⟨inspection, rfl, sound, asked, isOutcome⟩ := runs_promote creating promotes
    refine ⟨inspection, rfl, sound, ?_⟩
    cases outcome with
    | none =>
        obtain ⟨rfl, rfl⟩ := runs_pure_iff.mp next
        simp [asked, Survey.note, Inspection.state?, Inspection.spare?, Inspection.held?, isOutcome,
          creating]
    | some promoted =>
        obtain ⟨rfl, rfl⟩ := runs_pure_iff.mp next
        simp [asked, Survey.note, Inspection.state?, Inspection.spare?, Inspection.held?, isOutcome,
          creating]
  next available =>
    apply unasked (by simp [available])
    simpa [Survey.note, Inspection.state?, Inspection.spare?, Inspection.held?,
      Inspection.promoted?, available] using runs_pure_iff.mp run
  next claimed =>
    apply unasked (by simp [claimed])
    simpa [Survey.note, Inspection.state?, Inspection.spare?, Inspection.held?,
      Inspection.promoted?, claimed] using runs_pure_iff.mp run
  next unrecognized =>
    apply unasked (by simp [unrecognized])
    simpa [Survey.note, Inspection.state?, Inspection.spare?, Inspection.held?,
      Inspection.promoted?, unrecognized] using runs_pure_iff.mp run

/-- A tick looks at the machines of the pool one after the other, each on its own. -/
theorem runs_addAll {survey after : Survey} {members : List Vmi}
    (run : Runs (survey.addAll site members) trace after) :
    ∃ inspections : List Inspection, inspections.map Inspection.vmi = members ∧
      (∀ inspection ∈ inspections, inspection.Sound site) ∧
      exchanges trace = inspections.filterMap Inspection.exchange? ∧
      after = inspections.foldl Survey.note survey := by
  induction members generalizing survey trace with
  | nil =>
      obtain ⟨rfl, rfl⟩ := runs_pure_iff.mp run
      exact ⟨[], rfl, by simp, rfl, rfl⟩
  | cons first rest ih =>
      obtain ⟨before, later, middle, rfl, adds, next⟩ := runs_bind_iff.mp run
      obtain ⟨inspection, rfl, sound, asked, rfl⟩ := runs_add adds
      obtain ⟨inspections, rfl, allSound, allAsked, rfl⟩ := ih next
      refine ⟨inspection :: inspections, rfl, ?_, ?_, rfl⟩
      · intro other member
        rcases List.mem_cons.mp member with rfl | member
        · exact sound
        · exact allSound other member
      · rw [exchanges_append, asked, allAsked, List.filterMap_cons]
        cases inspection.exchange? <;> rfl

section Noted

variable (inspections : List Inspection) (survey : Survey)

theorem promoted_foldl_note : (inspections.foldl Survey.note survey).promoted =
    survey.promoted + inspections.countP fun inspection => inspection.promoted?.isSome := by
  induction inspections generalizing survey with
  | nil => rfl
  | cons inspection rest ih =>
      rw [List.foldl_cons, ih, List.countP_cons, Survey.note]
      cases inspection.promoted? with
      | none => rfl
      | some stored =>
          simp only [Option.toList_some, List.length_cons, List.length_nil, Option.isSome_some,
            if_true]
          omega

theorem available_foldl_note : (inspections.foldl Survey.note survey).available =
    survey.available ++ inspections.filterMap Inspection.spare? := by
  induction inspections generalizing survey with
  | nil => simp
  | cons inspection rest ih =>
      rw [List.foldl_cons, ih, List.filterMap_cons, Survey.note]
      cases inspection.spare? <;> simp

theorem claimed_foldl_note : (inspections.foldl Survey.note survey).claimed =
    survey.claimed ++ inspections.filterMap Inspection.held? := by
  induction inspections generalizing survey with
  | nil => simp
  | cons inspection rest ih =>
      rw [List.foldl_cons, ih, List.filterMap_cons, Survey.note]
      cases inspection.held? <;> simp

/-- A machine is counted as available exactly if it is spare. -/
theorem available_tally_note (inspection : Inspection) : (survey.note inspection).tally.available =
    survey.tally.available + inspection.spare?.toList.length := by
  rw [Survey.note, Inspection.state?, Inspection.spare?]
  cases inspection.promoted? with
  | some stored => rfl
  | none =>
      rcases inspection.vmi.poolState? with _ | state
      · rfl
      · cases state <;> rfl

theorem available_tally_foldl_note : (inspections.foldl Survey.note survey).tally.available =
    survey.tally.available + (inspections.filterMap Inspection.spare?).length := by
  induction inspections generalizing survey with
  | nil => rfl
  | cons inspection rest ih =>
      rw [List.foldl_cons, ih, available_tally_note, List.filterMap_cons, Nat.add_assoc]
      cases inspection.spare? with
      | none => simp
      | some vmi => simp [Nat.add_comm]

end Noted

/-- The machines that a pod holds are told by their labels alone. -/
theorem filterMap_held? (inspections : List Inspection) :
    inspections.filterMap Inspection.held? =
      (inspections.map Inspection.vmi).filter fun vmi => vmi.poolState? = some .claimed := by
  induction inspections with
  | nil => rfl
  | cons inspection rest ih =>
      rw [List.filterMap_cons, List.map_cons, List.filter_cons, ih, Inspection.held?]
      by_cases claimed : inspection.vmi.poolState? = some .claimed <;> simp [claimed]

namespace Inspection

variable {one other : Inspection}

/-- A machine that is ready has a key. -/
theorem exists_key_of_ready (ready : isReady site vmi = true) : ∃ held, vmi.key = .ok held := by
  cases keyed : vmi.key with
  | error fault => simp [isReady, keyed] at ready
  | ok held => exact ⟨held, rfl⟩

/-- A call is made at a machine exactly if it is ready. -/
theorem Sound.isSome_exchange? (sound : one.Sound site) :
    one.exchange?.isSome = isReady site one.vmi := by
  refine Eq.trans ?_ sound
  cases answered : one.answer with
  | none => simp [exchange?, answered]
  | some answer =>
      have ready : isReady site one.vmi = true := by simpa [answered] using sound.symm
      obtain ⟨held, keyed⟩ := exists_key_of_ready ready
      simp [exchange?, answered, keyed]

/-- What a tick finds at a machine is settled by the call and its answer. -/
theorem Sound.eq_of_exchange? (sound : one.Sound site) (otherSound : other.Sound site)
    (same : one.vmi = other.vmi) (asked : one.exchange? = other.exchange?) : one = other := by
  obtain ⟨vmi, answer⟩ := one
  obtain ⟨_, otherAnswer⟩ := other
  obtain rfl : vmi = _ := same
  have alike : answer.isSome = otherAnswer.isSome := sound.trans otherSound.symm
  cases answer with
  | none =>
      have unanswered : otherAnswer = none := by simpa using alike.symm
      rw [unanswered]
  | some answer =>
      obtain ⟨otherAnswer, rfl⟩ := Option.isSome_iff_exists.mp alike.symm
      have ready : isReady site vmi = true := sound.symm
      obtain ⟨held, keyed⟩ := exists_key_of_ready ready
      simpa [exchange?, keyed] using asked

/-- What a tick finds at the machines of the pool is settled by the calls and their
answers. -/
theorem eq_of_exchanges {inspections others : List Inspection}
    (sound : ∀ inspection ∈ inspections, inspection.Sound site)
    (otherSound : ∀ inspection ∈ others, inspection.Sound site)
    (members : inspections.map Inspection.vmi = others.map Inspection.vmi)
    (asked : inspections.filterMap exchange? = others.filterMap exchange?) :
    inspections = others := by
  induction inspections generalizing others with
  | nil => exact (List.map_eq_nil_iff.mp members.symm).symm
  | cons first rest ih =>
      cases others with
      | nil => simp at members
      | cons other others =>
          obtain ⟨same, alike⟩ := List.cons.inj members
          have firstSound := sound first List.mem_cons_self
          have otherFirstSound := otherSound other List.mem_cons_self
          have together : first.exchange?.isSome = other.exchange?.isSome := by
            rw [firstSound.isSome_exchange?, otherFirstSound.isSome_exchange?, same]
          have split : first.exchange? = other.exchange? ∧
              rest.filterMap exchange? = others.filterMap exchange? := by
            rw [List.filterMap_cons, List.filterMap_cons] at asked
            cases call : first.exchange? with
            | none =>
                rw [call, Option.isSome_none, Eq.comm, Option.isSome_eq_false_iff,
                  Option.isNone_iff_eq_none] at together
                rw [together]
                simpa only [call, together, true_and] using asked
            | some exchange =>
                obtain ⟨otherExchange, otherCall⟩ :=
                  Option.isSome_iff_exists.mp (together.symm.trans (by simp [call]))
                rw [otherCall, Option.some.injEq]
                simpa only [call, otherCall, List.cons.injEq] using asked
          rw [firstSound.eq_of_exchange? otherFirstSound same split.1,
            ih (fun inspection member => sound inspection (.tail _ member))
              (fun inspection member => otherSound inspection (.tail _ member)) alike split.2]

end Inspection

end Pool
end NodeGate
