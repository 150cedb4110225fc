import NodeGate.Proofs.Release.Calls

/-!
# When a pass acquires a machine

A pass claims a machine of the pool or creates one only for a pod that has none in the
cache and, as the API server tells, none of its own. Having acquired a machine it acquires
no other, and it goes on to the next way of getting one only after a failure.
-/

namespace NodeGate

/-- Whether a call may give a machine to a pod. -/
def Call.acquires : Call → Bool
  | .createMachine .. | .changeMachine .. => true
  | _ => false

namespace Release

open Program

/-- No call that happened gave the pod a machine. -/
def NoneAcquired (past : List Happening) : Prop :=
  ∀ asked answer, .answered asked answer ∈ past → asked.acquires = true →
    ∃ fault, answer = .error fault

/-- The API server told of no machine of the pod's own. -/
def ToldOfNone (key : ObjectKey) (past : List Happening) : Prop :=
  ∃ found, .answered (.readMachine key.space key.name) (.ok found) ∈ past ∧
    ∀ vmi, found = some vmi → vmi.isPooled = true

/-- For all that a pass knows the pod has no machine. -/
structure Unserved (site : Site) (key : ObjectKey) (past : List Happening) : Prop where
  uncached : site.cache.machineOf? key = none
  told : ToldOfNone key past
  unacquired : NoneAcquired past

/-- A machine is acquired only for a pod that is not known to have one. -/
def Acquisition (site : Site) (key : ObjectKey) (past : List Happening) (asked : Call) : Prop :=
  asked.acquires = true → Unserved site key past

variable {site : Site} {key : ObjectKey} {pod : Pod} {vmi : Vmi} {past : List Happening}
  {text : String}

theorem noneAcquired_append {asked : Call} {answer : Except Fault asked.Answer} :
    NoneAcquired (past ++ [.answered asked answer]) ↔
      NoneAcquired past ∧ (asked.acquires = true → ∃ fault, answer = .error fault) := by
  constructor
  · intro unacquired
    exact ⟨fun other reply member => unacquired other reply (List.mem_append_left _ member),
      unacquired asked answer (by simp)⟩
  · rintro ⟨unacquired, fails⟩ other reply member acquires
    rcases List.mem_append.mp member with member | member
    · exact unacquired other reply member acquires
    · obtain ⟨rfl, same⟩ := Happening.answered.inj (List.mem_singleton.mp member)
      cases same
      exact fails acquires

/-- A signal gives no machine to a pod. -/
theorem Unserved.append_told {told : Signal} (unserved : Unserved site key past) :
    Unserved site key (past ++ [.told told]) := by
  obtain ⟨found, read, pooled⟩ := unserved.told
  refine ⟨unserved.uncached, ⟨found, List.mem_append_left _ read, pooled⟩, ?_⟩
  intro asked answer member
  rcases List.mem_append.mp member with member | member
  · exact unserved.unacquired asked answer member
  · simp at member

/-- A program that acquires nothing keeps the rule. -/
theorem acquisition_of_asks {α : Type} {program : Program α}
    (asks : Asks program (fun asked => asked.acquires = false) past) :
    program.Secures (Acquisition site key) (fun _ _ => True) past :=
  asks.relax fun _ _ gives acquires => by simp [gives] at acquires

theorem openGate_gives_nothing :
    Asks (openGate site key pod vmi) (fun asked => asked.acquires = false) past :=
  openGate_asks.relax fun _ _ opening => by
    cases opening
    rfl

theorem pinToMachine_gives_nothing :
    Asks (pinToMachine site key pod vmi) (fun asked => asked.acquires = false) past :=
  pinToMachine_obeys (fun _ => rfl) (fun _ => rfl)

theorem createDedicated_acquires (unserved : Unserved site key past) :
    (createDedicated site key pod).Secures (Acquisition site key) (fun _ _ => True) past := by
  unfold createDedicated
  split
  · trivial
  · apply secures_call_bind.mpr
    constructor
    · exact fun _ => unserved
    · rintro (fault | _)
      · dsimp only
        split <;> trivial
      · trivial

/-- A claim that fails gives the pod no machine. -/
theorem claim_acquires (unserved : Unserved site key past) :
    (claim vmi key).Secures (Acquisition site key)
      (fun later outcome => ∀ fault, outcome = .error fault → Unserved site key later) past := by
  unfold claim
  split
  · exact fun _ _ => unserved
  · apply secures_call_bind.mpr
    constructor
    · exact fun _ => unserved
    · rintro (fault | machine)
      · intro _ _
        obtain ⟨found, read, pooled⟩ := unserved.told
        exact ⟨unserved.uncached, ⟨found, List.mem_append_left _ read, pooled⟩,
          noneAcquired_append.mpr ⟨unserved.unacquired, fun _ => ⟨fault, rfl⟩⟩⟩
      · exact nofun

theorem obtainMachine_acquires (uncached : site.cache.machineOf? key = none) :
    (obtainMachine site key pod).Secures (Acquisition site key) (fun _ _ => True) [] := by
  apply secures_call_bind.mpr
  constructor
  · exact fun acquires => by simp [Call.acquires] at acquires
  · rintro (fault | found)
    · trivial
    · dsimp only
      split
      · exact acquisition_of_asks openGate_gives_nothing
      next unkept =>
        have unserved : Unserved site key
            ([] ++ [.answered (.readMachine key.space key.name) (.ok found)]) := by
          refine ⟨uncached, ⟨found, by simp, ?_⟩, ?_⟩
          · rintro vmi rfl
            simpa using unkept
          · exact noneAcquired_append.mpr ⟨by simp [NoneAcquired], by simp [Call.acquires]⟩
        split
        · exact createDedicated_acquires unserved
        · apply (claim_acquires unserved).andThen
          rintro later (fault | _) - failed
          · dsimp only
            split
            · trivial
            · exact createDedicated_acquires (failed fault rfl).append_told
          · apply (acquisition_of_asks pinToMachine_gives_nothing).andThen
            rintro last (fault | _) - - <;> trivial

theorem serve_acquires :
    (serve site key pod).Secures (Acquisition site key) (fun _ _ => True) [] := by
  unfold serve
  cases found : site.cache.machineOf? key with
  | none => exact obtainMachine_acquires found
  | some vmi =>
      dsimp only
      split
      · apply (acquisition_of_asks pinToMachine_gives_nothing).andThen
        rintro later (fault | _ | _) - -
        · trivial
        · exact acquisition_of_asks openGate_gives_nothing
        · trivial
      · exact acquisition_of_asks openGate_gives_nothing

/-- A pass over a pod that is not deleting acquires a machine only for want of one. -/
theorem pass_acquires (named : ObjectKey.ofText text = .ok key)
    (staying : ∀ pod, site.cache.pod? key = some pod → pod.isDeleting = false) :
    (pass site text).Secures (Acquisition site key) (fun _ _ => True) [] := by
  refine pass_obeys fun parsed pod isParsed cached => ?_
  obtain rfl := Except.ok.inj (named.symm.trans isParsed)
  apply attend_obeys
  · intro deleting
    simp [staying pod cached] at deleting
  · exact fun _ _ => serve_acquires

end Release

end NodeGate
