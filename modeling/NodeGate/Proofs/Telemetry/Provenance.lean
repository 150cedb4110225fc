import NodeGate.Proofs.Pool.Duty
import NodeGate.Proofs.Telemetry.Bookkeeping

/-!
# What a duty makes and makes available

A pass makes machines that are named after its pod and do not belong to the pool, a tick makes
machines of the pool with generated names, and nothing else makes any. Whatever makes a machine
available either gives back one that is cached as claimed or promotes one that is cached as
being created.
-/

namespace NodeGate

open Program

namespace Duty

/-- A machine is one that the duty makes. -/
inductive Makes : Duty → Vmi → Prop where
  /-- The machine is named after the pod of the pass. -/
  | forPod {text : String} {key : ObjectKey} {vmi : Vmi} (named : ObjectKey.ofText text = .ok key)
      (keyed : vmi.key = .ok key) (unpooled : vmi.isPooled = false) : Makes (.pass text) vmi
  /-- The name of the machine is generated. -/
  | forPool {part : String} {vmi : Vmi}
      (generated : vmi.metadata.name = some (Manifest.poolName part))
      (pooled : vmi.isPooled = true) : Makes .tick vmi

/-- A change of labels is that of a cached machine which goes back to the pool or comes to be
available in it for the first time. -/
inductive Refills (site : Site) (held : ObjectKey) (patch : VmiPatch) : Prop where
  | giveBack {vmi : Vmi} (cached : vmi ∈ site.cache.vmis) (keyed : vmi.key = .ok held)
      (claimed : vmi.poolState? = some .claimed)
      (gives : patch = .giveBack vmi.metadata.resourceVersion)
  | promote {vmi : Vmi} (cached : vmi ∈ site.cache.vmis) (keyed : vmi.key = .ok held)
      (creating : vmi.poolState? = some .creating)
      (promotes : patch = .promote vmi.metadata.resourceVersion)

/-- A machine that a call makes is one that the duty makes. -/
def MakesBy (duty : Duty) : Call → Prop
  | .createMachine vmi => duty.Makes vmi
  | _ => True

/-- A call makes machines available only as they go back or are available for the first time. -/
def RefillsBy (site : Site) : Call → Prop
  | .changeMachine space name patch =>
    (poolStateLabel, some PoolState.available.label) ∈ patch.labels →
      Refills site ⟨space, name⟩ patch
  | _ => True

end Duty

variable {site : Site} {duty : Duty} {past : List Happening} {asked : Call}

namespace Release

theorem pass_makes {text : String} :
    Asks (pass site text) (Duty.pass text).MakesBy past := by
  apply pass_asks.relax
  rintro before asked ⟨key, pod, named, -, provision | parting | opening⟩
  · cases provision with
    | create sized => exact .forPod named rfl Manifest.isPooled_dedicated
    | _ => trivial
  · cases parting <;> trivial
  · cases opening
    trivial

theorem podVanished_makes {pod : Pod} :
    Asks (podVanished site pod) (Duty.farewell pod).MakesBy past := by
  apply podVanished_asks.relax
  rintro before asked ⟨key, parting⟩
  cases parting <;> trivial

end Release

namespace Pool

open Release

theorem addAll_makes {survey : Survey} {members : List Vmi} :
    Asks (survey.addAll site members) Duty.tick.MakesBy past := by
  have promotes {vmi : Vmi} {past : List Happening} :
      Asks (promote site vmi) Duty.tick.MakesBy past := by
    unfold promote
    split
    · trivial
    · split
      · refine secures_call_bind.mpr ⟨trivial, ?_⟩
        rintro (fault | promoted) <;> trivial
      · trivial
  induction members generalizing survey past with
  | nil => trivial
  | cons first rest ih =>
      have adds : Asks (survey.add site first) Duty.tick.MakesBy past := by
        unfold Survey.add
        split
        · apply promotes.andThen
          rintro later (_ | promoted) - - <;> trivial
        all_goals trivial
      exact adds.andThen fun _ _ _ _ => ih

theorem enlarge_makes {count : Nat} : Asks (enlarge site count) Duty.tick.MakesBy past := by
  induction count generalizing past with
  | zero => trivial
  | succ count ih =>
      refine secures_bind.mpr (secures_newPart.mpr fun part => secures_call_bind.mpr ⟨?_, ?_⟩)
      · exact .forPool rfl Manifest.isPooled_pool
      · rintro (fault | _)
        · dsimp only
          split
          · exact ih
          · refine secures_bind.mpr (ih.andThen ?_)
            rintro later counts - -
            trivial
        · refine secures_bind.mpr (ih.andThen ?_)
          rintro later counts - -
          trivial

theorem shrink_makes {excess : List Vmi} : Asks (shrink excess) Duty.tick.MakesBy past := by
  induction excess generalizing past with
  | nil => trivial
  | cons first rest ih =>
      unfold shrink
      split
      · exact ih
      · refine secures_call_bind.mpr ⟨trivial, ?_⟩
        rintro (fault | _)
        · exact secures_bind.mpr ih
        · apply ih.andThen
          rintro later deleted - -
          trivial

/-- The machines that a tick makes have generated names. -/
theorem tick_makes : Asks (tick site) Duty.tick.MakesBy past := by
  unfold tick
  dsimp only
  split
  · trivial
  · split
    · trivial
    · apply addAll_makes.andThen
      rintro surveyedAt survey - -
      rw [secures_bind, secures_emit]
      apply (Duty.reportStatus_asks fun _ _ => trivial).andThen
      rintro reportedAt published - -
      apply enlarge_makes.andThen
      rintro enlargedAt counts - -
      apply shrink_makes.andThen
      rintro shrunkAt deleted - -
      apply (Duty.reclaim_asks (fun _ _ => trivial) fun _ _ _ _ => trivial).andThen
      rintro reclaimedAt reclaimed - -
      trivial

end Pool

namespace Duty

theorem program_makes : Release.Asks (duty.program site) duty.MakesBy past := by
  cases duty with
  | pass text => exact secures_map.mpr Release.pass_makes
  | farewell pod => exact Release.podVanished_makes
  | tick => exact secures_map.mpr Pool.tick_makes

/-- A change that a duty may ask for makes a machine available only by giving it back or by
promoting it. -/
theorem MayAsk.refillsBy (may : MayAsk site past duty asked) : RefillsBy site asked := by
  cases may with
  | claim named cached free keyed =>
      intro available
      have other : poolStateLabel ≠ claimantLabel := by decide
      have state : PoolState.available.label ≠ PoolState.claimed.label := by decide
      simp [VmiPatch.claim, other, state] at available
  | giveBack cached claimed keyed => exact fun _ => .giveBack cached keyed claimed rfl
  | promote cached creating keyed => exact fun _ => .promote cached keyed creating rfl
  | _ => trivial

/-- Whatever a duty is answered, it accounts for all that it makes and makes available. -/
theorem program_accounts :
    Release.Asks (duty.program site) (fun asked => duty.MakesBy asked ∧ RefillsBy site asked)
      past := by
  have heeds : Heeds site duty (duty.program site) past := heeds_program duty
  apply ((heeds.both program_makes).weaken fun _ _ _ => trivial).relax
  rintro before asked ⟨may, makes⟩
  exact ⟨makes, may.refillsBy⟩

end Duty

end NodeGate
