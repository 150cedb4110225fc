import NodeGate.Machine.Manifest
import NodeGate.Release.Claiming

/-!
# The tick of the pool

Each tick derives the pool anew from the labels of the cached machines. It makes
machines that came up available, reports the counts, creates or deletes machines
to reach the configured size and gives back machines whose pod is gone. A failed
write is logged and counted; the rest of the tick goes on.
-/

namespace NodeGate.Pool

open Program

/-- What a tick did. -/
structure Report where
  tally : Tally := {}
  promoted : Nat := 0
  created : Nat := 0
  notCreated : Nat := 0
  deleted : Nat := 0
  reclaimed : Nat := 0
  published : Bool := false
deriving DecidableEq, Repr

/-- The pool as a tick found it: its counts, the machines that may be deleted and
those that a pod holds, each by name. -/
structure Survey where
  tally : Tally := {}
  promoted : Nat := 0
  available : List Vmi := []
  claimed : List Vmi := []
deriving DecidableEq

/-- Makes a machine available that runs and whose node is there, and gives it
back as stored. -/
def promote (site : Site) (vmi : Vmi) : Program (Option Vmi) :=
  match vmi.key with
  | .error _ => return none
  | .ok held =>
    if vmi.isRunning && (site.cache.node? held.name).isSome then do
      match ← call (.changeMachine held.space held.name
          (VmiPatch.promote vmi.metadata.resourceVersion)) with
      | .ok promoted => return some promoted
      | .error fault => do
        logFault ("Failed to promote pool VMI " ++ held.name) fault
        return none
    else return none

/-- Looks at one machine of the pool. -/
def Survey.add (site : Site) (survey : Survey) (vmi : Vmi) : Program Survey :=
  match vmi.poolState? with
  | some .creating => do
    match ← promote site vmi with
    | some promoted => return { survey with
        tally := survey.tally.count (some .available)
        promoted := survey.promoted + 1
        available := survey.available ++ [promoted] }
    | none => return { survey with tally := survey.tally.count (some .creating) }
  | some .available => return { survey with
      tally := survey.tally.count (some .available)
      available := survey.available ++ [vmi] }
  | some .claimed => return { survey with
      tally := survey.tally.count (some .claimed)
      claimed := survey.claimed ++ [vmi] }
  | none => return { survey with tally := survey.tally.count none }

/-- Looks at the machines of the pool in turn. -/
def Survey.addAll (site : Site) (survey : Survey) : List Vmi → Program Survey
  | [] => return survey
  | vmi :: rest => do
    let survey ← survey.add site vmi
    survey.addAll site rest

/-- Reports the counts in the status of the configuration if they differ from
those it has, and tells whether that took a write. -/
def reportStatus (config : GateConfig) (tally : Tally) : Program Bool := do
  let status := tally.status (← now)
  if status.hasOtherCounts (config.status.getD {}) then
    match config.metadata.name with
    | none => return false
    | some name =>
      match ← call (.reportCounts name ⟨status⟩) with
      | .ok () => return true
      | .error fault => do
        logFault "Failed to update pool status" fault
        return false
  else return false

/-- Creates a number of machines for the pool, and counts those created and
those that failed. A name that is taken counts as neither. -/
def enlarge (site : Site) : Nat → Program (Nat × Nat)
  | 0 => return (0, 0)
  | count + 1 => do
    let name := Manifest.poolName (← newPart)
    match ← call (.createMachine
        (Manifest.pool site.poolNamespace name site.defaults site.join)) with
    | .ok () => do
      emit (.created .pool)
      let (created, failed) ← enlarge site count
      return (created + 1, failed)
    | .error fault =>
      if fault.isConflict then enlarge site count
      else do
        logFault ("Failed to create pool VMI " ++ name) fault
        let (created, failed) ← enlarge site count
        return (created, failed + 1)

/-- Deletes machines, each only at its known version, so that one claimed
meanwhile survives; counts those deleted. -/
def shrink : List Vmi → Program Nat
  | [] => return 0
  | vmi :: rest =>
    match vmi.key with
    | .error _ => shrink rest
    | .ok held => do
      match ← call (.deleteMachine held.space held.name vmi.metadata.resourceVersion) with
      | .ok () => do
        let deleted ← shrink rest
        return deleted + 1
      | .error fault => do
        logFault ("Failed to trim pool VMI " ++ held.name) fault
        shrink rest

/-- Whether the pod that holds a claimed machine is gone from the cache; a
machine whose label names no pod has no such pod. -/
def isOrphan (site : Site) (vmi : Vmi) : Bool :=
  match vmi.claimant?.bind splitAtSlash? with
  | some (space, name) => (site.cache.pod? ⟨space, name⟩).isNone
  | none => false

/-- Gives machines back, and counts those given back. -/
def reclaim (site : Site) : List Vmi → Program Nat
  | [] => return 0
  | vmi :: rest => do
    match ← Release.giveBack site vmi with
    | .ok () => do
      let reclaimed ← reclaim site rest
      return reclaimed + 1
    | .error fault => do
      logFault "Failed to reclaim orphaned pool VMI" fault
      reclaim site rest

/-- The tick of a pool that should hold `desired` machines. -/
def tend (site : Site) (config : GateConfig) (desired : Nat) : Program Report := do
  let survey ← Survey.addAll site {} site.cache.pool
  emit (.pool survey.tally)
  let published ← reportStatus config survey.tally
  let (created, notCreated) ← enlarge site (desired - survey.tally.total)
  let deleted ←
    shrink (survey.available.reverse.take (survey.tally.available - desired))
  let reclaimed ← reclaim site (survey.claimed.filter (isOrphan site))
  return {
    tally := survey.tally
    promoted := survey.promoted
    created, notCreated, deleted, reclaimed, published }

/-- One tick. Without a configuration, or with a configured size of zero, the
machines are only counted. -/
def tick (site : Site) : Program Report :=
  let idle : Program Report := do
    let tally := Tally.ofMembers site.cache.pool
    emit (.pool tally)
    return { tally }
  match site.cache.activeConfig? with
  | none => idle
  | some config =>
    if config.spec.poolSize = 0 then idle else tend site config config.spec.poolSize

end NodeGate.Pool
