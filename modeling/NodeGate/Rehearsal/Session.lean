import NodeGate.Dispatch
import NodeGate.Pool.Tick
import NodeGate.Queue.Desk
import NodeGate.Rehearsal.Recorder
import NodeGate.Release.Pass

/-!
# Sessions

The whole controller at work against the recorder: the caches are changed from
outside, pods are noticed, keys are worked on and the pool is tended. A run lets
a time go by in which workers take every key as soon as it is ready, the pool
ticks at every interval and retry timers fire. Passes and ticks take no time.
-/

namespace NodeGate.Rehearsal

/-- A controller with its queue, in front of the recorder. -/
structure Session (ω : Type) where
  site : Site := {}
  /-- The time between two ticks of the pool, in milliseconds; without such a
  time the pool is not tended. -/
  poolInterval : Nat := 30000
  desk : Desk ω := {}
  recorder : Recorder := {}

namespace Session

variable {ω α : Type}

/-- Changes the cache. -/
def withCache (change : Cache → Cache) (session : Session ω) : Session ω :=
  { session with site := { session.site with cache := change session.site.cache } }

/-- Changes the queue. -/
def withQueue (change : WorkQueue → WorkQueue) (session : Session ω) : Session ω :=
  { session with desk := { session.desk with queue := change session.desk.queue } }

/-- Changes the counters. -/
def withCounters (change : Counters → Counters) (session : Session ω) : Session ω :=
  { session with recorder :=
      { session.recorder with counters := change session.recorder.counters } }

/-- Runs a program against the recorder. -/
def perform (program : Program α) (session : Session ω) : α × Session ω :=
  let (value, recorder) := program.runWith Recorder.answering session.recorder
  (value, { session with recorder := recorder })

/-- What happened since the last look, which it clears. -/
def takeRecord (session : Session ω) : Record × Session ω :=
  (session.recorder.record,
    { session with recorder := { session.recorder with record := {} } })

/-- Reports the length of the queue. -/
def reportLength (session : Session ω) : Session ω :=
  session.withCounters (Counters.recordQueueLength session.desk.queue.length)

/-- Notices a pod that was added or changed. -/
def noticePod (pod : Pod) (session : Session ω) : Session ω :=
  let noticed := session.withQueue (WorkQueue.notice pod)
  if WorkQueue.noticesKey pod then noticed.reportLength else noticed

/-- Notices that a pod is gone. -/
def noticeGone (pod : Pod) (session : Session ω) : Session ω :=
  (session.perform (Release.podVanished session.site pod)).2

/-- Queues every cached pod that has work. -/
def noticeAll (session : Session ω) : Session ω :=
  (session.withQueue (WorkQueue.addPods session.site.cache.pending)).reportLength

/-- The pass for a key alone. -/
def pass (key : String) (session : Session ω) : Disposition × Session ω :=
  session.perform (Release.pass session.site key)

/-- The work on a key: its pass, and what becomes of it. -/
def work (key : String) (session : Session ω) : Disposition × Session ω :=
  let (disposition, session) := session.pass key
  let settled := session.withQueue (WorkQueue.settle key disposition)
  let counted := settled.withCounters fun counters => counters.recordPass disposition
  (disposition, counted.reportLength)

/-- Takes the next key and works on it. -/
def workNext? (session : Session ω) : Option (String × Disposition × Session ω) :=
  match session.desk.queue.take? with
  | none => none
  | some (key, queue) =>
    let (disposition, session) := (session.withQueue fun _ => queue).work key
    some (key, disposition, session)

/-- One tick of the pool. -/
def tick (session : Session ω) : Pool.Report × Session ω :=
  session.perform (Pool.tick session.site)

/-- A step at the desk. -/
def deskStep (step : DeskStep ω) (session : Session ω) :
    DeskReply × List (Handout ω) × Session ω :=
  let (reply, handouts, desk) := session.desk.step step
  (reply, handouts, { session with desk := desk })

/-- Serves those who wait. -/
def serve (session : Session ω) : List (Handout ω) × Session ω :=
  let (handouts, desk) := session.desk.serve
  (handouts, { session with desk := desk })

end Session

/-- A run in progress. -/
structure Run (ω : Type) where
  session : Session ω
  /-- Whether there are workers. -/
  staffed : Bool
  /-- When the run ends. -/
  stop : Nat
  /-- When the pool ticks next; from the end of the run on it does not. -/
  nextTick : Nat
  /-- How often the configuration changed at the start, each time once the keys
  of the time before were worked on. -/
  pulses : Nat
  handouts : List (Handout ω) := []

/-- What happens next in a run. -/
inductive RunEvent where
  /-- A worker takes the next key. -/
  | work
  /-- The pool ticks. -/
  | tick
  /-- The pods that have work are queued. -/
  | pulse
  /-- Time passes. -/
  | pass (instant : Nat)
deriving DecidableEq, Repr

namespace Run

variable {ω : Type}

/-- The next instant at which a timer fires or the pool ticks. -/
def nextInstant (run : Run ω) : Nat :=
  match run.session.desk.queue.timers with
  | [] => run.nextTick
  | timer :: _ => min timer.due run.nextTick

/-- What happens next, before the end of the run. -/
def nextEvent? (run : Run ω) : Option RunEvent :=
  let queue := run.session.desk.queue
  if queue.now ≥ run.stop then none
  else if run.staffed && queue.take?.isSome then some .work
  else if run.nextTick ≤ queue.now then some .tick
  else if 0 < run.pulses then some .pulse
  else if run.nextInstant < run.stop then some (.pass run.nextInstant)
  else none

/-- Serves those who wait for a key. -/
def serve (run : Run ω) : Run ω :=
  let (handouts, session) := run.session.serve
  { run with session := session, handouts := run.handouts ++ handouts }

/-- Lets one thing happen. -/
def step (run : Run ω) : RunEvent → Run ω
  | .work =>
    match run.session.workNext? with
    | none => run
    | some (_, _, session) => { run with session := session }
  | .tick =>
    { run with
      session := run.session.tick.2
      nextTick := run.nextTick + run.session.poolInterval }
  | .pulse => serve { run with session := run.session.noticeAll, pulses := run.pulses - 1 }
  | .pass instant =>
    serve { run with session := run.session.withQueue (WorkQueue.passUntil instant) }

/-- Lets at most a number of things happen. -/
def steps : Nat → Run ω → Run ω
  | 0, run => run
  | count + 1, run =>
    match run.nextEvent? with
    | none => run
    | some event => steps count (run.step event)

/-- Ends a run: the timers of its last instant fire, and the queue shuts down. -/
def finish (run : Run ω) : Run ω :=
  serve { run with
    session := (run.session.withQueue (WorkQueue.passUntil run.stop)).withQueue
      WorkQueue.shutDown }

end Run

/-- Lets a time go by, with at most `limit` things happening in it. -/
def Session.run (limit : Nat) (staffed : Bool) (pulses time : Nat) (session : Session ω) :
    List (Handout ω) × Session ω :=
  let now := session.desk.queue.now
  let start : Run ω := {
    session, staffed, pulses
    stop := now + time
    nextTick := if session.poolInterval = 0 then now + time else now }
  let finished := (Run.steps limit start).finish
  (finished.handouts, finished.session)

end NodeGate.Rehearsal
