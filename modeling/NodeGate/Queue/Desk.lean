import NodeGate.Queue.WorkQueue

/-!
# The desk

A work queue with the workers that wait for a key. Whoever waits longest is
served first. When time passes, the timers of one instant fire together before
anyone is served; after shutdown everyone who waits leaves with nothing.
-/

namespace NodeGate

/-- A work queue and the workers that wait at it, first come first. -/
structure Desk (ω : Type) where
  queue : WorkQueue := {}
  waiting : List ω := []
deriving Repr

/-- What a waiting worker left with: a key, or nothing. -/
structure Handout (ω : Type) where
  worker : ω
  key : Option String
deriving Repr

/-- What is done at a desk. -/
inductive DeskStep (ω : Type) where
  | add (key : String)
  | addLater (key : String) (delay : Nat)
  | retry (key : String)
  | forget (key : String)
  | finish (key : String)
  | length
  | requeues (key : String)
  /-- Takes a key if there is one. -/
  | take
  /-- Waits a time for a key. -/
  | takeWithin (time : Nat)
  /-- A worker starts to wait. -/
  | wait (worker : ω)
  | drain
  /-- Lets time pass. -/
  | pass (time : Nat)
  | shutDown
deriving Repr

/-- What a step at a desk gives. -/
inductive DeskReply where
  | quiet
  /-- The number of keys to hand out. -/
  | length (length : Nat)
  /-- The number of keys to hand out and the failures in a row of the key. -/
  | retried (length requeues : Nat)
  | requeues (requeues : Nat)
  | taken (key : String)
  /-- A key, and the time it took to come. -/
  | takenAfter (key : String) (elapsed : Nat)
  /-- No key is there. -/
  | empty
  /-- No key came in time. -/
  | tooLate
  /-- Nothing is handed out any more. -/
  | closed
  | drained (keys : List String)
  | shutDown (length : Nat)
deriving Repr

namespace Desk

variable {ω : Type}

/-- Serves those who wait with what there is to take. -/
def serve (desk : Desk ω) : List (Handout ω) × Desk ω :=
  go desk.waiting desk.queue
where
  /-- Serves the given workers from the given queue. -/
  go : List ω → WorkQueue → List (Handout ω) × Desk ω
    | [], queue => ([], ⟨queue, []⟩)
    | worker :: rest, queue =>
      if queue.shuttingDown then
        let (handouts, desk) := go rest queue
        (⟨worker, none⟩ :: handouts, desk)
      else
        match queue.take? with
        | none => ([], ⟨queue, worker :: rest⟩)
        | some (key, queue) =>
          let (handouts, desk) := go rest queue
          (⟨worker, some key⟩ :: handouts, desk)

/-- Lets time pass up to the first timer that falls due by the given time. -/
def nextInstant? (limit : Nat) (desk : Desk ω) : Option (List (Handout ω) × Desk ω) :=
  match desk.queue.timers with
  | [] => none
  | timer :: _ =>
    if timer.due ≤ limit then
      some (serve { desk with queue := desk.queue.passUntil timer.due })
    else none

/-- Lets time pass up to the given time. -/
def passUntil (limit : Nat) (desk : Desk ω) : List (Handout ω) × Desk ω :=
  go desk.queue.timers.length desk
where
  /-- Lets at most a number of timers fire. -/
  go : Nat → Desk ω → List (Handout ω) × Desk ω
    | 0, desk => ([], { desk with queue := desk.queue.passUntil limit })
    | count + 1, desk =>
      match desk.nextInstant? limit with
      | none => ([], { desk with queue := desk.queue.passUntil limit })
      | some (first, desk) =>
        let (handouts, desk) := go count desk
        (first ++ handouts, desk)

/-- Lets time pass until a key is left after those who wait were served, but only
through the instants before the given time. -/
def passUntilKey (limit : Nat) (desk : Desk ω) : List (Handout ω) × Desk ω :=
  go desk.queue.timers.length desk
where
  /-- Lets at most a number of timers fire. -/
  go : Nat → Desk ω → List (Handout ω) × Desk ω
    | 0, desk => ([], desk)
    | count + 1, desk =>
      if desk.queue.ready ≠ [] then ([], desk)
      else
        match desk.nextInstant? (limit - 1) with
        | none => ([], desk)
        | some (first, desk) =>
          let (handouts, desk) := go count desk
          (first ++ handouts, desk)

/-- Waits a time for a key. A key that falls due only as the time is up comes
too late. -/
def takeWithin (time : Nat) (desk : Desk ω) : DeskReply × List (Handout ω) × Desk ω :=
  let start := desk.queue.now
  if desk.queue.shuttingDown then (.closed, [], desk)
  else
    let (handouts, desk) := desk.passUntilKey (start + time)
    match desk.queue.take? with
    | some (key, queue) =>
      (.takenAfter key (queue.now - start), handouts, { desk with queue := queue })
    | none =>
      let (later, desk) := desk.passUntil (start + time)
      (.tooLate, handouts ++ later, desk)

/-- Does one step without serving those who wait, unless time passes in it. -/
def perform (desk : Desk ω) : DeskStep ω → DeskReply × List (Handout ω) × Desk ω
  | .add key => changed (desk.queue.add key)
  | .addLater key delay => changed (desk.queue.addLater key delay)
  | .retry key =>
    let queue := desk.queue.retry key
    (.retried queue.length (queue.requeues key), [], { desk with queue := queue })
  | .forget key => changed (desk.queue.forget key)
  | .finish key => changed (desk.queue.finish key)
  | .length => changed desk.queue
  | .requeues key => (.requeues (desk.queue.requeues key), [], desk)
  | .take =>
    if desk.queue.shuttingDown then (.closed, [], desk)
    else
      match desk.queue.take? with
      | none => (.empty, [], desk)
      | some (key, queue) => (.taken key, [], { desk with queue := queue })
  | .takeWithin time => desk.takeWithin time
  | .wait worker => (.quiet, [], { desk with waiting := desk.waiting ++ [worker] })
  | .drain =>
    let (keys, queue) := desk.queue.drain
    (.drained (keys.mergeSort fun one other => decide (one ≤ other)), [],
      { desk with queue := queue })
  | .pass time =>
    let (handouts, desk) := desk.passUntil (desk.queue.now + time)
    (.length desk.queue.length, handouts, desk)
  | .shutDown =>
    let queue := desk.queue.shutDown
    (.shutDown queue.length, [], { desk with queue := queue })
where
  /-- The reply that tells the number of keys of a changed queue. -/
  changed (queue : WorkQueue) : DeskReply × List (Handout ω) × Desk ω :=
    (.length queue.length, [], { desk with queue := queue })

/-- Does one step and then serves those who wait. -/
def step (desk : Desk ω) (step : DeskStep ω) : DeskReply × List (Handout ω) × Desk ω :=
  let (reply, handouts, desk) := desk.perform step
  let (later, desk) := desk.serve
  (reply, handouts ++ later, desk)

end Desk

end NodeGate
