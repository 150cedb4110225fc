import NodeGate.Queue.RetryHistory

/-!
# The work queue

A queue of keys shared by workers. A key that waits is kept once, however often
it is added. A key in the hands of a worker is not handed out again; adding it
meanwhile parks it until that worker is done. After shutdown nothing is handed
out and additions are dropped.

Time is part of the queue: a delayed addition sets a timer, and letting time
pass fires the timers that fall due, in the order of their times. Times are in
milliseconds.
-/

namespace NodeGate

/-- A delayed addition. -/
structure Timer where
  due : Nat
  key : String
deriving DecidableEq, Repr

/-- The keys that wait, those that are to be worked on, and those in hand. -/
structure WorkQueue where
  /-- The keys to hand out, first in first out. -/
  ready : List String := []
  /-- The keys added since they were last handed out. -/
  dirty : List String := []
  /-- The keys in the hands of workers. -/
  inFlight : List String := []
  shuttingDown : Bool := false
  history : RetryHistory := {}
  /-- The present time. -/
  now : Nat := 0
  /-- The delayed additions by time, and by the order in which they were made. -/
  timers : List Timer := []
deriving DecidableEq, Repr

namespace WorkQueue

/-- Adds a member to a list of distinct members. -/
def withKey (key : String) (keys : List String) : List String :=
  if key ∈ keys then keys else key :: keys

/-- Drops a member. -/
def withoutKey (key : String) (keys : List String) : List String :=
  keys.filter (· ≠ key)

@[simp]
theorem mem_withKey {key other : String} {keys : List String} :
    other ∈ withKey key keys ↔ other = key ∨ other ∈ keys := by
  unfold withKey
  split <;> simp_all

@[simp]
theorem mem_withoutKey {key other : String} {keys : List String} :
    other ∈ withoutKey key keys ↔ other ∈ keys ∧ other ≠ key := by
  simp [withoutKey]

/-- Queues a key unless it waits already; a key in hand is parked. -/
def add (key : String) (queue : WorkQueue) : WorkQueue :=
  if queue.shuttingDown ∨ key ∈ queue.dirty then queue
  else if key ∈ queue.inFlight then { queue with dirty := key :: queue.dirty }
  else { queue with dirty := key :: queue.dirty, ready := queue.ready ++ [key] }

/-- Sets a timer behind those that fall due no later. -/
def setTimer (timer : Timer) : List Timer → List Timer
  | [] => [timer]
  | first :: rest =>
    if first.due ≤ timer.due then first :: setTimer timer rest else timer :: first :: rest

/-- A timer is set among the others without a change to them. -/
theorem setTimer_perm (timer : Timer) (timers : List Timer) :
    (setTimer timer timers).Perm (timer :: timers) := by
  induction timers with
  | nil => exact .refl _
  | cons first rest ih =>
      simp only [setTimer]
      split
      · exact (ih.cons first).trans (.swap timer first rest)
      · exact .refl _

/-- Queues a key once the delay is over; without a delay, at once. -/
def addLater (key : String) (delay : Nat) (queue : WorkQueue) : WorkQueue :=
  if delay = 0 then queue.add key
  else if queue.shuttingDown then queue
  else { queue with timers := setTimer ⟨queue.now + delay, key⟩ queue.timers }

/-- Queues a key after its retry delay, which counts as a failure. -/
def retry (key : String) (queue : WorkQueue) : WorkQueue :=
  let (delay, history) := queue.history.next key
  addLater key delay { queue with history := history }

/-- Clears the failures of a key. -/
def forget (key : String) (queue : WorkQueue) : WorkQueue :=
  { queue with history := queue.history.forget key }

/-- The failures in a row of a key. -/
def requeues (key : String) (queue : WorkQueue) : Nat :=
  queue.history.failuresOf key

/-- Hands out the first key, unless none waits or the queue is shut down. -/
def take? (queue : WorkQueue) : Option (String × WorkQueue) :=
  if queue.shuttingDown then none
  else
    match queue.ready with
    | [] => none
    | key :: rest =>
      some (key, { queue with
        ready := rest
        dirty := withoutKey key queue.dirty
        inFlight := withKey key queue.inFlight })

/-- After shutdown nothing is handed out. -/
theorem take?_eq_none_of_shuttingDown {queue : WorkQueue} (closed : queue.shuttingDown = true) :
    queue.take? = none := by
  simp [take?, closed]

/-- What is handed out is the first key that is ready. -/
theorem ready_of_take? {queue after : WorkQueue} {key : String}
    (taken : queue.take? = some (key, after)) : queue.ready = key :: after.ready := by
  unfold take? at taken
  split at taken
  · contradiction
  · split at taken
    · contradiction
    · rename_i ready
      simp only [Option.some.injEq, Prod.mk.injEq] at taken
      obtain ⟨rfl, rfl⟩ := taken
      exact ready

/-- Ends the work on a key; a key parked meanwhile is queued again. -/
def finish (key : String) (queue : WorkQueue) : WorkQueue :=
  let queue := { queue with inFlight := withoutKey key queue.inFlight }
  if key ∈ queue.dirty ∧ queue.shuttingDown = false then
    { queue with ready := queue.ready ++ [key] }
  else queue

/-- Ends handing out and adding. -/
def shutDown (queue : WorkQueue) : WorkQueue :=
  { queue with shuttingDown := true }

/-- The number of keys to hand out. -/
def length (queue : WorkQueue) : Nat :=
  queue.ready.length

/-- Hands out and ends every key that waits, and lists them in order. -/
def drain (queue : WorkQueue) : List String × WorkQueue :=
  go queue.length queue
where
  /-- Hands out and ends at most a number of keys. -/
  go : Nat → WorkQueue → List String × WorkQueue
    | 0, queue => ([], queue)
    | count + 1, queue =>
      match queue.take? with
      | none => ([], queue)
      | some (key, queue) =>
        let (keys, queue) := go count (queue.finish key)
        (key :: keys, queue)

/-- Fires the first timer if it falls due by the given time; the clock moves to
its time. -/
def fireNext? (limit : Nat) (queue : WorkQueue) : Option WorkQueue :=
  match queue.timers with
  | [] => none
  | timer :: rest =>
    if timer.due ≤ limit then
      some (add timer.key { queue with timers := rest, now := max queue.now timer.due })
    else none

/-- Lets time pass up to the given time and fires the timers that fall due. -/
def passUntil (limit : Nat) (queue : WorkQueue) : WorkQueue :=
  go queue.timers.length queue
where
  /-- Fires at most a number of timers. -/
  go : Nat → WorkQueue → WorkQueue
    | 0, queue => { queue with now := max queue.now limit }
    | count + 1, queue =>
      match queue.fireNext? limit with
      | some queue => go count queue
      | none => { queue with now := max queue.now limit }

end WorkQueue

end NodeGate
