import Mathlib.Data.List.Nodup
import NodeGate.Queue.WorkQueue

/-!
# The order of the work queue

A key that is ready is to be worked on and in no one's hands, and until shutdown a
key that is to be worked on is either ready or parked until the worker who holds it
is done. Every operation of the queue keeps this order, as long as work is ended only
by who holds the key.
-/

namespace NodeGate

namespace WorkQueue

/-- How the keys that are ready, those to be worked on and those in hand belong
together. The held keys are those that workers took and have not ended. -/
structure Orderly (queue : WorkQueue) (held : List String) : Prop where
  ready_nodup : queue.ready.Nodup
  dirty_of_ready : ∀ key ∈ queue.ready, key ∈ queue.dirty
  resting_of_ready : ∀ key ∈ queue.ready, key ∉ queue.inFlight
  ready_or_inFlight : queue.shuttingDown = false →
    ∀ key ∈ queue.dirty, key ∈ queue.ready ∨ key ∈ queue.inFlight
  held_nodup : held.Nodup
  mem_inFlight_iff : ∀ key, key ∈ queue.inFlight ↔ key ∈ held

variable {queue after : WorkQueue} {held : List String} {key : String}

/-- What is handed out is in hand and no longer to be worked on. -/
theorem fields_of_take? (taken : queue.take? = some (key, after)) :
    after.dirty = withoutKey key queue.dirty ∧ after.inFlight = withKey key queue.inFlight ∧
      after.shuttingDown = queue.shuttingDown := by
  unfold take? at taken
  split at taken
  · contradiction
  · split at taken
    · contradiction
    · simp only [Option.some.injEq, Prod.mk.injEq] at taken
      obtain ⟨rfl, rfl⟩ := taken
      exact ⟨rfl, rfl, rfl⟩

/-- A queue that nothing was done with yet. -/
theorem orderly_fresh {history : RetryHistory} : Orderly { history } [] := by
  constructor <;> simp

namespace Orderly

/-- Timers, failures and the clock have no part in the order. -/
theorem retimed (orderly : queue.Orderly held) (history : RetryHistory) (now : Nat)
    (timers : List Timer) : Orderly { queue with history, now, timers } held :=
  { orderly with }

theorem add (orderly : queue.Orderly held) : (queue.add key).Orderly held := by
  unfold WorkQueue.add
  split
  · exact orderly
  next fresh =>
    rw [not_or] at fresh
    have unready : key ∉ queue.ready := fun ready => fresh.2 (orderly.dirty_of_ready key ready)
    split
    next inHand =>
      refine { orderly with dirty_of_ready := ?_, ready_or_inFlight := ?_ }
      · intro other ready
        exact List.mem_cons_of_mem _ (orderly.dirty_of_ready other ready)
      · intro opened other dirty
        rcases List.mem_cons.mp dirty with rfl | dirty
        · exact .inr inHand
        · exact orderly.ready_or_inFlight opened other dirty
    next resting =>
      refine { orderly with
        ready_nodup := ?_, dirty_of_ready := ?_, resting_of_ready := ?_, ready_or_inFlight := ?_ }
      · apply orderly.ready_nodup.append (List.nodup_singleton key)
        exact List.disjoint_singleton.mpr unready
      · intro other ready
        rcases List.mem_append.mp ready with ready | ready
        · exact List.mem_cons_of_mem _ (orderly.dirty_of_ready other ready)
        · simp [List.mem_singleton.mp ready]
      · intro other ready
        rcases List.mem_append.mp ready with ready | ready
        · exact orderly.resting_of_ready other ready
        · rw [List.mem_singleton.mp ready]
          exact resting
      · intro opened other dirty
        rcases List.mem_cons.mp dirty with rfl | dirty
        · exact .inl (by simp)
        · rcases orderly.ready_or_inFlight opened other dirty with ready | inHand
          · exact .inl (List.mem_append_left _ ready)
          · exact .inr inHand

theorem addLater {delay : Nat} (orderly : queue.Orderly held) :
    (queue.addLater key delay).Orderly held := by
  unfold WorkQueue.addLater
  split
  · exact orderly.add
  · split
    · exact orderly
    · exact orderly.retimed _ _ _

theorem retry (orderly : queue.Orderly held) : (queue.retry key).Orderly held :=
  (orderly.retimed _ _ _).addLater

theorem forget (orderly : queue.Orderly held) : (queue.forget key).Orderly held :=
  orderly.retimed _ _ _

/-- The key that is handed out was in no one's hands. -/
theorem take (orderly : queue.Orderly held) (taken : queue.take? = some (key, after)) :
    after.Orderly (key :: held) := by
  have first : queue.ready = key :: after.ready := ready_of_take? taken
  have nodup := orderly.ready_nodup
  rw [first, List.nodup_cons] at nodup
  have ready : key ∈ queue.ready := by simp [first]
  have later (other : String) (member : other ∈ after.ready) : other ∈ queue.ready := by
    simp [first, member]
  have distinct (other : String) (member : other ∈ after.ready) : other ≠ key := by
    rintro rfl
    exact nodup.1 member
  obtain ⟨dirty, inFlight, shuttingDown⟩ := fields_of_take? taken
  constructor
  · exact nodup.2
  · intro other member
    rw [dirty, mem_withoutKey]
    exact ⟨orderly.dirty_of_ready other (later other member), distinct other member⟩
  · intro other member
    rw [inFlight, mem_withKey, not_or]
    exact ⟨distinct other member, orderly.resting_of_ready other (later other member)⟩
  · intro opened other member
    rw [dirty, mem_withoutKey] at member
    rw [shuttingDown] at opened
    rcases orderly.ready_or_inFlight opened other member.1 with waits | inHand
    · rw [first, List.mem_cons] at waits
      exact .inl (waits.resolve_left member.2)
    · exact .inr (by rw [inFlight, mem_withKey]; exact .inr inHand)
  · rw [List.nodup_cons]
    refine ⟨?_, orderly.held_nodup⟩
    rw [← orderly.mem_inFlight_iff]
    exact orderly.resting_of_ready key ready
  · intro other
    rw [inFlight, mem_withKey, List.mem_cons, orderly.mem_inFlight_iff]

/-- Whoever holds a key may end the work on it. -/
theorem finish (orderly : queue.Orderly held) (holds : key ∈ held) :
    (queue.finish key).Orderly (held.erase key) := by
  have inHand : key ∈ queue.inFlight := (orderly.mem_inFlight_iff key).mpr holds
  have unready : key ∉ queue.ready := fun ready => orderly.resting_of_ready key ready inHand
  have held_iff (other : String) :
      other ∈ withoutKey key queue.inFlight ↔ other ∈ held.erase key := by
    rw [mem_withoutKey, orderly.held_nodup.mem_erase_iff, orderly.mem_inFlight_iff, and_comm]
  unfold WorkQueue.finish
  dsimp only
  split
  next requeued =>
    constructor
    · apply orderly.ready_nodup.append (List.nodup_singleton key)
      exact List.disjoint_singleton.mpr unready
    · intro other ready
      rcases List.mem_append.mp ready with ready | ready
      · exact orderly.dirty_of_ready other ready
      · rw [List.mem_singleton.mp ready]
        exact requeued.1
    · intro other ready
      rw [mem_withoutKey]
      rintro ⟨inHand, distinct⟩
      rcases List.mem_append.mp ready with ready | ready
      · exact orderly.resting_of_ready other ready inHand
      · exact distinct (List.mem_singleton.mp ready)
    · intro opened other dirty
      by_cases same : other = key
      · exact .inl (by simp [same])
      · rcases orderly.ready_or_inFlight opened other dirty with ready | inHand
        · exact .inl (List.mem_append_left _ ready)
        · exact .inr (mem_withoutKey.mpr ⟨inHand, same⟩)
    · exact orderly.held_nodup.erase key
    · exact held_iff
  next settled =>
    constructor
    · exact orderly.ready_nodup
    · exact orderly.dirty_of_ready
    · intro other ready
      rw [mem_withoutKey]
      rintro ⟨inHand, -⟩
      exact orderly.resting_of_ready other ready inHand
    · intro opened other dirty
      have same : other ≠ key := by
        rintro rfl
        exact settled ⟨dirty, opened⟩
      rcases orderly.ready_or_inFlight opened other dirty with ready | inHand
      · exact .inl ready
      · exact .inr (mem_withoutKey.mpr ⟨inHand, same⟩)
    · exact orderly.held_nodup.erase key
    · exact held_iff

theorem shutDown (orderly : queue.Orderly held) : queue.shutDown.Orderly held :=
  { orderly with ready_or_inFlight := nofun }

end Orderly

/-- What additions keep, and the passing of time by itself, is kept when time
passes and timers fire. -/
theorem passUntil_keeps (property : WorkQueue → Prop) {limit : Nat}
    (adds : ∀ queue key, property queue → property (queue.add key))
    (retimes : ∀ queue : WorkQueue, ∀ now timers, property queue →
      property { queue with now, timers })
    (holds : property queue) : property (queue.passUntil limit) := by
  unfold passUntil
  generalize queue.timers.length = count
  induction count generalizing queue with
  | zero => exact retimes queue _ queue.timers holds
  | succ count ih =>
      unfold passUntil.go
      cases fired : queue.fireNext? limit with
      | none => exact retimes queue _ queue.timers holds
      | some next =>
          apply ih
          unfold fireNext? at fired
          split at fired
          · contradiction
          · split at fired
            · cases fired
              exact adds _ _ (retimes queue _ _ holds)
            · contradiction

theorem shuttingDown_add : (queue.add key).shuttingDown = queue.shuttingDown := by
  unfold add
  split
  · rfl
  · split <;> rfl

theorem shuttingDown_addLater {delay : Nat} :
    (queue.addLater key delay).shuttingDown = queue.shuttingDown := by
  unfold addLater
  split
  · exact shuttingDown_add
  · split <;> rfl

theorem shuttingDown_finish : (queue.finish key).shuttingDown = queue.shuttingDown := by
  unfold finish
  dsimp only
  split <;> rfl

theorem shuttingDown_passUntil {limit : Nat} (closed : queue.shuttingDown = true) :
    (queue.passUntil limit).shuttingDown = true :=
  passUntil_keeps (fun queue => queue.shuttingDown = true)
    (fun _ _ closed => shuttingDown_add.trans closed) (fun _ _ _ closed => closed) closed

/-- Of an open queue an addition makes just that key one to be worked on. -/
theorem mem_dirty_add {other : String} (opened : queue.shuttingDown = false) :
    other ∈ (queue.add key).dirty ↔ other = key ∨ other ∈ queue.dirty := by
  unfold add
  split
  next waits =>
    have dirty : key ∈ queue.dirty := by simpa [opened] using waits
    constructor
    · exact .inr
    · rintro (rfl | awaited)
      · exact dirty
      · exact awaited
  · split <;> exact List.mem_cons

@[simp]
theorem dirty_finish : (queue.finish key).dirty = queue.dirty := by
  unfold finish
  dsimp only
  split <;> rfl

theorem not_mem_inFlight_finish : key ∉ (queue.finish key).inFlight := by
  unfold finish
  dsimp only
  split <;> exact fun member => (mem_withoutKey.mp member).2 rfl

theorem mem_dirty_take? {other : String} (taken : queue.take? = some (key, after)) :
    other ∈ after.dirty ↔ other ∈ queue.dirty ∧ other ≠ key := by
  rw [(fields_of_take? taken).1, mem_withoutKey]

/-- An addition has no part in failures, timers and the clock. -/
@[simp]
theorem aside_add :
    (queue.add key).history = queue.history ∧ (queue.add key).timers = queue.timers ∧
      (queue.add key).now = queue.now := by
  unfold add
  split
  · exact ⟨rfl, rfl, rfl⟩
  · split <;> exact ⟨rfl, rfl, rfl⟩

@[simp]
theorem aside_finish :
    (queue.finish key).history = queue.history ∧ (queue.finish key).timers = queue.timers ∧
      (queue.finish key).now = queue.now := by
  unfold finish
  dsimp only
  split <;> exact ⟨rfl, rfl, rfl⟩

theorem aside_of_take? (taken : queue.take? = some (key, after)) :
    after.history = queue.history ∧ after.timers = queue.timers ∧ after.now = queue.now := by
  unfold take? at taken
  split at taken
  · contradiction
  · split at taken
    · contradiction
    · simp only [Option.some.injEq, Prod.mk.injEq] at taken
      obtain ⟨-, rfl⟩ := taken
      exact ⟨rfl, rfl, rfl⟩

@[simp]
theorem aside_addLater {delay : Nat} :
    (queue.addLater key delay).history = queue.history ∧
      (queue.addLater key delay).now = queue.now := by
  unfold addLater
  split
  · exact ⟨aside_add.1, aside_add.2.2⟩
  · split <;> exact ⟨rfl, rfl⟩

/-- A delayed addition leaves the timers pending that are. -/
theorem mem_timers_addLater {delay : Nat} {timer : Timer} (pending : timer ∈ queue.timers) :
    timer ∈ (queue.addLater key delay).timers := by
  unfold addLater
  split
  · rw [aside_add.2.1]
    exact pending
  · split
    · exact pending
    · exact (setTimer_perm _ _).mem_iff.mpr (List.mem_cons_of_mem _ pending)

/-- A delayed addition to an open queue sets its timer. -/
theorem timer_mem_addLater {delay : Nat} (opened : queue.shuttingDown = false)
    (delayed : 0 < delay) : ⟨queue.now + delay, key⟩ ∈ (queue.addLater key delay).timers := by
  unfold addLater
  rw [if_neg (Nat.ne_of_gt delayed), if_neg (by simp [opened])]
  exact (setTimer_perm _ _).mem_iff.mpr List.mem_cons_self

end WorkQueue

end NodeGate
