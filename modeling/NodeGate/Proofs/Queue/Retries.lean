import NodeGate.Proofs.Queue.Crew

/-!
# The retries of a key

Delayed additions are not part of what the queue keeps apart by key: each pass that backs off
sets a timer of its own. What bounds the timers of a key is that a retry is handed on. A timer
that fires, a key that is handed out and a pass that asks for its key again each take one
retry and leave at most one. Only a key that is queued from outside, while it does not wait
already, begins a retry beside those that are under way.
-/

namespace NodeGate

namespace WorkQueue

/-- How many delayed additions of a key are outstanding. -/
def outstanding (key : String) (queue : WorkQueue) : Nat :=
  queue.timers.countP (·.key = key)

/-- How many retries of a key the queue has: the outstanding additions, and the key itself if
it is to be worked on. -/
def load (key : String) (queue : WorkQueue) : Nat :=
  queue.outstanding key + if key ∈ queue.dirty then 1 else 0

variable {queue after : WorkQueue} {key other : String} {timer : Timer}

@[simp]
theorem outstanding_add : (queue.add other).outstanding key = queue.outstanding key := by
  simp [outstanding]

@[simp]
theorem outstanding_finish : (queue.finish other).outstanding key = queue.outstanding key := by
  simp [outstanding]

theorem outstanding_take? (taken : queue.take? = some (other, after)) :
    after.outstanding key = queue.outstanding key := by
  rw [outstanding, (aside_of_take? taken).2.1, outstanding]

/-- A timer that fires is outstanding no more. -/
theorem outstanding_erase (key : String) (pending : timer ∈ queue.timers) :
    outstanding key { queue with timers := queue.timers.erase timer } +
      (if timer.key = key then 1 else 0) = queue.outstanding key := by
  unfold outstanding
  rw [(List.perm_cons_erase pending).countP_eq, List.countP_cons]
  simp

/-- A delayed addition to an open queue is outstanding. -/
theorem outstanding_addLater {delay : Nat} (opened : queue.shuttingDown = false) :
    (queue.addLater other delay).outstanding key =
      queue.outstanding key + if other = key ∧ 0 < delay then 1 else 0 := by
  unfold addLater
  by_cases undelayed : delay = 0
  · simp [undelayed]
  · rw [if_neg undelayed, if_neg (by simp [opened])]
    unfold outstanding
    rw [(setTimer_perm _ _).countP_eq, List.countP_cons]
    simp [Nat.pos_of_ne_zero undelayed]

theorem load_add_le :
    (queue.add other).load key ≤ queue.load key + if other = key then 1 else 0 := by
  unfold load
  rw [outstanding_add]
  cases closed : queue.shuttingDown with
  | true =>
      have kept : queue.add other = queue := if_pos (.inl closed)
      rw [kept]
      exact Nat.le_add_right _ _
  | false =>
      simp only [mem_dirty_add closed]
      by_cases same : other = key
      · subst same
        simp only [true_or, if_true]
        omega
      · simp [same, Ne.symm same]

/-- A key that is to be worked on already is not added again. -/
theorem add_of_mem (awaited : key ∈ queue.dirty) : queue.add key = queue :=
  if_pos (.inr awaited)

/-- A timer that fires leaves at most the addition that it makes. -/
theorem load_fire (pending : timer ∈ queue.timers) :
    (add timer.key { queue with timers := queue.timers.erase timer }).load key ≤
      queue.load key := by
  have fired : outstanding key { queue with timers := queue.timers.erase timer } +
      (if timer.key = key then 1 else 0) = queue.outstanding key :=
    outstanding_erase key pending
  have added : (add timer.key { queue with timers := queue.timers.erase timer }).load key ≤
      load key { queue with timers := queue.timers.erase timer } +
        if timer.key = key then 1 else 0 := load_add_le
  unfold load at added ⊢
  dsimp only at added
  omega

theorem load_addLater_le {delay : Nat} (opened : queue.shuttingDown = false) :
    (queue.addLater other delay).load key ≤ queue.load key + if other = key then 1 else 0 := by
  by_cases undelayed : delay = 0
  · rw [addLater, if_pos undelayed]
    exact load_add_le
  · have dirty : (queue.addLater other delay).dirty = queue.dirty := by
      rw [addLater, if_neg undelayed]
      split <;> rfl
    rw [load, load, outstanding_addLater opened, dirty]
    simp only [Nat.pos_of_ne_zero undelayed, and_true]
    omega

@[simp]
theorem load_forget : (queue.forget other).load key = queue.load key :=
  rfl

/-- Failures have no part in what the queue has to do. -/
@[simp]
theorem load_history {history : RetryHistory} :
    load key { queue with history } = queue.load key :=
  rfl

@[simp]
theorem load_finish : (queue.finish other).load key = queue.load key := by
  simp [load]

/-- A key that is handed out takes its retry with it. -/
theorem load_take? (taken : queue.take? = some (other, after)) (awaited : other ∈ queue.dirty) :
    after.load key + (if other = key then 1 else 0) = queue.load key := by
  unfold load
  rw [outstanding_take? taken]
  simp only [mem_dirty_take? taken]
  by_cases same : other = key
  · subst same
    simp [awaited]
  · simp [same, Ne.symm same]

end WorkQueue

/-- Whether the worker at this stage may still queue its key again. -/
def Stage.isOpen : Stage → Bool
  | .passing | .passed .immediate | .passed .backOff | .renewing | .deferring _ => true
  | .passed .forget | .settled _ => false

namespace Move

variable {ω : Type}

/-- The move queues a key from outside: its pod was noticed, or all that have work are
queued. -/
def Calls (key : String) : Move ω → Prop
  | .notice pod => pod.needsWork = true ∧ pod.key? = some key
  | .add other => other = key
  | _ => False

/-- The move sets a timer for a key. -/
def defers (key : String) : Move ω → Bool
  | .defer _ other delay => other = key && 0 < delay
  | _ => false

/-- The move is that a timer of a key fires. -/
def fires (key : String) : Move ω → Bool
  | .fire timer => timer.key = key
  | _ => false

end Move

namespace Crew

variable {ω : Type}

/-- The hands in which a key is and from which it may be queued again. -/
def openHands (key : String) (hands : List (Hand ω)) : Nat :=
  hands.countP fun hand => hand.key = key && hand.stage.isOpen

/-- The retries of a key that are under way, in the queue and in the hands of workers. -/
def retries (key : String) (crew : Crew ω) : Nat :=
  crew.queue.load key + openHands key crew.hands

/-- A key that does not wait already is queued from outside while a retry of it is under
way. -/
def Intrudes (key : String) (crew : Crew ω) (move : Move ω) : Prop :=
  move.Calls key ∧ key ∉ crew.queue.dirty ∧
    (0 < crew.queue.outstanding key ∨ ∃ hand ∈ crew.hands, hand.key = key ∧ hand.stage.isOpen)

/-- Moves lead from one state of the crew to another, and so many of them queued a key from
outside while a retry of it was under way. -/
inductive Intruded (key : String) (start : Crew ω) : List (Move ω) → Nat → Crew ω → Prop where
  | start : Intruded key start [] 0 start
  | quiet {moves : List (Move ω)} {move : Move ω} {count : Nat} {crew after : Crew ω}
      (works : Intruded key start moves count crew) (step : Step crew move after)
      (quiet : ¬Intrudes key crew move) : Intruded key start (moves ++ [move]) count after
  | intrusion {moves : List (Move ω)} {move : Move ω} {count : Nat} {crew after : Crew ω}
      (works : Intruded key start moves count crew) (step : Step crew move after)
      (intrudes : Intrudes key crew move) :
      Intruded key start (moves ++ [move]) (count + 1) after

variable {start crew after : Crew ω} {move : Move ω} {moves : List (Move ω)} {key : String}
  {count : Nat}

@[simp]
theorem openHands_cons {hand : Hand ω} {hands : List (Hand ω)} :
    openHands key (hand :: hands) =
      openHands key hands + if hand.key = key ∧ hand.stage.isOpen then 1 else 0 := by
  simp [openHands, List.countP_cons]

@[simp]
theorem openHands_append {before hands : List (Hand ω)} :
    openHands key (before ++ hands) = openHands key before + openHands key hands :=
  List.countP_append

theorem intrudes_iff : Intrudes key crew move ↔
    move.Calls key ∧ key ∉ crew.queue.dirty ∧ 0 < crew.retries key := by
  unfold Intrudes retries WorkQueue.load openHands
  refine and_congr_right fun _ => and_congr_right fun resting => ?_
  rw [if_neg resting, Nat.add_zero, Nat.add_pos_iff_pos_or_pos, List.countP_pos_iff]
  simp

theorem retries_add_le {other : String} :
    retries key { crew with queue := crew.queue.add other } ≤ crew.retries key ∨
      (other = key ∧ key ∉ crew.queue.dirty ∧
        retries key { crew with queue := crew.queue.add other } ≤ crew.retries key + 1) := by
  have added : (crew.queue.add other).load key ≤
      crew.queue.load key + if other = key then 1 else 0 := WorkQueue.load_add_le
  by_cases same : other = key
  · subst same
    by_cases awaited : other ∈ crew.queue.dirty
    · rw [WorkQueue.add_of_mem awaited]
      exact .inl (Nat.le_refl _)
    · rw [if_pos rfl] at added
      refine .inr ⟨rfl, awaited, ?_⟩
      unfold retries
      dsimp only
      omega
  · rw [if_neg same] at added
    exact .inl (Nat.add_le_add_right added _)

/-- A move begins at most one retry of a key, and none unless it queues the key from outside
while it does not wait. -/
theorem Step.retries_le (key : String) (step : Step crew move after) (sound : crew.Sound) :
    after.retries key ≤ crew.retries key ∨
      (move.Calls key ∧ key ∉ crew.queue.dirty ∧ after.retries key ≤ crew.retries key + 1) := by
  cases step with
  | @notice _ pod =>
      rcases crew.queue.notice_cases pod with ⟨other, works, keyed, noticed⟩ | ⟨-, noticed⟩
      · rw [noticed]
        refine retries_add_le.imp_right ?_
        rintro ⟨rfl, resting, begun⟩
        exact ⟨⟨works, keyed⟩, resting, begun⟩
      · rw [noticed]
        exact .inl (Nat.le_refl _)
  | add => exact retries_add_le
  | fire pending => exact .inl (Nat.add_le_add_right (WorkQueue.load_fire pending) _)
  | wait => exact .inl (Nat.le_refl _)
  | @handOut _ worker other queue taken =>
      have ready : other ∈ crew.queue.ready := by
        rw [WorkQueue.ready_of_take? taken]
        exact List.mem_cons_self
      have handed : queue.load key + (if other = key then 1 else 0) = crew.queue.load key :=
        WorkQueue.load_take? taken (sound.orderly.dirty_of_ready other ready)
      left
      simp only [retries, openHands_cons, Stage.isOpen, and_true]
      omega
  | @decide queue before rest worker other disposition =>
      left
      cases disposition <;> simp [retries, Stage.isOpen]
  | clear => exact .inl (by simp [retries, Stage.isOpen])
  | @renew queue before rest worker other =>
      have added : (queue.add other).load key ≤ queue.load key + if other = key then 1 else 0 :=
        WorkQueue.load_add_le
      left
      simp [retries, Stage.isOpen]
      omega
  | count => exact .inl (by simp [retries, Stage.isOpen])
  | @defer queue before rest worker other delay =>
      have added : (queue.addLater other delay).load key ≤
          queue.load key + if other = key then 1 else 0 :=
        WorkQueue.load_addLater_le sound.opened
      left
      simp [retries, Stage.isOpen]
      omega
  | drop => exact .inl (by simp [retries, Stage.isOpen])
  | finish => exact .inl (by simp [retries, Stage.isOpen])
  | release => exact .inl (by simp [retries, Stage.isOpen])

/-- Retries of a key are at most one and one for every intrusion. -/
theorem Intruded.retries_le (intruded : Intruded key start moves count crew)
    (sound : start.Sound) (idle : start.retries key = 0) :
    crew.Sound ∧ crew.retries key ≤ 1 + count := by
  induction intruded with
  | start => exact ⟨sound, by omega⟩
  | @quiet moves move count crew after _ step quiet ih =>
      refine ⟨ih.1.step step, ?_⟩
      rcases step.retries_le key ih.1 with fewer | ⟨calls, resting, begun⟩
      · exact Nat.le_trans fewer ih.2
      · -- What is queued from outside without an intrusion is the first retry.
        have none_yet : ¬0 < crew.retries key :=
          fun under_way => quiet (intrudes_iff.mpr ⟨calls, resting, under_way⟩)
        omega
  | intrusion _ step _ ih =>
      refine ⟨ih.1.step step, ?_⟩
      have before := ih.2
      rcases step.retries_le key ih.1 with fewer | ⟨-, -, begun⟩ <;> omega

theorem Works.exists_intruded (works : Works start moves crew) :
    ∃ count, Intruded key start moves count crew := by
  induction works with
  | start => exact ⟨0, .start⟩
  | @next _ move crew _ _ step ih =>
      obtain ⟨count, intruded⟩ := ih
      by_cases intrudes : Intrudes key crew move
      · exact ⟨count + 1, .intrusion intruded step intrudes⟩
      · exact ⟨count, .quiet intruded step intrudes⟩

theorem Intruded.works (intruded : Intruded key start moves count crew) :
    Works start moves crew := by
  induction intruded with
  | start => exact .start
  | quiet _ step _ ih => exact .next ih step
  | intrusion _ step _ ih => exact .next ih step

/-- Only a pass that backs off makes a delayed addition outstanding, and only the firing of
its timer ends that. -/
theorem Step.outstanding_eq (key : String) (step : Step crew move after) (sound : crew.Sound) :
    after.queue.outstanding key + (if move.fires key then 1 else 0) =
      crew.queue.outstanding key + if move.defers key then 1 else 0 := by
  cases step with
  | @notice _ pod =>
      rcases crew.queue.notice_cases pod with ⟨other, -, -, noticed⟩ | ⟨-, noticed⟩ <;>
        simp [noticed, Move.fires, Move.defers]
  | @fire _ timer pending =>
      have fired := WorkQueue.outstanding_erase key pending
      simpa [Move.fires, Move.defers] using fired
  | handOut taken => simp [WorkQueue.outstanding_take? taken, Move.fires, Move.defers]
  | defer => simp [WorkQueue.outstanding_addLater sound.opened, Move.fires, Move.defers]
  | add | renew | finish | release => simp [Move.fires, Move.defers]
  | wait | decide | clear | count | drop => rfl

theorem Works.outstanding_eq (works : Works start moves crew) (sound : start.Sound)
    (idle : start.queue.outstanding key = 0) :
    crew.queue.outstanding key + moves.countP (Move.fires key) =
      moves.countP (Move.defers key) := by
  induction works with
  | start => simpa using idle
  | next works step ih =>
      have stepped := step.outstanding_eq key (works.sound sound)
      simp only [List.countP_append, List.countP_singleton]
      omega

/-- Moves that queue a key from outside nowhere are no intrusions. -/
theorem Intruded.inside {later : List (Move ω)} (intruded : Intruded key start moves count crew)
    (works : Works crew later after) (inside : ∀ move ∈ later, ¬move.Calls key) :
    Intruded key start (moves ++ later) count after := by
  induction works with
  | start => simpa using intruded
  | @next before move middle last _ step ih =>
      have earlier := ih fun other member => inside other (List.mem_append_left _ member)
      rw [← List.append_assoc]
      exact .quiet earlier step fun intrudes => inside move (by simp) intrudes.1

/-- A queue in which nothing is to be done but timers are set, and no worker. -/
def resting (history : RetryHistory) (timers : List Timer) : Crew ω :=
  ⟨{ history, timers }, []⟩

/-- A worker takes a key, the pass over its pod backs off, and the key is deferred. -/
def backsOff (worker : ω) (key : String) (delay : Nat) : List (Move ω) :=
  [.handOut worker key, .decide worker key .backOff, .count worker key,
    .defer worker key delay, .finish worker key .backOff]

theorem not_calls_of_mem_backsOff {worker : ω} {other : String} {delay : Nat}
    (member : move ∈ backsOff worker other delay) : ¬move.Calls key := by
  simp only [backsOff, List.mem_cons, List.not_mem_nil, or_false] at member
  rcases member with rfl | rfl | rfl | rfl | rfl <;> exact id

theorem works_backsOff (worker : ω) (key : String) {history : RetryHistory}
    {timers : List Timer} (delayed : 0 < (history.next key).1) :
    Works ⟨WorkQueue.add key { history, timers }, []⟩ (backsOff worker key (history.next key).1)
      (resting (history.next key).2
        (WorkQueue.setTimer ⟨(history.next key).1, key⟩ timers)) := by
  have taken : (WorkQueue.add key { history, timers }).take? =
      some (key, { inFlight := [key], history, timers }) := by
    simp [WorkQueue.add, WorkQueue.take?, WorkQueue.withKey, WorkQueue.withoutKey]
  have settled : WorkQueue.settle key .backOff { inFlight := [key], history, timers } =
      { history := (history.next key).2
        timers := WorkQueue.setTimer ⟨(history.next key).1, key⟩ timers } := by
    simp [WorkQueue.settle, WorkQueue.requeue, WorkQueue.retry, WorkQueue.addLater,
      WorkQueue.finish, WorkQueue.withoutKey, Nat.ne_of_gt delayed]
  have settles := works_settling { inFlight := [key], history, timers } [] [] worker key .backOff
  rw [settled] at settles
  exact .cons (.handOut taken) (.cons (@Step.decide _ _ [] [] _ _ _) settles)

/-- A key at rest is queued from outside and backs off, which is an intrusion exactly if a
delayed addition of it is outstanding. -/
theorem Intruded.backsOff {history : RetryHistory} {timers : List Timer} (worker : ω)
    (intruded : Intruded key start moves count (resting history timers))
    (delayed : 0 < (history.next key).1) :
    Intruded key start (moves ++ [.add key] ++ Crew.backsOff worker key (history.next key).1)
      (if 0 < timers.countP (·.key = key) then count + 1 else count)
      (resting (history.next key).2
        (WorkQueue.setTimer ⟨(history.next key).1, key⟩ timers)) := by
  refine Intruded.inside ?_ (works_backsOff worker key delayed)
    fun move member => not_calls_of_mem_backsOff member
  have intrudes : Intrudes key (resting history timers : Crew ω) (.add key) ↔
      0 < timers.countP (·.key = key) := by
    simp [Intrudes, Move.Calls, resting, WorkQueue.outstanding]
  split
  next outstanding => exact .intrusion intruded .add (intrudes.mpr outstanding)
  next idle => exact .quiet intruded .add fun intrusion => idle (intrudes.mp intrusion)

/-- The bound is reached for every number of intrusions: each of them leaves one more delayed
addition of the key outstanding. -/
theorem retries_multiply (worker : ω) (key : String) (count : Nat) :
    ∃ moves crew, Intruded key (⟨{}, []⟩ : Crew ω) moves count crew ∧
      crew.queue.outstanding key = 1 + count := by
  -- Each round queues the key from outside and lets the pass over it back off.
  suffices rounds : ∃ moves history timers,
      Intruded key (⟨{}, []⟩ : Crew ω) moves count (resting history timers) ∧
        timers.countP (·.key = key) = 1 + count ∧ 0 < history.base ∧ 0 < history.ceiling by
    obtain ⟨moves, history, timers, intruded, reached, -⟩ := rounds
    exact ⟨moves, _, intruded, reached⟩
  have delayed {history : RetryHistory} (base : 0 < history.base) (ceiling : 0 < history.ceiling) :
      0 < (history.next key).1 := by
    unfold RetryHistory.next RetryHistory.delayAfter
    dsimp only
    split
    · exact Nat.lt_min.mpr ⟨Nat.mul_pos base (Nat.pow_pos (by decide)), ceiling⟩
    · exact ceiling
  have counted {delay : Nat} {timers : List Timer} :
      (WorkQueue.setTimer ⟨delay, key⟩ timers).countP (·.key = key) =
        timers.countP (·.key = key) + 1 := by
    rw [(WorkQueue.setTimer_perm _ _).countP_eq, List.countP_cons_of_pos (by simp)]
  induction count with
  | zero =>
      have base : 0 < ({} : RetryHistory).base := by decide
      have ceiling : 0 < ({} : RetryHistory).ceiling := by decide
      have fresh : Intruded key (⟨{}, []⟩ : Crew ω) [] 0 (resting {} []) := .start
      exact ⟨_, _, _, fresh.backsOff worker (delayed base ceiling), counted, base, ceiling⟩
  | succ count ih =>
      obtain ⟨moves, history, timers, intruded, reached, base, ceiling⟩ := ih
      have again := intruded.backsOff worker (delayed base ceiling)
      rw [if_pos (by omega)] at again
      exact ⟨_, _, _, again, by rw [counted, reached]; omega, base, ceiling⟩

/-- A gated pod. -/
def gatedPod : Pod where
  metadata := { name := some "p", space := some "a" }
  spec := some { gates := some [gateName] }

/-- The pod is noticed again while a retry of its key is outstanding. -/
def noticedAgain : List (Move Bool) :=
  .notice gatedPod :: backsOff true "a/p" 5 ++ .notice gatedPod :: backsOff true "a/p" 10

theorem intruded_noticedAgain : ∃ crew,
    Intruded "a/p" (⟨{}, []⟩ : Crew Bool) noticedAgain 1 crew ∧
      crew.queue.timers = [⟨5, "a/p"⟩, ⟨10, "a/p"⟩] := by
  have inside {delay : Nat} : ∀ move ∈ backsOff true "a/p" delay, ¬Move.Calls "a/p" move :=
    fun _ member => not_calls_of_mem_backsOff member
  have noticed : Intruded "a/p" (⟨{}, []⟩ : Crew Bool) [.notice gatedPod] 0 _ :=
    .quiet .start .notice (by simp [Intrudes, WorkQueue.outstanding])
  have retried := noticed.inside (@works_backsOff _ true "a/p" {} [] (by decide)) inside
  have again := retried.intrusion (@Step.notice _ _ gatedPod)
    ⟨⟨by decide, by decide⟩, by decide, .inl (by decide)⟩
  exact ⟨_, again.inside (works_backsOff true "a/p" (by decide)) inside, rfl⟩

/-- Whatever happens around an open queue and in whatever order, there is at most one delayed
addition of a key outstanding and one more for every time that the key was queued from outside
while it did not wait and a retry of it was under way. It is passes that back off that make
them outstanding, and however many there are, the key stands in line once. What the workers do
agrees with the functions of the queue. -/
theorem retries_bounded_by_intrusions {history : RetryHistory} (key : String)
    (works : Works (⟨{ history }, []⟩ : Crew ω) moves crew) :
    crew.AgreesWithQueue ∧
      (∃ count, Intruded key ⟨{ history }, []⟩ moves count crew) ∧
      (∀ count, Intruded key ⟨{ history }, []⟩ moves count crew →
        crew.queue.outstanding key ≤ 1 + count) ∧
      crew.queue.outstanding key + moves.countP (Move.fires key) =
        moves.countP (Move.defers key) ∧
      crew.queue.ready.count key ≤ 1 := by
  have fresh : Sound (⟨{ history }, []⟩ : Crew ω) := ⟨rfl, WorkQueue.orderly_fresh⟩
  have sound : crew.Sound := works.sound fresh
  refine ⟨sound.agreesWithQueue, works.exists_intruded, ?_, works.outstanding_eq fresh rfl, ?_⟩
  · intro count intruded
    have bounded := (intruded.retries_le fresh rfl).2
    unfold retries WorkQueue.load at bounded
    omega
  · exact List.nodup_iff_count_le_one.mp sound.orderly.ready_nodup key

/-- The pod was noticed once while a retry was under way, so that there are no more than two. -/
theorem noticed_again_bounded :
    ∃ crew, Works (⟨{}, []⟩ : Crew Bool) noticedAgain crew ∧
      Intruded "a/p" (⟨{}, []⟩ : Crew Bool) noticedAgain 1 crew ∧
      crew.queue.outstanding "a/p" ≤ 2 := by
  obtain ⟨crew, intruded, -⟩ := intruded_noticedAgain
  exact ⟨crew, intruded.works, intruded,
    (retries_bounded_by_intrusions "a/p" intruded.works).2.2.1 1 intruded⟩

/-- There are two then: what is outstanding is not kept apart by key. -/
theorem noticed_again_retried_twice :
    ∃ crew, Works (⟨{}, []⟩ : Crew Bool) noticedAgain crew ∧
      crew.queue.timers = [⟨5, "a/p"⟩, ⟨10, "a/p"⟩] ∧ ¬crew.queue.outstanding "a/p" ≤ 1 := by
  obtain ⟨crew, intruded, timers⟩ := intruded_noticedAgain
  refine ⟨crew, intruded.works, timers, ?_⟩
  rw [WorkQueue.outstanding, timers]
  decide

end Crew

end NodeGate
