import Mathlib.Data.List.Induction
import NodeGate.Dispatch
import NodeGate.Proofs.Queue.Order

/-!
# The crew of a queue

The engine at work: pods are noticed, timers fire, and any number of workers take keys,
pass over their pods and settle the keys with the queue. Settling takes several steps, and
anything may happen between two of them; when nothing does, the steps come to what the queue
does when it settles a key in one go. The queue stays in order with what the workers hold,
and a key is to be worked on exactly when it was added since it was last handed out.
-/

namespace NodeGate

/-- How far a worker is with a key that it took. -/
inductive Stage where
  /-- The pass over the pod is under way. -/
  | passing
  /-- The pass ended and nothing was done with the queue yet. -/
  | passed (disposition : Disposition)
  /-- The failures are cleared; the key is to be queued again at once. -/
  | renewing
  /-- The failure is counted; the key is to be queued again after a delay. -/
  | deferring (delay : Nat)
  /-- All that is left is to end the work. -/
  | settled (disposition : Disposition)

/-- A key in the hands of a worker. -/
structure Hand (ω : Type) where
  worker : ω
  key : String
  stage : Stage

/-- One thing that happens around a queue while workers settle keys. -/
inductive Move (ω : Type) where
  /-- The watch tells of a pod. -/
  | notice (pod : Pod)
  /-- A key is added, as are all that have work when the configuration changes. -/
  | add (key : String)
  /-- A timer fires, whatever the clock says. -/
  | fire (timer : Timer)
  /-- The clock goes on. -/
  | wait (now : Nat)
  /-- A key is handed to a worker. -/
  | handOut (worker : ω) (key : String)
  /-- The pass over the pod of a key ends. -/
  | decide (worker : ω) (key : String) (disposition : Disposition)
  /-- A worker clears the failures of a key. -/
  | forget (worker : ω) (key : String)
  /-- A worker queues a key again at once. -/
  | renew (worker : ω) (key : String)
  /-- A worker counts a failure of a key, which gives the delay of the key. -/
  | count (worker : ω) (key : String)
  /-- A worker queues a key again after a delay. -/
  | defer (worker : ω) (key : String) (delay : Nat)
  /-- A worker ends the work on a key that it settled. -/
  | finish (worker : ω) (key : String) (disposition : Disposition)
  /-- A worker ends the work on a key without a pass over its pod. -/
  | release (worker : ω) (key : String)

/-- A queue and what its workers have in hand. -/
structure Crew (ω : Type) where
  queue : WorkQueue := {}
  hands : List (Hand ω) := []

namespace Move

variable {ω : Type}

/-- The move adds a key to the queue. A delayed addition without a delay is an
addition. -/
def Adds (key : String) : Move ω → Prop
  | .notice pod => pod.needsWork = true ∧ pod.key? = some key
  | .add other => other = key
  | .fire timer => timer.key = key
  | .renew _ other => other = key
  | .defer _ other delay => other = key ∧ delay = 0
  | _ => False

/-- The move hands out a key. -/
def HandsOut (key : String) : Move ω → Prop
  | .handOut _ other => other = key
  | _ => False

/-- The move is that of a worker with a key. -/
def Handles (key : String) : Move ω → Prop
  | .handOut _ other | .decide _ other _ | .forget _ other | .renew _ other | .count _ other
  | .defer _ other _ | .finish _ other _ | .release _ other => other = key
  | _ => False

/-- The delay after which the move has a key queued. -/
def delay? (key : String) : Move ω → Option Nat
  | .defer _ other delay => if other = key then some delay else none
  | _ => none

/-- The moves by which a worker settles a key after its pass, with the delay of the key if the
pass backs off. -/
def settling (worker : ω) (key : String) (delay : Nat) : Disposition → List (Move ω)
  | .immediate => [.forget worker key, .renew worker key, .finish worker key .immediate]
  | .backOff => [.count worker key, .defer worker key delay, .finish worker key .backOff]
  | .forget => [.forget worker key, .finish worker key .forget]

/-- The move is one of the clock. -/
def isTimely : Move ω → Bool
  | .wait _ | .fire _ => true
  | _ => false

/-- A key was added, and not handed out since. -/
def AddedSince (key : String) (moves : List (Move ω)) : Prop :=
  ∃ before added after, moves = before ++ added :: after ∧ added.Adds key ∧
    ∀ move ∈ after, ¬move.HandsOut key

variable {key : String} {move : Move ω} {moves : List (Move ω)}

theorem HandsOut.handles (handsOut : move.HandsOut key) : move.Handles key := by
  cases move <;> first | exact handsOut | exact handsOut.elim

theorem delay?_eq_none (away : ¬move.Handles key) : move.delay? key = none := by
  cases move with
  | defer worker other delay => exact if_neg away
  | _ => rfl

theorem not_addedSince_nil : ¬AddedSince key ([] : List (Move ω)) := by
  rintro ⟨before, added, after, empty, -, -⟩
  simp at empty

/-- What was added since is added by the last move, or was before and is not handed
out by it. -/
theorem addedSince_concat :
    AddedSince key (moves ++ [move]) ↔
      move.Adds key ∨ (AddedSince key moves ∧ ¬move.HandsOut key) := by
  constructor
  · rintro ⟨before, added, after, split, adds, kept⟩
    rcases List.eq_nil_or_concat after with rfl | ⟨earlier, last, rfl⟩
    · obtain ⟨-, same⟩ := List.append_inj' split rfl
      cases same
      exact .inl adds
    · have parted : moves ++ [move] = (before ++ added :: earlier) ++ [last] := by
        simp [split]
      obtain ⟨rfl, same⟩ := List.append_inj' parted rfl
      cases same
      refine .inr ⟨⟨before, added, earlier, rfl, adds, ?_⟩, kept move (by simp)⟩
      exact fun other member => kept other (by simp [member])
  · rintro (adds | ⟨⟨before, added, after, rfl, adds, kept⟩, stays⟩)
    · exact ⟨moves, move, [], rfl, adds, by simp⟩
    · refine ⟨before, added, after ++ [move], by simp, adds, ?_⟩
      intro other member
      rcases List.mem_append.mp member with member | member
      · exact kept other member
      · rw [List.mem_singleton.mp member]
        exact stays

/-- Since a hand-out a key was added exactly by a move after it, as long as it was not
handed out again. -/
theorem addedSince_handOut {before during : List (Move ω)} {worker : ω}
    (kept : ∀ move ∈ during, ¬move.HandsOut key) :
    AddedSince key (before ++ .handOut worker key :: during) ↔
      ∃ move ∈ during, move.Adds key := by
  induction during using List.reverseRecOn with
  | nil =>
      rw [addedSince_concat]
      simp [Adds, HandsOut]
  | append_singleton during last ih =>
      have keptBefore : ∀ move ∈ during, ¬move.HandsOut key :=
        fun move member => kept move (by simp [member])
      have keptLast : ¬last.HandsOut key := kept last (by simp)
      rw [← List.cons_append, ← List.append_assoc, addedSince_concat, ih keptBefore]
      simp only [keptLast, not_false_eq_true, and_true, List.mem_append, List.mem_singleton]
      constructor
      · rintro (adds | ⟨move, member, adds⟩)
        · exact ⟨last, .inr rfl, adds⟩
        · exact ⟨move, .inl member, adds⟩
      · rintro ⟨move, member | rfl, adds⟩
        · exact .inr ⟨move, member, adds⟩
        · exact .inl adds

end Move

namespace WorkQueue

/-- A noticed pod with work and a key is an addition of its key, and any other pod
changes nothing. -/
theorem notice_cases (queue : WorkQueue) (pod : Pod) :
    (∃ key, pod.needsWork = true ∧ pod.key? = some key ∧ queue.notice pod = queue.add key) ∨
      ((∀ key, ¬(pod.needsWork = true ∧ pod.key? = some key)) ∧ queue.notice pod = queue) := by
  unfold notice addPod
  cases works : pod.needsWork with
  | false => exact .inr (by simp)
  | true =>
      cases keyed : pod.key? with
      | none => exact .inr (by simp)
      | some key => exact .inl ⟨key, rfl, rfl, rfl⟩

end WorkQueue

namespace Crew

variable {ω : Type}

/-- The keys in the hands of workers. -/
def held (hands : List (Hand ω)) : List String :=
  hands.map Hand.key

/-- A move leads from one state of the crew to another. A worker gets what the queue
hands out, and settles it in the order of the stages. -/
inductive Step : Crew ω → Move ω → Crew ω → Prop where
  | notice {crew : Crew ω} {pod : Pod} :
      Step crew (.notice pod) { crew with queue := crew.queue.notice pod }
  | add {crew : Crew ω} {key : String} :
      Step crew (.add key) { crew with queue := crew.queue.add key }
  | fire {crew : Crew ω} {timer : Timer} (pending : timer ∈ crew.queue.timers) :
      Step crew (.fire timer) { crew with
        queue := WorkQueue.add timer.key
          { crew.queue with timers := crew.queue.timers.erase timer } }
  | wait {crew : Crew ω} {now : Nat} (later : crew.queue.now ≤ now) :
      Step crew (.wait now) { crew with queue := { crew.queue with now } }
  | handOut {crew : Crew ω} {worker : ω} {key : String} {after : WorkQueue}
      (taken : crew.queue.take? = some (key, after)) :
      Step crew (.handOut worker key) ⟨after, ⟨worker, key, .passing⟩ :: crew.hands⟩
  | decide {queue : WorkQueue} {before after : List (Hand ω)} {worker : ω} {key : String}
      {disposition : Disposition} :
      Step ⟨queue, before ++ ⟨worker, key, .passing⟩ :: after⟩
        (.decide worker key disposition)
        ⟨queue, before ++ ⟨worker, key, .passed disposition⟩ :: after⟩
  | clear {queue : WorkQueue} {before after : List (Hand ω)} {worker : ω} {key : String} :
      Step ⟨queue, before ++ ⟨worker, key, .passed .immediate⟩ :: after⟩ (.forget worker key)
        ⟨queue.forget key, before ++ ⟨worker, key, .renewing⟩ :: after⟩
  | renew {queue : WorkQueue} {before after : List (Hand ω)} {worker : ω} {key : String} :
      Step ⟨queue, before ++ ⟨worker, key, .renewing⟩ :: after⟩ (.renew worker key)
        ⟨queue.add key, before ++ ⟨worker, key, .settled .immediate⟩ :: after⟩
  | count {queue : WorkQueue} {before after : List (Hand ω)} {worker : ω} {key : String} :
      Step ⟨queue, before ++ ⟨worker, key, .passed .backOff⟩ :: after⟩ (.count worker key)
        ⟨{ queue with history := (queue.history.next key).2 },
          before ++ ⟨worker, key, .deferring (queue.history.next key).1⟩ :: after⟩
  | defer {queue : WorkQueue} {before after : List (Hand ω)} {worker : ω} {key : String}
      {delay : Nat} :
      Step ⟨queue, before ++ ⟨worker, key, .deferring delay⟩ :: after⟩ (.defer worker key delay)
        ⟨queue.addLater key delay, before ++ ⟨worker, key, .settled .backOff⟩ :: after⟩
  | drop {queue : WorkQueue} {before after : List (Hand ω)} {worker : ω} {key : String} :
      Step ⟨queue, before ++ ⟨worker, key, .passed .forget⟩ :: after⟩ (.forget worker key)
        ⟨queue.forget key, before ++ ⟨worker, key, .settled .forget⟩ :: after⟩
  | finish {queue : WorkQueue} {before after : List (Hand ω)} {worker : ω} {key : String}
      {disposition : Disposition} :
      Step ⟨queue, before ++ ⟨worker, key, .settled disposition⟩ :: after⟩
        (.finish worker key disposition) ⟨queue.finish key, before ++ after⟩
  | release {queue : WorkQueue} {before after : List (Hand ω)} {worker : ω} {key : String} :
      Step ⟨queue, before ++ ⟨worker, key, .passing⟩ :: after⟩ (.release worker key)
        ⟨queue.finish key, before ++ after⟩

/-- Moves lead from one state of the crew to another, one after the other. -/
inductive Works (start : Crew ω) : List (Move ω) → Crew ω → Prop where
  | start : Works start [] start
  | next {moves : List (Move ω)} {move : Move ω} {crew after : Crew ω}
      (works : Works start moves crew) (step : Step crew move after) :
      Works start (moves ++ [move]) after

theorem Works.cons {start middle last : Crew ω} {move : Move ω} {moves : List (Move ω)}
    (step : Step start move middle) (works : Works middle moves last) :
    Works start (move :: moves) last := by
  induction works with
  | start => exact .next .start step
  | next _ later ih => exact .next ih later

/-- The queue is open and in order with what the workers hold. -/
structure Sound (crew : Crew ω) : Prop where
  opened : crew.queue.shuttingDown = false
  orderly : crew.queue.Orderly (held crew.hands)

variable {start crew after : Crew ω} {move : Move ω} {moves : List (Move ω)} {key : String}

/-- Other hands hold other keys. -/
theorem key_ne {before after : List (Hand ω)} {hand other : Hand ω}
    (nodup : (held (before ++ hand :: after)).Nodup) (member : other ∈ before ++ after) :
    other.key ≠ hand.key := by
  intro same
  have apart : (hand :: (before ++ after)).Pairwise fun one other => one.key ≠ other.key := by
    rw [held, List.nodup_iff_pairwise_ne, List.pairwise_map] at nodup
    exact (List.perm_middle.pairwise_iff (fun unequal => unequal.symm)).mp nodup
  exact (List.pairwise_cons.mp apart).1 other member same.symm

theorem held_erase {before after : List (Hand ω)} {hand : Hand ω}
    (nodup : (held (before ++ hand :: after)).Nodup) :
    (held (before ++ hand :: after)).erase hand.key = held (before ++ after) := by
  have unheld : hand.key ∉ held before := by
    intro member
    obtain ⟨other, among, same⟩ := List.mem_map.mp member
    exact key_ne nodup (List.mem_append_left _ among) same
  rw [held, List.map_append, List.map_cons]
  rw [held] at unheld
  rw [List.erase_append_right _ unheld, List.erase_cons_head, held, List.map_append]

/-- A hand that ends its work leaves the others in order. -/
theorem orderly_finish {queue : WorkQueue} {before after : List (Hand ω)} {hand : Hand ω}
    (orderly : queue.Orderly (held (before ++ hand :: after))) :
    (queue.finish hand.key).Orderly (held (before ++ after)) := by
  rw [← held_erase orderly.held_nodup]
  exact orderly.finish (by simp [held])

/-- The order does not look at stages. -/
theorem orderly_restage {queue : WorkQueue} {before after : List (Hand ω)} {worker : ω}
    {stage next : Stage}
    (orderly : queue.Orderly (held (before ++ ⟨worker, key, stage⟩ :: after))) :
    queue.Orderly (held (before ++ ⟨worker, key, next⟩ :: after)) := by
  simpa [held] using orderly

theorem Sound.step (sound : crew.Sound) (step : Step crew move after) : after.Sound := by
  obtain ⟨opened, orderly⟩ := sound
  cases step with
  | @notice _ pod =>
      rcases crew.queue.notice_cases pod with ⟨key, -, -, noticed⟩ | ⟨-, noticed⟩
      · rw [noticed]
        exact ⟨WorkQueue.shuttingDown_add.trans opened, orderly.add⟩
      · rw [noticed]
        exact ⟨opened, orderly⟩
  | add => exact ⟨WorkQueue.shuttingDown_add.trans opened, orderly.add⟩
  | fire => exact ⟨WorkQueue.shuttingDown_add.trans opened, (orderly.retimed _ _ _).add⟩
  | wait => exact ⟨opened, orderly.retimed _ _ _⟩
  | handOut taken =>
      exact ⟨(WorkQueue.fields_of_take? taken).2.2.trans opened, orderly.take taken⟩
  | decide => exact ⟨opened, orderly_restage orderly⟩
  | clear => exact ⟨opened, (orderly_restage orderly).forget⟩
  | renew => exact ⟨WorkQueue.shuttingDown_add.trans opened, (orderly_restage orderly).add⟩
  | count => exact ⟨opened, (orderly_restage orderly).retimed _ _ _⟩
  | defer =>
      exact ⟨WorkQueue.shuttingDown_addLater.trans opened, (orderly_restage orderly).addLater⟩
  | drop => exact ⟨opened, (orderly_restage orderly).forget⟩
  | finish => exact ⟨WorkQueue.shuttingDown_finish.trans opened, orderly_finish orderly⟩
  | release => exact ⟨WorkQueue.shuttingDown_finish.trans opened, orderly_finish orderly⟩

theorem Works.sound (works : Works start moves crew) (sound : start.Sound) : crew.Sound := by
  induction works with
  | start => exact sound
  | next _ step ih => exact ih.step step

theorem Works.of_concat (works : Works start (moves ++ [move]) crew) :
    ∃ middle, Works start moves middle ∧ Step middle move crew := by
  generalize all : moves ++ [move] = others at works
  cases works with
  | start => simp at all
  | next works step =>
      obtain ⟨rfl, same⟩ := List.append_inj' all rfl
      cases same
      exact ⟨_, works, step⟩

/-- Moves in a row can be parted anywhere. -/
theorem Works.split {before rest : List (Move ω)}
    (works : Works start (before ++ move :: rest) crew) :
    ∃ middle next, Works start before middle ∧ Step middle move next := by
  induction rest using List.reverseRecOn generalizing crew with
  | nil =>
      obtain ⟨middle, earlier, step⟩ := works.of_concat
      exact ⟨middle, crew, earlier, step⟩
  | append_singleton rest last ih =>
      rw [← List.cons_append, ← List.append_assoc] at works
      obtain ⟨middle, earlier, -⟩ := works.of_concat
      exact ih earlier

/-- A hand is told from the others by its key. -/
theorem hands_inj {before after front back : List (Hand ω)} {hand other : Hand ω}
    (nodup : (held (before ++ hand :: after)).Nodup)
    (same : before ++ hand :: after = front ++ other :: back) (keys : hand.key = other.key) :
    before = front ∧ hand = other ∧ after = back := by
  have apart : other ∉ before ++ after := fun elsewhere => key_ne nodup elsewhere keys.symm
  exact (List.append_cons_inj_of_notMem (fun elsewhere => apart (List.mem_append_left _ elsewhere))
    (fun elsewhere => apart (List.mem_append_right _ elsewhere))).mp same

/-- A move leads from a state of the crew in order to one other at most. -/
theorem Step.deterministic {one other : Crew ω} (step : Step crew move one) (sound : crew.Sound)
    (again : Step crew move other) : one = other := by
  have nodup := sound.orderly.held_nodup
  generalize begun : crew = start at again
  cases step with
  | notice | add | fire | wait =>
      subst begun
      cases again
      rfl
  | handOut taken =>
      subst begun
      cases again with
      | handOut takenAgain =>
          rw [taken] at takenAgain
          cases takenAgain
          rfl
  | decide | clear | renew | count | defer | drop | finish | release =>
      -- Whoever made the move had the key in hand, and only one hand holds it.
      cases again
      all_goals
        obtain ⟨rfl, same⟩ := Crew.mk.inj begun
        obtain ⟨rfl, hand, rfl⟩ := hands_inj nodup same rfl
        cases hand <;> rfl

/-- Moves lead from a state of the crew in order to one other at most. -/
theorem Works.deterministic {other : Crew ω} (works : Works start moves crew)
    (sound : start.Sound) (again : Works start moves other) : crew = other := by
  induction works generalizing other with
  | start =>
      generalize none_left : ([] : List (Move ω)) = moves at again
      cases again with
      | start => rfl
      | next => simp at none_left
  | next works step ih =>
      obtain ⟨middle, before, last⟩ := again.of_concat
      obtain rfl := ih before
      exact step.deterministic (works.sound sound) last

/-- The moves of a worker that settles a key, with nothing in between, do to the queue what
settling the key does. -/
theorem works_settling (queue : WorkQueue) (before after : List (Hand ω)) (worker : ω)
    (key : String) (disposition : Disposition) :
    Works ⟨queue, before ++ ⟨worker, key, .passed disposition⟩ :: after⟩
      (Move.settling worker key (queue.history.next key).1 disposition)
      ⟨queue.settle key disposition, before ++ after⟩ := by
  cases disposition with
  | immediate => exact .cons .clear (.cons .renew (.cons .finish .start))
  | backOff => exact .cons .count (.cons .defer (.cons .finish .start))
  | forget => exact .cons .drop (.cons .finish .start)

/-- Letting time pass is waiting and firing the timers that fall due. -/
theorem works_passUntil (queue : WorkQueue) (hands : List (Hand ω)) (limit : Nat) :
    ∃ moves, moves.all Move.isTimely = true ∧
      Works ⟨queue, hands⟩ moves ⟨queue.passUntil limit, hands⟩ := by
  have waits (queue : WorkQueue) :
      Step ⟨queue, hands⟩ (.wait (max queue.now limit))
        ⟨{ queue with now := max queue.now limit }, hands⟩ := .wait (Nat.le_max_left _ _)
  unfold WorkQueue.passUntil
  generalize queue.timers.length = count
  induction count generalizing queue with
  | zero => exact ⟨_, rfl, .cons (waits queue) .start⟩
  | succ count ih =>
      unfold WorkQueue.passUntil.go
      cases fired : queue.fireNext? limit with
      | none => exact ⟨_, rfl, .cons (waits queue) .start⟩
      | some next =>
          obtain ⟨moves, timely, works⟩ := ih next
          unfold WorkQueue.fireNext? at fired
          split at fired
          · contradiction
          next timer rest timers =>
            split at fired
            · cases fired
              have goes_on : Step ⟨queue, hands⟩ (.wait (max queue.now timer.due))
                  ⟨{ queue with now := max queue.now timer.due }, hands⟩ :=
                .wait (Nat.le_max_left _ _)
              have fires : Step (⟨{ queue with now := max queue.now timer.due }, hands⟩ : Crew ω)
                  (.fire timer) ⟨WorkQueue.add timer.key { queue with
                    timers := queue.timers.erase timer, now := max queue.now timer.due }, hands⟩ :=
                .fire (by simp [timers])
              have erased : queue.timers.erase timer = rest := by
                rw [timers, List.erase_cons_head]
              rw [erased] at fires
              exact ⟨.wait _ :: .fire timer :: moves, timely, .cons goes_on (.cons fires works)⟩
            · contradiction

/-- The moves agree with what the queue does in one go. -/
structure AgreesWithQueue (crew : Crew ω) : Prop where
  /-- The moves by which a worker settles its key, with nothing in between, come to what
  settling the key is, and to nothing else. -/
  settle : ∀ before after worker key disposition,
    crew.hands = before ++ ⟨worker, key, .passed disposition⟩ :: after → ∀ last,
      Works crew (Move.settling worker key (crew.queue.history.next key).1 disposition) last ↔
        last = ⟨crew.queue.settle key disposition, before ++ after⟩
  /-- Time that passes is a matter of the clock alone. -/
  passUntil : ∀ limit, ∃ moves, moves.all Move.isTimely = true ∧
    Works crew moves ⟨crew.queue.passUntil limit, crew.hands⟩

theorem Sound.agreesWithQueue (sound : crew.Sound) : crew.AgreesWithQueue where
  settle := by
    obtain ⟨queue, hands⟩ := crew
    rintro before after worker key disposition rfl last
    have settles := works_settling queue before after worker key disposition
    constructor
    · exact fun works => (settles.deterministic sound works).symm
    · rintro rfl
      exact settles
  passUntil := works_passUntil crew.queue crew.hands

/-- What is to be worked on changes by additions and hand-outs alone. -/
theorem Step.mem_dirty_iff (step : Step crew move after) (sound : crew.Sound) :
    key ∈ after.queue.dirty ↔
      move.Adds key ∨ (key ∈ crew.queue.dirty ∧ ¬move.HandsOut key) := by
  have opened := sound.opened
  cases step with
  | @notice _ pod =>
      rcases crew.queue.notice_cases pod with ⟨other, works, keyed, noticed⟩ | ⟨idle, noticed⟩
      · have adds : (Move.notice pod : Move ω).Adds key ↔ key = other := by
          simp only [Move.Adds, works, keyed, true_and, Option.some.injEq]
          exact eq_comm
        simp [noticed, WorkQueue.mem_dirty_add opened, adds, Move.HandsOut]
      · simp only [noticed, Move.Adds, Move.HandsOut, idle key, false_or, not_false_eq_true,
          and_true]
  | add => simp [WorkQueue.mem_dirty_add opened, Move.Adds, Move.HandsOut, eq_comm]
  | @fire _ timer pending =>
      refine (WorkQueue.mem_dirty_add ?_).trans ?_
      · exact opened
      · simp [Move.Adds, Move.HandsOut, eq_comm]
  | wait => simp [Move.Adds, Move.HandsOut]
  | handOut taken =>
      rw [WorkQueue.mem_dirty_take? taken]
      simp [Move.Adds, Move.HandsOut, eq_comm]
  | renew => simp [WorkQueue.mem_dirty_add opened, Move.Adds, Move.HandsOut, eq_comm]
  | @defer queue _ _ worker other delay =>
      unfold WorkQueue.addLater
      split
      next undelayed =>
        simp [WorkQueue.mem_dirty_add opened, Move.Adds, Move.HandsOut, undelayed, eq_comm]
      next delayed => split <;> simp [Move.Adds, Move.HandsOut, delayed]
  | _ => simp [Move.Adds, Move.HandsOut, WorkQueue.forget]

/-- A key is to be worked on exactly when it was added since it was last handed out. -/
theorem Works.mem_dirty_iff (works : Works start moves crew) (sound : start.Sound)
    (fresh : start.queue.dirty = []) : key ∈ crew.queue.dirty ↔ Move.AddedSince key moves := by
  induction works with
  | start => simp [fresh, Move.not_addedSince_nil]
  | next works step ih =>
      rw [step.mem_dirty_iff (works.sound sound), ih, Move.addedSince_concat]

end Crew

end NodeGate
