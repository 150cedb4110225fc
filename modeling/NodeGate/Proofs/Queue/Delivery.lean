import NodeGate.Proofs.Queue.Crew

/-!
# The delivery of updates

Nothing that happens between the steps of settling a key makes an update be lost or
invented. While a worker has a key in hand, no one else has a part in its failures, so
that each stage of the worker tells what was done with the queue for the key since it was
handed out. A worker that has settled a key leaves it queued exactly when its pass asked
for that or the key was added meanwhile.
-/

namespace NodeGate

namespace WorkQueue

/-- The failures of a key, and with them its next delay, are those that they were. -/
structure SameFailures (key : String) (earlier queue : WorkQueue) : Prop where
  requeues_eq : queue.requeues key = earlier.requeues key
  delay_eq : (queue.history.next key).1 = (earlier.history.next key).1

theorem SameFailures.of_history {key : String} {earlier queue : WorkQueue}
    (same : queue.history = earlier.history) : SameFailures key earlier queue := by
  constructor
  · rw [requeues, same, requeues]
  · rw [same]

theorem SameFailures.trans {key : String} {earlier middle queue : WorkQueue}
    (first : SameFailures key earlier middle) (second : SameFailures key middle queue) :
    SameFailures key earlier queue :=
  ⟨second.requeues_eq.trans first.requeues_eq, second.delay_eq.trans first.delay_eq⟩

end WorkQueue

/-- Since a key was handed out one delayed addition of it was made, after its next
delay: without a delay it was added at once, and else its timer was set, which is still
pending unless it fired. -/
def Deferred {ω : Type} (key : String) (earlier queue : WorkQueue) (during : List (Move ω)) :
    Prop :=
  let delay := (earlier.history.next key).1
  during.filterMap (Move.delay? key) = [delay] ∧
    (delay = 0 → ∃ move ∈ during, move.Adds key) ∧
    (0 < delay → ∃ due, earlier.now + delay ≤ due ∧ due ≤ queue.now + delay ∧
      (⟨due, key⟩ ∈ queue.timers ∨ .fire ⟨due, key⟩ ∈ during))

/-- A key was settled as the disposition asks since it was handed out. -/
def Settled {ω : Type} (key : String) (earlier queue : WorkQueue) (during : List (Move ω)) :
    Disposition → Prop
  | .immediate => queue.requeues key = 0 ∧ during.filterMap (Move.delay? key) = [] ∧
      ∃ move ∈ during, move.Adds key
  | .backOff => queue.requeues key = min (earlier.requeues key + 1) RetryHistory.maxFailures ∧
      Deferred key earlier queue during
  | .forget => queue.requeues key = 0 ∧ during.filterMap (Move.delay? key) = []

/-- What a worker did with the queue for a key since it took the key is what its stage
says. -/
def Stage.Fits {ω : Type} (key : String) (earlier queue : WorkQueue) (during : List (Move ω)) :
    Stage → Prop
  | .passing | .passed _ => WorkQueue.SameFailures key earlier queue ∧
      during.filterMap (Move.delay? key) = []
  | .renewing => queue.requeues key = 0 ∧ during.filterMap (Move.delay? key) = []
  | .deferring delay => delay = (earlier.history.next key).1 ∧
      queue.requeues key = min (earlier.requeues key + 1) RetryHistory.maxFailures ∧
      during.filterMap (Move.delay? key) = []
  | .settled disposition => Settled key earlier queue during disposition

namespace Crew

variable {ω : Type} {start crew after : Crew ω} {move : Move ω} {moves : List (Move ω)}
  {key : String}

/-- Only a worker with the key has a part in its failures. -/
theorem Step.sameFailures (step : Step crew move after) (away : ¬move.Handles key) :
    WorkQueue.SameFailures key crew.queue after.queue := by
  cases step with
  | @notice _ pod =>
      rcases crew.queue.notice_cases pod with ⟨other, -, -, noticed⟩ | ⟨-, noticed⟩ <;>
        exact .of_history (by simp [noticed])
  | clear | drop =>
      have distinct := Ne.symm away
      exact ⟨RetryHistory.failuresOf_forget_of_ne distinct _,
        RetryHistory.delay_forget_of_ne distinct _⟩
  | count =>
      have distinct := Ne.symm away
      exact ⟨RetryHistory.failuresOf_next_of_ne distinct _,
        RetryHistory.delay_next_of_ne distinct _⟩
  | handOut taken => exact .of_history (WorkQueue.aside_of_take? taken).1
  | _ => exact .of_history (by simp)

/-- The clock never goes back. -/
theorem Step.now_le (step : Step crew move after) : crew.queue.now ≤ after.queue.now := by
  cases step with
  | @notice _ pod =>
      rcases crew.queue.notice_cases pod with ⟨other, -, -, noticed⟩ | ⟨-, noticed⟩ <;>
        simp [noticed]
  | wait later => exact later
  | handOut taken => simp [(WorkQueue.aside_of_take? taken).2.2]
  | clear | drop => exact Nat.le_refl _
  | _ => simp

/-- A timer is pending until it fires. -/
theorem Step.timer_pending {timer : Timer} (step : Step crew move after)
    (pending : timer ∈ crew.queue.timers) :
    timer ∈ after.queue.timers ∨ move = .fire timer := by
  cases step with
  | @notice _ pod =>
      rcases crew.queue.notice_cases pod with ⟨other, -, -, noticed⟩ | ⟨-, noticed⟩ <;>
        simp [noticed, pending]
  | @fire _ fired =>
      by_cases same : timer = fired
      · exact .inr (same ▸ rfl)
      · exact .inl (by simp [List.mem_erase_of_ne same, pending])
  | handOut taken => simp [(WorkQueue.aside_of_take? taken).2.1, pending]
  | defer => exact .inl (WorkQueue.mem_timers_addLater pending)
  | clear | drop => exact .inl pending
  | _ => simp_all

/-- What a worker did for its stage stays done while it has no part in what happens. -/
theorem fits_away {stage : Stage} {earlier : WorkQueue} {during : List (Move ω)}
    (fits : stage.Fits key earlier crew.queue during) (step : Step crew move after)
    (away : ¬move.Handles key) : stage.Fits key earlier after.queue (during ++ [move]) := by
  have same := step.sameFailures away
  have delays : (during ++ [move]).filterMap (Move.delay? key) =
      during.filterMap (Move.delay? key) := by
    simp [Move.delay?_eq_none away]
  have added (adds : ∃ move ∈ during, move.Adds key) :
      ∃ other ∈ during ++ [move], other.Adds key := by
    obtain ⟨other, member, adds⟩ := adds
    exact ⟨other, List.mem_append_left _ member, adds⟩
  cases stage with
  | passing => exact ⟨fits.1.trans same, delays.trans fits.2⟩
  | passed => exact ⟨fits.1.trans same, delays.trans fits.2⟩
  | renewing => exact ⟨same.requeues_eq.trans fits.1, delays.trans fits.2⟩
  | deferring delay =>
      exact ⟨fits.1, same.requeues_eq.trans fits.2.1, delays.trans fits.2.2⟩
  | settled disposition =>
      cases disposition with
      | immediate =>
          exact ⟨same.requeues_eq.trans fits.1, delays.trans fits.2.1, added fits.2.2⟩
      | forget => exact ⟨same.requeues_eq.trans fits.1, delays.trans fits.2⟩
      | backOff =>
          obtain ⟨counted, deferred, undelayed, delayed⟩ := fits
          refine ⟨same.requeues_eq.trans counted, delays.trans deferred, ?_, ?_⟩
          · exact fun zero => added (undelayed zero)
          · intro positive
            obtain ⟨due, early, late, pending | fired⟩ := delayed positive
            · have late : due ≤ after.queue.now + _ :=
                Nat.le_trans late (Nat.add_le_add_right step.now_le _)
              rcases step.timer_pending pending with pending | rfl
              · exact ⟨due, early, late, .inl pending⟩
              · exact ⟨due, early, late, .inr (by simp)⟩
            · exact ⟨due, early, Nat.le_trans late (Nat.add_le_add_right step.now_le _),
                .inr (List.mem_append_left _ fired)⟩

/-- The worker took its key at some time, the key was not handed out since, and what was
done since fits the stage that the worker is in. -/
def Accounted (start : Crew ω) (moves : List (Move ω)) (queue : WorkQueue) (hand : Hand ω) :
    Prop :=
  ∃ before during earlier, Works start before earlier ∧
    moves = before ++ .handOut hand.worker hand.key :: during ∧
    (∀ move ∈ during, ¬move.HandsOut hand.key) ∧ earlier.queue.now ≤ queue.now ∧
    hand.stage.Fits hand.key earlier.queue queue during

/-- A move that is none of a hand's keeps it accounted for. -/
theorem Accounted.away {hand : Hand ω} (accounted : Accounted start moves crew.queue hand)
    (step : Step crew move after) (away : ¬move.Handles hand.key) :
    Accounted start (moves ++ [move]) after.queue hand := by
  obtain ⟨before, during, earlier, works, rfl, kept, past, fits⟩ := accounted
  refine ⟨before, during ++ [move], earlier, works, by simp, ?_,
    Nat.le_trans past step.now_le, fits_away fits step away⟩
  intro other member
  rcases List.mem_append.mp member with member | member
  · exact kept other member
  · rw [List.mem_singleton.mp member]
    exact fun handsOut => away handsOut.handles

/-- A move of a hand brings it to its next stage. -/
theorem Accounted.next {hand : Hand ω} {queue next : WorkQueue} {stage : Stage}
    (accounted : Accounted start moves queue hand) (keeps : ¬move.HandsOut hand.key)
    (clock : next.now = queue.now)
    (fits : ∀ earlier during, earlier.now ≤ queue.now →
      hand.stage.Fits hand.key earlier queue during →
        stage.Fits hand.key earlier next (during ++ [move])) :
    Accounted start (moves ++ [move]) next ⟨hand.worker, hand.key, stage⟩ := by
  obtain ⟨before, during, earlier, works, rfl, kept, past, done⟩ := accounted
  refine ⟨before, during ++ [move], earlier, works, by simp, ?_, clock ▸ past,
    fits _ _ past done⟩
  intro other member
  rcases List.mem_append.mp member with member | member
  · exact kept other member
  · rw [List.mem_singleton.mp member]
    exact keeps

/-- A move of one hand keeps the others accounted for. -/
theorem Step.others_accounted {queue : WorkQueue} {before rest : List (Hand ω)} {hand : Hand ω}
    (step : Step ⟨queue, before ++ hand :: rest⟩ move after)
    (sound : Sound ⟨queue, before ++ hand :: rest⟩)
    (only : ∀ key, move.Handles key → key = hand.key)
    (all : ∀ other ∈ before ++ hand :: rest, Accounted start moves queue other) :
    ∀ other ∈ before ++ rest, Accounted start (moves ++ [move]) after.queue other := by
  intro other member
  have away : ¬move.Handles other.key :=
    fun handles => key_ne sound.orderly.held_nodup member (only _ handles)
  have among : other ∈ before ++ hand :: rest := by
    rcases List.mem_append.mp member with member | member <;> simp [member]
  exact (all other among).away step away

theorem forall_restaged {before rest : List (Hand ω)} {hand : Hand ω} {property : Hand ω → Prop}
    (own : property hand) (others : ∀ other ∈ before ++ rest, property other) :
    ∀ other ∈ before ++ hand :: rest, property other := by
  intro other member
  rcases List.mem_append.mp member with member | member
  · exact others other (List.mem_append_left _ member)
  · rcases List.mem_cons.mp member with rfl | member
    · exact own
    · exact others other (List.mem_append_right _ member)

/-- Every move keeps every hand accounted for. -/
theorem Step.accounted (step : Step crew move after) (works : Works start moves crew)
    (sound : crew.Sound) (all : ∀ hand ∈ crew.hands, Accounted start moves crew.queue hand) :
    ∀ hand ∈ after.hands, Accounted start (moves ++ [move]) after.queue hand := by
  cases step with
  | notice => exact fun hand member => (all hand member).away .notice id
  | add => exact fun hand member => (all hand member).away .add id
  | fire pending => exact fun hand member => (all hand member).away (.fire pending) id
  | wait later => exact fun hand member => (all hand member).away (.wait later) id
  | @handOut _ worker key queue taken =>
      have aside := WorkQueue.aside_of_take? taken
      intro hand member
      rcases List.mem_cons.mp member with rfl | among
      · exact ⟨moves, [], crew, works, rfl, by simp, Nat.le_of_eq aside.2.2.symm,
          .of_history aside.1, rfl⟩
      · refine (all hand among).away (.handOut taken) ?_
        rintro rfl
        have ready : hand.key ∈ crew.queue.ready := by
          rw [WorkQueue.ready_of_take? taken]
          exact List.mem_cons_self
        apply sound.orderly.resting_of_ready _ ready
        rw [sound.orderly.mem_inFlight_iff]
        exact List.mem_map_of_mem among
  | @decide queue before rest worker key disposition =>
      refine forall_restaged ?_ (Step.decide.others_accounted sound (fun _ => Eq.symm) all)
      refine (all ⟨worker, key, .passing⟩ (by simp)).next id rfl ?_
      exact fun earlier during _ fits => ⟨fits.1, by simp [Move.delay?, fits.2]⟩
  | @clear queue before rest worker key =>
      refine forall_restaged ?_ (Step.clear.others_accounted sound (fun _ => Eq.symm) all)
      refine (all ⟨worker, key, .passed .immediate⟩ (by simp)).next id rfl ?_
      intro earlier during _ fits
      exact ⟨RetryHistory.failuresOf_forget_self _ _, by simp [Move.delay?, fits.2]⟩
  | @renew queue before rest worker key =>
      refine forall_restaged ?_ (Step.renew.others_accounted sound (fun _ => Eq.symm) all)
      refine (all ⟨worker, key, .renewing⟩ (by simp)).next id WorkQueue.aside_add.2.2 ?_
      intro earlier during _ fits
      refine ⟨?_, by simp [Move.delay?, fits.2], .renew worker key, by simp, rfl⟩
      rw [WorkQueue.requeues, WorkQueue.aside_add.1]
      exact fits.1
  | @count queue before rest worker key =>
      refine forall_restaged ?_ (Step.count.others_accounted sound (fun _ => Eq.symm) all)
      refine (all ⟨worker, key, .passed .backOff⟩ (by simp)).next id rfl ?_
      intro earlier during _ fits
      refine ⟨fits.1.delay_eq, ?_, by simp [Move.delay?, fits.2]⟩
      rw [← fits.1.requeues_eq]
      exact RetryHistory.failuresOf_next_self _ _
  | @defer queue before rest worker key delay =>
      refine forall_restaged ?_ (Step.defer.others_accounted sound (fun _ => Eq.symm) all)
      refine (all ⟨worker, key, .deferring delay⟩ (by simp)).next id WorkQueue.aside_addLater.2 ?_
      rintro earlier during past ⟨delay_eq, counted, undeferred⟩
      obtain rfl : delay = (earlier.history.next key).1 := delay_eq
      refine ⟨?_, by simp [Move.delay?, undeferred], ?_, ?_⟩
      · rw [WorkQueue.requeues, WorkQueue.aside_addLater.1]
        exact counted
      · exact fun zero => ⟨.defer worker key _, by simp, rfl, zero⟩
      · intro positive
        refine ⟨queue.now + _, Nat.add_le_add_right past _, by simp, .inl ?_⟩
        exact WorkQueue.timer_mem_addLater sound.opened positive
  | @drop queue before rest worker key =>
      refine forall_restaged ?_ (Step.drop.others_accounted sound (fun _ => Eq.symm) all)
      refine (all ⟨worker, key, .passed .forget⟩ (by simp)).next id rfl ?_
      intro earlier during _ fits
      exact ⟨RetryHistory.failuresOf_forget_self _ _, by simp [Move.delay?, fits.2]⟩
  | finish => exact Step.finish.others_accounted sound (fun _ => Eq.symm) all
  | release => exact Step.release.others_accounted sound (fun _ => Eq.symm) all

theorem Works.accounted (works : Works start moves crew) (sound : start.Sound)
    (idle : start.hands = []) :
    ∀ hand ∈ crew.hands, Accounted start moves crew.queue hand := by
  induction works with
  | start => simp [idle]
  | next works step ih => exact step.accounted works (works.sound sound) ih

/-- A crew that has done nothing yet. -/
theorem sound_fresh {history : RetryHistory} : Sound (⟨{ history }, []⟩ : Crew ω) :=
  ⟨rfl, WorkQueue.orderly_fresh⟩

/-- A key in no one's hands is ready when it is to be worked on. -/
theorem Sound.mem_ready_iff (sound : crew.Sound) (unheld : key ∉ crew.queue.inFlight) :
    key ∈ crew.queue.ready ↔ key ∈ crew.queue.dirty := by
  constructor
  · exact sound.orderly.dirty_of_ready key
  · intro dirty
    exact (sound.orderly.ready_or_inFlight sound.opened key dirty).resolve_right unheld

/-- Ending the work on a key changes nothing about how the key was settled. -/
theorem settled_finish {queue earlier : WorkQueue} {during : List (Move ω)}
    {disposition : Disposition} (settled : Settled key earlier queue during disposition) :
    Settled key earlier (queue.finish key) during disposition := by
  cases disposition <;>
    simpa [Settled, Deferred, WorkQueue.requeues] using settled

/-- A worker that ends its work on a key that it settled took the key at some time, the
key was not handed out since, and it was settled as its disposition asks. The key is now
in no one's hands, and it is ready, once, exactly when the pass asked for that or the key
was added since it was handed out. -/
theorem Works.finish_leaves {worker : ω} {disposition : Disposition}
    (works : Works start moves crew) (sound : start.Sound) (fresh : start.queue.dirty = [])
    (idle : start.hands = []) (step : Step crew (.finish worker key disposition) after) :
    ∃ before during earlier, Works start before earlier ∧
      moves = before ++ .handOut worker key :: during ∧
      (∀ move ∈ during, ¬move.HandsOut key) ∧
      key ∉ after.queue.inFlight ∧ after.queue.ready.count key ≤ 1 ∧
      (key ∈ after.queue.ready ↔
        disposition = .immediate ∨ ∃ move ∈ during, move.Adds key) ∧
      Settled key earlier.queue after.queue during disposition := by
  have ended : after.Sound := (works.sound sound).step step
  have dirty_iff : key ∈ after.queue.dirty ↔ Move.AddedSince key moves := by
    rw [(works.next step).mem_dirty_iff sound fresh, Move.addedSince_concat]
    simp [Move.Adds, Move.HandsOut]
  have accounted := works.accounted sound idle
  cases step with
  | @finish queue hands rest =>
      obtain ⟨before, during, earlier, first, rfl, kept, -, settled⟩ :=
        accounted ⟨worker, key, .settled disposition⟩ (by simp)
      have unheld : key ∉ (queue.finish key).inFlight := WorkQueue.not_mem_inFlight_finish
      have ready_iff : key ∈ (queue.finish key).ready ↔ ∃ move ∈ during, move.Adds key := by
        rw [← Move.addedSince_handOut kept, ← dirty_iff]
        exact ended.mem_ready_iff unheld
      refine ⟨before, during, earlier, first, rfl, kept, unheld, ?_, ?_, settled_finish settled⟩
      · exact List.nodup_iff_count_le_one.mp ended.orderly.ready_nodup key
      · rw [ready_iff]
        constructor
        · exact .inr
        · rintro (rfl | added)
          · exact settled.2.2
          · exact added

/-- Whatever happens around an open queue and in whatever order, what the workers do agrees
with the functions of the queue. A key is to be worked on exactly when it was added since it
was last handed out; a key is handed out only if it was added since it was handed out before;
and a worker that has settled a key leaves it in no one's hands and queued once exactly when
its pass asked for that or the key was added in the meantime. Its failures are then cleared,
or after a pass that backs off counted, with one delayed addition made after the delay that
was due when the key was handed out. -/
theorem updates_delivered {history : RetryHistory}
    (works : Works (⟨{ history }, []⟩ : Crew ω) moves crew) :
    crew.AgreesWithQueue ∧
    (∀ key, key ∈ crew.queue.dirty ↔ Move.AddedSince key moves) ∧
    (∀ before worker key rest, moves = before ++ .handOut worker key :: rest →
      Move.AddedSince key before) ∧
    ∀ worker key disposition after, Step crew (.finish worker key disposition) after →
      ∃ before during earlier, Works ⟨{ history }, []⟩ before earlier ∧
        moves = before ++ .handOut worker key :: during ∧
        (∀ move ∈ during, ¬move.HandsOut key) ∧
        key ∉ after.queue.inFlight ∧ after.queue.ready.count key ≤ 1 ∧
        (key ∈ after.queue.ready ↔
          disposition = .immediate ∨ ∃ move ∈ during, move.Adds key) ∧
        Settled key earlier.queue after.queue during disposition := by
  refine ⟨(works.sound sound_fresh).agreesWithQueue, ?_, ?_, ?_⟩
  · intro key
    exact works.mem_dirty_iff sound_fresh rfl
  · rintro before worker key rest rfl
    obtain ⟨middle, next, until_then, step⟩ := works.split
    cases step with
    | handOut taken =>
        have ready : key ∈ middle.queue.ready := by
          rw [WorkQueue.ready_of_take? taken]
          exact List.mem_cons_self
        rw [← until_then.mem_dirty_iff sound_fresh rfl]
        exact (until_then.sound sound_fresh).orderly.dirty_of_ready key ready
  · intro worker key disposition after step
    exact works.finish_leaves sound_fresh rfl rfl step

/-- A pod is noticed again while a pass over it backs off: its key ends up queued once,
with its timer still pending. -/
theorem update_during_pass_delivered :
    let moves : List (Move Bool) :=
      [.add "a/p", .handOut true "a/p", .decide true "a/p" .backOff, .add "a/p",
        .count true "a/p", .defer true "a/p" 5, .finish true "a/p" .backOff]
    ∃ crew, Works (⟨{}, []⟩ : Crew Bool) moves crew ∧ Move.AddedSince "a/p" moves ∧
      crew.queue.ready = ["a/p"] ∧ crew.queue.timers = [⟨5, "a/p"⟩] := by
  intro moves
  obtain ⟨crew, works, dirty, ready, timers⟩ : ∃ crew,
      Works (⟨{}, []⟩ : Crew Bool) moves crew ∧ crew.queue.dirty = ["a/p"] ∧
        crew.queue.ready = ["a/p"] ∧ crew.queue.timers = [⟨5, "a/p"⟩] := by
    refine ⟨_, .cons .add (.cons (.handOut rfl) (.cons (@Step.decide _ _ [] [] _ _ _) (.cons .add
      (.cons (@Step.count _ _ [] [] _ _) (.cons (@Step.defer _ _ [] [] _ _ _)
        (.cons (@Step.finish _ _ [] [] _ _ _) .start)))))), rfl, rfl, rfl⟩
  refine ⟨crew, works, ?_, ready, timers⟩
  rw [← (updates_delivered works).2.1 "a/p", dirty]
  exact List.mem_singleton.mpr rfl

end Crew

end NodeGate
