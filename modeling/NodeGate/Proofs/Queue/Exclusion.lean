import NodeGate.Proofs.Queue.Order

/-!
# The exclusion of workers

A queue and the workers who share it, through any sequence of what is done with
the queue: timers fire whenever they like, workers come in any order, and all
that is asked of them is to end only the work that they hold. No key is ever in
the hands of two workers, and after shutdown none is handed out again.
-/

namespace NodeGate

/-- One thing done with a queue that workers share. -/
inductive Deed (ω : Type) where
  | add (key : String)
  | addLater (key : String) (delay : Nat)
  | retry (key : String)
  | forget (key : String)
  /-- A timer fires, whatever the clock says. -/
  | fire (timer : Timer)
  /-- The clock goes on and fires the timers that fall due. -/
  | pass (limit : Nat)
  /-- A key is handed to a worker. -/
  | handOut (worker : ω) (key : String)
  /-- A worker comes and there is nothing for it. -/
  | turnAway (worker : ω)
  /-- A worker ends the work on a key. -/
  | finish (worker : ω) (key : String)
  | shutDown

/-- A queue and which worker holds which key. -/
structure Workshop (ω : Type) where
  queue : WorkQueue := {}
  hands : List (ω × String) := []

namespace Workshop

variable {ω : Type} [DecidableEq ω]

/-- A deed leads from one state of the workshop to another. A worker gets what the
queue hands out, and ends only what it holds. -/
inductive Step : Workshop ω → Deed ω → Workshop ω → Prop where
  | add {shop : Workshop ω} {key : String} :
      Step shop (.add key) { shop with queue := shop.queue.add key }
  | addLater {shop : Workshop ω} {key : String} {delay : Nat} :
      Step shop (.addLater key delay) { shop with queue := shop.queue.addLater key delay }
  | retry {shop : Workshop ω} {key : String} :
      Step shop (.retry key) { shop with queue := shop.queue.retry key }
  | forget {shop : Workshop ω} {key : String} :
      Step shop (.forget key) { shop with queue := shop.queue.forget key }
  | fire {shop : Workshop ω} {timer : Timer} (pending : timer ∈ shop.queue.timers) :
      Step shop (.fire timer) { shop with
        queue := WorkQueue.add timer.key
          { shop.queue with timers := shop.queue.timers.erase timer } }
  | pass {shop : Workshop ω} {limit : Nat} :
      Step shop (.pass limit) { shop with queue := shop.queue.passUntil limit }
  | handOut {shop : Workshop ω} {worker : ω} {key : String} {after : WorkQueue}
      (taken : shop.queue.take? = some (key, after)) :
      Step shop (.handOut worker key) ⟨after, (worker, key) :: shop.hands⟩
  | turnAway {shop : Workshop ω} {worker : ω} (nothing : shop.queue.take? = none) :
      Step shop (.turnAway worker) shop
  | finish {shop : Workshop ω} {worker : ω} {key : String}
      (holds : (worker, key) ∈ shop.hands) :
      Step shop (.finish worker key)
        ⟨shop.queue.finish key, shop.hands.erase (worker, key)⟩
  | shutDown {shop : Workshop ω} :
      Step shop .shutDown { shop with queue := shop.queue.shutDown }

/-- Deeds lead from one state of the workshop to another, one after the other. -/
inductive Works : Workshop ω → List (Deed ω) → Workshop ω → Prop where
  | done {shop : Workshop ω} : Works shop [] shop
  | next {shop middle last : Workshop ω} {deed : Deed ω} {deeds : List (Deed ω)}
      (step : Step shop deed middle) (rest : Works middle deeds last) :
      Works shop (deed :: deeds) last

/-- The keys that workers hold. -/
def held (shop : Workshop ω) : List String :=
  shop.hands.map Prod.snd

/-- The queue is in order with what the workers hold. -/
def Orderly (shop : Workshop ω) : Prop :=
  shop.queue.Orderly shop.held

variable {shop after : Workshop ω} {worker : ω} {key : String} {deed : Deed ω}
  {deeds : List (Deed ω)}

/-- Ending the work on a key takes that key from what is held, if it is held once. -/
theorem map_snd_erase {hands : List (ω × String)} (holds : (worker, key) ∈ hands)
    (nodup : (hands.map Prod.snd).Nodup) :
    (hands.erase (worker, key)).map Prod.snd = (hands.map Prod.snd).erase key := by
  induction hands with
  | nil => contradiction
  | cons first rest ih =>
      rw [List.map_cons, List.nodup_cons] at nodup
      by_cases same : first = (worker, key)
      · simp [same]
      · have holds : (worker, key) ∈ rest := (List.mem_cons.mp holds).resolve_left (Ne.symm same)
        have other : first.2 ≠ key := by
          intro same
          exact nodup.1 (same ▸ List.mem_map_of_mem holds)
        rw [List.erase_cons_tail (by simpa using same), List.map_cons, List.map_cons,
          List.erase_cons_tail (by simpa using other), ih holds nodup.2]

/-- Every deed keeps the order. -/
theorem Step.orderly (step : Step shop deed after) (orderly : shop.Orderly) : after.Orderly := by
  cases step with
  | add => exact WorkQueue.Orderly.add orderly
  | addLater => exact WorkQueue.Orderly.addLater orderly
  | retry => exact WorkQueue.Orderly.retry orderly
  | forget => exact WorkQueue.Orderly.forget orderly
  | fire => exact (WorkQueue.Orderly.retimed orderly _ _ _).add
  | pass =>
      exact WorkQueue.passUntil_keeps (fun queue => queue.Orderly shop.held)
        (fun _ _ orderly => orderly.add) (fun _ _ _ orderly => orderly.retimed _ _ _) orderly
  | handOut taken => exact WorkQueue.Orderly.take orderly taken
  | turnAway => exact orderly
  | @finish worker key holds =>
      have inHand : key ∈ shop.held := List.mem_map_of_mem holds
      have ended := WorkQueue.Orderly.finish orderly inHand
      rw [held, ← map_snd_erase holds orderly.held_nodup] at ended
      exact ended
  | shutDown => exact WorkQueue.Orderly.shutDown orderly

/-- What starts in order stays in order. -/
theorem Works.orderly (works : Works shop deeds after) (orderly : shop.Orderly) :
    after.Orderly := by
  induction works with
  | done => exact orderly
  | next step _ ih => exact ih (step.orderly orderly)

/-- No deed undoes a shutdown. -/
theorem Step.shuttingDown (step : Step shop deed after)
    (closed : shop.queue.shuttingDown = true) : after.queue.shuttingDown = true := by
  cases step with
  | add => exact WorkQueue.shuttingDown_add.trans closed
  | addLater => exact WorkQueue.shuttingDown_addLater.trans closed
  | retry => exact WorkQueue.shuttingDown_addLater.trans closed
  | forget => exact closed
  | fire => exact WorkQueue.shuttingDown_add.trans closed
  | pass => exact WorkQueue.shuttingDown_passUntil closed
  | handOut taken => exact (WorkQueue.fields_of_take? taken).2.2.trans closed
  | turnAway => exact closed
  | finish => exact WorkQueue.shuttingDown_finish.trans closed
  | shutDown => rfl

/-- A queue that was shut down hands nothing out, whatever is done with it. -/
theorem Works.no_handOut (works : Works shop deeds after)
    (closed : shop.queue.shuttingDown = true) (worker : ω) (key : String) :
    .handOut worker key ∉ deeds := by
  induction works with
  | done => exact List.not_mem_nil
  | next step _ ih =>
      rw [List.mem_cons, not_or]
      refine ⟨?_, ih (step.shuttingDown closed)⟩
      rintro rfl
      cases step with
      | handOut taken =>
          rw [WorkQueue.take?_eq_none_of_shuttingDown closed] at taken
          contradiction

/-- Deeds in a row can be parted anywhere. -/
theorem Works.split {before rest : List (Deed ω)}
    (works : Works shop (before ++ deed :: rest) after) :
    ∃ middle next, Works shop before middle ∧ Step middle deed next ∧ Works next rest after := by
  induction before generalizing shop with
  | nil =>
      cases works with
      | next step rest => exact ⟨_, _, .done, step, rest⟩
  | cons first before ih =>
      cases works with
      | next step rest =>
          obtain ⟨middle, next, works, last, rest⟩ := ih rest
          exact ⟨middle, next, .next step works, last, rest⟩

/-- Whatever is done with a queue and in whatever order: no key is ready twice; what
is ready is to be worked on and in no one's hands; until shutdown a key is to be
worked on exactly when it is either ready or parked; what is in hand is what workers
hold, and no two of them hold one key. Once the queue is shut down, no key is handed
out. -/
theorem keys_in_one_hand {history : RetryHistory}
    (works : Works (⟨{ history }, []⟩ : Workshop ω) deeds shop) :
    (shop.queue.ready.Nodup ∧
      (∀ key ∈ shop.queue.ready, key ∈ shop.queue.dirty ∧ key ∉ shop.queue.inFlight) ∧
      (shop.queue.shuttingDown = false → ∀ key, key ∈ shop.queue.dirty ↔
        Xor (key ∈ shop.queue.ready) (key ∈ shop.queue.dirty ∧ key ∈ shop.queue.inFlight)) ∧
      (∀ key, key ∈ shop.queue.inFlight ↔ ∃ worker, (worker, key) ∈ shop.hands) ∧
      (∀ one other key, (one, key) ∈ shop.hands → (other, key) ∈ shop.hands → one = other) ∧
      shop.held.Nodup) ∧
    ∀ before after, deeds = before ++ .shutDown :: after →
      ∀ worker key, .handOut worker key ∉ after := by
  have orderly : shop.Orderly := works.orderly WorkQueue.orderly_fresh
  refine ⟨⟨orderly.ready_nodup, ?_, ?_, ?_, ?_, orderly.held_nodup⟩, ?_⟩
  · intro key ready
    exact ⟨orderly.dirty_of_ready key ready, orderly.resting_of_ready key ready⟩
  · intro opened key
    constructor
    · intro dirty
      rcases orderly.ready_or_inFlight opened key dirty with ready | inHand
      · exact .inl ⟨ready, fun parked => orderly.resting_of_ready key ready parked.2⟩
      · exact .inr ⟨⟨dirty, inHand⟩, fun ready => orderly.resting_of_ready key ready inHand⟩
    · rintro (⟨ready, -⟩ | ⟨parked, -⟩)
      · exact orderly.dirty_of_ready key ready
      · exact parked.1
  · intro key
    rw [orderly.mem_inFlight_iff]
    simp [held]
  · intro one other key oneHolds otherHolds
    have same := List.inj_on_of_nodup_map orderly.held_nodup oneHolds otherHolds rfl
    exact congrArg Prod.fst same
  · rintro before after rfl worker key
    obtain ⟨middle, next, -, step, rest⟩ := works.split
    cases step
    exact rest.no_handOut rfl worker key

/-- A key that is added again while it is in hand is parked, and handed out once
more when the work on it ended. -/
theorem parked_key_in_one_hand :
    let deeds : List (Deed Bool) :=
      [.add "a/p", .handOut true "a/p", .add "a/p", .turnAway false, .finish true "a/p",
        .handOut false "a/p", .shutDown, .turnAway true]
    ∃ shop, Works (⟨{}, []⟩ : Workshop Bool) deeds shop ∧ shop.hands = [(false, "a/p")] ∧
      shop.held.Nodup := by
  intro deeds
  obtain ⟨shop, works, hands⟩ : ∃ shop, Works (⟨{}, []⟩ : Workshop Bool) deeds shop ∧
      shop.hands = [(false, "a/p")] := by
    refine ⟨_, .next .add (.next (.handOut rfl) (.next .add (.next (.turnAway rfl) (.next
      (.finish ?_) (.next (.handOut rfl) (.next .shutDown (.next (.turnAway rfl) .done))))))), rfl⟩
    exact List.mem_cons_self
  exact ⟨shop, works, hands, (keys_in_one_hand works).1.2.2.2.2.2⟩

end Workshop

end NodeGate
