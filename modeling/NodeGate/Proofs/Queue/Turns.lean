import Mathlib.Data.List.Infix
import NodeGate.Proofs.Queue.Exclusion

/-!
# The turns of keys

Keys stand in line. A deed appends the keys that it makes ready to the line, and a hand-out
takes the first key from it, so that over any number of deeds what stood in line and what
became ready, in this order, is what was handed out followed by what still stands there. A
key is therefore handed out after exactly those that stood before it, however often other
keys are added again.
-/

namespace NodeGate

namespace WorkQueue

/-- What an addition of a key makes ready: that key, unless it is to be worked on already or
in hand, or nothing is added any more. -/
def admits (key : String) (queue : WorkQueue) : List String :=
  if queue.shuttingDown ∨ key ∈ queue.dirty ∨ key ∈ queue.inFlight then [] else [key]

/-- What becomes ready while time passes up to the given time, timer by timer. -/
def admitsUntil (limit : Nat) (queue : WorkQueue) : List String :=
  go queue.timers.length queue
where
  /-- What at most a number of timers make ready. -/
  go : Nat → WorkQueue → List String
    | 0, _ => []
    | count + 1, queue =>
      match queue.timers, queue.fireNext? limit with
      | timer :: _, some next => queue.admits timer.key ++ go count next
      | _, _ => []

variable {queue : WorkQueue} {key : String}

theorem ready_add : (queue.add key).ready = queue.ready ++ queue.admits key := by
  unfold add admits
  by_cases awaited : queue.shuttingDown ∨ key ∈ queue.dirty
  · have refused : queue.shuttingDown ∨ key ∈ queue.dirty ∨ key ∈ queue.inFlight :=
      awaited.imp_right .inl
    rw [if_pos awaited, if_pos refused, List.append_nil]
  · rw [if_neg awaited]
    rw [not_or] at awaited
    by_cases inHand : key ∈ queue.inFlight
    · rw [if_pos inHand, if_pos (.inr (.inr inHand)), List.append_nil]
    · rw [if_neg inHand, if_neg (by simp [awaited, inHand])]

theorem ready_addLater {delay : Nat} : (queue.addLater key delay).ready =
    queue.ready ++ if delay = 0 then queue.admits key else [] := by
  unfold addLater
  by_cases undelayed : delay = 0
  · rw [if_pos undelayed, if_pos undelayed, ready_add]
  · rw [if_neg undelayed, if_neg undelayed, List.append_nil]
    split <;> rfl

theorem ready_retry : (queue.retry key).ready =
    queue.ready ++ if (queue.history.next key).1 = 0 then queue.admits key else [] :=
  ready_addLater

theorem ready_passUntil {limit : Nat} :
    (queue.passUntil limit).ready = queue.ready ++ queue.admitsUntil limit := by
  unfold passUntil admitsUntil
  generalize queue.timers.length = count
  induction count generalizing queue with
  | zero => exact (List.append_nil _).symm
  | succ count ih =>
      unfold passUntil.go admitsUntil.go
      cases fired : queue.fireNext? limit with
      | none => cases queue.timers <;> exact (List.append_nil _).symm
      | some next =>
          unfold fireNext? at fired
          split at fired
          · contradiction
          next timer rest timers =>
            split at fired
            · cases fired
              have joined := @ih (add timer.key
                { queue with timers := rest, now := max queue.now timer.due })
              rw [ready_add] at joined
              rw [timers]
              exact joined.trans (List.append_assoc _ _ _)
            · contradiction

theorem ready_finish : (queue.finish key).ready =
    queue.ready ++ if key ∈ queue.dirty ∧ queue.shuttingDown = false then [key] else [] := by
  unfold finish
  dsimp only
  split
  · rfl
  · exact (List.append_nil _).symm

/-- A queue that is open and hands out nothing has nothing to hand out. -/
theorem ready_of_take?_eq_none (nothing : queue.take? = none)
    (opened : queue.shuttingDown = false) : queue.ready = [] := by
  unfold take? at nothing
  rw [opened, if_neg Bool.false_ne_true] at nothing
  split at nothing
  · assumption
  · contradiction

end WorkQueue

/-- The key that a deed hands out. -/
def Deed.handed? {ω : Type} : Deed ω → Option String
  | .handOut _ key => some key
  | _ => none

/-- The keys that deeds hand out, one after the other. -/
def Deed.handedOut {ω : Type} (deeds : List (Deed ω)) : List String :=
  deeds.filterMap Deed.handed?

namespace Workshop

open Deed (handedOut)

variable {ω : Type} [DecidableEq ω]

/-- The keys that a deed makes ready: those that it adds while they are in no one's hands, or
the parked key that it releases. -/
def readied (shop : Workshop ω) : Deed ω → List String
  | .add key => shop.queue.admits key
  | .addLater key delay => if delay = 0 then shop.queue.admits key else []
  | .retry key => if (shop.queue.history.next key).1 = 0 then shop.queue.admits key else []
  | .fire timer => shop.queue.admits timer.key
  | .pass limit => shop.queue.admitsUntil limit
  | .finish _ key =>
    if key ∈ shop.queue.dirty ∧ shop.queue.shuttingDown = false then [key] else []
  | .forget _ | .handOut _ _ | .turnAway _ | .shutDown => []

/-- Deeds lead from one state of the workshop to another, and the keys became ready by them
in this order. -/
inductive Readies : Workshop ω → List (Deed ω) → List String → Workshop ω → Prop where
  | done {shop : Workshop ω} : Readies shop [] [] shop
  | next {shop middle last : Workshop ω} {deed : Deed ω} {deeds : List (Deed ω)}
      {keys : List String} (step : Step shop deed middle)
      (rest : Readies middle deeds keys last) :
      Readies shop (deed :: deeds) (shop.readied deed ++ keys) last

variable {shop after last : Workshop ω} {deed : Deed ω} {deeds : List (Deed ω)}
  {keys : List String} {key : String}

/-- What stood in line and what a deed makes ready is what it hands out and what stands in
line after it. -/
theorem Step.line (step : Step shop deed after) :
    shop.queue.ready ++ shop.readied deed = deed.handed?.toList ++ after.queue.ready := by
  cases step with
  | add => exact WorkQueue.ready_add.symm
  | addLater => exact WorkQueue.ready_addLater.symm
  | retry => exact WorkQueue.ready_retry.symm
  | forget => exact List.append_nil _
  | fire =>
      rw [WorkQueue.ready_add]
      rfl
  | pass => exact WorkQueue.ready_passUntil.symm
  | handOut taken => exact (List.append_nil _).trans (WorkQueue.ready_of_take? taken)
  | turnAway => exact List.append_nil _
  | finish => exact WorkQueue.ready_finish.symm
  | shutDown => exact List.append_nil _

/-- What stood in line and what became ready since, in this order, is what was handed out and
what stands in line now. -/
theorem Readies.line (readies : Readies shop deeds keys last) :
    shop.queue.ready ++ keys = handedOut deeds ++ last.queue.ready := by
  induction readies with
  | done => exact List.append_nil _
  | @next shop middle last deed deeds keys step rest ih =>
      have handed : handedOut (deed :: deeds) = deed.handed?.toList ++ handedOut deeds := by
        unfold handedOut
        cases first : deed.handed? <;> simp [first]
      calc
        shop.queue.ready ++ (shop.readied deed ++ keys)
            = (shop.queue.ready ++ shop.readied deed) ++ keys := (List.append_assoc _ _ _).symm
        _ = deed.handed?.toList ++ (middle.queue.ready ++ keys) := by
              rw [step.line, List.append_assoc]
        _ = handedOut (deed :: deeds) ++ last.queue.ready := by
              rw [ih, handed, List.append_assoc]

theorem Works.readies (works : Works shop deeds last) :
    ∃ keys, Readies shop deeds keys last := by
  induction works with
  | done => exact ⟨[], .done⟩
  | next step _ ih =>
      obtain ⟨keys, readies⟩ := ih
      exact ⟨_, .next step readies⟩

theorem Works.append {later : List (Deed ω)} (works : Works shop deeds after)
    (continues : Works after later last) : Works shop (deeds ++ later) last := by
  induction works with
  | done => exact continues
  | next step _ ih => exact .next step (ih continues)

/-- A key that stands in line is handed out or stands in line still, at the place that is
left of its own when those handed out are gone. -/
theorem Works.getElem?_ready {place : Nat} (works : Works shop deeds last)
    (waits : shop.queue.ready[place]? = some key) :
    (handedOut deeds ++ last.queue.ready)[place]? = some key := by
  obtain ⟨keys, readies⟩ := works.readies
  obtain ⟨within, -⟩ := List.getElem?_eq_some_iff.mp waits
  rw [← readies.line, List.getElem?_append_left within, waits]

/-- What is handed out up to the turn of a key are the keys that stood before it. -/
theorem Works.take_handedOut {count : Nat} (works : Works shop deeds last)
    (within : count ≤ shop.queue.ready.length) :
    (handedOut deeds).take count <+: shop.queue.ready.take count := by
  obtain ⟨keys, readies⟩ := works.readies
  have line : (shop.queue.ready ++ keys).take count = shop.queue.ready.take count :=
    List.take_append_of_le_length within
  rw [← line, readies.line]
  exact List.IsPrefix.take (List.prefix_append _ _) count

/-- Only a shutdown closes a queue. -/
theorem Step.opened (step : Step shop deed after) (stays : deed ≠ .shutDown)
    (opened : shop.queue.shuttingDown = false) : after.queue.shuttingDown = false := by
  cases step with
  | add => exact WorkQueue.shuttingDown_add.trans opened
  | addLater => exact WorkQueue.shuttingDown_addLater.trans opened
  | retry => exact WorkQueue.shuttingDown_addLater.trans opened
  | forget => exact opened
  | fire => exact WorkQueue.shuttingDown_add.trans opened
  | pass =>
      exact WorkQueue.passUntil_keeps (fun queue => queue.shuttingDown = false)
        (fun _ _ opened => WorkQueue.shuttingDown_add.trans opened) (fun _ _ _ opened => opened)
        opened
  | handOut taken => exact (WorkQueue.fields_of_take? taken).2.2.trans opened
  | turnAway => exact opened
  | finish => exact WorkQueue.shuttingDown_finish.trans opened
  | shutDown => contradiction

theorem Works.opened (works : Works shop deeds last) (stays : .shutDown ∉ deeds)
    (opened : shop.queue.shuttingDown = false) : last.queue.shuttingDown = false := by
  induction works with
  | done => exact opened
  | next step _ ih =>
      rw [List.mem_cons, not_or] at stays
      exact ih stays.2 (step.opened (Ne.symm stays.1) opened)

/-- Nobody is turned away while a key stands in line. -/
theorem Works.not_turnAway {place : Nat} (works : Works shop deeds last)
    (opened : shop.queue.shuttingDown = false) (stays : .shutDown ∉ deeds)
    (waits : shop.queue.ready[place]? = some key) (early : (handedOut deeds).length ≤ place)
    (worker : ω) : .turnAway worker ∉ deeds := by
  intro member
  obtain ⟨before, rest, rfl⟩ := List.append_of_mem member
  obtain ⟨middle, next, until_then, step, -⟩ := works.split
  have open_then : middle.queue.shuttingDown = false :=
    until_then.opened (fun closes => stays (List.mem_append_left _ closes)) opened
  have waits_then := until_then.getElem?_ready waits
  cases step with
  | turnAway nothing =>
      rw [WorkQueue.ready_of_take?_eq_none nothing open_then, List.append_nil] at waits_then
      obtain ⟨handed, -⟩ := List.getElem?_eq_some_iff.mp waits_then
      simp only [handedOut, List.filterMap_append, List.length_append] at early handed
      omega

/-- A key at a place of the line is served in its turn by what is done next. -/
structure ServedInTurn (shop : Workshop ω) (key : String) (place : Nat) (later : List (Deed ω))
    (last : Workshop ω) : Prop where
  /-- If so many keys are handed out, the key is the one whose turn it is. -/
  turn : place < (handedOut later).length → (handedOut later)[place]? = some key
  /-- It is not handed out before. -/
  not_before : key ∉ (handedOut later).take place
  /-- Up to its turn just the keys that stood before it are handed out, in order. -/
  ahead : (handedOut later).take (place + 1) <+: shop.queue.ready.take (place + 1)
  /-- Until then no key is handed out twice. -/
  once : ((handedOut later).take (place + 1)).Nodup
  /-- Until then the key moves up. -/
  moves_up : (handedOut later).length ≤ place →
    last.queue.ready[place - (handedOut later).length]? = some key
  /-- Until then every worker who comes is given a key. -/
  served : (handedOut later).length ≤ place → ∀ worker, .turnAway worker ∉ later

/-- Whatever is done with an open queue before and after: the keys became ready in the order
in which they are handed out, those that still stand in line behind them, and a key in line is
handed out when as many keys were as stood before it. -/
theorem handed_out_in_turn {history : RetryHistory} {earlier later : List (Deed ω)}
    (works : Works (⟨{ history }, []⟩ : Workshop ω) earlier shop) (opened : .shutDown ∉ earlier)
    (continues : Works shop later last) (stays : .shutDown ∉ later) :
    Readies ⟨{ history }, []⟩ (earlier ++ later)
        (handedOut (earlier ++ later) ++ last.queue.ready) last ∧
      ∀ place key, shop.queue.ready[place]? = some key →
        ServedInTurn shop key place later last := by
  constructor
  · obtain ⟨keys, readies⟩ := (works.append continues).readies
    rw [← readies.line]
    exact readies
  · intro place key waits
    have orderly : shop.Orderly := works.orderly WorkQueue.orderly_fresh
    have open_now : shop.queue.shuttingDown = false := works.opened opened rfl
    obtain ⟨within, here⟩ := List.getElem?_eq_some_iff.mp waits
    have stands := continues.getElem?_ready waits
    have ahead := continues.take_handedOut (Nat.succ_le_of_lt within)
    refine ⟨?_, ?_, ahead, ?_, ?_, continues.not_turnAway open_now stays waits⟩
    · intro handed
      rwa [List.getElem?_append_left handed] at stands
    · intro before
      have stood := (continues.take_handedOut (Nat.le_of_lt within)).subset before
      obtain ⟨other, lower, same⟩ := List.mem_take_iff_getElem.mp stood
      have same_place := (orderly.ready_nodup.getElem_inj_iff).mp (same.trans here.symm)
      omega
    · exact (orderly.ready_nodup.sublist (List.take_sublist _ _)).sublist ahead.sublist
    · intro early
      rwa [List.getElem?_append_right early] at stands

/-- One key is added again and again while another stands behind it. -/
theorem third_key_served_in_turn :
    let earlier : List (Deed Bool) := [.add "a/p", .handOut true "a/p", .add "a/p", .add "a/q",
      .add "a/r"]
    let later : List (Deed Bool) := [.finish true "a/p", .handOut true "a/q", .add "a/p",
      .add "a/q", .handOut false "a/r"]
    ∃ shop last, Works (⟨{}, []⟩ : Workshop Bool) earlier shop ∧ Works shop later last ∧
      shop.queue.ready = ["a/q", "a/r"] ∧ last.queue.ready = ["a/p"] ∧
      (handedOut later)[1]? = some "a/r" := by
  intro earlier later
  obtain ⟨shop, last, works, continues, line, line_after⟩ :
      ∃ shop last, Works (⟨{}, []⟩ : Workshop Bool) earlier shop ∧ Works shop later last ∧
        shop.queue.ready = ["a/q", "a/r"] ∧ last.queue.ready = ["a/p"] := by
    refine ⟨_, _, .next .add (.next (.handOut rfl) (.next .add (.next .add (.next .add .done)))),
      .next (.finish ?_) (.next (.handOut rfl) (.next .add (.next .add
        (.next (.handOut rfl) .done)))), rfl, rfl⟩
    exact List.mem_cons_self
  have served := (handed_out_in_turn works (by simp [earlier]) continues (by simp [later])).2
    1 "a/r" (by rw [line]; rfl)
  exact ⟨shop, last, works, continues, line, line_after, served.turn (by decide)⟩

end Workshop

end NodeGate
