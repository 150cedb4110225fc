import Mathlib.Algebra.Group.Nat.Defs
import Mathlib.Data.List.DropRight
import Mathlib.Order.MinMax
import NodeGate.Queue.RetryHistory

/-!
# Retry delays

The delay of a key is the base doubled for each failure in a row, up to the ceiling. It is
told here when the delay that is computed is exactly that, and that a history gives each key
the delays of its own failures since it was forgotten, whatever is asked of other keys in
between.
-/

namespace NodeGate.RetryHistory

variable {base ceiling failures more : Nat}

/-- The delay that is computed when the power of two has to fit into thirty-two bits and the
product must not exceed the longest delay; what does not fit counts as the ceiling. -/
def boundedDelay (longest failures base ceiling : Nat) : Nat :=
  if 2 ^ failures < 2 ^ 32 ∧ base * 2 ^ failures ≤ longest then
    min (base * 2 ^ failures) ceiling
  else ceiling

/-- The bound of the product does not show, because the ceiling is below it. -/
theorem boundedDelay_eq_delayAfter {longest : Nat} (within : ceiling ≤ longest) :
    boundedDelay longest failures base ceiling = delayAfter failures base ceiling := by
  have fits : 2 ^ failures < 2 ^ 32 ↔ failures < 32 := Nat.pow_lt_pow_iff_right (by decide)
  rw [boundedDelay, delayAfter]
  by_cases few : failures < 32
  · by_cases short : base * 2 ^ failures ≤ longest
    · rw [if_pos ⟨fits.mpr few, short⟩, if_pos few]
      rfl
    · have capped : ceiling ≤ base * 2 ^ failures := within.trans (not_le.mp short).le
      rw [if_neg fun both => short both.2, if_pos few]
      exact (min_eq_right capped).symm
  · rw [if_neg fun both => few (fits.mp both.1), if_neg few]

/-- The delay follows the law exactly while the power of two fits into thirty-two bits, and
after that exactly if the doubled base has reached the ceiling. -/
theorem delayAfter_exact_iff (failures base ceiling : Nat) :
    delayAfter failures base ceiling = min (base * 2 ^ failures) ceiling ↔
      failures < 32 ∨ ceiling ≤ base * 2 ^ failures := by
  rw [delayAfter]
  by_cases few : failures < 32
  · rw [if_pos few]
    exact iff_of_true rfl (.inl few)
  · rw [if_neg few, eq_comm, min_eq_right_iff]
    exact ⟨.inr, fun capped => capped.resolve_left few⟩

/-- A short base leaves a long ceiling out of reach of thirty-two doublings, and the ceiling
is the delay all the same. -/
theorem short_base_waits_ceiling : delayAfter 32 1 (10 ^ 10) = 10 ^ 10 ∧
    delayAfter 32 1 (10 ^ 10) ≠ min (1 * 2 ^ 32) (10 ^ 10) := by
  decide

theorem delayAfter_le_ceiling : delayAfter failures base ceiling ≤ ceiling := by
  rw [delayAfter]
  split
  · exact min_le_right _ _
  · exact le_rfl

/-- More failures never make a delay shorter. -/
theorem delayAfter_mono (fewer : failures ≤ more) :
    delayAfter failures base ceiling ≤ delayAfter more base ceiling := by
  by_cases few : more < 32
  · rw [delayAfter, delayAfter, if_pos (fewer.trans_lt few), if_pos few]
    exact min_le_min_right _ (Nat.mul_le_mul_left _ (Nat.pow_le_pow_right (by decide) fewer))
  · have last : delayAfter more base ceiling = ceiling := by rw [delayAfter, if_neg few]
    rw [last]
    exact delayAfter_le_ceiling

/-- What may be asked of a history. -/
inductive Request where
  /-- The delay before the next retry of a key. -/
  | next (key : String)
  | forget (key : String)
deriving DecidableEq

namespace Request

/-- The key that the request is about. -/
def key : Request → String
  | .next key => key
  | .forget key => key

/-- The history after a request. -/
def perform (history : RetryHistory) : Request → RetryHistory
  | .next key => (history.next key).2
  | .forget key => history.forget key

end Request

/-- The history after requests in turn. -/
def performAll (history : RetryHistory) (requests : List Request) : RetryHistory :=
  requests.foldl Request.perform history

/-- The requests since a key was forgotten, or since the start. -/
def sinceForgotten (key : String) (requests : List Request) : List Request :=
  requests.rtakeWhile (· ≠ .forget key)

/-- How often the delay of a key was asked for since the key was forgotten. -/
def retries (key : String) (requests : List Request) : Nat :=
  (sinceForgotten key requests).count (.next key)

section Requests

variable {key : String} {history : RetryHistory} {requests later : List Request}
  {request : Request}

@[simp]
theorem performAll_concat :
    history.performAll (requests ++ [request]) = request.perform (history.performAll requests) := by
  simp [performAll]

@[simp]
theorem base_performAll : (history.performAll requests).base = history.base := by
  induction requests using List.reverseRecOn with
  | nil => rfl
  | append_singleton requests request ih =>
      rw [performAll_concat, ← ih]
      cases request <;> rfl

@[simp]
theorem ceiling_performAll : (history.performAll requests).ceiling = history.ceiling := by
  induction requests using List.reverseRecOn with
  | nil => rfl
  | append_singleton requests request ih =>
      rw [performAll_concat, ← ih]
      cases request <;> rfl

@[simp]
theorem retries_nil : retries key [] = 0 :=
  rfl

@[simp]
theorem retries_next : retries key (requests ++ [.next key]) = retries key requests + 1 := by
  simp [retries, sinceForgotten]

@[simp]
theorem retries_forget : retries key (requests ++ [.forget key]) = 0 := by
  simp [retries, sinceForgotten]

/-- A request about another key does not count. -/
theorem retries_of_ne (other : request.key ≠ key) :
    retries key (requests ++ [request]) = retries key requests := by
  cases request with
  | next asked =>
      have unequal : asked ≠ key := other
      simp [retries, sinceForgotten, unequal]
  | forget asked =>
      have unequal : asked ≠ key := other
      simp [retries, sinceForgotten, unequal]

/-- Only the requests about a key itself count for it. -/
theorem retries_filter :
    retries key (requests.filter (·.key = key)) = retries key requests := by
  induction requests using List.reverseRecOn with
  | nil => rfl
  | append_singleton requests request ih =>
      rw [List.filter_append]
      by_cases same : request.key = key
      · rw [List.filter_singleton, decide_eq_true same, cond_true]
        cases request with
        | next asked =>
            obtain rfl : asked = key := same
            rw [retries_next, retries_next, ih]
        | forget asked =>
            obtain rfl : asked = key := same
            rw [retries_forget, retries_forget]
      · rw [List.filter_singleton, decide_eq_false same, cond_false, List.append_nil, ih,
          retries_of_ne same]

/-- While a key is not forgotten its count does not fall. -/
theorem retries_le_append (kept : .forget key ∉ later) :
    retries key requests ≤ retries key (requests ++ later) := by
  induction later using List.reverseRecOn with
  | nil => rw [List.append_nil]
  | append_singleton later request ih =>
      simp only [List.mem_append, List.mem_singleton, not_or] at kept
      rw [← List.append_assoc]
      by_cases same : request.key = key
      · cases request with
        | next asked =>
            obtain rfl : asked = key := same
            rw [retries_next]
            exact (ih kept.1).trans (Nat.le_succ _)
        | forget asked =>
            obtain rfl : asked = key := same
            exact absurd rfl kept.2
      · rw [retries_of_ne same]
        exact ih kept.1

theorem failuresOf_perform_of_ne (other : request.key ≠ key) :
    (request.perform history).failuresOf key = history.failuresOf key := by
  cases request with
  | next asked => exact failuresOf_next_of_ne (Ne.symm other) history
  | forget asked => exact failuresOf_forget_of_ne (Ne.symm other) history

/-- The failures of a key are the delays that it was given since it was forgotten. -/
theorem failuresOf_performAll (fresh : history.failures = []) :
    (history.performAll requests).failuresOf key = min (retries key requests) maxFailures := by
  induction requests using List.reverseRecOn with
  | nil => simp [performAll, failuresOf, fresh]
  | append_singleton requests request ih =>
      rw [performAll_concat]
      by_cases same : request.key = key
      · cases request with
        | next asked =>
            obtain rfl : asked = key := same
            rw [retries_next, Request.perform, failuresOf_next_self, ih]
            omega
        | forget asked =>
            obtain rfl : asked = key := same
            rw [retries_forget, Request.perform, failuresOf_forget_self, Nat.zero_min]
      · rw [failuresOf_perform_of_ne same, retries_of_ne same, ih]

/-- The delay that a key is given next. -/
theorem delay_performAll (fresh : history.failures = []) :
    ((history.performAll requests).next key).1 =
      delayAfter (min (retries key requests) maxFailures) history.base history.ceiling := by
  rw [next, failuresOf_performAll fresh, base_performAll, ceiling_performAll]

end Requests

/-- A history that began without failures remembers of each key, after any requests, just the
delays that the key was given since it was forgotten. -/
structure Remembers (base ceiling : Nat) (requests : List Request) (key : String) : Prop where
  /-- The failures are the requests for a delay since the key was forgotten. -/
  failures_eq : (performAll { base, ceiling } requests).failuresOf key =
    min (retries key requests) maxFailures
  /-- The next delay is the one after so many failures. -/
  delay_eq : ((performAll { base, ceiling } requests).next key).1 =
    delayAfter (min (retries key requests) maxFailures) base ceiling
  /-- Requests about other keys make no difference. -/
  own_requests : ((performAll { base, ceiling } requests).next key).1 =
    ((performAll { base, ceiling } (requests.filter (·.key = key))).next key).1
  delay_le : ((performAll { base, ceiling } requests).next key).1 ≤ ceiling
  /-- Until the key is forgotten no later delay is shorter. -/
  delay_mono : ∀ later, .forget key ∉ later →
    ((performAll { base, ceiling } requests).next key).1 ≤
      ((performAll { base, ceiling } (requests ++ later)).next key).1

/-- After any requests the failures and the next delay of each key are those of the delays
that it was given since it was forgotten, and the delays never fall until it is forgotten. -/
theorem history_remembers (base ceiling : Nat) (requests : List Request) (key : String) :
    Remembers base ceiling requests key where
  failures_eq := failuresOf_performAll rfl
  delay_eq := delay_performAll rfl
  own_requests := by
    rw [delay_performAll rfl, delay_performAll rfl, retries_filter]
  delay_le := by
    rw [delay_performAll rfl]
    exact delayAfter_le_ceiling
  delay_mono := by
    intro later kept
    rw [delay_performAll rfl, delay_performAll rfl]
    exact delayAfter_mono (min_le_min_right _ (retries_le_append kept))

/-- Two keys that fail in turn, of which one is forgotten. -/
example : (performAll {} [.next "a", .next "b", .next "a", .forget "b"]).failuresOf "a" = 2 ∧
    (performAll {} [.next "a", .next "b", .next "a", .forget "b"]).failuresOf "b" = 0 := by
  decide

end NodeGate.RetryHistory
