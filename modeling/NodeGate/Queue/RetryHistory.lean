import NodeGate.Entries

/-!
# Retry delays

How long a key waits before its next retry: a base delay doubled for each
failure in a row, up to a ceiling. Each key has its own count of failures, which
settles back to zero when the key is forgotten. Delays are in milliseconds.
-/

namespace NodeGate

/-- The delay settings and the failures in a row of each key. -/
structure RetryHistory where
  base : Nat := 5
  ceiling : Nat := 1000000
  failures : Entries Nat := []
deriving DecidableEq, Repr

namespace RetryHistory

/-- The largest count of failures that is kept. -/
def maxFailures : Nat := Nat.pow 2 32 - 1

/-- The delay after a number of failures: the doubled base up to the ceiling,
and the ceiling itself from thirty-two doublings on. -/
def delayAfter (failures base ceiling : Nat) : Nat :=
  if failures < 32 then min (base * Nat.pow 2 failures) ceiling else ceiling

/-- The failures in a row of a key. -/
def failuresOf (key : String) (history : RetryHistory) : Nat :=
  (Entries.get? key history.failures).getD 0

/-- The delay before the next retry of a key, which counts as a failure. -/
def next (key : String) (history : RetryHistory) : Nat × RetryHistory :=
  let failures := history.failuresOf key
  (delayAfter failures history.base history.ceiling,
    { history with failures := history.failures.insert key (min (failures + 1) maxFailures) })

/-- The delays before the next retries of a key. -/
def nextMany (key : String) : Nat → RetryHistory → List Nat × RetryHistory
  | 0, history => ([], history)
  | count + 1, history =>
    let (delay, history) := history.next key
    let (delays, history) := nextMany key count history
    (delay :: delays, history)

/-- Clears the failures of a key. -/
def forget (key : String) (history : RetryHistory) : RetryHistory :=
  { history with failures := history.failures.erase key }

@[simp]
theorem failuresOf_forget_self (key : String) (history : RetryHistory) :
    (history.forget key).failuresOf key = 0 := by
  simp [forget, failuresOf]

theorem failuresOf_forget_of_ne {key other : String} (hne : other ≠ key)
    (history : RetryHistory) :
    (history.forget key).failuresOf other = history.failuresOf other := by
  simp [forget, failuresOf, Entries.get?_erase_of_ne hne]

@[simp]
theorem failuresOf_next_self (key : String) (history : RetryHistory) :
    (history.next key).2.failuresOf key = min (history.failuresOf key + 1) maxFailures := by
  simp [next, failuresOf]

theorem failuresOf_next_of_ne {key other : String} (hne : other ≠ key)
    (history : RetryHistory) :
    (history.next key).2.failuresOf other = history.failuresOf other := by
  simp [next, failuresOf, Entries.get?_insert_of_ne hne]

/-- Forgetting one key leaves the next delay of another alone. -/
theorem delay_forget_of_ne {key other : String} (hne : other ≠ key) (history : RetryHistory) :
    ((history.forget key).next other).1 = (history.next other).1 := by
  simp only [next, failuresOf_forget_of_ne hne]
  rfl

/-- A failure of one key leaves the next delay of another alone. -/
theorem delay_next_of_ne {key other : String} (hne : other ≠ key) (history : RetryHistory) :
    ((history.next key).2.next other).1 = (history.next other).1 := by
  simp only [next, failuresOf]
  rw [Entries.get?_insert_of_ne hne]

end RetryHistory

end NodeGate
