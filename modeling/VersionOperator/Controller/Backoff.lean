import VersionOperator.Time.Duration

namespace VersionOperator

/-- The delays of one resource: the shortest, the one before, the next one, and the longest. -/
structure Backoff where
  min : Duration
  previous : Duration
  current : Duration
  max : Duration
deriving DecidableEq

namespace Backoff

def start (min max : Duration) : Backoff :=
  ⟨min, Duration.zero, min, max⟩

/-- The next delay, and the delays behind it. None when the two delays in hand are together beyond
the longest time there is. -/
def next? (b : Backoff) : Option (Duration × Backoff) :=
  (b.previous.plus? b.current).map fun sum =>
    (b.current, { b with previous := b.current, current := sum.shorter b.max })

def reset (b : Backoff) : Backoff :=
  { b with previous := Duration.zero, current := b.min }

end Backoff

/-- The failures of one resource in a row, and the delays that go with them. The count starts again
at zero behind the largest word of 32 bits. -/
structure Failures where
  backoff : Backoff
  count : UInt32
deriving DecidableEq

structure Backoffs where
  min : Duration := Duration.ofSeconds 60
  max : Duration := Duration.ofSeconds 600
  entries : List (String × Failures) := []
deriving DecidableEq

namespace Backoffs

def find? (b : Backoffs) (key : String) : Option Failures :=
  (b.entries.find? fun entry => entry.1 = key).map Prod.snd

def assign (key : String) (failures : Failures) :
    List (String × Failures) → List (String × Failures)
  | [] => [(key, failures)]
  | (other, old) :: rest =>
    if other = key then (key, failures) :: rest else (other, old) :: assign key failures rest

def failures (b : Backoffs) (key : String) : Failures :=
  (b.find? key).getD ⟨Backoff.start b.min b.max, 0⟩

/-- One more failure of a resource: the delay behind it, how many there have been in a row, and the
failures after it. The failure counts also when there is no delay for it. -/
def recordError (b : Backoffs) (key : String) : Option Duration × UInt32 × Backoffs :=
  let recorded := b.failures key
  let count := recorded.count + 1
  match recorded.backoff.next? with
  | some (delay, backoff) =>
    (some delay, count, { b with entries := assign key ⟨backoff, count⟩ b.entries })
  | none =>
    (none, count, { b with entries := assign key ⟨recorded.backoff, count⟩ b.entries })

/-- A success of a resource. One that never failed leaves no trace. -/
def reset (b : Backoffs) (key : String) : Backoffs :=
  match b.find? key with
  | some recorded => { b with entries := assign key ⟨recorded.backoff.reset, 0⟩ b.entries }
  | none => b

theorem find?_assign_self (key : String) (failures : Failures)
    (entries : List (String × Failures)) :
    ((assign key failures entries).find? fun entry => entry.1 = key) = some (key, failures) := by
  induction entries with
  | nil => simp [assign]
  | cons entry rest ih =>
    obtain ⟨other, old⟩ := entry
    by_cases h : other = key <;> simp [assign, h, ih]

theorem find?_assign_of_ne {key other : String} (h : other ≠ key) (failures : Failures)
    (entries : List (String × Failures)) :
    ((assign key failures entries).find? fun entry => entry.1 = other) =
      entries.find? fun entry => entry.1 = other := by
  induction entries with
  | nil => simp [assign, Ne.symm h]
  | cons entry rest ih =>
    obtain ⟨third, old⟩ := entry
    by_cases ht : third = key
    · subst ht
      simp [assign, Ne.symm h]
    · by_cases ho : third = other <;> simp [assign, ht, ho, h, ih]

end Backoffs

end VersionOperator
