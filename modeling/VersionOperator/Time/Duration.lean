import VersionOperator.Text.Natural
import VersionOperator.Time.Instant

namespace VersionOperator

open Text (wordLimit)

/-- A length of time, counted in nanoseconds. -/
structure Duration where
  nanos : Nat
  nanos_lt : nanos < wordLimit * 1000000000
deriving DecidableEq

namespace Duration

/-- The length of that many nanoseconds; the longest one when there are too many. -/
def ofNanos (n : Nat) : Duration :=
  if h : n < wordLimit * 1000000000 then ⟨n, h⟩ else ⟨wordLimit * 1000000000 - 1, by decide⟩

def ofSeconds (n : Nat) : Duration :=
  ofNanos (n * 1000000000)

def ofMillis (n : Nat) : Duration :=
  ofNanos (n * 1000000)

def zero : Duration := ⟨0, by decide⟩

def seconds (d : Duration) : Nat :=
  d.nanos / 1000000000

def subsecondNanos (d : Duration) : Nat :=
  d.nanos % 1000000000

/-- The two lengths together, if that is not beyond the longest one. -/
def plus? (a b : Duration) : Option Duration :=
  if h : a.nanos + b.nanos < wordLimit * 1000000000 then some ⟨a.nanos + b.nanos, h⟩ else none

def shorter (a b : Duration) : Duration :=
  if b.nanos < a.nanos then b else a

instance : LE Duration := ⟨fun a b => a.nanos ≤ b.nanos⟩

instance (a b : Duration) : Decidable (a ≤ b) :=
  inferInstanceAs (Decidable (a.nanos ≤ b.nanos))

@[ext] theorem ext {a b : Duration} (h : a.nanos = b.nanos) : a = b := by
  cases a
  cases b
  simp_all

theorem nanos_shorter (a b : Duration) : (a.shorter b).nanos = min a.nanos b.nanos := by
  unfold shorter
  split <;> omega

end Duration

end VersionOperator
