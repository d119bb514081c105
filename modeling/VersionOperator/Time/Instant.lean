import VersionOperator.Time.Date

/-!
Moments in coordinated universal time, to the nanosecond. A leap second is the second nanosecond
count of the last second of a minute: its nanoseconds run from one thousand million on, so a moment
in it comes after the whole second before and before the whole second after.
-/

namespace VersionOperator

/-- A moment: a date, the second of the day, and the nanosecond of that second. -/
structure Instant where
  date : Date
  second : Nat
  nano : Nat
  second_lt : second < 86400
  nano_lt : nano < 2000000000
  leap : 1000000000 ≤ nano → second % 60 = 59
deriving DecidableEq

namespace Instant

/-- A number that grows with the moment, and tells any two moments apart. -/
def ordinal (t : Instant) : Int :=
  (t.date.dayNumber * 86400 + t.second) * 2000000000 + t.nano

instance : LT Instant := ⟨fun a b => a.ordinal < b.ordinal⟩

instance : LE Instant := ⟨fun a b => a.ordinal ≤ b.ordinal⟩

instance (a b : Instant) : Decidable (a < b) :=
  inferInstanceAs (Decidable (a.ordinal < b.ordinal))

instance (a b : Instant) : Decidable (a ≤ b) :=
  inferInstanceAs (Decidable (a.ordinal ≤ b.ordinal))

/-- The later of a moment and one on record before it; the new one when they are the same. -/
def later (recorded now : Instant) : Instant :=
  if now < recorded then recorded else now

/-- The leap second that a difference counts besides the seconds of the day: one more when the
earlier clock reading stands in one, one less when the later reading does. -/
def leapCorrection (t since : Instant) : Int :=
  if since.second < t.second ∧ 1000000000 ≤ since.nano then 1
  else if t.second < since.second ∧ 1000000000 ≤ t.nano then -1
  else 0

/-- The nanoseconds from one moment to another, negative when the other comes first. -/
def nanosSince (t since : Instant) : Int :=
  ((t.date.dayNumber - since.date.dayNumber) * 86400 + ((t.second : Int) - since.second) +
      leapCorrection t since) * 1000000000 +
    ((t.nano : Int) - since.nano)

/-- The moment a clock shows: the hour below 24, the minute below 60, the second at most 60, the
nanosecond below a second. Second 60 is the leap second behind second 59. -/
def ofClock? (date : Date) (hour minute second nano : Nat) : Option Instant :=
  if h : hour < 24 ∧ minute < 60 ∧ nano < 1000000000 then
    if hs : second < 60 then
      some ⟨date, hour * 3600 + minute * 60 + second, nano, by omega, by omega, by omega⟩
    else if second = 60 then
      some ⟨date, hour * 3600 + minute * 60 + 59, nano + 1000000000, by omega, by omega,
        by omega⟩
    else none
  else none

/-- The moment that many minutes later, or earlier when the count is negative. -/
def plusMinutes (t : Instant) (minutes : Int) : Instant :=
  let second := (t.second : Int) + 60 * minutes
  { date := t.date.plusDays (second / 86400)
    second := (second % 86400).toNat
    nano := t.nano
    second_lt := by omega
    nano_lt := t.nano_lt
    leap := by
      intro h
      have := t.leap h
      omega }

def plusNanos (t : Instant) (nanos : Nat) : Instant :=
  let nano := t.nano + nanos
  let second := t.second + nano / 1000000000
  { date := t.date.plusDays (second / 86400 : Nat)
    second := second % 86400
    nano := nano % 1000000000
    second_lt := by omega
    nano_lt := by omega
    leap := by omega }

theorem lt_iff {a b : Instant} : a < b ↔ a.ordinal < b.ordinal := Iff.rfl

theorem le_iff {a b : Instant} : a ≤ b ↔ a.ordinal ≤ b.ordinal := Iff.rfl

theorem le_later_left (recorded now : Instant) : recorded ≤ later recorded now := by
  unfold later
  split
  · exact Int.le_refl _
  · rename_i h
    exact Int.not_lt.mp h

theorem le_later_right (recorded now : Instant) : now ≤ later recorded now := by
  unfold later
  split
  · rename_i h
    exact Int.le_of_lt h
  · exact Int.le_refl _

end Instant

end VersionOperator
