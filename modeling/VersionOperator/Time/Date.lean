namespace VersionOperator

def isLeapYear (year : Int) : Bool :=
  year % 4 == 0 && (year % 100 != 0 || year % 400 == 0)

def daysInMonth (year : Int) (month : Nat) : Nat :=
  if month = 2 then (if isLeapYear year then 29 else 28)
  else if month = 4 ∨ month = 6 ∨ month = 9 ∨ month = 11 then 30
  else 31

structure Date where
  year : Int
  month : Nat
  day : Nat
  month_pos : 1 ≤ month
  month_le : month ≤ 12
  day_pos : 1 ≤ day
  day_le : day ≤ daysInMonth year month
deriving DecidableEq

namespace Date

def of? (year : Int) (month day : Nat) : Option Date :=
  if h : (1 ≤ month ∧ month ≤ 12) ∧ 1 ≤ day ∧ day ≤ daysInMonth year month then
    some ⟨year, month, day, h.1.1, h.1.2, h.2.1, h.2.2⟩
  else none

theorem daysInMonth_pos (year : Int) (month : Nat) : 1 ≤ daysInMonth year month := by
  unfold daysInMonth
  split
  · split <;> omega
  · split <;> omega

def next (d : Date) : Date :=
  if h : d.day < daysInMonth d.year d.month then
    { d with day := d.day + 1, day_pos := by omega, day_le := h }
  else if hm : d.month < 12 then
    ⟨d.year, d.month + 1, 1, by omega, hm, Nat.le_refl 1, daysInMonth_pos _ _⟩
  else ⟨d.year + 1, 1, 1, by omega, by omega, Nat.le_refl 1, daysInMonth_pos _ _⟩

def previous (d : Date) : Date :=
  if h : 1 < d.day then
    { d with day := d.day - 1, day_pos := by omega, day_le := by have := d.day_le; omega }
  else if hm : 1 < d.month then
    ⟨d.year, d.month - 1, daysInMonth d.year (d.month - 1), by omega,
      by have := d.month_le; omega, daysInMonth_pos _ _, Nat.le_refl _⟩
  else
    ⟨d.year - 1, 12, daysInMonth (d.year - 1) 12, by omega, Nat.le_refl 12, daysInMonth_pos _ _,
      Nat.le_refl _⟩

/-- The date that many days later, or earlier when the count is negative. -/
def plusDays (d : Date) : Int → Date
  | .ofNat n => Nat.repeat next n d
  | .negSucc n => Nat.repeat previous (n + 1) d

def daysBeforeYear (year : Int) : Int :=
  365 * year + (year + 3) / 4 - (year + 99) / 100 + (year + 399) / 400

def daysBeforeMonth (year : Int) (month : Nat) : Nat :=
  ((List.range (month - 1)).map fun m => daysInMonth year (m + 1)).foldl (· + ·) 0

def dayNumber (d : Date) : Int :=
  daysBeforeYear d.year + (daysBeforeMonth d.year d.month : Int) + ((d.day : Int) - 1)

end Date

end VersionOperator
