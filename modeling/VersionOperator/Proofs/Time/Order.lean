import VersionOperator.Resource.VersionStatus

namespace VersionOperator

namespace Instant

theorem le_refl (t : Instant) : t ≤ t := Int.le_refl t.ordinal

theorem le_trans {a b c : Instant} (hab : a ≤ b) (hbc : b ≤ c) : a ≤ c := Int.le_trans hab hbc

def IsLeap (t : Instant) : Prop :=
  1000000000 ≤ t.nano

instance (t : Instant) : Decidable t.IsLeap :=
  inferInstanceAs (Decidable (_ ≤ _))

theorem leapCorrection_eq_zero {t since : Instant} (ht : ¬ t.IsLeap) (hsince : ¬ since.IsLeap) :
    leapCorrection t since = 0 := by
  unfold leapCorrection
  rw [if_neg fun h => hsince h.2, if_neg fun h => ht h.2]

theorem nanosSince_le_of_le {t earlier later : Instant} (ht : ¬ t.IsLeap)
    (hearlier : ¬ earlier.IsLeap) (hlater : ¬ later.IsLeap) (h : earlier ≤ later) :
    t.nanosSince later ≤ t.nanosSince earlier := by
  rw [nanosSince, nanosSince, leapCorrection_eq_zero ht hearlier, leapCorrection_eq_zero ht hlater]
  rw [le_iff, ordinal, ordinal] at h
  rw [IsLeap] at hearlier hlater
  omega

/-- The moment is in the last second of a day, and the other one in the first second of the next
day. -/
structure EndsDayBefore (t later : Instant) : Prop where
  day : later.date.dayNumber = t.date.dayNumber + 1
  last : t.second = 86399
  first : later.second = 0

/-- The time since a moment that is still to come is negative, but for one case: a leap second at
the end of a day has no place of its own in a difference, so what has gone by of it counts as gone
by of the second behind it. -/
theorem le_nanosSince_of_lt_iff {t later : Instant} (h : t < later) (nanos : Nat) :
    (nanos : Int) ≤ t.nanosSince later ↔
      t.EndsDayBefore later ∧ 1000000000 + later.nano + nanos ≤ t.nano := by
  have hlater := later.leap
  have ht := t.second_lt
  have htn := t.nano_lt
  rw [lt_iff, ordinal, ordinal] at h
  rw [nanosSince, leapCorrection]
  constructor
  · intro hle
    split at hle
    · omega
    · split at hle
      · omega
      · exact ⟨⟨by omega, by omega, by omega⟩, by omega⟩
  · rintro ⟨⟨hday, hlast, hfirst⟩, hnano⟩
    rw [if_neg (by omega), if_neg (by omega)]
    omega

/-- The latest of a moment and of one on record before it, if there is one. -/
structure IsLatest (latest : Instant) (recorded : Option Instant) (now : Instant) : Prop where
  now_le : now ≤ latest
  recorded_le : ∀ {earlier}, recorded = some earlier → earlier ≤ latest
  eq_or : latest = now ∨ recorded = some latest

theorem isLatest_later (recorded now : Instant) :
    (later recorded now).IsLatest (some recorded) now where
  now_le := le_later_right recorded now
  recorded_le h := Option.some.inj h ▸ le_later_left recorded now
  eq_or := by
    unfold later
    split
    · exact .inr rfl
    · exact .inl rfl

end Instant

namespace VersionStatus

theorem isLatest_stampAt (s : VersionStatus) (now : Instant) :
    (s.stampAt now).IsLatest s.lastProbe now := by
  unfold stampAt
  split
  · rename_i recorded hrecorded
    rw [hrecorded]
    exact Instant.isLatest_later recorded now
  · rename_i hnone
    exact ⟨Instant.le_refl now, fun h => absurd (hnone.symm.trans h) (by simp), .inl rfl⟩

theorem stampAt_congr {a b : VersionStatus} (h : a.lastProbe = b.lastProbe) (now : Instant) :
    a.stampAt now = b.stampAt now := by
  rw [stampAt, stampAt, h]

/-- The probe time has not moved back: one that was on record is there still, or a later one is. -/
def Advances (earlier later : VersionStatus) : Prop :=
  ∀ stamp, earlier.lastProbe = some stamp →
    ∃ stamp', later.lastProbe = some stamp' ∧ stamp ≤ stamp'

theorem Advances.refl (s : VersionStatus) : s.Advances s :=
  fun stamp hstamp => ⟨stamp, hstamp, Instant.le_refl stamp⟩

theorem Advances.trans {a b c : VersionStatus} (hab : a.Advances b) (hbc : b.Advances c) :
    a.Advances c := by
  intro stamp hstamp
  obtain ⟨middle, hmiddle, hle⟩ := hab stamp hstamp
  obtain ⟨last, hlast, hle'⟩ := hbc middle hmiddle
  exact ⟨last, hlast, Instant.le_trans hle hle'⟩

end VersionStatus

end VersionOperator
