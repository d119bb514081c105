import VersionOperator.Time.Rfc3339

namespace VersionOperator

open Text

namespace Text

section Decimal

variable {width n : Nat}

theorem isDigit_of_mem_paddedDecimal {c : Char} (h : c ∈ paddedDecimal width n) :
    c.isDigit = true := by
  rcases List.mem_append.mp h with hzero | hdigit
  · rw [List.eq_of_mem_replicate hzero]
    decide
  · exact Nat.isDigit_of_mem_toDigits (by decide) (by decide) hdigit

theorem paddedDecimal_ne_nil (width n : Nat) : paddedDecimal width n ≠ [] := by
  intro h
  exact Nat.toDigits_ne_nil (List.append_eq_nil_iff.mp h).2

theorem length_paddedDecimal (hwidth : 0 < width) (hn : n < Nat.pow 10 width) :
    (paddedDecimal width n).length = width := by
  have hlength : (decimalDigits n).length ≤ width :=
    (Nat.length_toDigits_le_iff (by decide) hwidth).mpr hn
  rw [paddedDecimal, List.length_append, List.length_replicate]
  omega

theorem decimalValue_paddedDecimal (width n : Nat) : decimalValue (paddedDecimal width n) = n := by
  rw [decimalValue_eq_ofDigitChars, paddedDecimal, Nat.ofDigitChars_append,
    Nat.ofDigitChars_replicate_zero, Nat.mul_zero]
  exact Nat.ofDigitChars_ten_toDigits

theorem paddedDecimal_eq_cons (width n : Nat) :
    ∃ c digits, paddedDecimal width n = c :: digits ∧ c.isDigit = true := by
  obtain ⟨c, digits, h⟩ := List.exists_cons_of_ne_nil (paddedDecimal_ne_nil width n)
  refine ⟨c, digits, h, ?_⟩
  have hmem : c ∈ paddedDecimal width n := by
    rw [h]
    exact List.mem_cons_self
  exact isDigit_of_mem_paddedDecimal hmem

theorem trimStart_paddedDecimal (width n : Nat) (rest : List Char) :
    trimStart (paddedDecimal width n ++ rest) = paddedDecimal width n ++ rest := by
  obtain ⟨c, digits, h, hdigit⟩ := paddedDecimal_eq_cons width n
  rw [h]
  exact trimStart_cons_of_not_blank (not_blank_of_isDigit hdigit) _

end Decimal

end Text

namespace Time

section Numbers

variable {width n : Nat} {rest : List Char}

theorem takeWhile_take_digits {digits : List Char} {most : Nat}
    (hdigits : ∀ c ∈ digits, c.isDigit = true) (hmost : digits.length ≤ most)
    (hrest : (rest.take (most - digits.length)).takeWhile Char.isDigit = []) :
    ((digits ++ rest).take most).takeWhile Char.isDigit = digits := by
  rw [List.take_append, List.take_of_length_le hmost, List.takeWhile_append_of_pos hdigits, hrest,
    List.append_nil]

theorem takeWhile_take_paddedDecimal {most : Nat} (hwidth : 0 < width) (hn : n < Nat.pow 10 width)
    (hmost : width ≤ most) (hrest : (rest.take (most - width)).takeWhile Char.isDigit = []) :
    ((paddedDecimal width n ++ rest).take most).takeWhile Char.isDigit = paddedDecimal width n := by
  rw [← length_paddedDecimal hwidth hn] at hmost hrest
  exact takeWhile_take_digits (fun c => isDigit_of_mem_paddedDecimal) hmost hrest

theorem readUpTo?_paddedDecimal {most : Nat} (hwidth : 0 < width) (hn : n < Nat.pow 10 width)
    (hmost : width ≤ most) (hrest : (rest.take (most - width)).takeWhile Char.isDigit = []) :
    readUpTo? most (paddedDecimal width n ++ rest) = some (n, rest) := by
  simp only [readUpTo?, takeWhile_take_paddedDecimal hwidth hn hmost hrest,
    if_neg (paddedDecimal_ne_nil width n), decimalValue_paddedDecimal, List.drop_left]

theorem readPair?_paddedDecimal (hn : n < 100) :
    readPair? (paddedDecimal 2 n ++ rest) = some (n, rest) := by
  rw [readPair?, trimStart_paddedDecimal]
  exact readUpTo?_paddedDecimal (by decide) hn (by decide) (by simp)

theorem readUpTo?_signedYear (n : Nat) (rest : List Char) :
    readUpTo? (paddedDecimal 4 n ++ '-' :: rest).length (paddedDecimal 4 n ++ '-' :: rest) =
      some (n, '-' :: rest) := by
  have hdash : ∀ most, (('-' :: rest).take most).takeWhile Char.isDigit = [] := by
    rintro (_ | most) <;> rfl
  have hdigits := takeWhile_take_digits (fun c => isDigit_of_mem_paddedDecimal)
    (by simp) (hdash ((paddedDecimal 4 n ++ '-' :: rest).length - (paddedDecimal 4 n).length))
  simp only [readUpTo?, hdigits, if_neg (paddedDecimal_ne_nil 4 n), decimalValue_paddedDecimal,
    List.drop_left]

theorem readYear?_fourDigits {year : Int} (hyear : 0 ≤ year ∧ year ≤ 9999) :
    readYear? (writeYear year ++ rest) = some (year, rest) := by
  have hlimit : year.toNat < 10000 := by omega
  have hnumber : readUpTo? 4 (paddedDecimal 4 year.toNat ++ rest) = some (year.toNat, rest) :=
    readUpTo?_paddedDecimal (by decide) hlimit (by decide) (by simp)
  obtain ⟨c, digits, hcons, hdigit⟩ := paddedDecimal_eq_cons 4 year.toNat
  rw [hcons, List.cons_append] at hnumber
  rw [writeYear, if_pos hyear, readYear?, trimStart_paddedDecimal, hcons, List.cons_append]
  -- The first character is a digit, so the year is read as one without a sign.
  split
  · rename_i h
    rw [(List.cons.inj h).1] at hdigit
    exact absurd hdigit (by decide)
  · rename_i h
    rw [(List.cons.inj h).1] at hdigit
    exact absurd hdigit (by decide)
  · rw [hnumber, Option.map_some]
    simp only [Int.toNat_of_nonneg hyear.1]

theorem readYear?_writeYear (year : Int) (rest : List Char) :
    readYear? (writeYear year ++ '-' :: rest) = some (year, '-' :: rest) := by
  by_cases hyear : 0 ≤ year ∧ year ≤ 9999
  · exact readYear?_fourDigits hyear
  · have hminus : trimStart ('-' :: (paddedDecimal 4 year.natAbs ++ '-' :: rest)) =
        '-' :: (paddedDecimal 4 year.natAbs ++ '-' :: rest) :=
      trimStart_cons_of_not_blank (by decide) _
    have hplus : trimStart ('+' :: (paddedDecimal 4 year.natAbs ++ '-' :: rest)) =
        '+' :: (paddedDecimal 4 year.natAbs ++ '-' :: rest) :=
      trimStart_cons_of_not_blank (by decide) _
    rw [writeYear, if_neg hyear, List.cons_append]
    split
    · have habs : -(year.natAbs : Int) = year := by omega
      simp only [readYear?, hminus, readUpTo?_signedYear, Option.map_some, habs]
    · have habs : (year.natAbs : Int) = year := by omega
      simp only [readYear?, hplus, readUpTo?_signedYear, Option.map_some, habs]

theorem expect?_cons {c : Char} (h : isBlank c = false) (rest : List Char) :
    expect? c (c :: rest) = some rest := by
  rw [expect?, trimStart_cons_of_not_blank h]
  exact if_pos rfl

end Numbers

theorem readFraction?_paddedDecimal {width n unit : Nat} (hwidth : 0 < width) (hmost : width ≤ 9)
    (hn : n < Nat.pow 10 width) (hunit : Nat.pow 10 (9 - width) = unit) :
    readFraction? ('.' :: paddedDecimal width n ++ ['Z']) = some (n * unit, ['Z']) := by
  have hZ : (['Z'].take (9 - width)).takeWhile Char.isDigit = [] := by
    cases 9 - width <;> rfl
  have hnumber : readUpTo? 9 (paddedDecimal width n ++ ['Z']) = some (n, ['Z']) :=
    readUpTo?_paddedDecimal hwidth hn hmost hZ
  have hdigits : ((paddedDecimal width n ++ ['Z']).take 9).takeWhile Char.isDigit =
      paddedDecimal width n := takeWhile_take_paddedDecimal hwidth hn hmost hZ
  have hrest : (paddedDecimal width n ++ ['Z']).dropWhile Char.isDigit = ['Z'] := by
    rw [List.dropWhile_append_of_pos fun c hc => isDigit_of_mem_paddedDecimal hc]
    rfl
  rw [List.cons_append, readFraction?, hnumber, hdigits, length_paddedDecimal hwidth hn, hrest,
    ← hunit]
  rfl

theorem readFraction?_writeFraction {nano : Nat} (h : nano < 1000000000) :
    readFraction? (writeFraction nano ++ ['Z']) = some (nano, ['Z']) := by
  have hmilli : nano / 1000000 < 1000 := by omega
  have hmicro : nano / 1000 < 1000000 := by omega
  unfold writeFraction
  split
  · rename_i hzero
    rw [hzero]
    rfl
  split
  · rename_i hexact
    rw [readFraction?_paddedDecimal (by decide) (by decide) hmilli rfl,
      Nat.div_mul_cancel (Nat.dvd_of_mod_eq_zero hexact)]
  split
  · rename_i hexact
    rw [readFraction?_paddedDecimal (by decide) (by decide) hmicro rfl,
      Nat.div_mul_cancel (Nat.dvd_of_mod_eq_zero hexact)]
  · rw [readFraction?_paddedDecimal (by decide) (by decide) h rfl, Nat.mul_one]

theorem ofClock?_clockSecond (t : Instant) :
    Instant.ofClock? t.date (t.second / 3600) (t.second / 60 % 60) (clockSecond t).1
      (clockSecond t).2 = some t := by
  obtain ⟨date, second, nano, hsecond, hnano, hleap⟩ := t
  have hhour : second / 3600 < 24 := by omega
  have hminute : second / 60 % 60 < 60 := by omega
  by_cases h : 1000000000 ≤ nano
  -- A leap second is shown as second 60, which is read as one behind second 59.
  · have hlast := hleap h
    have hclock : clockSecond ⟨date, second, nano, hsecond, hnano, hleap⟩ =
        (60, nano - 1000000000) := by
      rw [clockSecond, if_pos h, hlast]
    have hfraction : nano - 1000000000 < 1000000000 := by omega
    simp only [hclock, Instant.ofClock?, dif_pos (And.intro hhour (And.intro hminute hfraction)),
      Nat.lt_irrefl, dif_neg, not_false_eq_true, if_true]
    congr 2
    · omega
    · omega
  · have hclock : clockSecond ⟨date, second, nano, hsecond, hnano, hleap⟩ =
        (second % 60, nano) := by
      rw [clockSecond, if_neg h]
    have hfraction : nano < 1000000000 := Nat.lt_of_not_le h
    have hminuteSecond : second % 60 < 60 := by omega
    simp only [hclock, Instant.ofClock?, dif_pos (And.intro hhour (And.intro hminute hfraction)),
      dif_pos hminuteSecond]
    congr 2
    omega

end Time

theorem Instant.plusMinutes_zero (t : Instant) : t.plusMinutes 0 = t := by
  obtain ⟨date, second, nano, hsecond, hnano, hleap⟩ := t
  have hday : ((second : Int) + 60 * 0) / 86400 = 0 := by omega
  have hclock : (((second : Int) + 60 * 0) % 86400).toNat = second := by omega
  simp only [plusMinutes, hday, hclock]
  rfl

theorem Date.of?_self (date : Date) : Date.of? date.year date.month date.day = some date :=
  dif_pos ⟨⟨date.month_pos, date.month_le⟩, date.day_pos, date.day_le⟩

theorem Date.day_le_31 (date : Date) : date.day ≤ 31 := by
  have hday := date.day_le
  unfold daysInMonth at hday
  split at hday
  · split at hday <;> omega
  · split at hday <;> omega

def Date.HasFourDigitYear (date : Date) : Prop :=
  0 ≤ date.year ∧ date.year ≤ 9999

instance (date : Date) : Decidable date.HasFourDigitYear :=
  inferInstanceAs (Decidable (_ ∧ _))

namespace Time

theorem isCalendarYear_of_hasFourDigitYear {date : Date} (h : date.HasFourDigitYear) :
    isCalendarYear date.year = true := by
  obtain ⟨hleast, hmost⟩ := h
  simp only [isCalendarYear, Bool.and_eq_true, decide_eq_true_eq]
  constructor
  · omega
  · omega

theorem readDate?_write {date : Date} (h : isCalendarYear date.year = true) (rest : List Char) :
    readDate? (writeYear date.year ++ '-' :: (paddedDecimal 2 date.month ++
      '-' :: (paddedDecimal 2 date.day ++ rest))) = some (date, rest) := by
  have hmonth : date.month < 100 := Nat.lt_of_le_of_lt date.month_le (by decide)
  have hday : date.day < 100 := Nat.lt_of_le_of_lt date.day_le_31 (by decide)
  have hdash : isBlank '-' = false := by decide
  simp only [readDate?, readYear?_writeYear, expect?_cons hdash, readPair?_paddedDecimal hmonth,
    readPair?_paddedDecimal hday, h, Date.of?_self, Option.bind_eq_bind, Option.bind_some,
    Bool.not_true, Bool.false_eq_true, if_false, Option.pure_def]

theorem readMark?_T (rest : List Char) : readMark? ('T' :: rest) = some rest := rfl

theorem readZone?_Z (rest : List Char) : readZone? (trimStart ('Z' :: rest)) = some (0, rest) := rfl

theorem read?_write {t : Instant} (h : isCalendarYear t.date.year = true) :
    read? (write t) = some t := by
  have hhour : t.second / 3600 < 100 := by
    have hday := t.second_lt
    omega
  have hminute : t.second / 60 % 60 < 100 := by omega
  have hsecond : (clockSecond t).1 < 100 := by
    unfold clockSecond
    split <;> simp only <;> omega
  have hnano : (clockSecond t).2 < 1000000000 := by
    have hleap := t.nano_lt
    unfold clockSecond
    split <;> simp only <;> omega
  have hcolon : isBlank ':' = false := by decide
  have hend : trimStart [] = [] := rfl
  simp only [read?, write, String.toList_ofList, List.append_assoc, List.cons_append,
    readDate?_write h, readMark?_T, readPair?_paddedDecimal hhour, readPair?_paddedDecimal hminute,
    readPair?_paddedDecimal hsecond, expect?_cons hcolon, readFraction?_writeFraction hnano,
    readZone?_Z, ofClock?_clockSecond, hend, Int.neg_zero, t.plusMinutes_zero, h,
    Option.bind_eq_bind, Option.bind_some, ne_eq, not_true_eq_false, if_false, if_true]

example :
    write
      ⟨⟨2016, 12, 31, by decide, by decide, by decide, by decide⟩, 86399, 1500000000, by decide,
        by decide, by decide⟩ = "2016-12-31T23:59:60.500Z" := by
  rfl

theorem isCalendarYear_of_read? {s : String} {t : Instant} (h : read? s = some t) :
    isCalendarYear t.date.year = true := by
  simp only [read?, Option.bind_eq_bind, Option.bind_eq_some_iff] at h
  obtain ⟨_, _, _, _, _, _, _, _, _, _, _, _, _, _, _, _, _, _, h⟩ := h
  split at h
  · exact absurd h nofun
  · obtain ⟨clock, _, hmoment⟩ := Option.bind_eq_some_iff.mp h
    split at hmoment
    · rename_i hyear
      rw [← Option.some.inj hmoment]
      exact hyear
    · exact absurd hmoment nofun

end Time

end VersionOperator
