namespace VersionOperator.Text

def decimalValue (digits : List Char) : Nat :=
  digits.foldl (fun value c => 10 * value + (c.toNat - '0'.toNat)) 0

def withoutPlus : List Char → List Char
  | '+' :: rest => rest
  | cs => cs

/-- The number a text writes, if it writes one below `limit`. A sign alone is no number. -/
def readNatural? (limit : Nat) (cs : List Char) : Option Nat :=
  let digits := withoutPlus cs
  if digits ≠ [] ∧ digits.all Char.isDigit ∧ decimalValue digits < limit then
    some (decimalValue digits)
  else none

def wordLimit : Nat := 18446744073709551616

def decimalDigits (n : Nat) : List Char :=
  Nat.toDigits 10 n

/-- A number in base ten, filled up with zeros in front to at least `width` digits. -/
def paddedDecimal (width n : Nat) : List Char :=
  let digits := decimalDigits n
  List.replicate (width - digits.length) '0' ++ digits

theorem decimalValue_eq_ofDigitChars (digits : List Char) :
    decimalValue digits = Nat.ofDigitChars 10 digits 0 := by
  rw [decimalValue, Nat.ofDigitChars_eq_foldl]

end VersionOperator.Text
