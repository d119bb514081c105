import VersionOperator.Text.Hexadecimal
import VersionOperator.Text.Natural
import VersionOperator.Text.Pieces

namespace VersionOperator.Url

open Text

structure Ipv4 where
  value : Nat
  value_lt : value < 4294967296
deriving DecidableEq

namespace Ipv4

/-- The number that one part of an address writes. Base sixteen has `0x` in front, which alone is
zero, and base eight a further zero. -/
def number? : List Char → Option Nat
  | [] => none
  | '0' :: 'x' :: digits | '0' :: 'X' :: digits =>
    if digits.all isHexDigit then some (hexValue digits) else none
  | '0' :: d :: digits =>
    if (d :: digits).all fun c => '0' ≤ c && c ≤ '7' then
      some ((d :: digits).foldl (fun value c => 8 * value + (c.toNat - '0'.toNat)) 0)
    else none
  | digits => if digits.all Char.isDigit then some (decimalValue digits) else none

/-- The parts between the points; a point at the end starts none. -/
def parts (cs : List Char) : List (List Char) :=
  match (pieces '.' cs).reverse with
  | [] :: before@(_ :: _) => before.reverse
  | all => all.reverse

/-- Whether a name can only be an address, since its last part is a number or looks like one. -/
def isMeant (cs : List Char) : Bool :=
  match (parts cs).getLast? with
  | some last => (last ≠ [] && last.all Char.isDigit) || (number? last).isSome
  | none => false

/-- The address of a row of numbers: one byte each, and the last one for all the bytes left. -/
def ofNumbers? (numbers : List Nat) : Option Ipv4 :=
  match numbers.getLast? with
  | none => none
  | some last =>
    let front := numbers.dropLast
    if front.all (· < 256) && last < Nat.pow 256 (4 - front.length) then
      let value := front.foldl (fun value n => 256 * value + n) 0 *
        Nat.pow 256 (4 - front.length) + last
      if h : value < 4294967296 then some ⟨value, h⟩ else none
    else none

def read? (cs : List Char) : Option Ipv4 :=
  if 4 < (parts cs).length then none
  else ((parts cs).mapM number?).bind ofNumbers?

def bytes (a : Ipv4) : List Nat :=
  [a.value / 16777216, a.value / 65536 % 256, a.value / 256 % 256, a.value % 256]

def written (a : Ipv4) : List Char :=
  List.intercalate ['.'] (a.bytes.map decimalDigits)

end Ipv4

end VersionOperator.Url
