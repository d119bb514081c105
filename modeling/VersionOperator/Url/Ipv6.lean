import VersionOperator.Text.Hexadecimal
import VersionOperator.Text.Natural
import VersionOperator.Text.Pieces

namespace VersionOperator.Url

open Text

structure Ipv6 where
  groups : List Nat
  length_eq : groups.length = 8
deriving DecidableEq

namespace Ipv6

def group? (cs : List Char) : Option Nat :=
  if cs ≠ [] ∧ cs.length ≤ 4 ∧ cs.all isHexDigit then some (hexValue cs) else none

def byte? (cs : List Char) : Option Nat :=
  if cs ≠ [] ∧ cs.all Char.isDigit ∧ (cs.length = 1 ∨ cs.head? ≠ some '0') ∧
      decimalValue cs < 256 then
    some (decimalValue cs)
  else none

def dottedGroups? (cs : List Char) : Option (List Nat) := do
  match ← (pieces '.' cs).mapM byte? with
  | [a, b, c, d] => return [256 * a + b, 256 * c + d]
  | _ => none

/-- The groups of the pieces between the colons, the last of which may be four bytes. -/
def groups? : List (List Char) → Option (List Nat)
  | [] => some []
  | [last] => if last.contains '.' then dottedGroups? last else (group? last).map fun n => [n]
  | piece :: rest => do return (← group? piece) :: (← groups? rest)

def sideGroups? (read : List (List Char) → Option (List Nat)) (cs : List Char) :
    Option (List Nat) :=
  if cs = [] then some [] else read (pieces ':' cs)

def ofGroups? (groups : List Nat) : Option Ipv6 :=
  if h : groups.length = 8 then some ⟨groups, h⟩ else none

/-- The address that a text writes, if it writes one. Two colons stand for at least one group. -/
def read? (cs : List Char) : Option Ipv6 :=
  match cutAt? [':', ':'] cs with
  | none => (groups? (pieces ':' cs)).bind ofGroups?
  | some (before, after) => do
    let front ← sideGroups? (·.mapM group?) before
    let back ← sideGroups? groups? after
    if front.length + back.length < 8 then
      ofGroups? (front ++ List.replicate (8 - front.length - back.length) 0 ++ back)
    else none

def zerosAhead (groups : List Nat) : Nat :=
  (groups.takeWhile (· = 0)).length

/-- Where the longest stretch of zeros starts, the first of several, and how long it is; a single
zero is no stretch. -/
def longestGap (groups : List Nat) : Nat × Nat :=
  (List.range groups.length).foldl
    (fun best start =>
      let length := zerosAhead (groups.drop start)
      if best.2 < length then (start, length) else best)
    (0, 1)

def joined (groups : List Nat) : List Char :=
  List.intercalate [':'] (groups.map hexDigits)

def written (a : Ipv6) : List Char :=
  let (start, length) := longestGap a.groups
  if length = 1 then joined a.groups
  else joined (a.groups.take start) ++ [':', ':'] ++ joined (a.groups.drop (start + length))

end Ipv6

end VersionOperator.Url
