import VersionOperator.Text.Blank
import VersionOperator.Text.Natural
import VersionOperator.Text.Pieces

namespace VersionOperator

/-- The numbers of a version, most significant first. -/
structure AgentVersion where
  numbers : List Nat
deriving DecidableEq

inductive VersionFault where
  | empty
  | tooFewParts
  | tooManyParts
  | badNumber
  | badTimestamp
deriving DecidableEq

def VersionFault.message : VersionFault → String
  | empty => "empty version"
  | tooFewParts => "expected at least major.minor.release"
  | tooManyParts => "too many components"
  | badNumber => "non-numeric component"
  | badTimestamp => "non-numeric timestamp"

namespace AgentVersion

open Text

/-- The numbers that all texts of a list write, if every one of them writes one of 64 bits. -/
def readAll? : List (List Char) → Option (List Nat)
  | [] => some []
  | part :: rest =>
    match readNatural? wordLimit part, readAll? rest with
    | some n, some ns => some (n :: ns)
    | _, _ => none

def ofParts : List (List Char) → Except VersionFault AgentVersion
  | [major, minor, release] =>
    match readAll? [major, minor, release] with
    | some ns => .ok ⟨ns⟩
    | none => .error .badNumber
  | [major, minor, release, timestamp] =>
    match readAll? [major, minor, release] with
    | none => .error .badNumber
    | some ns =>
      match readAll? (pieces '-' timestamp) with
      | some stamp => .ok ⟨ns ++ stamp⟩
      | none => .error .badTimestamp
  | _ :: _ :: _ :: _ :: _ => .error .tooManyParts
  | _ => .error .tooFewParts

/-- The version that a text writes, white space around it left out. -/
def read (cs : List Char) : Except VersionFault AgentVersion :=
  match trim cs with
  | [] => .error .empty
  | text => ofParts (pieces '.' text)

def parse (s : String) : Except VersionFault AgentVersion :=
  read s.toList

/-- Number by number; of two versions that agree as far as the shorter goes, the shorter is older.
-/
def compareNumbers : List Nat → List Nat → Ordering
  | [], [] => .eq
  | [], _ :: _ => .lt
  | _ :: _, [] => .gt
  | a :: as, b :: bs => (compare a b).then (compareNumbers as bs)

instance : Ord AgentVersion := ⟨fun a b => compareNumbers a.numbers b.numbers⟩

def older (a b : AgentVersion) : Bool :=
  compare a b == .lt

end AgentVersion

end VersionOperator
