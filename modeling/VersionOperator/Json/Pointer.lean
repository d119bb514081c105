import VersionOperator.Json.Basic
import VersionOperator.Text.Natural
import VersionOperator.Text.Pieces

namespace VersionOperator.Json

/-- A step with its two escapes undone: a tilde and a one for a slash, a tilde and a zero for a
tilde. -/
def pointerStep : List Char → List Char
  | '~' :: '1' :: rest => '/' :: pointerStep rest
  | '~' :: '0' :: rest => '~' :: pointerStep rest
  | c :: rest => c :: pointerStep rest
  | [] => []

/-- The position that a step counts: digits without a sign, zero alone or not in front. -/
def position? (step : List Char) : Option Nat :=
  if step.head? = some '+' || (step.head? = some '0' && step.length ≠ 1) then none
  else Text.readNatural? Text.wordLimit step

def child? (document : Json) (step : List Char) : Option Json :=
  match document with
  | .object ms => lookup (String.ofList step) ms
  | .list items => (position? step).bind (items[·]?)
  | _ => none

/-- The part of a document that a pointer leads to; the empty pointer leads to all of it. -/
def at? (pointer : String) (document : Json) : Option Json :=
  match pointer.toList with
  | [] => some document
  | '/' :: steps =>
    ((Text.pieces '/' steps).map pointerStep).foldl (fun part step => part.bind (child? · step))
      (some document)
  | _ => none

end VersionOperator.Json
