import VersionOperator.Text.Pieces
import VersionOperator.Url.Percent

namespace VersionOperator.Url

open Text

inductive Path where
  | steps (names : List (List Char))
  | text (written : List Char)
deriving DecidableEq

namespace Path

def written : Path → List Char
  | steps names => names.flatMap ('/' :: ·)
  | text cs => cs

def isSpecial (c : Char) : Bool :=
  c = ' ' || c = '"' || c = '<' || c = '>' || c = '\x60' || c = '#' || c = '?' || c = '\x7b' ||
    c = '\x7d'

/-- A step with its escaped points undone, which tells what the step does. -/
def plain : List Char → List Char
  | '%' :: '2' :: 'e' :: rest => '.' :: plain rest
  | '%' :: '2' :: 'E' :: rest => '.' :: plain rest
  | c :: rest => c :: plain rest
  | [] => []

def isDrive : List Char → Bool
  | [letter, sign] => letter.isAlpha && (sign = ':' || sign = '|')
  | _ => false

def isFixed (step : List Char) : Bool :=
  isDrive (step.takeWhile (· ≠ '\\'))

def driveStep : List Char → List Char
  | letter :: _ => [letter, ':']
  | [] => []

def back (done : List (List Char)) : List (List Char) :=
  if done.getLast?.any isFixed then done else done.dropLast

/-- The steps so far with one more. A single point does nothing, two points go back; a last step of
that kind leaves an empty one. With `drives`, the first step may name a drive. -/
def take (drives isLast : Bool) (done : List (List Char)) (step : List Char) : List (List Char) :=
  let close (done : List (List Char)) := if isLast then done ++ [[]] else done
  if plain step = ['.'] then close done
  else if plain step = ['.', '.'] then close (back done)
  else if drives && done.isEmpty && isDrive step then [driveStep step]
  else done ++ [step]

def settle (drives : Bool) (done : List (List Char)) : List (List Char) → List (List Char)
  | [] => done
  | step :: rest => settle drives (take drives rest.isEmpty done step) rest

def read (drives : Bool) (cs : List Char) : List (List Char) :=
  settle drives [] ((pieces '/' cs).map (escape isSpecial))

def slashed (cs : List Char) : List Char :=
  cs.map fun c => if c = '\\' then '/' else c

end Path

end VersionOperator.Url
