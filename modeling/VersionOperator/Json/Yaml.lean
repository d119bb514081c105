import VersionOperator.Json.Basic
import VersionOperator.Text.Natural
import VersionOperator.Text.Pieces

/-!
Writing a JSON document as YAML in block style: one member or item a line, members two columns
deeper than what they belong to, items on the column of the name before them. A text is written as
it is if that reads as the same text, between single quotes if not, and line by line if it has line
breaks.
-/

namespace VersionOperator.Json

def indentation (columns : Nat) : String :=
  String.ofList (List.replicate columns ' ')

def reservedWords : List String :=
  ["~", "null", "Null", "NULL", "true", "True", "TRUE", "false", "False", "FALSE", ".nan", ".NaN",
    ".NAN", ".inf", ".Inf", ".INF", "+.inf", "+.Inf", "+.INF", "-.inf", "-.Inf", "-.INF", "<<"]

/-- A text that reads as a number: it starts like one, and has no other characters than numbers. -/
def looksNumeric (cs : List Char) : Bool :=
  let body := match cs with
    | '+' :: rest => rest
    | '-' :: rest => rest
    | _ => cs
  let isNumeric (c : Char) : Bool :=
    c.isDigit || c = '.' || c = '_' || c = '+' || c = '-' || c.isAlpha
  match body with
  | c :: rest =>
    (c.isDigit && rest.all isNumeric) ||
      (c = '.' && rest ≠ [] && rest.all Char.isDigit)
  | [] => false

def yamlIndicators : List Char :=
  ['-', '?', ':', ',', '[', ']', '\x7b', '\x7d', '#', '&', '*', '!', '|', '>', '\x27', '"', '%',
    '@', '\x60']

/-- Whether a text may begin with its first character. A dash, a question mark and a colon may be
followed by anything but a blank. -/
def startsPlain : List Char → Bool
  | [] => false
  | c :: rest =>
    if c = '-' || c = '?' || c = ':' then
      match rest with
      | d :: _ => d ≠ ' '
      | [] => false
    else !yamlIndicators.contains c

/-- Whether a blank behind a colon, or one before a hash sign, would end the text. -/
def breaksPlain : List Char → Bool
  | ':' :: ' ' :: _ => true
  | [':'] => true
  | ' ' :: '#' :: _ => true
  | _ :: rest => breaksPlain rest
  | [] => false

def isPlain (s : String) : Bool :=
  let cs := s.toList
  startsPlain cs && !breaksPlain cs && cs.head? ≠ some ' ' && cs.getLast? ≠ some ' ' &&
    !reservedWords.contains s && !looksNumeric cs

def yamlText (s : String) : String :=
  if isPlain s then s
  else
    let doubled := s.toList.flatMap fun c => if c.toNat = 39 then [c, c] else [c]
    "'" ++ String.ofList doubled ++ "'"

def yamlInline? : Json → Option String
  | .null => some "null"
  | .bool true => some "true"
  | .bool false => some "false"
  | .integer n => some (toString n)
  | .decimal written => some written
  | .text s => if '\n' ∈ s.toList then none else some (yamlText s)
  | .list [] => some "[]"
  | .object [] => some "\x7b\x7d"
  | _ => none

def yamlBlock (columns : Nat) (s : String) : List String :=
  (Text.pieces '\n' s.toList).map fun line =>
    if line = [] then "" else indentation columns ++ String.ofList line

/-- The first line with a dash on the column given, in the place of two of its spaces. -/
def withDash (columns : Nat) : List String → List String
  | [] => []
  | line :: rest =>
    (indentation columns ++ "- " ++ String.ofList (line.toList.drop (columns + 2))) :: rest

mutual

def yamlMembers (columns : Nat) : List (String × Json) → List String
  | [] => []
  | (name, value) :: rest =>
    let head := indentation columns ++ yamlText name ++ ":"
    (match yamlInline? value with
      | some line => [head ++ " " ++ line]
      | none => yamlBelow columns head value) ++ yamlMembers columns rest

/-- The lines of a document that does not fit the line of its name, that line first. -/
def yamlBelow (columns : Nat) (head : String) : Json → List String
  | .object ms => head :: yamlMembers (columns + 2) ms
  | .list items => head :: yamlItems columns items
  | .text s => (head ++ " |-") :: yamlBlock (columns + 2) s
  | _ => [head]

def yamlItems (columns : Nat) : List Json → List String
  | [] => []
  | item :: rest =>
    (match yamlInline? item with
      | some line => [indentation columns ++ "- " ++ line]
      | none => withDash columns (yamlItem (columns + 2) item)) ++ yamlItems columns rest

def yamlItem (columns : Nat) : Json → List String
  | .object ms => yamlMembers columns ms
  | .list items => yamlItems columns items
  | .text s => (indentation columns ++ "|-") :: yamlBlock columns s
  | _ => []

end

def toYaml (document : Json) : String :=
  let lines := match yamlInline? document with
    | some line => [line]
    | none => yamlItem 0 document
  String.join (lines.map (· ++ "\n"))

end VersionOperator.Json
