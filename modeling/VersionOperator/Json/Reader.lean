import VersionOperator.Json.Basic
import VersionOperator.Text.Hexadecimal
import VersionOperator.Text.Natural

namespace VersionOperator.Json

open Text (hexDigit? wordLimit)

def isGap (c : Char) : Bool :=
  c = ' ' || c = '\t' || c = '\n' || c = '\r'

def skipGap (cs : List Char) : List Char :=
  cs.dropWhile isGap

def hexUnit? (a b c d : Char) : Option Nat := do
  return ((← hexDigit? a) * 16 + (← hexDigit? b)) * 256 + (← hexDigit? c) * 16 + (← hexDigit? d)

/-- The character behind a backslash, for the escapes of one letter. -/
def escapedChar? (c : Char) : Option Char :=
  if c = '"' || c = '\\' || c = '/' then some c
  else if c = 'b' then some '\x08'
  else if c = 'f' then some '\x0c'
  else if c = 'n' then some '\n'
  else if c = 'r' then some '\r'
  else if c = 't' then some '\t'
  else none

def isHighHalf (unit : Nat) : Bool :=
  0xD800 ≤ unit && unit ≤ 0xDBFF

def isLowHalf (unit : Nat) : Bool :=
  0xDC00 ≤ unit && unit ≤ 0xDFFF

/-- The character of a unit, the replacement character for a half of a pair. -/
def ofUnit (unit : Nat) : Char :=
  if isHighHalf unit || isLowHalf unit then '\uFFFD' else Char.ofNat unit

/-- The rest of a text behind its opening quote, and what follows its closing quote. A half of a
pair that stands alone is refused where the `whole` text is asked for, and is replaced elsewhere. -/
def readText (whole : Bool) : List Char → Option (List Char × List Char)
  | [] => none
  | '"' :: rest => some ([], rest)
  | '\\' :: 'u' :: a :: b :: c :: d :: '\\' :: 'u' :: e :: f :: g :: h :: rest =>
    match hexUnit? a b c d, hexUnit? e f g h with
    | some first, some second =>
      if isHighHalf first && isLowHalf second then
        (readText whole rest).map fun (chars, after) =>
          (Char.ofNat (0x10000 + (first - 0xD800) * 0x400 + (second - 0xDC00)) :: chars, after)
      else if (isHighHalf first || isLowHalf first) && whole then none
      else
        (readText whole ('\\' :: 'u' :: e :: f :: g :: h :: rest)).map fun (chars, after) =>
          (ofUnit first :: chars, after)
    | _, _ => none
  | '\\' :: 'u' :: a :: b :: c :: d :: rest =>
    match hexUnit? a b c d with
    | some unit =>
      if (isHighHalf unit || isLowHalf unit) && whole then none
      else (readText whole rest).map fun (chars, after) => (ofUnit unit :: chars, after)
    | none => none
  | '\\' :: c :: rest =>
    match escapedChar? c with
    | some e => (readText whole rest).map fun (chars, after) => (e :: chars, after)
    | none => none
  | c :: rest =>
    if c.toNat < 0x20 then none
    else (readText whole rest).map fun (chars, after) => (c :: chars, after)

/-- The digits in front and what follows them; at least one digit is asked for. -/
def readDigits? (cs : List Char) : Option (List Char × List Char) :=
  let digits := cs.takeWhile Char.isDigit
  if digits = [] then none else some (digits, cs.dropWhile Char.isDigit)

/-- The whole part of a number: zero alone, or digits that do not start with zero. -/
def readWhole? (cs : List Char) : Option (List Char × List Char) := do
  let (digits, rest) ← readDigits? cs
  if digits.head? = some '0' && digits.length ≠ 1 then none else some (digits, rest)

def readFraction? : List Char → Option (List Char × List Char)
  | '.' :: cs => do
    let (digits, rest) ← readDigits? cs
    return ('.' :: digits, rest)
  | cs => some ([], cs)

def readExponent? : List Char → Option (List Char × List Char)
  | [] => some ([], [])
  | c :: cs =>
    if c = 'e' || c = 'E' then
      let (sign, digits) := match cs with
        | '+' :: rest => (['+'], rest)
        | '-' :: rest => (['-'], rest)
        | _ => ([], cs)
      (readDigits? digits).map fun (ds, rest) => (c :: sign ++ ds, rest)
    else some ([], c :: cs)

/-- A whole number that fits a machine word, signed below zero and unsigned above; a negative zero
is none. -/
def wordInteger? (negative : Bool) (whole : List Char) : Option Int :=
  let magnitude := whole.foldl (fun value c => 10 * value + (c.toNat - '0'.toNat)) 0
  if negative then
    if magnitude = 0 || magnitude > wordLimit / 2 then none else some (-(magnitude : Int))
  else if magnitude < wordLimit then some magnitude
  else none

def readNumber? (cs : List Char) : Option (Json × List Char) := do
  let (negative, unsigned) := match cs with
    | '-' :: rest => (true, rest)
    | _ => (false, cs)
  let (whole, rest) ← readWhole? unsigned
  let (fraction, rest) ← readFraction? rest
  let (exponent, rest) ← readExponent? rest
  let written := (if negative then ['-'] else []) ++ whole ++ fraction ++ exponent
  match wordInteger? negative whole, fraction, exponent with
  | some n, [], [] => some (.integer n, rest)
  | _, _, _ => some (.decimal (String.ofList written), rest)

def dropWord? (word : List Char) (cs : List Char) : Option (List Char) :=
  if word.isPrefixOf cs then some (cs.drop word.length) else none

mutual

/-- A value and what follows it. The first argument tells whether texts have to be whole, and the
second one in which members of the value itself; the third one bounds the depth of the calls. -/
def readValue (whole : Bool) (wholeIn : String → Bool) : Nat → List Char → Option (Json × List Char)
  | 0, _ => none
  | fuel + 1, cs =>
    match skipGap cs with
    | '"' :: rest =>
      (readText whole rest).map fun (chars, after) => (.text (String.ofList chars), after)
    | '[' :: rest =>
      match skipGap rest with
      | ']' :: after => some (.list [], after)
      | _ => (readItems whole fuel rest).map fun (items, after) => (.list items, after)
    | '\x7b' :: rest =>
      match skipGap rest with
      | '\x7d' :: after => some (.object [], after)
      | _ => (readMembers whole wholeIn fuel rest).map fun (ms, after) => (.object ms, after)
    | 'n' :: rest => (dropWord? ['u', 'l', 'l'] rest).map (Json.null, ·)
    | 't' :: rest => (dropWord? ['r', 'u', 'e'] rest).map (Json.bool true, ·)
    | 'f' :: rest => (dropWord? ['a', 'l', 's', 'e'] rest).map (Json.bool false, ·)
    | rest => readNumber? rest

def readItems (whole : Bool) : Nat → List Char → Option (List Json × List Char)
  | 0, _ => none
  | fuel + 1, cs =>
    match readValue whole (fun _ => whole) fuel cs with
    | none => none
    | some (value, rest) =>
      match skipGap rest with
      | ']' :: after => some ([value], after)
      | ',' :: more =>
        (readItems whole fuel more).map fun (items, after) => (value :: items, after)
      | _ => none

def readMembers (whole : Bool) (wholeIn : String → Bool) :
    Nat → List Char → Option (List (String × Json) × List Char)
  | 0, _ => none
  | fuel + 1, cs =>
    match skipGap cs with
    | '"' :: rest =>
      match readText whole rest with
      | none => none
      | some (chars, rest) =>
        let name := String.ofList chars
        match skipGap rest with
        | ':' :: rest =>
          match readValue (wholeIn name) (fun _ => wholeIn name) fuel rest with
          | none => none
          | some (value, rest) =>
            match skipGap rest with
            | '\x7d' :: after => some ([(name, value)], after)
            | ',' :: more =>
              (readMembers whole wholeIn fuel more).map fun (ms, after) =>
                ((name, value) :: ms, after)
            | _ => none
        | _ => none
    | _ => none

end

/-- The document that a text writes, in whose members of certain names alone all texts have to be
whole. Every call takes at least one character with every second step, so twice the length is depth
enough. -/
def readWholeIn? (wholeIn : String → Bool) (s : String) : Option Json :=
  let cs := s.toList
  match readValue true wholeIn (2 * cs.length + 2) cs with
  | some (document, rest) => if skipGap rest = [] then some document else none
  | none => none

def read? : String → Option Json :=
  readWholeIn? fun _ => true

end VersionOperator.Json
