/-!
Labels of a domain name in ASCII. The ASCII characters of a label come first, then a hyphen if there
are any, and then one number for every other character, in the order of their code points: how many
pairs of a code point and a place it is away from the character before it. Numbers have digits of
varying weight, least significant first, and the weights adapt to the numbers so far.
-/

namespace VersionOperator.Url.Domain.Punycode

/-- The digit of a value below thirty-six: a letter, or above twenty-five a decimal digit. -/
def digit (value : Nat) : Char :=
  if value < 26 then Char.ofNat ('a'.toNat + value) else Char.ofNat ('0'.toNat + (value - 26))

def digitValue? (c : Char) : Option Nat :=
  if 'a' ≤ c ∧ c ≤ 'z' then some (c.toNat - 'a'.toNat)
  else if 'A' ≤ c ∧ c ≤ 'Z' then some (c.toNat - 'A'.toNat)
  else if '0' ≤ c ∧ c ≤ '9' then some (c.toNat - '0'.toNat + 26)
  else none

/-- The least value of a digit at a position that is not the last of its number. -/
def threshold (bias position : Nat) : Nat :=
  if position ≤ bias then 1 else if bias + 26 ≤ position then 26 else position - bias

/-- By how many positions a number is out of the ordinary, and what is left of it. -/
def scaled (value position : Nat) : Nat × Nat :=
  if 455 < value then scaled (value / 35) (position + 36) else (value, position)
termination_by value
decreasing_by omega

/-- The bias behind a number, `count` characters being there by then. The first number says little
of those that follow. -/
def adapted (value count : Nat) (isFirst : Bool) : Nat :=
  let share := if isFirst then value / 700 else value / 2
  let (rest, position) := scaled (share + share / count) 0
  position + 36 * rest / (rest + 38)

theorem threshold_pos (bias position : Nat) : 1 ≤ threshold bias position := by
  unfold threshold
  split
  · omega
  · split <;> omega

def numberDigits (bias position value : Nat) : List Char :=
  let least := threshold bias position
  if value < least then [digit value]
  else
    digit (least + (value - least) % (36 - least)) ::
      numberDigits bias (position + 36) ((value - least) / (36 - least))
termination_by value
decreasing_by
  have := threshold_pos bias position
  have := Nat.div_le_self (value - threshold bias position) (36 - threshold bias position)
  omega

/-- A label half written: the digits so far, the number of characters done, the distance to the next
one, and the bias. -/
structure Encoder where
  digits : List Char := []
  done : Nat
  distance : Nat := 0
  bias : Nat := 72

/-- Past one character of the label, when those of a code point are written. -/
def Encoder.pass (basicCount code : Nat) (e : Encoder) (c : Char) : Encoder :=
  if c.toNat < code then { e with distance := e.distance + 1 }
  else if c.toNat = code then
    { digits := e.digits ++ numberDigits e.bias 36 e.distance
      done := e.done + 1
      distance := 0
      bias := adapted e.distance (e.done + 1) (e.done = basicCount) }
  else e

/-- The numbers of all characters with the given code points, which ascend. The code point before
them is one less than `next`. -/
def Encoder.run (basicCount : Nat) (label : List Char) (next : Nat) (e : Encoder) :
    List Nat → Encoder
  | [] => e
  | code :: codes =>
    let e := { e with distance := e.distance + (code - next) * (e.done + 1) }
    let e := label.foldl (Encoder.pass basicCount code) e
    run basicCount label (code + 1) { e with distance := e.distance + 1 } codes

def insertOnce (n : Nat) : List Nat → List Nat
  | [] => [n]
  | m :: rest =>
    if n < m then n :: m :: rest else if n = m then m :: rest else m :: insertOnce n rest

def encode (label : List Char) : List Char :=
  let basic := label.filter (·.toNat < 0x80)
  let codes := ((label.map Char.toNat).filter (0x80 ≤ ·)).foldr insertOnce []
  let start := if basic = [] then [] else basic ++ ['-']
  start ++ (Encoder.run basic.length label 0x80 { done := basic.length } codes).digits

def numberLimit : Nat := 4294967296

/-- A number from a position on, added to a value, and what follows it. -/
def readNumber? (bias position weight value : Nat) : List Char → Option (Nat × List Char)
  | [] => none
  | c :: rest =>
    match digitValue? c with
    | none => none
    | some d =>
      let value := value + d * weight
      let least := threshold bias position
      let weight := weight * (36 - least)
      if numberLimit ≤ value then none
      else if d < least then some (value, rest)
      else if numberLimit ≤ weight then none
      else readNumber? bias (position + 36) weight value rest

theorem length_of_readNumber? {bias position weight value n : Nat} {cs rest : List Char}
    (h : readNumber? bias position weight value cs = some (n, rest)) :
    rest.length < cs.length := by
  induction cs generalizing position weight value with
  | nil => simp [readNumber?] at h
  | cons c cs ih =>
    unfold readNumber? at h
    split at h
    · simp at h
    · simp only at h
      split at h
      · simp at h
      · split at h
        · simp only [Option.some.injEq, Prod.mk.injEq] at h
          simp [← h.2]
        · split at h
          · simp at h
          · have := ih h
            simp only [List.length_cons]
            omega

/-- The label with the characters put in that the numbers tell. `code` and `place` are those of the
place behind the last character put in. -/
def insertAll? (bias code place : Nat) (label cs : List Char) : Option (List Char) :=
  if cs = [] then some label
  else
    match _found : readNumber? bias 36 1 place cs with
    | none => none
    | some (value, rest) =>
      let count := label.length + 1
      let next := code + value / count
      if next.isValidChar then
        insertAll? (adapted (value - place) count (place = 0)) next (value % count + 1)
          (label.insertIdx (value % count) (Char.ofNat next)) rest
      else none
termination_by cs.length
decreasing_by exact length_of_readNumber? _found

/-- What stands before the last hyphen and behind it. A hyphen with nothing before it is no mark. -/
def splitBasic (cs : List Char) : List Char × List Char :=
  let numbers := (cs.reverse.takeWhile (· ≠ '-')).reverse
  let basic := (cs.take (cs.length - numbers.length)).dropLast
  if basic = [] then ([], cs) else (basic, numbers)

/-- The label that a text of ASCII stands for. Capitals among its own characters become small. -/
def decode? (cs : List Char) : Option (List Char) :=
  let (basic, numbers) := splitBasic cs
  if basic.all (·.toNat < 0x80) then insertAll? 72 0x80 0 (basic.map Char.toLower) numbers
  else none

end VersionOperator.Url.Domain.Punycode
