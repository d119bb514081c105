import VersionOperator.Text.Hexadecimal

/-!
Tables of characters, written as text: words between blanks and line breaks, code points in base
sixteen. A table of a class lists ranges, `30-39` or a single `5F`. A table of replacements lists
runs: `41:61 62 63` gives the texts of three characters from the forty-first on, and a text of
several characters joins them by a plus sign.
-/

namespace VersionOperator.Text

def addWord (word : List Char) (words : List (List Char)) : List (List Char) :=
  if word = [] then words else word :: words

def tableWords (text : String) : List (List Char) :=
  let (word, words) := text.toList.foldr
    (fun c (word, words) =>
      if c = ' ' || c = '\n' then ([], addWord word words) else (c :: word, words))
    ([], [])
  addWord word words

def splitWord (mark : Char) (word : List Char) : List Char × List Char :=
  (word.takeWhile (· ≠ mark), (word.dropWhile (· ≠ mark)).drop 1)

/-- The range that a word names: its first and its last code point. -/
def readRange (word : List Char) : Nat × Nat :=
  let (first, last) := splitWord '-' word
  (hexValue first, if last = [] then hexValue first else hexValue last)

def readRanges (text : String) : List (Nat × Nat) :=
  (tableWords text).map readRange

def inRanges (ranges : List (Nat × Nat)) (code : Nat) : Bool :=
  ranges.any fun (low, high) => low ≤ code && code ≤ high

/-- The text that a word of a run writes: code points joined by plus signs. -/
def readCodes (word : List Char) : List Char :=
  let (code, codes) := word.foldr
    (fun c (code, codes) => if c = '+' then ([], hexValue code :: codes) else (c :: code, codes))
    ([], [])
  (hexValue code :: codes).map Char.ofNat

/-- The characters and their texts that a table of replacements lists. -/
def readRuns (text : String) : List (Nat × List Char) :=
  let step (state : Nat × List (Nat × List Char)) (word : List Char) :=
    let (code, entries) := state
    if word.contains ':' then
      let (first, target) := splitWord ':' word
      (hexValue first + 1, (hexValue first, readCodes target) :: entries)
    else (code + 1, (code, readCodes word) :: entries)
  ((tableWords text).foldl step (0, [])).2.reverse

def textOf? (entries : List (Nat × List Char)) (code : Nat) : Option (List Char) :=
  (entries.find? fun entry => entry.1 = code).map Prod.snd

end VersionOperator.Text
