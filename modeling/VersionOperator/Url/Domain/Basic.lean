import VersionOperator.Text.Pieces
import VersionOperator.Text.Utf8
import VersionOperator.Url.Domain.Direction
import VersionOperator.Url.Domain.Joining
import VersionOperator.Url.Domain.Mapping
import VersionOperator.Url.Domain.Punycode

/-!
Domain names, which are sent in ASCII. A name is first put into one form: small letters, plain ones
for wide ones, marks composed with their letters. Each of its labels that holds more than ASCII then
stands in its place as a row of ASCII characters with `xn--` before it. A label that comes with that
mark has to stand for a label of that very form.
-/

namespace VersionOperator.Url.Domain

open Text

def mark : List Char := ['x', 'n', '-', '-']

/-- The longest row of ASCII characters that is read behind the mark. -/
def longestEncoded : Nat := 2000

def longestLabel : Nat := 1000

def isAscii (cs : List Char) : Bool :=
  cs.all (·.toNat < 0x80)

def isForbidden (c : Char) : Bool :=
  c.toNat ≤ 0x20 || c.toNat = 0x7F ||
    ['%', '#', '/', ':', '<', '>', '?', '@', '[', '\\', ']', '^', '|'].contains c

/-- Whether a label beyond ASCII is well formed: short enough, with no mark at its start, and with
joiners and non-joiners only where they may stand. -/
def isSound (label : List Char) : Bool :=
  label.length ≤ longestLabel && !(label.head?.any isMark) && joinersStand [] label

/-- A label in both forms: as people read it, and as it is sent. -/
structure Label where
  shown : List Char
  sent : List Char

/-- A label that stands for one beyond ASCII. Without a number at its end it stands for none. -/
def Label.ofEncoded? (cs : List Char) : Option Label :=
  if cs = [] || cs.getLast? = some '-' || !isAscii cs || longestEncoded < cs.length then none
  else
    match Punycode.decode? cs with
    | none => none
    | some shown =>
      if shown.all isKept && composed shown = shown && isSound shown then
        some ⟨shown, mark ++ cs⟩
      else none

def Label.of? (cs : List Char) : Option Label :=
  if mark.isPrefixOf cs then Label.ofEncoded? (cs.drop mark.length)
  else if isAscii cs then some ⟨cs, cs⟩
  else if isSound cs then some ⟨cs, mark ++ Punycode.encode cs⟩
  else none

def sent? (cs : List Char) : Option (List Char) := do
  let meant ← meantText? cs
  let labels ← (pieces '.' (composed meant)).mapM Label.of?
  let name := List.intercalate ['.'] (labels.map Label.sent)
  if name.any isForbidden || !areDirected (labels.map Label.shown) then none else some name

def ofBytes? (bytes : List UInt8) : Option (List Char) :=
  (readUtf8? bytes).bind fun text => sent? text.toList

end VersionOperator.Url.Domain
