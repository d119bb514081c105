import VersionOperator.Text.Natural
import VersionOperator.Text.Utf8
import VersionOperator.Url.Host

namespace VersionOperator.Url

open Text

/-- Credentials, host and port. Credentials are as they are written, the absent ones empty; a port
that the scheme has anyway is absent. -/
structure Authority where
  user : List Char := []
  password : List Char := []
  host : Option Host := none
  port : Option Nat := none
deriving DecidableEq

namespace Authority

def writtenCredentials (a : Authority) : List Char :=
  if a.user = [] && a.password = [] then []
  else a.user ++ (if a.password = [] then [] else ':' :: a.password) ++ ['@']

def written (a : Authority) : List Char :=
  a.writtenCredentials ++ (a.host.map Host.written).getD [] ++
    (a.port.map fun port => ':' :: decimalDigits port).getD []

def isCredentialSpecial (c : Char) : Bool :=
  [' ', '"', '<', '>', '\x60', '#', '?', '\x7b', '\x7d', '/', ':', ';', '=', '@', '[', '\\', ']',
    '^', '|'].contains c

/-- The text before the last at sign and the text behind it; the first is absent without one. -/
def splitCredentials (cs : List Char) : Option (List Char) × List Char :=
  let host := lastPiece '@' cs
  if host.length = cs.length then (none, cs)
  else (some (cs.take (cs.length - host.length - 1)), host)

def readCredentials (cs : List Char) : List Char × List Char :=
  let (user, password) := (cut? ':' cs).getD (cs, [])
  (escape isCredentialSpecial user, escape isCredentialSpecial password)

/-- The text before the colon of a port, and the one behind it. Colons between brackets are none. -/
def splitPort (isInside : Bool) : List Char → List Char × Option (List Char)
  | [] => ([], none)
  | c :: cs =>
    if c = ':' && !isInside then ([], some cs)
    else
      let (host, port) := splitPort (if c = '[' then true else isInside && c ≠ ']') cs
      (c :: host, port)

/-- The port behind a colon, absent when it is the standard one or not written, and what follows it:
nothing, or a path that starts with a backslash. -/
def readPort? (standard : Option Nat) (cs : List Char) : Option (Option Nat × List Char) :=
  let digits := cs.takeWhile Char.isDigit
  let behind := cs.dropWhile Char.isDigit
  let port := decimalValue digits
  if behind ≠ [] ∧ behind.head? ≠ some '\\' then none
  else if 65536 ≤ port then none
  else some (if digits = [] ∨ some port = standard then none else some port, behind)

/-- The authority that a text writes, and the start of a path behind its port. `host?` reads a host,
and `canLack` tells whether there may be none; one must be there behind credentials and before a
port, but a lone colon before an at sign gives no credentials. -/
def read? (host? : List Char → Option Host) (canLack : Bool) (standard : Option Nat)
    (cs : List Char) : Option (Authority × List Char) := do
  let (credentials, rest) := splitCredentials cs
  let (user, password) := readCredentials (credentials.getD [])
  let (name, colon) := splitPort false rest
  let (port, behind) ← readPort? standard (colon.getD [])
  if name = [] then
    let isBare := credentials ≠ some [] && user = [] && password = []
    if canLack && isBare && colon.isNone then some ({}, []) else none
  else
    let host ← host? name
    some ({ user, password, host, port }, behind)

/-- Whether credentials can be read, their escapes undone: the user at least, and one of the two has
to be there. -/
def hasReadableCredentials (a : Authority) : Bool :=
  let isReadable (cs : List Char) : Bool := (readUtf8? (unescape cs)).isSome
  isReadable a.user && (a.user ≠ [] || (a.password ≠ [] && isReadable a.password))

def withoutCredentials (a : Authority) : Authority :=
  if a.hasReadableCredentials then { a with user := [], password := [] } else a

@[simp] theorem withoutCredentials_host (a : Authority) :
    a.withoutCredentials.host = a.host := by
  unfold withoutCredentials
  split <;> rfl

end Authority

end VersionOperator.Url
