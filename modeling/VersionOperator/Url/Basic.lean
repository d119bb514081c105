import VersionOperator.Url.Authority
import VersionOperator.Url.Path

/-!
URLs: a scheme, mostly a host, a path, and perhaps a query and a fragment. Reading puts a URL in one
form: the scheme in small letters, the host as it is sent, no port that the scheme has anyway, and a
path without steps that lead nowhere. White space around the text counts for nothing, and neither do
tabs and line breaks within.
-/

namespace VersionOperator

open Text

/-- A URL. The query and the fragment are as they are written. -/
structure Url where
  scheme : List Char
  authority : Option Url.Authority := none
  path : Url.Path
  query : Option (List Char) := none
  fragment : Option (List Char) := none
deriving DecidableEq

namespace Url

def host? (url : Url) : Option Host :=
  url.authority.bind Authority.host

/-- What stands between the colon of the scheme and the path. A path whose first step is empty would
be taken for an authority, so a step that stays in place comes before it. -/
def writtenAuthority (url : Url) : List Char :=
  match url.authority, url.path with
  | some authority, _ => '/' :: '/' :: authority.written
  | none, .steps ([] :: _ :: _) => ['/', '.']
  | none, _ => []

def writtenQuery (url : Url) : List Char :=
  (url.query.map ('?' :: ·)).getD []

def written (url : Url) : List Char :=
  url.scheme ++ ':' :: url.writtenAuthority ++ url.path.written ++ url.writtenQuery ++
    (url.fragment.map ('#' :: ·)).getD []

/-- The URL without credentials, if they can be read; they are sent by themselves. -/
def withoutCredentials (url : Url) : Url :=
  { url with authority := url.authority.map Authority.withoutCredentials }

/-- How the text behind a scheme is read: with a host and a standard port, as a file, or without
any rule but those for all URLs. -/
inductive Kind where
  | standard (port : Nat)
  | file
  | free
deriving DecidableEq

def kinds : List (List Char × Kind) :=
  [(['h', 't', 't', 'p'], .standard 80), (['h', 't', 't', 'p', 's'], .standard 443),
    (['w', 's'], .standard 80), (['w', 's', 's'], .standard 443), (['f', 't', 'p'], .standard 21),
    (['f', 'i', 'l', 'e'], .file)]

def kind (scheme : List Char) : Kind :=
  ((kinds.find? fun entry => entry.1 = scheme).map Prod.snd).getD .free

def isSchemeChar (c : Char) : Bool :=
  c.isAlphanum || c = '+' || c = '-' || c = '.'

/-- The scheme in small letters, and what stands behind its colon. -/
def scheme? (cs : List Char) : Option (List Char × List Char) :=
  match cs.takeWhile isSchemeChar, cs.dropWhile isSchemeChar with
  | c :: rest, ':' :: after =>
    if c.isAlpha then some ((c :: rest).map Char.toLower, after) else none
  | _, _ => none

/-- The characters that a query cannot hold; where the scheme has rules of its own, no apostrophe
either. -/
def isQuerySpecial (kind : Kind) (c : Char) : Bool :=
  c = ' ' || c = '"' || c = '<' || c = '>' || c = '#' || (c.toNat = 39 && kind ≠ .free)

def isFragmentSpecial (c : Char) : Bool :=
  c = ' ' || c = '"' || c = '<' || c = '>' || c = '\x60'

/-- What stands before the first sign, and what behind it if there is one. -/
def splitAt (sign : Char) (cs : List Char) : List Char × Option (List Char) :=
  match cut? sign cs with
  | some (before, after) => (before, some after)
  | none => (cs, none)

/-- Whether a character separates steps: a slash, or a backslash that counts as one. -/
def isSlash (c : Char) : Bool :=
  c = '/' || c = '\\'

/-- The host and the path of a scheme with a standard port. Any number of slashes may stand before
the host. -/
def standardBody? (port : Nat) (cs : List Char) : Option (Option Authority × Path) := do
  let rest := cs.dropWhile isSlash
  let (authority, _) ←
    Authority.read? Host.ofDomain? false (some port) (rest.takeWhile (!isSlash ·))
  let path := Path.slashed (rest.dropWhile (!isSlash ·))
  return (some authority, .steps (Path.read false (path.drop 1)))

def filePath (steps : List (List Char)) : Path :=
  match steps.dropWhile (· = []) with
  | [] => .steps [[]]
  | rest => .steps rest

def ownHost : Host := .named ['l', 'o', 'c', 'a', 'l', 'h', 'o', 's', 't']

/-- The host and the path of a file on a host that is written out; the text stands behind the host.
A file on a drive has no host. -/
def hostedFile (host : Host) (cs : List Char) : Authority × Path :=
  let steps := Path.read true (cs.drop 1)
  ({ host := if steps.head?.any Path.isDrive then none else some host }, filePath steps)

/-- The host and the path of a file. A host stands behind two slashes, unless it is a drive. Behind
an empty host and behind one's own, the path starts with an empty step, so that no drive is its
first. -/
def fileBody? (cs : List Char) : Option (Option Authority × Path) :=
  let hostless (cs : List Char) := some (some {}, filePath (Path.read true cs))
  match Path.slashed cs with
  | '/' :: '/' :: rest =>
    let name := rest.takeWhile (· ≠ '/')
    let behind := rest.dropWhile (· ≠ '/')
    if name = [] || Path.isDrive name then hostless rest
    else
      match Host.ofDomain? name with
      | none => none
      | some host =>
        if host = ownHost then hostless behind
        else
          let (authority, path) := hostedFile host behind
          some (some authority, path)
  | '/' :: rest => hostless rest
  | rest => hostless rest

def freeBody? : List Char → Option (Option Authority × Path)
  | '/' :: '/' :: rest => do
    let (authority, start) ←
      Authority.read? Host.ofPlain? true none (rest.takeWhile (· ≠ '/'))
    match start ++ rest.dropWhile (· ≠ '/') with
    | [] => return (some authority, .steps [])
    | '/' :: path => return (some authority, .steps (Path.read false path))
    | path => return (some authority, .steps (Path.read false path))
  | '/' :: rest => some (none, .steps (Path.read false rest))
  | cs => some (none, .text (escape (fun _ => false) cs))

/-- The text without white space and controls at its ends, and without tabs and line breaks. -/
def cleaned (s : String) : List Char :=
  let isEdge (c : Char) : Bool := c.toNat ≤ 0x20
  let cs := ((s.toList.dropWhile isEdge).reverse.dropWhile isEdge).reverse
  cs.filter fun c => c ≠ '\t' && c ≠ '\n' && c ≠ '\r'

def body? : Kind → List Char → Option (Option Authority × Path)
  | .standard port => standardBody? port
  | .file => fileBody?
  | .free => freeBody?

def read? (s : String) : Option Url := do
  let (scheme, rest) ← scheme? (cleaned s)
  let (rest, fragment) := splitAt '#' rest
  let (rest, query) := splitAt '?' rest
  let (authority, path) ← body? (kind scheme) rest
  return {
    scheme, authority, path
    query := query.map (escape (isQuerySpecial (kind scheme)))
    fragment := fragment.map (escape isFragmentSpecial) }

@[simp] theorem host?_withoutCredentials (url : Url) :
    url.withoutCredentials.host? = url.host? := by
  cases h : url.authority <;> simp [withoutCredentials, host?, h]

end Url

end VersionOperator
