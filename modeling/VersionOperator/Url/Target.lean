import VersionOperator.Url.Basic

namespace VersionOperator.Url

open Text

inductive TargetFault where
  | badCharacter
  | tooLong
deriving DecidableEq

def longestTarget : Nat := 65534

def isPathChar (c : Char) : Bool :=
  0x20 < c.toNat && !(['<', '>', '\x60'].contains c)

def isQueryChar (c : Char) : Bool :=
  0x20 < c.toNat && !(['<', '>', '"'].contains c)

def isAuthorityChar (c : Char) : Bool :=
  c.isAlphanum || c.toNat = 39 ||
    ['!', '$', '%', '&', '(', ')', '*', '+', ',', '-', '.', ':', ';', '=', '@', '[', ']', '_',
      '~'].contains c

/-- The path of a target that starts with a slash: what stands before the query and the fragment.
Characters behind the fragment's sign count for nothing. -/
def targetPath (target : String) : Except TargetFault String :=
  if longestTarget < target.utf8ByteSize then .error .tooLong
  else
    let (path, query) := splitAt '?' (splitAt '#' target.toList).1
    if path.all isPathChar && (query.getD []).all isQueryChar then .ok (String.ofList path)
    else .error .badCharacter

def requestSchemes : List (List Char) :=
  [['h', 't', 't', 'p'], ['h', 't', 't', 'p', 's']]

/-- Whether a request can be sent to a URL. Reading a URL leaves nothing in its path and query that
cannot travel. -/
def isTarget (url : Url) : Bool :=
  requestSchemes.contains url.scheme && url.written.length ≤ longestTarget &&
    (url.writtenAuthority.drop 2).all isAuthorityChar

end VersionOperator.Url
