import VersionOperator.Text.Blank
import VersionOperator.Text.Pieces

/-!
References to container images, of the form registry and port, repository, tag and digest, of which
only the repository is needed. The tag is the one part that tells a version to people; `tagOf` finds
it, and `compose` builds the reference of a version in a registry.
-/

namespace VersionOperator.Image

open Text

inductive Fault where
  | secondDigest
  | noAlgorithm (digest : String)
  | badAlgorithm (algorithm : String)
  | notHex
  | noRepository
  | badTag (tag : String)
deriving DecidableEq

def Fault.message : Fault → String
  | secondDigest => "multiple '@' delimiters"
  | noAlgorithm digest => "digest '" ++ digest ++ "' has no algorithm"
  | badAlgorithm algorithm => "invalid digest algorithm '" ++ algorithm ++ "'"
  | notHex => "digest is not hex encoded"
  | noRepository => "missing repository name"
  | badTag tag => "invalid tag '" ++ tag ++ "'"

inductive Error where
  | empty
  | noTag (image : String)
  | malformed (image : String) (reason : String)
deriving DecidableEq

def Error.message : Error → String
  | empty => "image reference is empty"
  | noTag image => "image '" ++ image ++ "' has no tag"
  | malformed image reason => "image '" ++ image ++ "' is malformed: " ++ reason

def isAlgorithmChar (c : Char) : Bool :=
  c.isLower || c.isDigit || c = '+' || c = '.' || c = '_' || c = '-'

def isHexChar (c : Char) : Bool :=
  c.isDigit || ('a' ≤ c && c ≤ 'f') || ('A' ≤ c && c ≤ 'F')

def isTagStart (c : Char) : Bool :=
  c.isAlphanum || c = '_'

def isTagChar (c : Char) : Bool :=
  isTagStart c || c = '.' || c = '-'

/-- A tag is one starting character and up to 127 more characters. -/
def isTag : List Char → Bool
  | [] => false
  | c :: cs => isTagStart c && cs.all isTagChar && cs.length ≤ 127

/-- The first fault of a digest, the part behind the sign that opens it. -/
def digestFault? (digest : List Char) : Option Fault :=
  if '@' ∈ digest then some .secondDigest
  else
    match cut? ':' digest with
    | none => some (.noAlgorithm (String.ofList digest))
    | some (algorithm, hex) =>
      if algorithm = [] ∨ !algorithm.all isAlgorithmChar then
        some (.badAlgorithm (String.ofList algorithm))
      else if hex = [] ∨ !hex.all isHexChar then some .notHex
      else none

def splitDigest (cs : List Char) : List Char × Option (List Char) :=
  match cut? '@' cs with
  | some (name, digest) => (name, some digest)
  | none => (cs, none)

/-- What a name without digest says about its tag: the tag, that there is none, or a fault. A colon
before the last slash belongs to the port of a registry. -/
def nameTag (name : List Char) : Except Fault (Option (List Char)) :=
  if name = [] then .error .noRepository
  else
    match cut? ':' (lastPiece '/' name) with
    | none => .ok none
    | some (repository, tag) =>
      if repository = [] then .error .noRepository
      else if isTag tag then .ok (some tag)
      else .error (.badTag (String.ofList tag))

/-- What a trimmed reference says about its tag. The digest is checked first. -/
def referenceTag (cs : List Char) : Except Fault (Option (List Char)) :=
  let (name, digest) := splitDigest cs
  match digest.bind digestFault? with
  | some fault => .error fault
  | none => nameTag name

/-- The tag of an image reference, white space around the reference left out. -/
def tagOf (image : String) : Except Error String :=
  match trim image.toList with
  | [] => .error .empty
  | cs =>
    match referenceTag cs with
    | .ok (some tag) => .ok (String.ofList tag)
    | .ok none => .error (.noTag (String.ofList cs))
    | .error fault => .error (.malformed (String.ofList cs) fault.message)

/-- The reference of a version of a repository in a registry; slashes at the end of the registry are
not doubled. -/
def compose (registry repository version : String) : String :=
  String.ofList (dropTrailing '/' registry.toList) ++ "/" ++ repository ++ ":" ++ version

end VersionOperator.Image
