import VersionOperator.Json.Basic

/-!
Reading the fields of a structure from a document. An object gives fields by name, and names that
the structure does not have are passed over; a list gives them in the order of their declaration. An
optional field may be left out or null. A field with a default may be left out, and null is no value
for it.
-/

namespace VersionOperator

/-- The fields that a document gives. -/
inductive Fields where
  | named (members : List (String × Json))
  | listed (items : List Json)

/-- The fields that a document gives for a structure of `count` fields. -/
def Json.fields? (count : Nat) : Json → Option Fields
  | .object ms => some (.named ms)
  | .list items => if items.length ≤ count then some (.listed items) else none
  | _ => none

/-- The fields that an object gives. A list is refused: this is for structures that share one object
with another structure, where a place in a list would mean nothing. -/
def Json.namedFields? : Json → Option Fields
  | .object ms => some (.named ms)
  | _ => none

def all? {α β : Type} (f : α → Option β) : List α → Option (List β)
  | [] => some []
  | a :: rest =>
    match f a, all? f rest with
    | some b, some bs => some (b :: bs)
    | _, _ => none

namespace Fields

/-- What is given for a field, by its place in the declaration or by its name. -/
def find? (fields : Fields) (place : Nat) (name : String) : Option Json :=
  match fields with
  | named ms => Json.lookup name ms
  | listed items => items[place]?

def required {α : Type} (fields : Fields) (place : Nat) (name : String)
    (read : Json → Option α) : Option α :=
  (fields.find? place name).bind read

def optional {α : Type} (fields : Fields) (place : Nat) (name : String)
    (read : Json → Option α) : Option (Option α) :=
  match fields.find? place name with
  | none => some none
  | some .null => some none
  | some document => (read document).map some

/-- A field that may be left out or null by name, and in a list may be null alone. -/
def slot {α : Type} (fields : Fields) (place : Nat) (name : String)
    (read : Json → Option α) : Option (Option α) :=
  match fields with
  | named _ => fields.optional place name read
  | listed items => if place < items.length then fields.optional place name read else none

def defaulted {α : Type} (fields : Fields) (place : Nat) (name : String) (default : α)
    (read : Json → Option α) : Option α :=
  match fields.find? place name with
  | none => some default
  | some document => read document

end Fields

/-- The word that names one of a few choices: a text, or an object whose one member has the word as
its name and nothing as its value. -/
def Json.choice? (isNothing : Json → Bool) : Json → Option String
  | .text word => some word
  | .object [(word, value)] => if isNothing value then some word else none
  | _ => none

def Json.isNull : Json → Bool
  | .null => true
  | _ => false

/-- Inside an object shared by two structures an object without members is as good as null. -/
def Json.isNullOrEmpty : Json → Bool
  | .null => true
  | .object [] => true
  | _ => false

end VersionOperator
