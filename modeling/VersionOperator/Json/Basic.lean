namespace VersionOperator

/-- A JSON document. A number with a fraction or an exponent, or too large for a machine word, keeps
its text, as nothing here computes with one. -/
inductive Json where
  | null
  | bool (value : Bool)
  | integer (value : Int)
  | decimal (written : String)
  | text (value : String)
  | list (items : List Json)
  | object (members : List (String × Json))
deriving Inhabited

namespace Json

def lookup (name : String) : List (String × Json) → Option Json
  | [] => none
  | (other, value) :: rest => if other = name then some value else lookup name rest

/-- The members with that name given that value, in the place of its first occurrence if it has
one and at the end otherwise. -/
def assign (name : String) (value : Json) : List (String × Json) → List (String × Json)
  | [] => [(name, value)]
  | (other, old) :: rest =>
    if other = name then (name, value) :: rest else (other, old) :: assign name value rest

def without (name : String) : List (String × Json) → List (String × Json)
  | [] => []
  | (other, value) :: rest =>
    if other = name then without name rest else (other, value) :: without name rest

def members : Json → List (String × Json)
  | object ms => ms
  | _ => []

def get? (name : String) (document : Json) : Option Json :=
  lookup name document.members

def text? : Json → Option String
  | text s => some s
  | _ => none

def bool? : Json → Option Bool
  | bool b => some b
  | _ => none

def integer? : Json → Option Int
  | integer n => some n
  | _ => none

def list? : Json → Option (List Json)
  | list items => some items
  | _ => none

def object? : Json → Option (List (String × Json))
  | object ms => some ms
  | _ => none

@[simp] theorem lookup_assign_self (name : String) (value : Json) (ms : List (String × Json)) :
    lookup name (assign name value ms) = some value := by
  induction ms with
  | nil => simp [assign, lookup]
  | cons m rest ih =>
    obtain ⟨other, old⟩ := m
    by_cases h : other = name <;> simp [assign, lookup, h, ih]

theorem lookup_assign_of_ne {name other : String} (h : other ≠ name) (value : Json)
    (ms : List (String × Json)) : lookup other (assign name value ms) = lookup other ms := by
  induction ms with
  | nil => simp [assign, lookup, Ne.symm h]
  | cons m rest ih =>
    obtain ⟨third, old⟩ := m
    by_cases hn : third = name
    · subst hn
      simp [assign, lookup, Ne.symm h]
    · by_cases ho : third = other <;> simp [assign, lookup, hn, ho, h, ih]

@[simp] theorem lookup_without_self (name : String) (ms : List (String × Json)) :
    lookup name (without name ms) = none := by
  induction ms with
  | nil => rfl
  | cons m rest ih =>
    obtain ⟨other, old⟩ := m
    by_cases h : other = name <;> simp [without, lookup, h, ih]

theorem lookup_without_of_ne {name other : String} (h : other ≠ name)
    (ms : List (String × Json)) : lookup other (without name ms) = lookup other ms := by
  induction ms with
  | nil => rfl
  | cons m rest ih =>
    obtain ⟨third, old⟩ := m
    by_cases hn : third = name
    · subst hn
      simp [without, lookup, Ne.symm h, ih]
    · by_cases ho : third = other <;> simp [without, lookup, hn, ho, h, ih]

end Json

end VersionOperator
