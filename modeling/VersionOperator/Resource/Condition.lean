import VersionOperator.Resource.ComponentKind
import VersionOperator.Time.Instant

namespace VersionOperator

inductive Truth where
  | yes
  | no
  | unknown
deriving DecidableEq

def Truth.word : Truth → String
  | yes => "True"
  | no => "False"
  | unknown => "Unknown"

def Truth.ofWord? (word : String) : Option Truth :=
  if word = "True" then some .yes
  else if word = "False" then some .no
  else if word = "Unknown" then some .unknown
  else none

/-- An observation about a resource: what it is about, whether it holds, why in one word, why in
many, and since when status and reason have been as they are. -/
structure Condition where
  type : String
  status : Truth
  reason : String
  message : String
  since : Instant
deriving DecidableEq

/-- The entry that remains when a condition is set over one of the same type, and whether it is
another one than before. -/
def Condition.over (new old : Condition) : Condition × Bool :=
  if old.status = new.status ∧ old.reason = new.reason then
    ({ old with message := new.message }, old.message ≠ new.message)
  else (new, true)

/-- The conditions of a resource, in the order in which their types first appeared. -/
abbrev Ledger := List Condition

namespace Ledger

/-- Sets a condition, and tells whether the ledger is another one than before. -/
def set (new : Condition) : Ledger → Ledger × Bool
  | [] => ([new], true)
  | entry :: rest =>
    if entry.type = new.type then
      let (entry, changed) := new.over entry
      (entry :: rest, changed)
    else
      let (rest, changed) := set new rest
      (entry :: rest, changed)

def put (new : Condition) (ledger : Ledger) : Ledger :=
  (set new ledger).1

def clear (kind : ComponentKind) (ledger : Ledger) : Ledger :=
  ledger.filter fun entry => entry.type ≠ kind.conditionType

/-- Takes the entries of a component away, and tells whether there was one. -/
def remove (kind : ComponentKind) (ledger : Ledger) : Ledger × Bool :=
  (clear kind ledger, (clear kind ledger).length ≠ ledger.length)

def find? (kind : ComponentKind) (ledger : Ledger) : Option Condition :=
  List.find? (fun entry => entry.type = kind.conditionType) ledger

@[simp] theorem put_nil (new : Condition) : put new [] = [new] := rfl

theorem put_cons (new entry : Condition) (rest : Ledger) :
    put new (entry :: rest) =
      if entry.type = new.type then (new.over entry).1 :: rest else entry :: put new rest := by
  simp only [put, set]
  split <;> rfl

theorem type_over {new old : Condition} (h : old.type = new.type) :
    (new.over old).1.type = new.type := by
  unfold Condition.over
  split
  · exact h
  · rfl

theorem find?_put_self {kind : ComponentKind} {new : Condition} (h : new.type = kind.conditionType)
    (ledger : Ledger) :
    find? kind (put new ledger) =
      some (((find? kind ledger).map fun old => (new.over old).1).getD new) := by
  induction ledger with
  | nil => simp [find?, h]
  | cons entry rest ih =>
    rw [put_cons]
    split
    · rename_i he
      simp [find?, type_over he, he, h]
    · rename_i he
      rw [h] at he
      simpa [find?, he] using ih

@[simp] theorem find?_clear_self (kind : ComponentKind) (ledger : Ledger) :
    find? kind (clear kind ledger) = none := by
  simp [find?, clear, List.find?_eq_none]

end Ledger

end VersionOperator
