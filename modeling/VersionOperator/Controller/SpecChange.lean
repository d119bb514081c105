import VersionOperator.Resource.DynaKube

namespace VersionOperator

abbrev Generations (κ : Type) := List (κ × Int)

namespace Generations

variable {κ : Type} [DecidableEq κ]

def last? (key : κ) (seen : Generations κ) : Option Int :=
  (List.find? (fun entry => entry.1 = key) seen).map Prod.snd

def record (key : κ) (generation : Int) (seen : Generations κ) : Generations κ :=
  (key, generation) :: List.filter (fun entry => entry.1 ≠ key) seen

/-- Whether an object that arrives brings something new, and the generations seen after it. An
object without a generation always does, and is not remembered. -/
def arrive (key : κ) (generation : Option Int) (seen : Generations κ) : Bool × Generations κ :=
  match generation with
  | none => (true, seen)
  | some generation => (seen.last? key ≠ some generation, seen.record key generation)

@[simp] theorem last?_record_self (key : κ) (generation : Int) (seen : Generations κ) :
    (seen.record key generation).last? key = some generation := by
  simp [last?, record]

theorem last?_record_of_ne {key other : κ} (h : other ≠ key) (generation : Int)
    (seen : Generations κ) : (seen.record key generation).last? other = seen.last? other := by
  simp only [last?, record, List.find?_cons, Ne.symm h, decide_false, List.find?_filter]
  congr 2
  funext entry
  by_cases he : entry.1 = other <;> simp [he, h]

end Generations

/-- The events that pass: every error, and the objects that bring something new. -/
def specChanges {κ ε : Type} [DecidableEq κ] (key : DynaKube → κ) (seen : Generations κ) :
    List (Except ε DynaKube) → List (Except ε DynaKube)
  | [] => []
  | .error error :: rest => .error error :: specChanges key seen rest
  | .ok dk :: rest =>
    let (isNew, seen) := seen.arrive (key dk) dk.metadata.generation
    if isNew then .ok dk :: specChanges key seen rest else specChanges key seen rest

end VersionOperator
