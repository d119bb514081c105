import VersionOperator.Json.MergePatch

namespace VersionOperator.Json

/-- What stands under a name after a change, by what stood there and what the change has there. -/
def changed (old : Option Json) : Option Json → Option Json
  | none => old
  | some .null => none
  | some change => some (merge (old.getD .null) change)

@[simp] theorem changed_none (old : Option Json) : changed old none = old := rfl

@[simp] theorem changed_null (old : Option Json) : changed old (some .null) = none := rfl

theorem changed_of_ne_null (old : Option Json) {change : Json} (h : change ≠ .null) :
    changed old (some change) = some (merge (old.getD .null) change) := by
  cases change with
  | null => exact absurd rfl h
  | bool _ | integer _ | decimal _ | text _ | list _ | object _ => rfl

section Members

variable {name : String} {ms changes : List (String × Json)}

theorem lookup_cons_self (value : Json) : lookup name ((name, value) :: ms) = some value := by
  rw [lookup, if_pos rfl]

theorem lookup_cons_of_ne {other : String} (h : other ≠ name) (value : Json) :
    lookup name ((other, value) :: ms) = lookup name ms := by
  rw [lookup, if_neg h]

theorem lookup_eq_none_iff : lookup name ms = none ↔ name ∉ ms.map Prod.fst := by
  induction ms with
  | nil => simp [lookup]
  | cons m rest ih =>
    obtain ⟨other, value⟩ := m
    rw [List.map_cons, List.mem_cons, not_or, ← ih]
    by_cases h : other = name
    · simp [lookup, h]
    · rw [lookup_cons_of_ne h]
      exact (and_iff_right (Ne.symm h)).symm

theorem mem_of_lookup_eq_some {value : Json} (h : lookup name ms = some value) :
    name ∈ ms.map Prod.fst := by
  rcases Decidable.em (name ∈ ms.map Prod.fst) with hmem | hnot
  · exact hmem
  · rw [lookup_eq_none_iff.mpr hnot] at h
    exact absurd h (by simp)

theorem lookup_append (name : String) (ms rest : List (String × Json)) :
    lookup name (ms ++ rest) = (lookup name ms).or (lookup name rest) := by
  induction ms with
  | nil => rfl
  | cons m ms ih =>
    obtain ⟨other, value⟩ := m
    by_cases h : other = name
    · rw [List.cons_append, h, lookup_cons_self, lookup_cons_self, Option.some_or]
    · rw [List.cons_append, lookup_cons_of_ne h, lookup_cons_of_ne h, ih]

theorem mergeMembers_cons (ms : List (String × Json)) (other : String) (change : Json)
    (rest : List (String × Json)) :
    ∃ ms', mergeMembers ms ((other, change) :: rest) = mergeMembers ms' rest ∧
      lookup other ms' = changed (lookup other ms) (some change) ∧
      ∀ name, name ≠ other → lookup name ms' = lookup name ms := by
  by_cases h : change = .null
  · refine ⟨without other ms, ?_, ?_, ?_⟩
    · rw [h, mergeMembers]
    · rw [h, changed_null, lookup_without_self]
    · intro name hne
      exact lookup_without_of_ne hne ms
  · refine ⟨assign other (merge ((lookup other ms).getD .null) change) ms, ?_, ?_, ?_⟩
    · rw [mergeMembers]
      exact h
    · rw [changed_of_ne_null _ h, lookup_assign_self]
    · intro name hne
      exact lookup_assign_of_ne hne _ ms

theorem lookup_mergeMembers (h : (changes.map Prod.fst).Nodup) (name : String)
    (ms : List (String × Json)) :
    lookup name (mergeMembers ms changes) = changed (lookup name ms) (lookup name changes) := by
  induction changes generalizing ms with
  | nil => rw [mergeMembers, lookup, changed_none]
  | cons m rest ih =>
    obtain ⟨other, change⟩ := m
    obtain ⟨hother, hrest⟩ := List.nodup_cons.mp h
    obtain ⟨ms', hmerge, hself, hothers⟩ := mergeMembers_cons ms other change rest
    rw [hmerge, ih hrest ms']
    -- Names are distinct, so what comes after a member leaves the name of that member alone.
    by_cases hname : other = name
    · have hnone : lookup name rest = none := lookup_eq_none_iff.mpr (hname ▸ hother)
      rw [hnone, changed_none, ← hname, hself, lookup_cons_self]
    · rw [hothers name (Ne.symm hname), lookup_cons_of_ne hname]

theorem get?_merge (h : (changes.map Prod.fst).Nodup) (name : String) (target : Json) :
    (merge target (.object changes)).get? name =
      changed (target.get? name) (lookup name changes) := by
  rw [merge]
  exact lookup_mergeMembers h name target.members

end Members

theorem merge_text (target : Json) (value : String) : merge target (.text value) = .text value := by
  rw [merge]
  simp

theorem merge_list (target : Json) (items : List Json) :
    merge target (.list items) = .list items := by
  rw [merge]
  simp

end VersionOperator.Json
