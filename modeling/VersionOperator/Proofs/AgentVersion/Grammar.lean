import VersionOperator.AgentVersion
import VersionOperator.Proofs.Text.Numerals
import Mathlib.Data.List.Basic

namespace VersionOperator.AgentVersion

open Text

/-- The text, without white space around it, writes that version. -/
inductive Spells : AgentVersion → List Char → Prop
  | plain {major minor release : Nat} {cs : List Char}
      (h : AreNumerals '.' [major, minor, release] cs) : Spells ⟨[major, minor, release]⟩ cs
  | stamped {major minor release : Nat} {stamp : List Nat} {cs timestamp : List Char}
      (h : AreNumerals '.' [major, minor, release] cs) (hstamp : AreNumerals '-' stamp timestamp) :
      Spells ⟨major :: minor :: release :: stamp⟩ (cs ++ '.' :: timestamp)

theorem isSeparator_point : IsSeparator '.' := ⟨by decide, by decide⟩

theorem isSeparator_dash : IsSeparator '-' := ⟨by decide, by decide⟩

section Lists

variable {sep : Char} {part cs : List Char} {rest parts : List (List Char)} {ns : List Nat}

theorem readAll?_cons_eq_some_iff :
    readAll? (part :: rest) = some ns ↔
      ∃ n ms, ns = n :: ms ∧ IsNumeral n part ∧ readAll? rest = some ms := by
  simp only [← readNatural?_eq_some_iff]
  rw [readAll?]
  cases readNatural? wordLimit part with
  | none => simp
  | some n =>
    cases readAll? rest with
    | none => simp
    | some ms => simp [eq_comm]

theorem length_of_readAll? (h : readAll? parts = some ns) : parts.length = ns.length := by
  induction parts generalizing ns with
  | nil =>
    obtain rfl := Option.some.inj h
    rfl
  | cons part rest ih =>
    obtain ⟨n, ms, rfl, -, hrest⟩ := readAll?_cons_eq_some_iff.mp h
    rw [List.length_cons, List.length_cons, ih hrest]

theorem areNumerals_intercalate (hparts : parts ≠ []) (h : readAll? parts = some ns) :
    AreNumerals sep ns ([sep].intercalate parts) := by
  induction parts generalizing ns with
  | nil => exact absurd rfl hparts
  | cons part rest ih =>
    obtain ⟨n, ms, rfl, hpart, hrest⟩ := readAll?_cons_eq_some_iff.mp h
    cases rest with
    | nil =>
      obtain rfl := Option.some.inj hrest
      rw [List.intercalate_singleton]
      exact .one hpart
    | cons second rest =>
      rw [List.intercalate_cons_cons, List.append_assoc, List.singleton_append]
      exact .more hpart (ih (List.cons_ne_nil _ _) hrest)

theorem intercalate_pieces (h : pieces sep cs = parts) : [sep].intercalate parts = cs := by
  rw [← h, pieces_eq_splitOn, List.intercalate_splitOn]

theorem areNumerals_of_pieces (h : readAll? (pieces sep cs) = some ns) : AreNumerals sep ns cs := by
  have hnumerals : AreNumerals sep ns ([sep].intercalate (pieces sep cs)) :=
    areNumerals_intercalate (pieces_ne_nil sep cs) h
  rwa [intercalate_pieces rfl] at hnumerals

theorem readAll?_pieces (hsep : IsSeparator sep) (h : AreNumerals sep ns cs) :
    readAll? (pieces sep cs) = some ns := by
  induction h with
  | one h =>
    rw [pieces_eq_splitOn, List.splitOn_eq_singleton (h.not_mem hsep)]
    exact readAll?_cons_eq_some_iff.mpr ⟨_, _, rfl, h, rfl⟩
  | more h _ ih =>
    rw [pieces_eq_splitOn, List.splitOn_append_cons_self,
      List.splitOn_eq_singleton (h.not_mem hsep), ← pieces_eq_splitOn]
    exact readAll?_cons_eq_some_iff.mpr ⟨_, _, rfl, h, ih⟩

end Lists

section Versions

variable {v : AgentVersion} {cs : List Char}

theorem exists_numerals_of_three {major minor release : List Char} {ns : List Nat}
    (h : readAll? [major, minor, release] = some ns) :
    ∃ a b c, ns = [a, b, c] ∧
      AreNumerals '.' [a, b, c] (['.'].intercalate [major, minor, release]) := by
  obtain ⟨a, b, c, rfl⟩ := List.length_eq_three.mp (length_of_readAll? h).symm
  exact ⟨a, b, c, rfl, areNumerals_intercalate (List.cons_ne_nil _ _) h⟩

theorem spells_of_ofParts (h : ofParts (pieces '.' cs) = .ok v) : Spells v cs := by
  unfold ofParts at h
  split at h
  · rename_i major minor release hparts
    split at h
    · rename_i ns hread
      obtain ⟨a, b, c, rfl, hnumerals⟩ := exists_numerals_of_three hread
      obtain rfl := Except.ok.inj h
      rw [intercalate_pieces hparts] at hnumerals
      exact .plain hnumerals
    · exact absurd h nofun
  · rename_i major minor release timestamp hparts
    split at h
    · exact absurd h nofun
    rename_i ns hread
    split at h
    · rename_i stamp hstamp
      obtain ⟨a, b, c, rfl, hnumerals⟩ := exists_numerals_of_three hread
      obtain rfl := Except.ok.inj h
      have hcs : cs = ['.'].intercalate [major, minor, release] ++ '.' :: timestamp := by
        rw [← intercalate_pieces hparts]
        simp
      rw [hcs]
      exact .stamped hnumerals (areNumerals_of_pieces hstamp)
    · exact absurd h nofun
  · exact absurd h nofun
  · exact absurd h nofun

theorem exists_pieces_of_three {a b c : Nat} (h : AreNumerals '.' [a, b, c] cs) :
    ∃ major minor release, pieces '.' cs = [major, minor, release] ∧
      readAll? [major, minor, release] = some [a, b, c] := by
  have hread := readAll?_pieces isSeparator_point h
  obtain ⟨major, minor, release, hparts⟩ := List.length_eq_three.mp (length_of_readAll? hread)
  exact ⟨major, minor, release, hparts, hparts ▸ hread⟩

theorem ofParts_of_spells (h : Spells v cs) : ofParts (pieces '.' cs) = .ok v := by
  cases h with
  | plain h =>
    obtain ⟨major, minor, release, hparts, hread⟩ := exists_pieces_of_three h
    rw [hparts, ofParts, hread]
  | @stamped _ _ _ stamp cs timestamp h hstamp =>
    obtain ⟨major, minor, release, hparts, hread⟩ := exists_pieces_of_three h
    have hpoint : '.' ∉ timestamp := hstamp.not_mem isSeparator_point (by decide)
    have hall : pieces '.' (cs ++ '.' :: timestamp) = [major, minor, release, timestamp] := by
      rw [pieces_eq_splitOn, List.splitOn_append_cons_self, List.splitOn_eq_singleton hpoint,
        ← pieces_eq_splitOn, hparts]
      rfl
    rw [hall, ofParts, hread, readAll?_pieces isSeparator_dash hstamp]
    rfl

theorem Spells.nonempty (h : Spells v cs) : cs ≠ [] := by
  cases h with
  | plain h => exact h.nonempty
  | stamped h _ => exact List.append_ne_nil_of_right_ne_nil _ (List.cons_ne_nil _ _)

theorem read_eq_ok_iff : read cs = .ok v ↔ Spells v (trim cs) := by
  unfold read
  split
  · rename_i hempty
    rw [hempty]
    exact iff_of_false nofun fun h => h.nonempty rfl
  · exact ⟨spells_of_ofParts, ofParts_of_spells⟩

end Versions

end VersionOperator.AgentVersion
