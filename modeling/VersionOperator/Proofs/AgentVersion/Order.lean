import VersionOperator.Resolution.Error

namespace VersionOperator

namespace AgentVersion

theorem compareNumbers_eq_compareLex (a b : List Nat) :
    compareNumbers a b = List.compareLex compare a b := by
  induction a generalizing b with
  | nil => cases b <;> rfl
  | cons x a ih =>
    cases b with
    | nil => rfl
    | cons y b => rw [compareNumbers, ih, List.compareLex_cons_cons]

theorem compare_eq_compare_numbers (v w : AgentVersion) :
    compare v w = compare v.numbers w.numbers :=
  compareNumbers_eq_compareLex v.numbers w.numbers

instance : Std.TransOrd AgentVersion where
  eq_swap {v w} := by
    rw [compare_eq_compare_numbers, compare_eq_compare_numbers]
    exact Std.OrientedOrd.eq_swap
  isLE_trans {u v w} := by
    rw [compare_eq_compare_numbers, compare_eq_compare_numbers, compare_eq_compare_numbers]
    exact Std.TransOrd.isLE_trans

theorem older_eq_false_iff {v w : AgentVersion} :
    w.older v = false ↔ (compare v w).isLE = true := by
  rw [older, Std.OrientedOrd.eq_swap (a := w)]
  cases compare v w <;> decide

theorem parse_empty : parse "" = .error .empty := rfl

@[simp] theorem older_self (v : AgentVersion) : v.older v = false :=
  older_eq_false_iff.mpr (by rw [Std.ReflOrd.compare_self]; rfl)

end AgentVersion

theorem readVersion_eq_ok_iff {s : String} {v : AgentVersion} :
    readVersion s = .ok v ↔ AgentVersion.parse s = .ok v := by
  unfold readVersion
  cases AgentVersion.parse s <;> simp

theorem readVersion_of_parse_error {s : String} {fault : VersionFault}
    (h : AgentVersion.parse s = .error fault) :
    readVersion s = .error (.invalidVersion s fault.message) := by
  simp [readVersion, h]

theorem isDowngrade_eq_ok_iff {current candidate : String} {older : Bool} :
    isDowngrade current candidate = .ok older ↔
      ∃ v w, AgentVersion.parse current = .ok v ∧ AgentVersion.parse candidate = .ok w ∧
        w.older v = older := by
  unfold isDowngrade
  simp only [← readVersion_eq_ok_iff]
  cases readVersion current with
  | error error => simp
  | ok v =>
    cases readVersion candidate with
    | error error => simp
    | ok w => simp

theorem isDowngrade_self_of_parse {s : String} {v : AgentVersion}
    (h : AgentVersion.parse s = .ok v) : isDowngrade s s = .ok false :=
  isDowngrade_eq_ok_iff.mpr ⟨v, v, h, h, v.older_self⟩

theorem isDowngrade_self_of_parse_error {s : String} {fault : VersionFault}
    (h : AgentVersion.parse s = .error fault) :
    isDowngrade s s = .error (.invalidVersion s fault.message) := by
  simp [isDowngrade, readVersion_of_parse_error h]

end VersionOperator
