import VersionOperator.Proofs.AgentVersion.Grammar
import VersionOperator.Proofs.AgentVersion.Order
import Mathlib.Logic.Relation

namespace VersionOperator

open Text

namespace AgentVersion

/-- One list of numbers comes before another: it ends where they still agree, or it has the smaller
number where they first differ. -/
inductive Precedes : List Nat → List Nat → Prop
  | shorter (start : List Nat) (n : Nat) (rest : List Nat) : Precedes start (start ++ n :: rest)
  | smaller (start : List Nat) {m n : Nat} (as bs : List Nat) (h : m < n) :
      Precedes (start ++ m :: as) (start ++ n :: bs)

theorem Precedes.cons {as bs : List Nat} (h : Precedes as bs) (n : Nat) :
    Precedes (n :: as) (n :: bs) := by
  cases h with
  | shorter _ m rest => exact .shorter (n :: as) m rest
  | smaller start as bs h => exact .smaller (n :: start) as bs h

theorem compareNumbers_append (start as bs : List Nat) :
    compareNumbers (start ++ as) (start ++ bs) = compareNumbers as bs := by
  induction start with
  | nil => rfl
  | cons n start ih =>
    rw [List.cons_append, List.cons_append, compareNumbers, ih, Nat.compare_eq_eq.mpr rfl]
    rfl

theorem precedes_of_compareNumbers {as bs : List Nat} (h : compareNumbers as bs = .lt) :
    Precedes as bs := by
  induction as generalizing bs with
  | nil =>
    cases bs with
    | nil => exact absurd h nofun
    | cons n bs => exact .shorter [] n bs
  | cons m as ih =>
    cases bs with
    | nil => exact absurd h nofun
    | cons n bs =>
      rw [compareNumbers] at h
      rcases Ordering.then_eq_lt.mp h with hlt | ⟨heq, hlt⟩
      · exact .smaller [] as bs (Nat.compare_eq_lt.mp hlt)
      · obtain rfl := Nat.compare_eq_eq.mp heq
        exact (ih hlt).cons m

theorem compareNumbers_of_precedes {as bs : List Nat} (h : Precedes as bs) :
    compareNumbers as bs = .lt := by
  cases h with
  | shorter _ n rest =>
    have happend := compareNumbers_append as [] (n :: rest)
    rw [List.append_nil] at happend
    exact happend
  | smaller start as bs h =>
    rw [compareNumbers_append, compareNumbers, Nat.compare_eq_lt.mpr h]
    rfl

section Older

variable {u v w : AgentVersion}

theorem older_iff_compare : v.older u = true ↔ compare v u = .lt := by
  rw [older, beq_iff_eq]

theorem older_iff_precedes : v.older u = true ↔ Precedes v.numbers u.numbers :=
  older_iff_compare.trans ⟨precedes_of_compareNumbers, compareNumbers_of_precedes⟩

theorem compare_eq_eq_iff : compare u v = .eq ↔ u = v := by
  rw [compare_eq_compare_numbers, Std.compare_eq_iff_eq]
  cases u
  cases v
  rw [AgentVersion.mk.injEq]

theorem older_trans (hvu : v.older u = true) (hwv : w.older v = true) : w.older u = true := by
  rw [older_iff_compare] at hvu hwv ⊢
  exact Std.TransCmp.lt_trans hwv hvu

/-- Of two versions one is older, or they are the same. -/
theorem older_cases (u v : AgentVersion) :
    v.older u = true ∧ u.older v = false ∧ u ≠ v ∨ v.older u = false ∧ u.older v = true ∧ u ≠ v ∨
      v.older u = false ∧ u.older v = false ∧ u = v := by
  have hswap : compare v u = (compare u v).swap := Std.OrientedOrd.eq_swap
  rw [older, older, hswap, ne_eq, ← compare_eq_eq_iff]
  cases compare u v <;> decide

end Older

/-- One more character of white space around a text, or one more zero in front of a number in it. -/
inductive Pads : List Char → List Char → Prop
  | blankBefore {c : Char} {cs : List Char} (h : isBlank c = true) : Pads cs (c :: cs)
  | blankAfter {c : Char} {cs : List Char} (h : isBlank c = true) : Pads cs (cs ++ [c])
  | zero {before after : List Char} {c : Char} (hstart : ¬ EndsInDigit before)
      (hc : c.isDigit = true) : Pads (before ++ c :: after) (before ++ '0' :: c :: after)

theorem keptByZeros_spells (v : AgentVersion) : KeptByZeros (Spells v) := by
  intro before after c hstart hc h
  generalize hcs : before ++ c :: after = cs at h
  cases h with
  | plain h =>
    subst hcs
    exact .plain (keptByZeros_areNumerals isSeparator_point.not_digit _ hstart hc h)
  | stamped h hstamp =>
    obtain ⟨first, second, heq, hfirst, hsecond⟩ :=
      (keptByZeros_areNumerals isSeparator_point.not_digit _).append_cons
        isSeparator_point.not_digit (keptByZeros_areNumerals isSeparator_dash.not_digit _)
        hstart hc ⟨_, _, hcs, h, hstamp⟩
    rw [heq]
    exact .stamped hfirst hsecond

theorem read_of_pads {cs ds : List Char} {v : AgentVersion} (hpads : Pads cs ds)
    (h : read cs = .ok v) : read ds = .ok v := by
  rw [read_eq_ok_iff] at h ⊢
  cases hpads with
  | blankBefore hc => rwa [trim_cons_of_blank hc]
  | blankAfter hc => rwa [trim_append_of_blank hc]
  | @zero before after c hstart hc =>
    have hzero : trim (before ++ '0' :: c :: after) =
        trimStart before ++ '0' :: c :: trimEnd after := by
      rw [trim_append_cons (by decide)]
      exact congrArg _ (congrArg _ (trimEnd_append_cons (not_blank_of_isDigit hc) [] after))
    rw [trim_append_cons (not_blank_of_isDigit hc)] at h
    rw [hzero]
    refine keptByZeros_spells v ?_ hc h
    intro hends
    apply hstart
    rw [← List.takeWhile_append_dropWhile (p := isBlank) (l := before)]
    exact hends.append_left _

/-- A text has white space around it and zeros in front of its numbers that another one does not
have. -/
def Padded (s t : String) : Prop :=
  Relation.ReflTransGen Pads s.toList t.toList

theorem read_of_padded {cs ds : List Char} {v : AgentVersion}
    (hpadded : Relation.ReflTransGen Pads cs ds) (h : read cs = .ok v) : read ds = .ok v := by
  induction hpadded with
  | refl => exact h
  | tail _ hpads ih => exact read_of_pads hpads ih

theorem parse_of_padded {s t : String} {v : AgentVersion} (hpadded : Padded s t)
    (h : parse s = .ok v) : parse t = .ok v :=
  read_of_padded hpadded h

end AgentVersion

/-- The text writes no version, and the failure says which text, and why. -/
def RefusesVersion (s : String) (error : VersionError) : Prop :=
  ∃ fault, AgentVersion.parse s = .error fault ∧ error = .invalidVersion s fault.message

theorem readVersion_eq_error_iff {s : String} {error : VersionError} :
    readVersion s = .error error ↔ RefusesVersion s error := by
  unfold readVersion RefusesVersion
  cases AgentVersion.parse s <;> simp [eq_comm]

theorem isDowngrade_eq_error_iff {current candidate : String} {error : VersionError} :
    isDowngrade current candidate = .error error ↔
      RefusesVersion current error ∨
        (∃ v, AgentVersion.parse current = .ok v) ∧ RefusesVersion candidate error := by
  simp only [← readVersion_eq_error_iff, ← readVersion_eq_ok_iff]
  unfold isDowngrade
  cases readVersion current with
  | error fault => simp
  | ok v => cases readVersion candidate <;> simp

theorem isDowngrade_of_parse {current candidate : String} {v w : AgentVersion}
    (hcurrent : AgentVersion.parse current = .ok v)
    (hcandidate : AgentVersion.parse candidate = .ok w) :
    isDowngrade current candidate = .ok (w.older v) :=
  isDowngrade_eq_ok_iff.mpr ⟨v, w, hcurrent, hcandidate, rfl⟩

/-- Exactly the texts of the grammar are read, as their numbers in order. Among texts that are read,
the guard is a total order: it tells which of two versions is older, number by number, and looks
neither at white space around a text nor at zeros in front of its numbers. It fails when one of the
texts is not read, over the current one first. -/
theorem versions_read_and_ordered :
    (∀ (s : String) (v : AgentVersion),
      AgentVersion.parse s = .ok v ↔ AgentVersion.Spells v (trim s.toList)) ∧
    (∀ (a b c : String) (u v w : AgentVersion), AgentVersion.parse a = .ok u →
      AgentVersion.parse b = .ok v → AgentVersion.parse c = .ok w →
      ((isDowngrade a b = .ok true ∧ isDowngrade b a = .ok false ∧ u ≠ v) ∨
        (isDowngrade a b = .ok false ∧ isDowngrade b a = .ok true ∧ u ≠ v) ∨
        (isDowngrade a b = .ok false ∧ isDowngrade b a = .ok false ∧ u = v)) ∧
      (isDowngrade a b = .ok true → isDowngrade b c = .ok true → isDowngrade a c = .ok true) ∧
      (isDowngrade a b = .ok true ↔ AgentVersion.Precedes v.numbers u.numbers) ∧
      ∀ a' b', AgentVersion.Padded a a' → AgentVersion.Padded b b' →
        isDowngrade a' b' = isDowngrade a b) ∧
    ∀ (a b : String) (error : VersionError),
      isDowngrade a b = .error error ↔
        RefusesVersion a error ∨
          (∃ v, AgentVersion.parse a = .ok v) ∧ RefusesVersion b error := by
  refine ⟨fun s v => AgentVersion.read_eq_ok_iff, ?_, fun a b error => isDowngrade_eq_error_iff⟩
  intro a b c u v w ha hb hc
  rw [isDowngrade_of_parse ha hb, isDowngrade_of_parse hb ha, isDowngrade_of_parse hb hc,
    isDowngrade_of_parse ha hc]
  simp only [Except.ok.injEq]
  refine ⟨AgentVersion.older_cases u v, AgentVersion.older_trans, AgentVersion.older_iff_precedes,
    ?_⟩
  intro a' b' ha' hb'
  exact isDowngrade_of_parse (AgentVersion.parse_of_padded ha' ha)
    (AgentVersion.parse_of_padded hb' hb)

/-- A version, an older one with a timestamp, and the one that this starts with; the first is
written once more with a blank, and with a zero in front of its second number. -/
theorem versions_read_and_ordered_stamped :
    let a := "1.10.0"
    let b := "1.9.+07.20240101-120000"
    let c := "1.9.7"
    let a' := "1.010.0\t"
    let u : AgentVersion := ⟨[1, 10, 0]⟩
    let v : AgentVersion := ⟨[1, 9, 7, 20240101, 120000]⟩
    let w : AgentVersion := ⟨[1, 9, 7]⟩
    (AgentVersion.parse a = .ok u ∧ AgentVersion.parse b = .ok v ∧ AgentVersion.parse c = .ok w ∧
      AgentVersion.Padded a a' ∧ AgentVersion.Padded b b) ∧
    (isDowngrade a b = .ok true ↔ AgentVersion.Precedes v.numbers u.numbers) ∧
    (isDowngrade a b = .ok true → isDowngrade b c = .ok true → isDowngrade a c = .ok true) ∧
    isDowngrade a' b = isDowngrade a b := by
  have ha : AgentVersion.parse "1.10.0" = .ok ⟨[1, 10, 0]⟩ := by rfl
  have hb : AgentVersion.parse "1.9.+07.20240101-120000" =
      .ok ⟨[1, 9, 7, 20240101, 120000]⟩ := by rfl
  have hc : AgentVersion.parse "1.9.7" = .ok ⟨[1, 9, 7]⟩ := by rfl
  have hzero : AgentVersion.Pads "1.10.0".toList "1.010.0".toList :=
    @AgentVersion.Pads.zero ['1', '.'] _ _ (by decide) (by decide)
  have hblank : AgentVersion.Pads "1.010.0".toList "1.010.0\t".toList := .blankAfter (by decide)
  have ha' : AgentVersion.Padded "1.10.0" "1.010.0\t" :=
    (Relation.ReflTransGen.single hzero).tail hblank
  intro a b c a' u v w
  have hb' : AgentVersion.Padded b b := .refl
  obtain ⟨-, htrans, hprecedes, hpadded⟩ :=
    versions_read_and_ordered.2.1 a b c u v w ha hb hc
  exact ⟨⟨ha, hb, hc, ha', hb'⟩, hprecedes, htrans, hpadded a' b ha' hb'⟩

end VersionOperator
