import VersionOperator.Text.Natural

namespace VersionOperator.Text

/-- Digits of that value, which 64 bits hold. -/
structure IsDecimal (n : Nat) (digits : List Char) : Prop where
  nonempty : digits ≠ []
  isDigit : ∀ c ∈ digits, c.isDigit = true
  value : Nat.ofDigitChars 10 digits 0 = n
  limit : n < wordLimit

inductive IsNumeral (n : Nat) : List Char → Prop
  | plain {digits : List Char} (h : IsDecimal n digits) : IsNumeral n digits
  | signed {digits : List Char} (h : IsDecimal n digits) : IsNumeral n ('+' :: digits)

/-- One or more numbers with a separator between them. -/
inductive AreNumerals (sep : Char) : List Nat → List Char → Prop
  | one {n : Nat} {cs : List Char} (h : IsNumeral n cs) : AreNumerals sep [n] cs
  | more {n : Nat} {cs : List Char} {ns : List Nat} {rest : List Char} (h : IsNumeral n cs)
      (hrest : AreNumerals sep ns rest) : AreNumerals sep (n :: ns) (cs ++ sep :: rest)

section Reading

variable {n : Nat} {cs : List Char}

theorem withoutPlus_of_isDecimal (h : IsDecimal n cs) : withoutPlus cs = cs := by
  unfold withoutPlus
  split
  · exact absurd (h.isDigit '+' List.mem_cons_self) (by decide)
  · rfl

theorem isNumeral_iff : IsNumeral n cs ↔ IsDecimal n (withoutPlus cs) := by
  constructor
  · rintro (h | h)
    · rwa [withoutPlus_of_isDecimal h]
    · exact h
  · intro h
    unfold withoutPlus at h
    split at h
    · exact .signed h
    · exact .plain h

theorem readNatural?_eq_some_iff : readNatural? wordLimit cs = some n ↔ IsNumeral n cs := by
  rw [isNumeral_iff, readNatural?, decimalValue_eq_ofDigitChars]
  constructor
  · intro h
    split at h
    · rename_i hread
      obtain ⟨hnonempty, hdigits, hlimit⟩ := hread
      obtain rfl := Option.some.inj h
      exact ⟨hnonempty, List.all_eq_true.mp hdigits, rfl, hlimit⟩
    · cases h
  · rintro ⟨hnonempty, hdigits, rfl, hlimit⟩
    rw [if_pos ⟨hnonempty, List.all_eq_true.mpr hdigits, hlimit⟩]

theorem IsNumeral.nonempty (h : IsNumeral n cs) : cs ≠ [] := by
  cases h with
  | plain h => exact h.nonempty
  | signed h => exact List.cons_ne_nil _ _

theorem AreNumerals.nonempty {sep : Char} {ns : List Nat} (h : AreNumerals sep ns cs) :
    cs ≠ [] := by
  cases h with
  | one h => exact h.nonempty
  | more h hrest => exact List.append_ne_nil_of_right_ne_nil _ (List.cons_ne_nil _ _)

end Reading

/-- A character that is found in no number, and so can separate numbers. -/
structure IsSeparator (sep : Char) : Prop where
  not_digit : sep.isDigit = false
  not_plus : sep ≠ '+'

section Separator

variable {sep : Char} (hsep : IsSeparator sep) {n : Nat} {cs : List Char}
include hsep

theorem IsDecimal.not_mem (h : IsDecimal n cs) : sep ∉ cs := by
  intro hmem
  exact absurd ((h.isDigit sep hmem).symm.trans hsep.not_digit) (by decide)

theorem IsNumeral.not_mem (h : IsNumeral n cs) : sep ∉ cs := by
  cases h with
  | plain h => exact h.not_mem hsep
  | signed h =>
    rw [List.mem_cons, not_or]
    exact ⟨hsep.not_plus, h.not_mem hsep⟩

theorem AreNumerals.not_mem {between : Char} {ns : List Nat} (hne : sep ≠ between)
    (h : AreNumerals between ns cs) : sep ∉ cs := by
  induction h with
  | one h => exact h.not_mem hsep
  | more h _ ih =>
    intro hmem
    rcases List.mem_append.mp hmem with hmem | hmem
    · exact h.not_mem hsep hmem
    · exact (List.mem_cons.mp hmem).elim hne ih

end Separator

def EndsInDigit (cs : List Char) : Prop :=
  ∃ c ∈ cs.getLast?, c.isDigit = true

instance (cs : List Char) : Decidable (EndsInDigit cs) :=
  decidable_of_iff (cs.getLast?.any Char.isDigit = true) (Option.any_eq_true _ _)

theorem EndsInDigit.append_left {cs : List Char} (h : EndsInDigit cs) (before : List Char) :
    EndsInDigit (before ++ cs) := by
  obtain ⟨c, hlast, hc⟩ := h
  exact ⟨c, by rw [List.getLast?_append, hlast]; rfl, hc⟩

theorem endsInDigit_of_forall {cs : List Char} (hne : cs ≠ []) (h : ∀ c ∈ cs, c.isDigit = true) :
    EndsInDigit cs :=
  ⟨cs.getLast hne, List.getLast?_eq_some_getLast hne, h _ (List.getLast_mem hne)⟩

/-- What is said of a text still holds with one more zero in front of a number in it. A number
starts at a digit that does not stand behind another one. -/
def KeptByZeros (P : List Char → Prop) : Prop :=
  ∀ ⦃before after : List Char⦄ ⦃c : Char⦄, ¬ EndsInDigit before → c.isDigit = true →
    P (before ++ c :: after) → P (before ++ '0' :: c :: after)

section Zeros

variable {n : Nat}

/-- All of a text before its first digit is the empty text when the text has nothing but digits. -/
theorem IsDecimal.before_eq_nil {before after : List Char} {c : Char}
    (h : IsDecimal n (before ++ c :: after)) (hstart : ¬ EndsInDigit before) : before = [] := by
  refine Decidable.byContradiction fun hne => hstart (endsInDigit_of_forall hne ?_)
  intro d hd
  exact h.isDigit d (List.mem_append_left _ hd)

theorem IsDecimal.zero_cons {digits : List Char} (h : IsDecimal n digits) :
    IsDecimal n ('0' :: digits) where
  nonempty := List.cons_ne_nil _ _
  isDigit := by
    rw [List.forall_mem_cons]
    exact ⟨by decide, h.isDigit⟩
  value := by
    rw [Nat.ofDigitChars_cons]
    exact h.value
  limit := h.limit

theorem keptByZeros_isNumeral (n : Nat) : KeptByZeros (IsNumeral n) := by
  intro before after c hstart hc h
  generalize hcs : before ++ c :: after = cs at h
  cases h with
  | plain h =>
    subst hcs
    obtain rfl := h.before_eq_nil hstart
    exact .plain h.zero_cons
  | @signed digits h =>
    cases before with
    | nil =>
      obtain ⟨rfl, -⟩ := List.cons.inj hcs
      exact absurd hc (by decide)
    | cons d before =>
      obtain ⟨rfl, rfl⟩ := List.cons.inj hcs
      obtain rfl := h.before_eq_nil fun hends => hstart (hends.append_left ['+'])
      exact .signed h.zero_cons

theorem KeptByZeros.append_cons {P Q : List Char → Prop} {sep : Char}
    (hsep : sep.isDigit = false) (hP : KeptByZeros P) (hQ : KeptByZeros Q) :
    KeptByZeros fun cs => ∃ first second, cs = first ++ sep :: second ∧ P first ∧ Q second := by
  rintro before after c hstart hc ⟨first, second, hcs, hfirst, hsecond⟩
  rcases List.append_eq_append_iff.mp hcs with ⟨start, rfl, hrest⟩ | ⟨start, rfl, hrest⟩
  · cases start with
    | nil =>
      obtain ⟨rfl, -⟩ := List.cons.inj hrest
      exact absurd (hc.symm.trans hsep) (by decide)
    | cons d start =>
      obtain ⟨rfl, rfl⟩ := List.cons.inj hrest
      refine ⟨before ++ '0' :: c :: start, second, by simp, hP hstart hc hfirst, hsecond⟩
  · cases start with
    | nil =>
      obtain ⟨rfl, -⟩ := List.cons.inj hrest
      exact absurd (hc.symm.trans hsep) (by decide)
    | cons d start =>
      obtain ⟨rfl, rfl⟩ := List.cons.inj hrest
      have hstart' : ¬ EndsInDigit start := by
        intro hends
        exact hstart (by simpa using hends.append_left (first ++ [sep]))
      refine ⟨first, start ++ '0' :: c :: after, by simp, hfirst, hQ hstart' hc hsecond⟩

theorem keptByZeros_areNumerals {sep : Char} (hsep : sep.isDigit = false) (ns : List Nat) :
    KeptByZeros (AreNumerals sep ns) := by
  induction ns with
  | nil =>
    intro before after c _ _ h
    cases h
  | cons n ns ih =>
    intro before after c hstart hc h
    generalize hcs : before ++ c :: after = cs at h
    cases h with
    | one h =>
      subst hcs
      exact .one (keptByZeros_isNumeral n hstart hc h)
    | more h hrest =>
      obtain ⟨first, second, heq, hfirst, hsecond⟩ :=
        (keptByZeros_isNumeral n).append_cons hsep ih hstart hc ⟨_, _, hcs, h, hrest⟩
      rw [heq]
      exact .more hfirst hsecond

end Zeros

end VersionOperator.Text
