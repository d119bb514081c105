namespace VersionOperator.Text

def isBlank (c : Char) : Bool :=
  let n := c.toNat
  (0x9 ≤ n && n ≤ 0xD) || n == 0x20 || n == 0x85 || n == 0xA0 || n == 0x1680 ||
    (0x2000 ≤ n && n ≤ 0x200A) || n == 0x2028 || n == 0x2029 || n == 0x202F ||
    n == 0x205F || n == 0x3000

def trimStart (cs : List Char) : List Char :=
  cs.dropWhile isBlank

def trimEnd (cs : List Char) : List Char :=
  (cs.reverse.dropWhile isBlank).reverse

def trim (cs : List Char) : List Char :=
  trimEnd (trimStart cs)

def isBlankText (s : String) : Bool :=
  s.toList.all isBlank

/-- A blank setting counts as an absent one; any other is kept as it was written. -/
def presentText? (s : Option String) : Option String :=
  s.filter fun text => !isBlankText text

def trimmed (s : String) : String :=
  String.ofList (trim s.toList)

def lowerAscii (cs : List Char) : List Char :=
  cs.map Char.toLower

/-- No ASCII character that leaves ink is blank. -/
theorem not_blank_of_visible {c : Char} (h : 0x21 ≤ c.toNat ∧ c.toNat ≤ 0x7E) :
    isBlank c = false := by
  simp only [isBlank, Bool.or_eq_false_iff, Bool.and_eq_false_iff, decide_eq_false_iff_not,
    beq_eq_false_iff_ne]
  omega

theorem not_blank_of_isDigit {c : Char} (h : c.isDigit = true) : isBlank c = false := by
  obtain ⟨hleast, hmost⟩ := Char.isDigit_iff_toNat.mp h
  exact not_blank_of_visible ⟨Nat.le_trans (by decide) hleast, Nat.le_trans hmost (by decide)⟩

section Trim

variable {c : Char}

theorem trimStart_cons_of_not_blank (h : isBlank c = false) (rest : List Char) :
    trimStart (c :: rest) = c :: rest := by
  simp [trimStart, h]

theorem trimStart_append_cons (h : isBlank c = false) (before after : List Char) :
    trimStart (before ++ c :: after) = trimStart before ++ c :: after := by
  rw [trimStart, List.dropWhile_append]
  split
  · rename_i hblank
    rw [trimStart, List.isEmpty_iff.mp hblank, List.nil_append]
    exact trimStart_cons_of_not_blank h after
  · rfl

theorem trimEnd_append_cons (h : isBlank c = false) (before after : List Char) :
    trimEnd (before ++ c :: after) = before ++ c :: trimEnd after := by
  have hreverse : (before ++ c :: after).reverse = after.reverse ++ c :: before.reverse := by simp
  have hdrop := trimStart_append_cons h after.reverse before.reverse
  rw [trimStart, trimStart] at hdrop
  rw [trimEnd, hreverse, hdrop, trimEnd]
  simp

/-- White space is taken off on either side of a character that is none. -/
theorem trim_append_cons (h : isBlank c = false) (before after : List Char) :
    trim (before ++ c :: after) = trimStart before ++ c :: trimEnd after := by
  rw [trim, trimStart_append_cons h, trimEnd_append_cons h]

theorem trimEnd_of_not_blank {cs : List Char} (h : ∀ c ∈ cs, isBlank c = false) :
    trimEnd cs = cs := by
  rcases List.eq_nil_or_concat cs with rfl | ⟨before, c, rfl⟩
  · rfl
  · rw [List.concat_eq_append]
    exact trimEnd_append_cons (h c (by simp)) before []

variable (h : isBlank c = true)
include h

theorem trim_cons_of_blank (cs : List Char) : trim (c :: cs) = trim cs := by
  rw [trim, trimStart, List.dropWhile_cons_of_pos h, trim, trimStart]

theorem trim_append_of_blank (cs : List Char) : trim (cs ++ [c]) = trim cs := by
  have hend : ∀ rest, trimEnd (rest ++ [c]) = trimEnd rest := by
    intro rest
    rw [trimEnd, List.reverse_append, List.reverse_singleton, List.singleton_append,
      List.dropWhile_cons_of_pos h, trimEnd]
  rw [trim, trimStart, List.dropWhile_append]
  split
  · rename_i hblank
    rw [trim, trimStart, List.isEmpty_iff.mp hblank, List.dropWhile_cons_of_pos h,
      List.dropWhile_nil]
  · exact hend _

end Trim

theorem trim_surrounded {before after : List Char} (hbefore : ∀ c ∈ before, isBlank c = true)
    (hafter : ∀ c ∈ after, isBlank c = true) (cs : List Char) :
    trim (before ++ cs ++ after) = trim cs := by
  induction before with
  | nil =>
    rw [List.nil_append]
    induction after generalizing cs with
    | nil => rw [List.append_nil]
    | cons c after ih =>
      obtain ⟨hc, hafter⟩ := List.forall_mem_cons.mp hafter
      rw [← List.concat_append, ih hafter, List.concat_eq_append, trim_append_of_blank hc]
  | cons c before ih =>
    obtain ⟨hc, hbefore⟩ := List.forall_mem_cons.mp hbefore
    rw [List.cons_append, List.cons_append, trim_cons_of_blank hc, ih hbefore]

theorem isInfix_trim (cs : List Char) : trim cs <:+: cs := by
  have hstart : trimStart cs <:+ cs := List.dropWhile_suffix _
  have hend : trimEnd (trimStart cs) <+: trimStart cs := by
    rw [trimEnd, ← List.reverse_suffix, List.reverse_reverse]
    exact List.dropWhile_suffix _
  exact hend.isInfix.trans hstart.isInfix

@[simp] theorem presentText?_none : presentText? none = none := rfl

theorem presentText?_some (s : String) :
    presentText? (some s) = if isBlankText s then none else some s := by
  cases h : isBlankText s <;> simp [presentText?, Option.filter, h]

theorem isBlankText_of_presentText? {s : Option String} {t : String}
    (h : presentText? s = some t) : isBlankText t = false := by
  cases s with
  | none => simp at h
  | some u =>
    rw [presentText?_some] at h
    split at h <;> simp_all

end VersionOperator.Text
