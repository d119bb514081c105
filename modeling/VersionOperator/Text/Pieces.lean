namespace VersionOperator.Text

/-- The pieces between the separators; a text without one is a single piece. -/
def pieces (sep : Char) : List Char → List (List Char)
  | [] => [[]]
  | c :: cs =>
    if c = sep then [] :: pieces sep cs
    else
      match pieces sep cs with
      | [] => [[c]]
      | piece :: rest => (c :: piece) :: rest

/-- What stands before and after the first separator, if there is one. -/
def cut? (sep : Char) : List Char → Option (List Char × List Char)
  | [] => none
  | c :: cs =>
    if c = sep then some ([], cs) else (cut? sep cs).map fun (before, after) => (c :: before, after)

/-- What stands before and after the first occurrence of `mark`, if there is one. -/
def cutAt? (mark : List Char) : List Char → Option (List Char × List Char)
  | [] => if mark = [] then some ([], []) else none
  | c :: cs =>
    if mark.isPrefixOf (c :: cs) then some ([], (c :: cs).drop mark.length)
    else (cutAt? mark cs).map fun (before, after) => (c :: before, after)

/-- What stands before the first separator, the whole text when there is none. -/
def firstPiece (sep : Char) (cs : List Char) : List Char :=
  cs.takeWhile (· ≠ sep)

/-- What stands behind the last separator, the whole text when there is none. -/
def lastPiece (sep : Char) (cs : List Char) : List Char :=
  (cs.reverse.takeWhile (· ≠ sep)).reverse

def dropTrailing (sep : Char) (cs : List Char) : List Char :=
  (cs.reverse.dropWhile (· = sep)).reverse

theorem pieces_ne_nil (sep : Char) (cs : List Char) : pieces sep cs ≠ [] := by
  cases cs with
  | nil => simp [pieces]
  | cons c cs =>
    unfold pieces
    split
    · simp
    · split <;> simp

/-- The pieces are those of the library, so putting the separators back gives the text. -/
theorem pieces_eq_splitOn (sep : Char) (cs : List Char) : pieces sep cs = cs.splitOn sep := by
  induction cs with
  | nil => rfl
  | cons c cs ih =>
    rw [pieces, List.splitOn_cons_eq_if_modifyHead, ih]
    by_cases hc : c = sep
    · simp [hc]
    · simp only [hc, if_false, beq_iff_eq]
      cases hpieces : cs.splitOn sep with
      | nil => exact absurd hpieces (List.splitOn_ne_nil sep cs)
      | cons piece rest => rfl

/-- A cut at the first separator takes the text apart and nothing else. -/
theorem cut?_eq_some_iff {sep : Char} {cs before after : List Char} :
    cut? sep cs = some (before, after) ↔ cs = before ++ sep :: after ∧ sep ∉ before := by
  induction cs generalizing before with
  | nil => simp [cut?]
  | cons c cs ih =>
    by_cases h : c = sep
    · subst h
      cases before with
      | nil => simp [cut?, eq_comm]
      | cons d before => simp [cut?]; intro he; simp [he]
    · cases before with
      | nil => simp [cut?, h]
      | cons d before =>
        simp only [cut?, h, if_false, Option.map_eq_some_iff, Prod.mk.injEq, List.cons_append,
          List.cons.injEq, List.mem_cons, not_or]
        constructor
        · rintro ⟨⟨x, y⟩, hx, ⟨rfl, rfl⟩, rfl⟩
          have := ih.1 hx
          exact ⟨⟨rfl, this.1⟩, Ne.symm h, this.2⟩
        · rintro ⟨⟨rfl, hcs⟩, _, hb⟩
          exact ⟨(before, after), ih.2 ⟨hcs, hb⟩, ⟨rfl, rfl⟩, rfl⟩

theorem cut?_eq_none_iff {sep : Char} {cs : List Char} : cut? sep cs = none ↔ sep ∉ cs := by
  induction cs with
  | nil => simp [cut?]
  | cons c cs ih =>
    by_cases h : c = sep
    · simp [cut?, h]
    · simp [cut?, h, ih, Ne.symm h]

theorem cutAt?_eq_none_iff {mark cs : List Char} : cutAt? mark cs = none ↔ ¬ mark <:+: cs := by
  induction cs with
  | nil => simp [cutAt?]
  | cons c cs ih =>
    rw [cutAt?, List.infix_cons_iff, ← List.isPrefixOf_iff_prefix]
    split
    · rename_i hhere
      simp [hhere]
    · rename_i hhere
      simp [hhere, ih]

section FirstMark

variable {mark before after : List Char}

theorem dropLast_prefix_mark : before ++ mark.dropLast <+: before ++ mark ++ after := by
  have hinit : mark.dropLast <+: mark := List.dropLast_prefix mark
  rw [List.append_assoc]
  exact (List.prefix_append_right_inj before).mpr (hinit.trans (List.prefix_append mark after))

/-- A mark at the start of a text is the first one, so nothing stands before the first one. -/
theorem eq_nil_of_mark_first (hstart : mark <+: before ++ mark ++ after)
    (hfirst : ¬ mark <:+: before ++ mark.dropLast) : before = [] := by
  cases before with
  | nil => rfl
  | cons c before =>
    refine absurd (List.IsPrefix.isInfix ?_) hfirst
    apply List.prefix_of_prefix_length_le hstart dropLast_prefix_mark
    rw [List.length_append, List.length_cons, List.length_dropLast]
    omega

/-- A text is cut at a mark before whose last character there is no whole one. -/
theorem cutAt?_append_mark (hmark : mark ≠ []) (hfirst : ¬ mark <:+: before ++ mark.dropLast)
    (after : List Char) : cutAt? mark (before ++ mark ++ after) = some (before, after) := by
  induction before with
  | nil =>
    cases mark with
    | nil => exact absurd rfl hmark
    | cons c mark => simp [cutAt?]
  | cons c before ih =>
    have hhere : ¬ mark <+: c :: before ++ mark ++ after :=
      fun hstart => List.cons_ne_nil c before (eq_nil_of_mark_first hstart hfirst)
    have hlater : ¬ mark <:+: before ++ mark.dropLast :=
      fun hwithin => hfirst (List.infix_cons_iff.mpr (.inr hwithin))
    rw [List.cons_append, List.cons_append, ← List.isPrefixOf_iff_prefix] at hhere
    rw [List.cons_append, List.cons_append, cutAt?, if_neg hhere, ih hlater]
    rfl

end FirstMark

theorem not_mem_lastPiece (sep : Char) (cs : List Char) : sep ∉ lastPiece sep cs := by
  intro hmem
  have hne := List.all_eq_true.mp List.all_takeWhile sep (List.mem_reverse.mp hmem)
  exact of_decide_eq_true hne rfl

theorem lastPiece_append_of_not_mem {sep : Char} {rest : List Char} (h : sep ∉ rest)
    (cs : List Char) : lastPiece sep (cs ++ rest) = lastPiece sep cs ++ rest := by
  have hrest : ∀ c ∈ rest.reverse, decide (c ≠ sep) = true := by
    intro c hc
    rw [decide_eq_true_eq]
    rintro rfl
    exact h (List.mem_reverse.mp hc)
  rw [lastPiece, List.reverse_append, List.takeWhile_append_of_pos hrest, List.reverse_append,
    List.reverse_reverse, lastPiece]

theorem lastPiece_of_not_mem {sep : Char} {cs : List Char} (h : sep ∉ cs) :
    lastPiece sep cs = cs :=
  lastPiece_append_of_not_mem h []

theorem lastPiece_append_cons {sep : Char} {rest : List Char} (h : sep ∉ rest) (cs : List Char) :
    lastPiece sep (cs ++ sep :: rest) = rest := by
  rw [← List.concat_append, lastPiece_append_of_not_mem h, lastPiece]
  simp

theorem dropTrailing_of_not_mem {sep : Char} {cs : List Char} (h : sep ∉ cs) :
    dropTrailing sep cs = cs := by
  rcases List.eq_nil_or_concat cs with rfl | ⟨before, c, rfl⟩
  · rfl
  · have hc : c ≠ sep := by
      rintro rfl
      exact h (by simp)
    simp [dropTrailing, hc]

theorem eq_lastPiece_or (sep : Char) (cs : List Char) :
    cs = lastPiece sep cs ∨ ∃ before, cs = before ++ sep :: lastPiece sep cs := by
  by_cases h : sep ∈ cs
  · obtain ⟨after, before, hreverse, hafter⟩ :=
      List.eq_append_cons_of_mem (List.mem_reverse.mpr h)
    have hcs : cs = before.reverse ++ sep :: after.reverse := by
      rw [← cs.reverse_reverse, hreverse]
      simp
    have hlast : lastPiece sep cs = after.reverse := by
      rw [hcs, lastPiece_append_cons fun hmem => hafter (List.mem_reverse.mp hmem)]
    exact .inr ⟨before.reverse, by rw [hlast, ← hcs]⟩
  · exact .inl (lastPiece_of_not_mem h).symm

end VersionOperator.Text
