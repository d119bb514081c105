import Mathlib.Data.List.Perm.Basic
import VersionOperator.Proofs.Ledger.Entries

namespace VersionOperator.Ledger

/-- The ledger with the entries of a component replaced in their places by the given ones, in order.
Places for which no entry is given vanish. -/
def inPlace (kind : ComponentKind) (news : Ledger) : Ledger → Ledger
  | [] => []
  | entry :: rest =>
    if entry.type = kind.conditionType then news.take 1 ++ inPlace kind (news.drop 1) rest
    else entry :: inPlace kind news rest

/-- The entries of a component that had none before. -/
def fresh (kind : ComponentKind) (before after : Ledger) : Ledger :=
  if entriesOf kind before = [] then entriesOf kind after else []

/-- Between the two ledgers the component has written its entries and nothing else. -/
def Rewrites (kind : ComponentKind) (before after : Ledger) : Prop :=
  after = inPlace kind (entriesOf kind after) before ++ fresh kind before after

def foreign (ledger : Ledger) : Ledger :=
  ledger.filter fun entry => ∀ kind ∈ ComponentKind.all, entry.type ≠ kind.conditionType

/-- Two ledgers that came of one: they agree but for the order of the entries that were added at the
end, which are of types that it did not have. -/
def SameButAdded (base a b : Ledger) : Prop :=
  ∃ kept added added', a = kept ++ added ∧ b = kept ++ added' ∧ added.Perm added' ∧
    ∀ entry ∈ added, ∀ old ∈ base, old.type ≠ entry.type

section InPlace

variable {kind : ComponentKind} {news ledger : Ledger} {entry : Condition}

theorem entriesOf_cons_self (h : entry.type = kind.conditionType) :
    entriesOf kind (entry :: ledger) = entry :: entriesOf kind ledger :=
  ofType_cons_self h

theorem entriesOf_cons_of_ne (h : entry.type ≠ kind.conditionType) :
    entriesOf kind (entry :: ledger) = entriesOf kind ledger :=
  ofType_cons_of_ne h

theorem inPlace_cons_self (h : entry.type = kind.conditionType) :
    inPlace kind news (entry :: ledger) = news.take 1 ++ inPlace kind (news.drop 1) ledger := by
  rw [inPlace, if_pos h]

theorem inPlace_cons_of_ne (h : entry.type ≠ kind.conditionType) :
    inPlace kind news (entry :: ledger) = entry :: inPlace kind news ledger := by
  rw [inPlace, if_neg h]

theorem inPlace_entriesOf (kind : ComponentKind) (ledger : Ledger) :
    inPlace kind (entriesOf kind ledger) ledger = ledger := by
  induction ledger with
  | nil => rfl
  | cons entry rest ih =>
    by_cases h : entry.type = kind.conditionType
    · rw [entriesOf_cons_self h, inPlace_cons_self h]
      simpa using ih
    · rw [entriesOf_cons_of_ne h, inPlace_cons_of_ne h, ih]

theorem inPlace_nil (kind : ComponentKind) (ledger : Ledger) :
    inPlace kind [] ledger = clear kind ledger := by
  induction ledger with
  | nil => rfl
  | cons entry rest ih =>
    by_cases h : entry.type = kind.conditionType
    · rw [inPlace_cons_self h]
      simpa [clear, h] using ih
    · rw [inPlace_cons_of_ne h, ih]
      simp [clear, h]

theorem inPlace_append_of_none (h : entriesOf kind ledger = []) (rest : Ledger) :
    inPlace kind news (ledger ++ rest) = ledger ++ inPlace kind news rest := by
  induction ledger with
  | nil => rfl
  | cons entry ledger ih =>
    have hne : entry.type ≠ kind.conditionType := by
      intro he
      rw [entriesOf_cons_self he] at h
      exact absurd h (by simp)
    rw [entriesOf_cons_of_ne hne] at h
    rw [List.cons_append, inPlace_cons_of_ne hne, ih h, List.cons_append]

theorem inPlace_append {rest : Ledger} (h : entriesOf kind rest = []) (ledger : Ledger) :
    inPlace kind news (ledger ++ rest) = inPlace kind news ledger ++ rest := by
  induction ledger generalizing news with
  | nil =>
    have hrest : inPlace kind news (rest ++ []) = rest ++ inPlace kind news [] :=
      inPlace_append_of_none h []
    simpa [inPlace] using hrest
  | cons entry ledger ih =>
    by_cases he : entry.type = kind.conditionType
    · rw [List.cons_append, inPlace_cons_self he, inPlace_cons_self he, ih, List.append_assoc]
    · rw [List.cons_append, inPlace_cons_of_ne he, inPlace_cons_of_ne he, ih, List.cons_append]

theorem entriesOf_eq_nil_of_ne {other : ComponentKind} (h : other ≠ kind)
    (hnews : ∀ new ∈ news, new.type = kind.conditionType) : entriesOf other news = [] := by
  rw [entriesOf, List.filter_eq_nil_iff]
  intro new hmem htype
  rw [hnews new hmem, decide_eq_true_eq] at htype
  exact h (ComponentKind.conditionType_inj.mp htype).symm

theorem inPlace_comm {other : ComponentKind} (h : other ≠ kind) {news' : Ledger}
    (hnews : ∀ new ∈ news, new.type = kind.conditionType)
    (hnews' : ∀ new ∈ news', new.type = other.conditionType) :
    inPlace kind news (inPlace other news' ledger) =
      inPlace other news' (inPlace kind news ledger) := by
  induction ledger generalizing news news' with
  | nil => rfl
  | cons entry rest ih =>
    have htake : entriesOf other (news.take 1) = [] :=
      entriesOf_eq_nil_of_ne h fun new hmem => hnews new (List.mem_of_mem_take hmem)
    have htake' : entriesOf kind (news'.take 1) = [] :=
      entriesOf_eq_nil_of_ne h.symm fun new hmem => hnews' new (List.mem_of_mem_take hmem)
    by_cases hkind : entry.type = kind.conditionType
    · have hother : entry.type ≠ other.conditionType := fun he =>
        h (ComponentKind.conditionType_inj.mp (he.symm.trans hkind))
      rw [inPlace_cons_of_ne hother, inPlace_cons_self hkind, inPlace_cons_self hkind,
        inPlace_append_of_none htake,
        ih (fun new hmem => hnews new (List.mem_of_mem_drop hmem)) hnews']
    · rw [inPlace_cons_of_ne hkind]
      by_cases hother : entry.type = other.conditionType
      · rw [inPlace_cons_self hother, inPlace_cons_self hother, inPlace_append_of_none htake',
          ih hnews fun new hmem => hnews' new (List.mem_of_mem_drop hmem)]
      · rw [inPlace_cons_of_ne hother, inPlace_cons_of_ne hother, inPlace_cons_of_ne hkind,
          ih hnews hnews']

end InPlace

/-- The first entry of the component is another one than before, or one was added at the end where
there was none. -/
inductive ReplacesFirst (kind : ComponentKind) : Ledger → Ledger → Prop
  | added {new : Condition} (hnew : new.type = kind.conditionType) : ReplacesFirst kind [] [new]
  | here {old new : Condition} {rest : Ledger} (hold : old.type = kind.conditionType)
      (hnew : new.type = kind.conditionType) : ReplacesFirst kind (old :: rest) (new :: rest)
  | later {entry : Condition} {rest rest' : Ledger} (hentry : entry.type ≠ kind.conditionType)
      (h : ReplacesFirst kind rest rest') : ReplacesFirst kind (entry :: rest) (entry :: rest')

section Writes

variable {kind : ComponentKind} {a b d : Ledger}

theorem replacesFirst_put {new : Condition} (hnew : new.type = kind.conditionType)
    (ledger : Ledger) : ReplacesFirst kind ledger (put new ledger) := by
  induction ledger with
  | nil => exact .added hnew
  | cons entry rest ih =>
    rw [put_cons]
    split
    · rename_i he
      exact .here (he.trans hnew) (by rw [type_over he, hnew])
    · rename_i he
      exact .later (fun htype => he (htype.trans hnew.symm)) ih

theorem ReplacesFirst.trans (hab : ReplacesFirst kind a b) (hbd : ReplacesFirst kind b d) :
    ReplacesFirst kind a d := by
  induction hab generalizing d with
  | added hnew =>
    cases hbd with
    | here _ hnew' => exact .added hnew'
    | later hne _ => exact absurd hnew hne
  | here hold hnew =>
    cases hbd with
    | here _ hnew' => exact .here hold hnew'
    | later hne _ => exact absurd hnew hne
  | later hentry _ ih =>
    cases hbd with
    | here hold _ => exact absurd hold hentry
    | later _ hrest => exact .later hentry (ih hrest)

theorem rewrites_refl (kind : ComponentKind) (ledger : Ledger) : Rewrites kind ledger ledger := by
  rw [Rewrites, inPlace_entriesOf, fresh]
  split
  · rename_i h
    rw [h, List.append_nil]
  · rw [List.append_nil]

theorem rewrites_clear (kind : ComponentKind) (ledger : Ledger) :
    Rewrites kind ledger (clear kind ledger) := by
  rw [Rewrites, fresh, entriesOf_clear_self, inPlace_nil]
  simp

theorem ReplacesFirst.rewrites (h : ReplacesFirst kind a b) : Rewrites kind a b := by
  induction h with
  | added hnew => simp [Rewrites, inPlace, fresh, entriesOf, hnew]
  | @here old new rest hold hnew =>
    rw [Rewrites, fresh, entriesOf_cons_self hold, entriesOf_cons_self hnew, inPlace_cons_self hold]
    simp [inPlace_entriesOf]
  | @later entry rest rest' hentry _ ih =>
    rw [Rewrites, fresh, entriesOf_cons_of_ne hentry, entriesOf_cons_of_ne hentry,
      inPlace_cons_of_ne hentry, List.cons_append]
    exact congrArg (entry :: ·) ih

theorem fresh_congr {a' b' : Ledger} (hbefore : entriesOf kind a = entriesOf kind a')
    (hafter : entriesOf kind b = entriesOf kind b') : fresh kind a b = fresh kind a' b' := by
  rw [fresh, fresh, hbefore, hafter]

theorem mem_fresh {entry : Condition} (h : entry ∈ fresh kind a b) :
    entry.type = kind.conditionType ∧ ∀ old ∈ a, old.type ≠ kind.conditionType := by
  unfold fresh at h
  split at h
  · rename_i hnone
    refine ⟨(mem_entriesOf_iff.mp h).2, ?_⟩
    intro old hold htype
    have hmem := mem_entriesOf_iff.mpr ⟨hold, htype⟩
    rw [hnone] at hmem
    exact absurd hmem List.not_mem_nil
  · exact absurd h List.not_mem_nil

theorem foreign_eq_of_clear_eq (h : clear kind a = clear kind b) : foreign a = foreign b := by
  have hforeign : ∀ ledger : Ledger, foreign (clear kind ledger) = foreign ledger := by
    intro ledger
    rw [foreign, clear, List.filter_filter]
    apply List.filter_congr
    intro entry _
    simp only [Bool.and_eq_left_iff_imp, decide_eq_true_eq]
    intro hnone
    exact hnone kind kind.mem_all
  rw [← hforeign a, h, hforeign b]

end Writes

end VersionOperator.Ledger
