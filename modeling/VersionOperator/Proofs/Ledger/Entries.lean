import VersionOperator.Resource.Condition

namespace VersionOperator

namespace Condition

@[simp] theorem status_over (new old : Condition) : (new.over old).1.status = new.status := by
  unfold Condition.over
  split
  · rename_i h
    exact h.1
  · rfl

@[simp] theorem reason_over (new old : Condition) : (new.over old).1.reason = new.reason := by
  unfold Condition.over
  split
  · rename_i h
    exact h.2
  · rfl

@[simp] theorem message_over (new old : Condition) : (new.over old).1.message = new.message := by
  unfold Condition.over
  split <;> rfl

theorem over_eq_self {new old : Condition} (hstatus : old.status = new.status)
    (hreason : old.reason = new.reason) (hmessage : old.message = new.message) :
    (new.over old).1 = old := by
  unfold Condition.over
  rw [if_pos ⟨hstatus, hreason⟩, ← hmessage]

theorem since_over_of_same {new old : Condition} (hstatus : old.status = new.status)
    (hreason : old.reason = new.reason) : (new.over old).1.since = old.since := by
  unfold Condition.over
  rw [if_pos ⟨hstatus, hreason⟩]

theorem since_over_of_turned {new old : Condition} (h : old.status ≠ new.status) :
    (new.over old).1.since = new.since := by
  unfold Condition.over
  rw [if_neg fun hsame => h hsame.1]

end Condition

namespace Ledger

def ofType (type : String) (ledger : Ledger) : Ledger :=
  ledger.filter fun entry => entry.type = type

def others (type : String) (ledger : Ledger) : Ledger :=
  ledger.filter fun entry => entry.type ≠ type

section ByType

variable {type other : String} {entry : Condition} {ledger : Ledger}

theorem mem_ofType_iff : entry ∈ ofType type ledger ↔ entry ∈ ledger ∧ entry.type = type := by
  simp [ofType]

theorem ofType_cons_self (h : entry.type = type) :
    ofType type (entry :: ledger) = entry :: ofType type ledger :=
  List.filter_cons_of_pos (by simpa using h)

theorem ofType_cons_of_ne (h : entry.type ≠ type) :
    ofType type (entry :: ledger) = ofType type ledger :=
  List.filter_cons_of_neg (by simpa using h)

theorem others_cons_self (h : entry.type = type) :
    others type (entry :: ledger) = others type ledger :=
  List.filter_cons_of_neg (by simpa using h)

theorem others_cons_of_ne (h : entry.type ≠ type) :
    others type (entry :: ledger) = entry :: others type ledger :=
  List.filter_cons_of_pos (by simpa using h)

theorem ofType_others_self (type : String) (ledger : Ledger) :
    ofType type (others type ledger) = [] := by
  simp [ofType, others]

theorem others_others_self (type : String) (ledger : Ledger) :
    others type (others type ledger) = others type ledger := by
  simp [others]

theorem ofType_others_of_ne (h : other ≠ type) (ledger : Ledger) :
    ofType other (others type ledger) = ofType other ledger := by
  rw [ofType, others, List.filter_filter]
  apply List.filter_congr
  intro entry _
  by_cases hother : entry.type = other
  · simp [hother, h]
  · simp [hother]

theorem ofType_put_self (new : Condition) (ledger : Ledger) :
    ofType new.type (put new ledger) = put new (ofType new.type ledger) := by
  induction ledger with
  | nil => exact ofType_cons_self rfl
  | cons entry rest ih =>
    rw [put_cons]
    split
    · rename_i htype
      rw [ofType_cons_self (type_over htype), ofType_cons_self htype, put_cons, if_pos htype]
    · rename_i htype
      rw [ofType_cons_of_ne htype, ofType_cons_of_ne htype, ih]

theorem others_put_self (new : Condition) (ledger : Ledger) :
    others new.type (put new ledger) = others new.type ledger := by
  induction ledger with
  | nil => exact others_cons_self rfl
  | cons entry rest ih =>
    rw [put_cons]
    split
    · rename_i htype
      rw [others_cons_self (type_over htype), others_cons_self htype]
    · rename_i htype
      rw [others_cons_of_ne htype, others_cons_of_ne htype, ih]

end ByType

def entriesOf (kind : ComponentKind) (ledger : Ledger) : Ledger :=
  ledger.filter fun entry => entry.type = kind.conditionType

theorem mem_entriesOf_iff {kind : ComponentKind} {ledger : Ledger} {entry : Condition} :
    entry ∈ entriesOf kind ledger ↔ entry ∈ ledger ∧ entry.type = kind.conditionType :=
  mem_ofType_iff

@[simp] theorem head?_entriesOf (kind : ComponentKind) (ledger : Ledger) :
    (entriesOf kind ledger).head? = find? kind ledger := by
  rw [entriesOf, List.head?_filter, find?]

@[simp] theorem entriesOf_clear_self (kind : ComponentKind) (ledger : Ledger) :
    entriesOf kind (clear kind ledger) = [] :=
  ofType_others_self kind.conditionType ledger

theorem entriesOf_clear_of_ne {kind other : ComponentKind} (h : other ≠ kind) (ledger : Ledger) :
    entriesOf other (clear kind ledger) = entriesOf other ledger :=
  ofType_others_of_ne (fun he => h (ComponentKind.conditionType_inj.mp he)) ledger

theorem entriesOf_eq_of_clear_eq {kind other : ComponentKind} (h : other ≠ kind)
    {ledger ledger' : Ledger} (hclear : clear kind ledger = clear kind ledger') :
    entriesOf other ledger = entriesOf other ledger' := by
  rw [← entriesOf_clear_of_ne h ledger, hclear, entriesOf_clear_of_ne h]

section Put

variable {kind : ComponentKind} {new : Condition} (hnew : new.type = kind.conditionType)
include hnew

theorem entriesOf_put_self (ledger : Ledger) :
    entriesOf kind (put new ledger) = put new (entriesOf kind ledger) := by
  have hput := ofType_put_self new ledger
  rw [hnew] at hput
  exact hput

theorem clear_put_self (ledger : Ledger) : clear kind (put new ledger) = clear kind ledger := by
  have hput := others_put_self new ledger
  rw [hnew] at hput
  exact hput

theorem exists_find?_put (ledger : Ledger) :
    ∃ entry, find? kind (put new ledger) = some entry ∧ entry.status = new.status ∧
      entry.reason = new.reason ∧ entry.message = new.message := by
  rw [find?_put_self hnew]
  cases find? kind ledger with
  | none => exact ⟨new, rfl, rfl, rfl, rfl⟩
  | some old => exact ⟨(new.over old).1, rfl, by simp, by simp, by simp⟩

section Since

variable {ledger : Ledger} {old entry : Condition} (hold : find? kind ledger = some old)
  (hentry : find? kind (put new ledger) = some entry)
include hold hentry

theorem eq_over_of_find?_put : entry = (new.over old).1 := by
  rw [find?_put_self hnew, hold] at hentry
  exact (Option.some.inj hentry).symm

theorem since_put_of_same (hstatus : entry.status = old.status)
    (hreason : entry.reason = old.reason) : entry.since = old.since := by
  obtain rfl := eq_over_of_find?_put hnew hold hentry
  rw [Condition.status_over] at hstatus
  rw [Condition.reason_over] at hreason
  exact Condition.since_over_of_same hstatus.symm hreason.symm

theorem since_put_of_turned (h : old.status ≠ new.status) : entry.since = new.since := by
  obtain rfl := eq_over_of_find?_put hnew hold hentry
  exact Condition.since_over_of_turned h

end Since

theorem put_eq_self {ledger : Ledger} {old : Condition} (hold : find? kind ledger = some old)
    (hstatus : old.status = new.status) (hreason : old.reason = new.reason)
    (hmessage : old.message = new.message) : put new ledger = ledger := by
  induction ledger with
  | nil => simp [find?] at hold
  | cons entry rest ih =>
    rw [put_cons]
    by_cases hentry : entry.type = kind.conditionType
    · obtain rfl : entry = old := by simpa [find?, hentry] using hold
      simp [hentry, hnew, Condition.over_eq_self hstatus hreason hmessage]
    · have hne : entry.type ≠ new.type := fun he => hentry (he.trans hnew)
      have hrest : find? kind rest = some old := by simpa [find?, hentry] using hold
      simp [hne, ih hrest]

end Put

theorem clear_eq_self {kind : ComponentKind} {ledger : Ledger} (h : find? kind ledger = none) :
    clear kind ledger = ledger := by
  rw [clear, List.filter_eq_self]
  intro entry hentry
  simpa using List.find?_eq_none.mp h entry hentry

end Ledger

end VersionOperator
