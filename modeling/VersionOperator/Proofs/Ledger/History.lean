import Mathlib.Data.List.Induction
import Mathlib.Data.List.Nodup
import VersionOperator.Proofs.Ledger.Entries
import VersionOperator.Proofs.Time.Order

namespace VersionOperator

namespace Condition

/-- Two conditions say the same, and for the same reason. -/
abbrev Agrees (a b : Condition) : Prop :=
  a.status = b.status ∧ a.reason = b.reason

theorem Agrees.trans {a b c : Condition} (hab : a.Agrees b) (hbc : b.Agrees c) : a.Agrees c :=
  ⟨hab.1.trans hbc.1, hab.2.trans hbc.2⟩

theorem Agrees.symm {a b : Condition} (h : a.Agrees b) : b.Agrees a :=
  ⟨h.1.symm, h.2.symm⟩

variable {new old : Condition}

theorem over_of_agrees (htype : old.type = new.type) (h : old.Agrees new) :
    (new.over old).1 = { new with since := old.since } := by
  obtain ⟨hstatus, hreason⟩ := h
  rw [Condition.over, if_pos ⟨hstatus, hreason⟩, htype, hstatus, hreason]

theorem over_of_not_agrees (h : ¬ old.Agrees new) : new.over old = (new, true) :=
  if_neg h

theorem changed_over_iff : (new.over old).2 = true ↔ (new.over old).1 ≠ old := by
  rcases Decidable.em (old.Agrees new) with h | h
  · rw [Condition.over, if_pos h, decide_eq_true_eq]
    constructor
    · intro hmessage hsame
      exact hmessage (congrArg message hsame).symm
    · intro hother hmessage
      exact hother (by rw [← hmessage])
  · rw [over_of_not_agrees h]
    refine iff_of_true rfl ?_
    rintro rfl
    exact h ⟨rfl, rfl⟩

end Condition

namespace Ledger

inductive Call where
  | set (new : Condition)
  | remove (kind : ComponentKind)

namespace Call

def type : Call → String
  | set new => new.type
  | remove kind => kind.conditionType

def time? : Call → Option Instant
  | set new => some new.since
  | remove _ => none

/-- The ledger after the call, and whether the call tells that it is another one than before. -/
def act : Call → Ledger → Ledger × Bool
  | set new => Ledger.set new
  | remove kind => Ledger.remove kind

def tell (type : String) (said : List Condition) : Call → List Condition
  | set new => if new.type = type then said ++ [new] else said
  | remove kind => if kind.conditionType = type then [] else said

end Call

def after (ledger : Ledger) (calls : List Call) : Ledger :=
  calls.foldl (fun ledger call => (call.act ledger).1) ledger

/-- What has been said of a type since it was last taken away, the latest last: what the ledger says
of it at the start, unless it was taken away, and every condition that was set. -/
def said (type : String) (ledger : Ledger) (calls : List Call) : List Condition :=
  calls.foldl (Call.tell type) (ofType type ledger)

def Distinct (ledger : Ledger) : Prop :=
  (ledger.map Condition.type).Nodup

instance (ledger : Ledger) : Decidable ledger.Distinct :=
  inferInstanceAs (Decidable (List.Nodup _))

/-- The entries that a type has after what was said of it. When nothing was said there is none, else
there is one: it says what was said last, since the first of the longest final block of statements
that agree. -/
inductive SumsUp : List Condition → Ledger → Prop
  | nothing : SumsUp [] []
  | block {earlier rest : List Condition} {first last : Condition}
      (hlast : (first :: rest).getLast? = some last) (hagree : ∀ c ∈ first :: rest, c.Agrees last)
      (hlongest : ∀ c ∈ earlier.getLast?, ¬ c.Agrees last) :
      SumsUp (earlier ++ first :: rest) [{ last with since := first.since }]

/-- The clock is not set back between the calls, nor does it start before a time in the ledger. -/
structure InOrder (ledger : Ledger) (calls : List Call) : Prop where
  pairwise : (calls.filterMap Call.time?).Pairwise (· ≤ ·)
  start : ∀ entry ∈ ledger, ∀ t ∈ calls.filterMap Call.time?, entry.since ≤ t

theorem after_concat (ledger : Ledger) (calls : List Call) (call : Call) :
    after ledger (calls ++ [call]) = (call.act (after ledger calls)).1 := by
  rw [after, List.foldl_append]
  rfl

theorem after_append (ledger : Ledger) (calls later : List Call) :
    after ledger (calls ++ later) = after (after ledger calls) later :=
  List.foldl_append

theorem said_concat (type : String) (ledger : Ledger) (calls : List Call) (call : Call) :
    said type ledger (calls ++ [call]) = call.tell type (said type ledger calls) := by
  rw [said, List.foldl_append]
  rfl

section Set

variable {new entry : Condition} {ledger : Ledger}

theorem set_cons_self (h : entry.type = new.type) :
    Ledger.set new (entry :: ledger) = ((new.over entry).1 :: ledger, (new.over entry).2) := by
  rw [Ledger.set, if_pos h]

theorem set_cons_of_ne (h : entry.type ≠ new.type) :
    Ledger.set new (entry :: ledger) =
      (entry :: (Ledger.set new ledger).1, (Ledger.set new ledger).2) := by
  rw [Ledger.set, if_neg h]

theorem changed_set_iff (new : Condition) (ledger : Ledger) :
    (Ledger.set new ledger).2 = true ↔ (Ledger.set new ledger).1 ≠ ledger := by
  induction ledger with
  | nil => exact iff_of_true rfl (by simp [Ledger.set])
  | cons entry rest ih =>
    rcases Decidable.em (entry.type = new.type) with h | h
    · rw [set_cons_self h, Condition.changed_over_iff, Ne, Ne, List.cons.injEq, and_iff_left rfl]
    · rw [set_cons_of_ne h, ih, Ne, Ne, List.cons.injEq, and_iff_right rfl]

theorem mem_put (h : entry ∈ put new ledger) :
    entry ∈ ledger ∨ entry = new ∨
      ∃ old ∈ ledger, old.type = new.type ∧ entry = (new.over old).1 := by
  induction ledger with
  | nil => exact .inr (.inl (List.mem_singleton.mp h))
  | cons old rest ih =>
    rw [put_cons] at h
    split at h
    · rename_i htype
      rcases List.mem_cons.mp h with hhead | hrest
      · exact .inr (.inr ⟨old, List.mem_cons_self, htype, hhead⟩)
      · exact .inl (List.mem_cons_of_mem old hrest)
    · rcases List.mem_cons.mp h with hhead | hrest
      · exact .inl (hhead ▸ List.mem_cons_self)
      · rcases ih hrest with hmem | hnew | ⟨found, hmem, hfound⟩
        · exact .inl (List.mem_cons_of_mem old hmem)
        · exact .inr (.inl hnew)
        · exact .inr (.inr ⟨found, List.mem_cons_of_mem old hmem, hfound⟩)

theorem types_put (new : Condition) (ledger : Ledger) :
    (put new ledger).map Condition.type =
      if new.type ∈ ledger.map Condition.type then ledger.map Condition.type
      else ledger.map Condition.type ++ [new.type] := by
  induction ledger with
  | nil => rfl
  | cons entry rest ih =>
    rw [put_cons]
    split
    · rename_i h
      rw [List.map_cons, List.map_cons, type_over h, h, if_pos List.mem_cons_self]
    · rename_i h
      have hmem : new.type ∈ List.map Condition.type (entry :: rest) ↔
          new.type ∈ List.map Condition.type rest := by
        rw [List.map_cons, List.mem_cons, or_iff_right (Ne.symm h)]
      rw [List.map_cons, ih]
      split
      · rename_i hrest
        rw [if_pos (hmem.mpr hrest), List.map_cons]
      · rename_i hrest
        rw [if_neg fun hnew => hrest (hmem.mp hnew), List.map_cons, List.cons_append]

end Set

section Call

variable {ledger : Ledger}

theorem changed_act_iff (call : Call) (ledger : Ledger) :
    (call.act ledger).2 = true ↔ (call.act ledger).1 ≠ ledger := by
  cases call with
  | set new => exact changed_set_iff new ledger
  | remove kind =>
    rw [Call.act, remove, decide_eq_true_eq]
    exact not_congr ⟨List.filter_sublist.eq_of_length, congrArg List.length⟩

theorem others_act (call : Call) (ledger : Ledger) :
    others call.type (call.act ledger).1 = others call.type ledger := by
  cases call with
  | set new => exact others_put_self new ledger
  | remove kind => exact others_others_self kind.conditionType ledger

theorem Distinct.act (h : Distinct ledger) (call : Call) : Distinct (call.act ledger).1 := by
  cases call with
  | set new =>
    change ((put new ledger).map Condition.type).Nodup
    rw [types_put]
    split
    · exact h
    · rename_i hnew
      exact (List.perm_append_singleton new.type _).nodup_iff.mpr (List.nodup_cons.mpr ⟨hnew, h⟩)
  | remove kind => exact (List.filter_sublist.map Condition.type).nodup h

theorem ofType_act_of_ne {type : String} {call : Call} (h : type ≠ call.type) (ledger : Ledger) :
    ofType type (call.act ledger).1 = ofType type ledger := by
  rw [← ofType_others_of_ne h, others_act, ofType_others_of_ne h]

theorem since_act {call : Call} {entry : Condition} (h : entry ∈ (call.act ledger).1) :
    (∃ old ∈ ledger, old.type = entry.type ∧ old.since = entry.since) ∨
      call.time? = some entry.since := by
  cases call with
  | set new =>
    rcases mem_put h with hmem | rfl | ⟨old, hmem, htype, rfl⟩
    · exact .inl ⟨entry, hmem, rfl, rfl⟩
    · exact .inr rfl
    · rcases Decidable.em (old.Agrees new) with hagree | hagree
      · rw [Condition.over_of_agrees htype hagree]
        exact .inl ⟨old, hmem, htype, rfl⟩
      · rw [Condition.over_of_not_agrees hagree]
        exact .inr rfl
  | remove kind => exact .inl ⟨entry, (List.mem_filter.mp h).1, rfl, rfl⟩

end Call

section SumsUp

variable {said : List Condition} {entries : Ledger}

theorem SumsUp.single (c : Condition) : SumsUp [c] [c] := by
  have hagree : ∀ other ∈ [c], other.Agrees c :=
    fun other hmem => List.mem_singleton.mp hmem ▸ ⟨rfl, rfl⟩
  have hlongest : ∀ other ∈ ([] : List Condition).getLast?, ¬ other.Agrees c := nofun
  exact .block rfl hagree hlongest

theorem SumsUp.set (h : SumsUp said entries) {new : Condition}
    (htype : ∀ entry ∈ entries, entry.type = new.type) :
    SumsUp (said ++ [new]) (put new entries) := by
  cases h with
  | nothing => exact .single new
  | @block earlier rest first last hlast hagree hlongest =>
    have hentry := htype _ List.mem_cons_self
    rw [put_cons, if_pos hentry]
    rcases Decidable.em (last.Agrees new) with h | h
    · -- The block goes on, and with it the time of its first statement.
      rw [Condition.over_of_agrees hentry h, List.append_assoc, List.cons_append]
      refine .block ?_ ?_ ?_
      · rw [← List.cons_append, List.getLast?_concat]
      · intro c hc
        rw [← List.cons_append, List.mem_append] at hc
        rcases hc with hblock | hnew
        · exact (hagree c hblock).trans h
        · exact List.mem_singleton.mp hnew ▸ ⟨rfl, rfl⟩
      · intro c hc hnew
        exact hlongest c hc (hnew.trans h.symm)
    · -- A block begins; the one before it ends in a statement that does not agree.
      have hover : new.over { last with since := first.since } = (new, true) :=
        Condition.over_of_not_agrees h
      rw [hover]
      refine .block rfl ?_ ?_
      · intro c hc
        exact List.mem_singleton.mp hc ▸ ⟨rfl, rfl⟩
      · intro c hc
        rw [List.getLast?_append, hlast, Option.some_or] at hc
        exact Option.some.inj hc ▸ h

end SumsUp

theorem Distinct.ofType_eq {ledger : Ledger} (h : Distinct ledger) (type : String) :
    ofType type ledger = [] ∨ ∃ entry, ofType type ledger = [entry] := by
  have htypes : ∀ entry ∈ ofType type ledger, entry.type = type :=
    fun entry hmem => (mem_ofType_iff.mp hmem).2
  have hnodup : Distinct (ofType type ledger) := (List.filter_sublist.map Condition.type).nodup h
  match hentries : ofType type ledger with
  | [] => exact .inl rfl
  | [entry] => exact .inr ⟨entry, rfl⟩
  | first :: second :: rest =>
    rw [hentries] at htypes hnodup
    have hfirst := htypes first List.mem_cons_self
    have hsecond := htypes second (List.mem_cons_of_mem first List.mem_cons_self)
    have hne := (List.nodup_cons.mp hnodup).1
    rw [List.map_cons, hfirst, hsecond] at hne
    exact absurd List.mem_cons_self hne

theorem sumsUp_ofType {ledger : Ledger} (h : Distinct ledger) (type : String) :
    SumsUp (ofType type ledger) (ofType type ledger) := by
  rcases h.ofType_eq type with hnone | ⟨entry, hone⟩
  · rw [hnone]
    exact .nothing
  · rw [hone]
    exact .single entry

theorem SumsUp.act {type : String} {said : List Condition} {ledger : Ledger}
    (h : SumsUp said (ofType type ledger)) (call : Call) :
    SumsUp (call.tell type said) (ofType type (call.act ledger).1) := by
  rcases Decidable.em (type = call.type) with rfl | hne
  · cases call with
    | set new =>
      have hentries : ofType new.type (put new ledger) = put new (ofType new.type ledger) :=
        ofType_put_self new ledger
      change SumsUp (if new.type = new.type then said ++ [new] else said)
        (ofType new.type (put new ledger))
      rw [if_pos rfl, hentries]
      exact h.set fun entry hmem => (mem_ofType_iff.mp hmem).2
    | remove kind =>
      change SumsUp (if kind.conditionType = kind.conditionType then [] else said)
        (ofType kind.conditionType (others kind.conditionType ledger))
      rw [if_pos rfl, ofType_others_self]
      exact .nothing
  · have htell : call.tell type said = said := by
      cases call with
      | set new => exact if_neg (Ne.symm hne)
      | remove kind => exact if_neg (Ne.symm hne)
    rw [htell, ofType_act_of_ne hne]
    exact h

section History

variable {ledger : Ledger}

theorem Distinct.after (h : Distinct ledger) (calls : List Call) :
    Distinct (after ledger calls) := by
  induction calls using List.reverseRecOn with
  | nil => exact h
  | append_singleton calls call ih =>
    rw [after_concat]
    exact ih.act call

theorem sumsUp_after (h : Distinct ledger) (type : String) (calls : List Call) :
    SumsUp (said type ledger calls) (ofType type (after ledger calls)) := by
  induction calls using List.reverseRecOn with
  | nil => exact sumsUp_ofType h type
  | append_singleton calls call ih =>
    rw [said_concat, after_concat]
    exact ih.act call

theorem since_after {calls : List Call} {entry : Condition} (h : entry ∈ after ledger calls) :
    (∃ old ∈ ledger, old.type = entry.type ∧ old.since = entry.since) ∨
      entry.since ∈ calls.filterMap Call.time? := by
  induction calls using List.reverseRecOn generalizing entry with
  | nil => exact .inl ⟨entry, h, rfl, rfl⟩
  | append_singleton calls call ih =>
    rw [after_concat] at h
    rw [List.filterMap_append, List.mem_append]
    rcases since_act h with ⟨middle, hmiddle, htype, hsince⟩ | htime
    · rcases ih hmiddle with ⟨old, hold, htype', hsince'⟩ | htime
      · exact .inl ⟨old, hold, htype'.trans htype, hsince'.trans hsince⟩
      · exact .inr (.inl (hsince ▸ htime))
    · exact .inr (.inr (List.mem_filterMap.mpr ⟨call, List.mem_singleton_self call, htime⟩))

theorem since_le_since {calls later : List Call} (hdistinct : Distinct ledger)
    (horder : InOrder ledger (calls ++ later)) {old new : Condition}
    (hold : old ∈ after ledger calls) (hnew : new ∈ after ledger (calls ++ later))
    (htype : new.type = old.type) : old.since ≤ new.since := by
  obtain ⟨hpairwise, hstart⟩ := horder
  rw [List.filterMap_append, List.pairwise_append] at hpairwise
  rw [List.filterMap_append] at hstart
  obtain ⟨-, -, hcross⟩ := hpairwise
  rw [after_append] at hnew
  rcases since_after hnew with ⟨found, hfound, hfoundType, hsince⟩ | hlater
  · -- The time is one that the ledger had before the later calls, so it is that of the old entry.
    have hsame : found = old :=
      List.inj_on_of_nodup_map (hdistinct.after calls) hfound hold (hfoundType.trans htype)
    rw [← hsince, hsame]
    exact Instant.le_refl old.since
  · rcases since_after hold with ⟨first, hfirst, -, hsince⟩ | hearlier
    · rw [← hsince]
      exact hstart first hfirst _ (List.mem_append_right _ hlater)
    · exact hcross _ hearlier _ hlater

/-- Over any calls no two entries come to be of one type, each call tells whether it changed the
ledger and leaves the entries of other types alone, and the entry of a type sums up what was said of
it. When the clock is not set back, no transition time goes back, not even over a removal. -/
theorem ledger_follows_history (hdistinct : Distinct ledger) (calls : List Call) :
    Distinct (after ledger calls) ∧
    (∀ call : Call,
      ((call.act (after ledger calls)).2 = true ↔
        after ledger (calls ++ [call]) ≠ after ledger calls) ∧
      others call.type (after ledger (calls ++ [call])) = others call.type (after ledger calls)) ∧
    (∀ type, SumsUp (said type ledger calls) (ofType type (after ledger calls))) ∧
    ∀ later, InOrder ledger (calls ++ later) →
      ∀ old ∈ after ledger calls, ∀ new ∈ after ledger (calls ++ later), new.type = old.type →
        old.since ≤ new.since := by
  refine ⟨hdistinct.after calls, ?_, ?_, ?_⟩
  · intro call
    rw [after_concat]
    exact ⟨changed_act_iff call _, others_act call _⟩
  · intro type
    exact sumsUp_after hdistinct type calls
  · intro later horder old hold new hnew htype
    exact since_le_since hdistinct horder hold hnew htype

/-- The host agent failed its check and was then taken away, so the entry at the start no longer
counts; since it is back only the version in its message has changed. -/
theorem ledger_follows_history_restored :
    let moment (minute : Fin 60) : Instant :=
      ⟨⟨2024, 1, 1, by decide, by decide, by decide, by decide⟩, 60 * minute.val, 0, by omega,
        by decide, by omega⟩
    let agent (status : Truth) (reason message : String) (minute : Fin 60) : Condition :=
      ⟨"OneAgentVersion", status, reason, message, moment minute⟩
    let foreign : Condition := ⟨"Ready", .unknown, "Starting", "", moment 1⟩
    let ledger : Ledger := [agent .yes "Verified" "1.2.3" 0, foreign]
    let calls : List Call :=
      [.set (agent .no "DynatraceApiError" "gone" 2), .remove .oneAgent,
        .set (agent .yes "Verified" "1.2.3" 3), .remove .activeGate,
        .set (agent .yes "Verified" "1.2.4" 4)]
    Distinct ledger ∧ InOrder ledger calls ∧
      after ledger calls = [foreign, agent .yes "Verified" "1.2.4" 3] ∧
      Distinct (after ledger calls) ∧
      SumsUp [agent .yes "Verified" "1.2.3" 3, agent .yes "Verified" "1.2.4" 4]
        [agent .yes "Verified" "1.2.4" 3] ∧
      ∀ old ∈ ledger, ∀ new ∈ after ledger calls, new.type = old.type → old.since ≤ new.since := by
  intro moment agent foreign ledger calls
  have hdistinct : Distinct ledger := by decide
  have horder : InOrder ledger calls := by
    constructor
    · decide
    · decide
  obtain ⟨hstays, -, hsums, -⟩ := ledger_follows_history hdistinct calls
  have hforward := (ledger_follows_history hdistinct []).2.2.2 calls horder
  exact ⟨hdistinct, horder, rfl, hstays, hsums "OneAgentVersion", hforward⟩

end History

end Ledger

end VersionOperator
