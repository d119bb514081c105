import VersionOperator.Proofs.Resolution.Runs
import Mathlib.Data.List.Induction

namespace VersionOperator

namespace Ledger

/-- The condition of the component is there and does not hold. -/
def IsFalse (kind : ComponentKind) (ledger : Ledger) : Prop :=
  ∃ entry, find? kind ledger = some entry ∧ entry.status = .no

theorem isFalse_congr {kind : ComponentKind} {a b : Ledger} (h : find? kind a = find? kind b) :
    IsFalse kind a ↔ IsFalse kind b := by
  rw [IsFalse, IsFalse, h]

theorem not_isFalse_clear (kind : ComponentKind) (ledger : Ledger) :
    ¬ IsFalse kind (clear kind ledger) := by
  rintro ⟨entry, hentry, _⟩
  simp at hentry

theorem isFalse_put_iff {kind : ComponentKind} {new : Condition}
    (hnew : new.type = kind.conditionType) (ledger : Ledger) :
    IsFalse kind (put new ledger) ↔ new.status = .no := by
  obtain ⟨entry, hentry, hstatus, _, _⟩ := exists_find?_put hnew ledger
  rw [IsFalse, hentry, ← hstatus]
  simp

end Ledger

namespace Component

variable {c : Component} {policy : ProbePolicy} {now : Instant}

theorem isFalse_settle_iff {entry : Entry} {report : Condition} (probed : Bool)
    (htype : report.type = c.kind.conditionType) (hreport : report.status = .yes)
    (status : VersionStatus) :
    (c.settle now probed ⟨status, entry.conditions.put report⟩).entry.conditions.IsFalse c.kind ↔
      ∃ error,
        (c.settle now probed ⟨status, entry.conditions.put report⟩).result = .error error := by
  rw [result_settle]
  cases hvalid : c.validate (status.markProbed c.source now) with
  | ok _ =>
    rw [c.settle_of_valid probed hvalid, Ledger.isFalse_put_iff htype, hreport]
    simp
  | error error =>
    rw [c.settle_of_invalid probed hvalid, Ledger.isFalse_put_iff (by simp)]
    simp [Condition.failed]

theorem isFalse_pass_iff {entry : Entry} (hskip : c.decision policy now entry.status ≠ .skip) :
    (c.pass policy now entry).entry.conditions.IsFalse c.kind ↔
      ∃ error, (c.pass policy now entry).result = .error error := by
  rw [pass_eq_carryOut]
  cases hdecision : c.decision policy now entry.status with
  | clear =>
    simp only [carryOut, reduceCtorEq, exists_false, iff_false]
    exact Ledger.not_isFalse_clear c.kind entry.conditions
  | skip => exact absurd hdecision hskip
  | pin image => exact isFalse_settle_iff false (by simp) rfl _
  | keep candidate => exact isFalse_settle_iff true (by simp) rfl _
  | adopt candidate => exact isFalse_settle_iff true (by split <;> simp) (by split <;> rfl) _
  | fail error =>
    simp only [carryOut, withFailure, Except.error.injEq, exists_eq', iff_true]
    exact (Ledger.isFalse_put_iff (by simp) _).mpr rfl

end Component

namespace Round

variable (r : Round) (status : Option DynaKubeStatus) (kind : ComponentKind)

/-- The round leaves the component alone: it is asked for and has no pinned image, but a look-up is
not due. -/
def Skips : Prop :=
  (r.component kind).enabled = true ∧ (r.component kind).source ≠ .customImage ∧
    (r.component kind).isDue r.policy (r.clock kind) ((status.getD {}).record kind) = false

instance : Decidable (r.Skips status kind) :=
  inferInstanceAs (Decidable (_ ∧ _))

variable {r status kind}

theorem skips_iff_decision :
    r.Skips status kind ↔
      (r.component kind).decision r.policy (r.clock kind) ((status.getD {}).entry kind).status =
        .skip :=
  Component.decision_eq_skip_iff.symm

theorem attend_of_skips (h : r.Skips status kind) :
    r.attend kind ((status.getD {}).entry kind) =
      ⟨(status.getD {}).entry kind, false, .ok ()⟩ :=
  Component.pass_of_skip (skips_iff_decision.mp h)

theorem record_ne_empty_of_skips (h : r.Skips status kind) :
    (status.getD {}).record kind ≠ {} := by
  intro he
  have hdecision := skips_iff_decision.mp h
  change (r.component kind).decision r.policy (r.clock kind) ((status.getD {}).record kind) = .skip
    at hdecision
  rw [he] at hdecision
  exact Component.decision_empty_ne_skip hdecision

theorem isFalse_resolve_of_skips (h : r.Skips status kind) :
    (r.resolve status).status.conditions.IsFalse kind ↔
      (status.getD {}).conditions.IsFalse kind := by
  have halike := r.entry_resolve status kind
  rw [attend_of_skips h] at halike
  exact Ledger.isFalse_congr halike.find?

theorem not_reports_of_skips (h : r.Skips status kind) : ¬ (r.resolve status).Reports kind := by
  rw [reports_resolve_iff, attend_of_skips h]
  simp

theorem isFalse_resolve_iff (h : ¬ r.Skips status kind) :
    (r.resolve status).status.conditions.IsFalse kind ↔ (r.resolve status).Reports kind := by
  rw [skips_iff_decision] at h
  have hpass := Component.isFalse_pass_iff h
  rw [kind_component] at hpass
  rw [reports_resolve_iff]
  exact (Ledger.isFalse_congr (r.entry_resolve status kind).find?).trans hpass

theorem reports_iff_isFalse :
    (r.resolve status).Reports kind ↔
      ¬ r.Skips status kind ∧ (r.resolve status).status.conditions.IsFalse kind := by
  by_cases h : r.Skips status kind
  · simp [h, not_reports_of_skips h]
  · simp [h, isFalse_resolve_iff h]

theorem enabled_of_reports (h : (r.resolve status).Reports kind) :
    (r.component kind).enabled = true := by
  obtain ⟨error, herror⟩ := (r.reports_resolve_iff status).mp h
  rw [← Bool.not_eq_false]
  intro hdisabled
  rw [attend, Component.pass_eq_carryOut, Component.decision_eq_clear_iff.mpr hdisabled] at herror
  exact absurd herror (by simp [Component.carryOut])

theorem result_eq_ok_iff_not_isFalse :
    (r.resolve status).result = .ok () ↔
      ¬ ∃ kind, (r.component kind).enabled = true ∧ ¬ r.Skips status kind ∧
        (r.resolve status).status.conditions.IsFalse kind := by
  rw [result_resolve_eq_ok_iff]
  constructor
  · rintro h ⟨kind, _, hlooked⟩
    obtain ⟨error, herror⟩ := (r.reports_resolve_iff status).mp (reports_iff_isFalse.mpr hlooked)
    exact absurd ((h kind).symm.trans herror) (by simp)
  · intro h kind
    cases hresult : (r.attend kind ((status.getD {}).entry kind)).result with
    | ok _ => rfl
    | error error =>
      have hreports := (r.reports_resolve_iff status).mpr ⟨error, hresult⟩
      exact absurd ⟨kind, enabled_of_reports hreports, reports_iff_isFalse.mp hreports⟩ h

end Round

/-- What the latest pass of a run that did not skip the component came to, if there is one. -/
def latestLook (kind : ComponentKind) : Option DynaKubeStatus → List Round → Option Resolution
  | _, [] => none
  | status, r :: rest =>
    (latestLook kind (some (r.resolve status).status) rest).or
      (if r.Skips status kind then none else some (r.resolve status))

theorem latestLook_concat (kind : ComponentKind) (status : Option DynaKubeStatus)
    (rounds : List Round) (r : Round) :
    latestLook kind status (rounds ++ [r]) =
      if r.Skips (statusAfter status rounds) kind then latestLook kind status rounds
      else some (r.resolve (statusAfter status rounds)) := by
  induction rounds generalizing status with
  | nil =>
    rw [List.nil_append, latestLook]
    exact Option.none_or
  | cons first rest ih =>
    rw [List.cons_append, latestLook, ih, statusAfter, latestLook]
    split
    · rfl
    · simp

/-- What a run from nothing keeps: a component that no pass has looked at has nothing on record, and
the condition of any other says what the latest look reported. -/
structure Settled (kind : ComponentKind) (rounds : List Round) : Prop where
  unseen : latestLook kind none rounds = none →
    ((statusAfter none rounds).getD {}).record kind = {}
  seen : ∀ {look}, latestLook kind none rounds = some look →
    (((statusAfter none rounds).getD {}).conditions.IsFalse kind ↔ look.Reports kind)

theorem settled_nil (kind : ComponentKind) : Settled kind [] where
  unseen _ := by cases kind <;> rfl
  seen h := by simp [latestLook] at h

theorem Settled.concat {kind : ComponentKind} {rounds : List Round} (h : Settled kind rounds)
    (r : Round) : Settled kind (rounds ++ [r]) := by
  -- A pass that skips the component leaves condition and latest look alone; any other sets both.
  by_cases hskips : r.Skips (statusAfter none rounds) kind
  · have hlook : latestLook kind none (rounds ++ [r]) = latestLook kind none rounds := by
      rw [latestLook_concat, if_pos hskips]
    refine ⟨?_, ?_⟩
    · intro hunseen
      rw [hlook] at hunseen
      exact absurd (h.unseen hunseen) (Round.record_ne_empty_of_skips hskips)
    · intro look hseen
      rw [hlook] at hseen
      rw [statusAfter_concat]
      exact (Round.isFalse_resolve_of_skips hskips).trans (h.seen hseen)
  · have hlook : latestLook kind none (rounds ++ [r]) =
        some (r.resolve (statusAfter none rounds)) := by
      rw [latestLook_concat, if_neg hskips]
    refine ⟨?_, ?_⟩
    · intro hunseen
      rw [hlook] at hunseen
      exact absurd hunseen (by simp)
    · intro look hseen
      obtain rfl := Option.some.inj (hlook.symm.trans hseen)
      rw [statusAfter_concat]
      exact Round.isFalse_resolve_iff hskips

theorem settled (kind : ComponentKind) (rounds : List Round) : Settled kind rounds := by
  induction rounds using List.reverseRecOn with
  | nil => exact settled_nil kind
  | append_singleton rounds r ih => exact ih.concat r

theorem exists_latestLook_concat (kind : ComponentKind) (rounds : List Round) (r : Round) :
    ∃ look, latestLook kind none (rounds ++ [r]) = some look := by
  rw [latestLook_concat]
  split
  · rename_i hskips
    apply Option.ne_none_iff_exists'.mp
    intro hunseen
    exact Round.record_ne_empty_of_skips hskips ((settled kind rounds).unseen hunseen)
  · exact ⟨_, rfl⟩

/-- After every pass of a run from nothing: the failures that the pass reports are those of the
components that it looked at and left with a false condition, and it succeeds if there is none. The
condition of a component, skipped or not, is false exactly when the latest pass that looked at it
reported it. -/
theorem reports_agree_with_ledger (before : List Round) (r : Round) :
    (∀ kind,
      ((r.resolve (statusAfter none before)).Reports kind ↔
        ¬ r.Skips (statusAfter none before) kind ∧
          (r.resolve (statusAfter none before)).status.conditions.IsFalse kind) ∧
      ∃ look, latestLook kind none (before ++ [r]) = some look ∧
        ((r.resolve (statusAfter none before)).status.conditions.IsFalse kind ↔
          look.Reports kind)) ∧
    ((r.resolve (statusAfter none before)).result = .ok () ↔
      ¬ ∃ kind, (r.component kind).enabled = true ∧ ¬ r.Skips (statusAfter none before) kind ∧
        (r.resolve (statusAfter none before)).status.conditions.IsFalse kind) := by
  refine ⟨?_, Round.result_eq_ok_iff_not_isFalse⟩
  intro kind
  refine ⟨Round.reports_iff_isFalse, ?_⟩
  obtain ⟨look, hlook⟩ := exists_latestLook_concat kind before r
  have hseen := (settled kind (before ++ [r])).seen hlook
  rw [statusAfter_concat] at hseen
  exact ⟨look, hlook, hseen⟩

/-- The third pass skips the host agent, since it has been told not to follow new versions, and
succeeds; the false condition is that of the second. -/
theorem succeeds_beside_false_condition :
    let before := [Round.classic {} (.naming "1.2.3") 0, Round.classic {} (.withoutToken "none") 1]
    let r := Round.classic { autoUpdate := some false } (.naming "1.2.3") 2
    (r.component .oneAgent).enabled = true ∧
      (r.resolve (statusAfter none before)).result = .ok () ∧
      (r.resolve (statusAfter none before)).status.conditions.IsFalse .oneAgent ∧
      ¬ (r.resolve (statusAfter none before)).Reports .oneAgent :=
  ⟨rfl, rfl, ⟨_, rfl, rfl⟩, Round.not_reports_of_skips ⟨rfl, by decide, rfl⟩⟩

end VersionOperator
