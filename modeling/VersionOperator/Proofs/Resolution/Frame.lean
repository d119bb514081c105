import VersionOperator.Proofs.Resolution.Decision

namespace VersionOperator

open Ledger (entriesOf)

namespace Condition

variable (kind : ComponentKind) (now : Instant)

@[simp] theorem type_verified (version : String) :
    (verified kind version now).type = kind.conditionType := rfl

@[simp] theorem type_verificationSkipped :
    (verificationSkipped kind now).type = kind.conditionType := rfl

@[simp] theorem type_downgradeSkipped (current candidate : String) :
    (downgradeSkipped kind current candidate now).type = kind.conditionType := rfl

@[simp] theorem type_failed (error : VersionError) :
    (failed kind error now).type = kind.conditionType := rfl

end Condition

/-- Two entries that a component cannot tell apart: the record is the same, and so are the entries
of the component in the ledger. -/
structure Entry.Alike (kind : ComponentKind) (a b : Entry) : Prop where
  status : a.status = b.status
  entries : entriesOf kind a.conditions = entriesOf kind b.conditions

namespace Component

variable (c : Component) (now : Instant)

@[simp] theorem status_settle (probed : Bool) (entry : Entry) :
    (c.settle now probed entry).entry.status = entry.status.markProbed c.source now := by
  simp only [settle]
  split <;> rfl

@[simp] theorem result_settle (probed : Bool) (entry : Entry) :
    (c.settle now probed entry).result = c.validate (entry.status.markProbed c.source now) := by
  simp only [settle]
  split
  · rename_i h
    exact h.symm
  · rename_i h
    exact h.symm

@[simp] theorem probed_settle (probed : Bool) (entry : Entry) :
    (c.settle now probed entry).probed = probed := by
  simp only [settle]
  split <;> rfl

variable {c now} in
theorem settle_of_valid {entry : Entry} (probed : Bool)
    (h : c.validate (entry.status.markProbed c.source now) = .ok ()) :
    c.settle now probed entry =
      ⟨⟨entry.status.markProbed c.source now, entry.conditions⟩, probed, .ok ()⟩ := by
  simp [settle, h]

variable {c now} in
theorem settle_of_invalid {entry : Entry} {error : VersionError} (probed : Bool)
    (h : c.validate (entry.status.markProbed c.source now) = .error error) :
    c.settle now probed entry =
      ⟨⟨entry.status.markProbed c.source now, entry.conditions.put (.failed c.kind error now)⟩,
        probed, .error error⟩ := by
  simp [settle, h, withFailure]

theorem clear_settle (probed : Bool) (entry : Entry) :
    (c.settle now probed entry).entry.conditions.clear c.kind = entry.conditions.clear c.kind := by
  cases h : c.validate (entry.status.markProbed c.source now) with
  | ok _ => rw [c.settle_of_valid probed h]
  | error error =>
    rw [c.settle_of_invalid probed h]
    exact Ledger.clear_put_self (by simp) _

theorem clear_carryOut (entry : Entry) (decision : Decision) :
    (c.carryOut now entry decision).entry.conditions.clear c.kind =
      entry.conditions.clear c.kind := by
  cases decision with
  | clear => simp [carryOut, Ledger.clear]
  | skip => rfl
  | pin image =>
    rw [carryOut, clear_settle]
    exact Ledger.clear_put_self (by simp) _
  | keep candidate =>
    rw [carryOut, clear_settle]
    exact Ledger.clear_put_self (by simp) _
  | adopt candidate =>
    rw [carryOut, clear_settle]
    exact Ledger.clear_put_self (by split <;> simp) _
  | fail error => exact Ledger.clear_put_self (by simp) _

theorem clear_pass (policy : ProbePolicy) (entry : Entry) :
    (c.pass policy now entry).entry.conditions.clear c.kind = entry.conditions.clear c.kind := by
  rw [pass_eq_carryOut, clear_carryOut]

theorem entriesOf_pass_of_ne {other : ComponentKind} (h : other ≠ c.kind) (policy : ProbePolicy)
    (entry : Entry) :
    entriesOf other (c.pass policy now entry).entry.conditions =
      entriesOf other entry.conditions :=
  Ledger.entriesOf_eq_of_clear_eq h (c.clear_pass now policy entry)

theorem alike_put {kind : ComponentKind} {a b : Entry} {new : Condition} (status : VersionStatus)
    (hnew : new.type = kind.conditionType) (h : a.Alike kind b) :
    Entry.Alike kind ⟨status, a.conditions.put new⟩ ⟨status, b.conditions.put new⟩ := by
  refine ⟨rfl, ?_⟩
  rw [Ledger.entriesOf_put_self hnew, Ledger.entriesOf_put_self hnew, h.entries]

theorem alike_settle (probed : Bool) {a b : Entry} (h : a.Alike c.kind b) :
    (c.settle now probed a).entry.Alike c.kind (c.settle now probed b).entry := by
  refine ⟨by rw [status_settle, status_settle, h.status], ?_⟩
  cases hvalid : c.validate (a.status.markProbed c.source now) with
  | ok _ =>
    rw [c.settle_of_valid probed hvalid, c.settle_of_valid probed (h.status ▸ hvalid), h.entries]
  | error error =>
    rw [c.settle_of_invalid probed hvalid, c.settle_of_invalid probed (h.status ▸ hvalid)]
    exact (alike_put {} (by simp) h).entries

theorem alike_carryOut {a b : Entry} (h : a.Alike c.kind b) (decision : Decision) :
    (c.carryOut now a decision).entry.Alike c.kind (c.carryOut now b decision).entry := by
  cases decision with
  | clear => exact ⟨rfl, by simp [carryOut]⟩
  | skip => exact h
  | pin image =>
    apply alike_settle
    rw [pinned, pinned, h.status]
    exact alike_put _ (by simp) h
  | keep candidate =>
    apply alike_settle
    rw [kept, kept, h.status]
    exact alike_put _ (by simp) h
  | adopt candidate =>
    apply alike_settle
    rw [adopted, adopted, h.status]
    exact alike_put _ (by split <;> simp) h
  | fail error =>
    rw [carryOut, carryOut, withFailure, withFailure, h.status]
    exact alike_put _ (by simp) h

theorem result_carryOut_of_alike {a b : Entry} (h : a.Alike c.kind b) (decision : Decision) :
    (c.carryOut now a decision).result = (c.carryOut now b decision).result := by
  cases decision with
  | clear => rfl
  | skip => rfl
  | pin image => simp [carryOut, pinned, h.status]
  | keep candidate => simp [carryOut, kept, h.status]
  | adopt candidate => simp [carryOut, adopted, h.status]
  | fail error => rfl

theorem alike_pass (policy : ProbePolicy) {a b : Entry} (h : a.Alike c.kind b) :
    (c.pass policy now a).entry.Alike c.kind (c.pass policy now b).entry := by
  rw [pass_eq_carryOut, pass_eq_carryOut, h.status]
  exact c.alike_carryOut now h _

theorem result_pass_of_alike (policy : ProbePolicy) {a b : Entry} (h : a.Alike c.kind b) :
    (c.pass policy now a).result = (c.pass policy now b).result := by
  rw [pass_eq_carryOut, pass_eq_carryOut, h.status]
  exact c.result_carryOut_of_alike now h _

end Component

end VersionOperator
