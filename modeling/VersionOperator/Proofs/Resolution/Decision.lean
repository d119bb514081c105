import VersionOperator.Proofs.Ledger.Entries
import VersionOperator.Resolution.Pass

/-!
A pass taken apart into what it decides and how it carries the decision out. The decision looks at
the record alone, never at the ledger; carrying it out writes the record and the entries of the
component, and leaves the entries of all others as they were.
-/

namespace VersionOperator

namespace VersionStatus

@[simp] theorem version_markProbed (s : VersionStatus) (source : VersionSource) (now : Instant) :
    (s.markProbed source now).version = s.version := rfl

@[simp] theorem image_markProbed (s : VersionStatus) (source : VersionSource) (now : Instant) :
    (s.markProbed source now).image = s.image := rfl

@[simp] theorem source_markProbed (s : VersionStatus) (source : VersionSource) (now : Instant) :
    (s.markProbed source now).source = some source := rfl

@[simp] theorem lastProbe_markProbed (s : VersionStatus) (source : VersionSource) (now : Instant) :
    (s.markProbed source now).lastProbe = some (s.stampAt now) := rfl

end VersionStatus

/-- What a pass does with a component: take its record away, write a pinned image down, leave all as
it is, keep the record in spite of an older candidate, take a candidate over, or fail before
anything is settled. -/
inductive Decision where
  | clear
  | pin (image : String)
  | skip
  | keep (candidate : VersionStatus)
  | adopt (candidate : VersionStatus)
  | fail (error : VersionError)

namespace Component

def decision (c : Component) (policy : ProbePolicy) (now : Instant) (recorded : VersionStatus) :
    Decision :=
  if c.enabled = false then .clear
  else if c.source = .customImage then .pin (c.customImage.getD "")
  else if c.isDue policy now recorded = false then .skip
  else
    match c.candidate policy with
    | .error error => .fail error
    | .ok candidate =>
      match c.keepsRecord recorded candidate with
      | .error error => .fail error
      | .ok true => .keep candidate
      | .ok false => .adopt candidate

def carryOut (c : Component) (now : Instant) (entry : Entry) : Decision → PassOutcome
  | .clear => ⟨⟨{}, entry.conditions.clear c.kind⟩, false, .ok ()⟩
  | .pin image => c.settle now false (c.pinned image now entry)
  | .skip => ⟨entry, false, .ok ()⟩
  | .keep candidate => c.settle now true (c.kept candidate now entry)
  | .adopt candidate => c.settle now true (c.adopted candidate now entry)
  | .fail error => ⟨c.withFailure error now entry, true, .error error⟩

variable {c : Component} {policy : ProbePolicy} {now : Instant}

theorem pass_eq_carryOut (c : Component) (policy : ProbePolicy) (now : Instant) (entry : Entry) :
    c.pass policy now entry = c.carryOut now entry (c.decision policy now entry.status) := by
  unfold pass decision
  cases c.enabled with
  | false => rfl
  | true =>
    by_cases hsource : c.source = .customImage
    · simp only [hsource]
      rfl
    · cases hdue : c.isDue policy now entry.status with
      | false => simp [hsource, carryOut]
      | true =>
        simp only [hsource, resolve]
        cases c.candidate policy with
        | error error => rfl
        | ok candidate =>
          simp only
          cases c.keepsRecord entry.status candidate with
          | error error => rfl
          | ok keeps => cases keeps <;> rfl

theorem source_eq_tenantRegistry_iff {c : Component} :
    c.source = .tenantRegistry ↔ c.customImage = none ∧ c.customVersion = none := by
  unfold source
  cases c.customImage <;> cases c.customVersion <;> simp

theorem source_eq_customImage_iff {c : Component} :
    c.source = .customImage ↔ ∃ image, c.customImage = some image := by
  unfold source
  cases c.customImage <;> cases c.customVersion <;> simp

theorem source_eq_customVersion_iff {c : Component} :
    c.source = .customVersion ↔
      c.customImage = none ∧ ∃ version, c.customVersion = some version := by
  unfold source
  cases c.customImage <;> cases c.customVersion <;> simp

theorem candidate_eq_ok_iff {candidate : VersionStatus} :
    c.candidate policy = .ok candidate ↔
      c.probe.delay ≤ policy.timeout ∧ c.probe.result = .ok candidate := by
  unfold Component.candidate
  split
  · rename_i hdelay
    simp [hdelay]
  · rename_i hdelay
    simp [hdelay]

theorem candidate_eq_error_iff {error : VersionError} :
    c.candidate policy = .error error ↔
      (c.probe.delay ≤ policy.timeout ∧ c.probe.result = .error error) ∨
        (¬ c.probe.delay ≤ policy.timeout ∧
          error = .probeTimeout c.name policy.timeout.seconds) := by
  unfold Component.candidate
  split
  · rename_i hdelay
    simp [hdelay]
  · rename_i hdelay
    simp [hdelay, eq_comm]

theorem keepsRecord_eq_true_iff {recorded candidate : VersionStatus} :
    c.keepsRecord recorded candidate = .ok true ↔
      c.source = .tenantRegistry ∧ candidate.version ≠ "" ∧
        c.isDowngrade recorded candidate.version = .ok true := by
  unfold keepsRecord
  split
  · rename_i h
    simp [h]
  · rename_i h
    simp only [Except.ok.injEq, Bool.false_eq_true, false_iff]
    rintro ⟨hsource, hne, _⟩
    exact h ⟨hsource, hne⟩

theorem keepsRecord_eq_error_iff {recorded candidate : VersionStatus} {error : VersionError} :
    c.keepsRecord recorded candidate = .error error ↔
      c.source = .tenantRegistry ∧ candidate.version ≠ "" ∧
        c.isDowngrade recorded candidate.version = .error error := by
  unfold keepsRecord
  split
  · rename_i h
    simp [h]
  · rename_i h
    simp only [reduceCtorEq, false_iff]
    rintro ⟨hsource, hne, _⟩
    exact h ⟨hsource, hne⟩

theorem isDue_iff {recorded : VersionStatus} :
    c.isDue policy now recorded = true ↔
      c.source = .customVersion ∨ recorded.isEmpty = true ∨ recorded.source ≠ some c.source ∨
        c.autoUpdate = true ∧ ∀ threshold lastProbe, policy.threshold = some threshold →
          recorded.lastProbe = some lastProbe → thresholdPassed threshold lastProbe now = true := by
  unfold isDue
  repeat' split
  all_goals grind

theorem source_of_not_due {recorded : VersionStatus} (h : c.isDue policy now recorded = false) :
    recorded.source = some c.source := by
  rw [← Bool.not_eq_true, isDue_iff, not_or, not_or, not_or] at h
  exact Decidable.not_not.mp h.2.2.1

section When

variable {recorded : VersionStatus}

theorem decision_eq_clear_iff : c.decision policy now recorded = .clear ↔ c.enabled = false := by
  unfold decision
  repeat' split
  all_goals simp_all

theorem decision_ne_clear (h : c.enabled = true) : c.decision policy now recorded ≠ .clear := by
  rw [ne_eq, decision_eq_clear_iff, h]
  decide

theorem decision_eq_pin_iff {image : String} :
    c.decision policy now recorded = .pin image ↔
      c.enabled = true ∧ c.source = .customImage ∧ c.customImage.getD "" = image := by
  unfold decision
  repeat' split
  all_goals simp_all

theorem decision_eq_skip_iff :
    c.decision policy now recorded = .skip ↔
      c.enabled = true ∧ c.source ≠ .customImage ∧ c.isDue policy now recorded = false := by
  unfold decision
  repeat' split
  all_goals simp_all

theorem pass_of_disabled {entry : Entry} (policy : ProbePolicy) (now : Instant)
    (henabled : c.enabled = false) :
    c.pass policy now entry = ⟨⟨{}, entry.conditions.clear c.kind⟩, false, .ok ()⟩ := by
  rw [pass_eq_carryOut, decision_eq_clear_iff.mpr henabled, carryOut]

theorem pass_of_skip {entry : Entry} (h : c.decision policy now entry.status = .skip) :
    c.pass policy now entry = ⟨entry, false, .ok ()⟩ := by
  rw [pass_eq_carryOut, h, carryOut]

theorem decision_empty_ne_skip : c.decision policy now {} ≠ .skip := by
  rw [ne_eq, decision_eq_skip_iff]
  rintro ⟨_, _, hdue⟩
  unfold isDue at hdue
  split at hdue <;> simp [VersionStatus.isEmpty] at hdue

theorem decision_eq_keep_iff {candidate : VersionStatus} :
    c.decision policy now recorded = .keep candidate ↔
      c.enabled = true ∧ c.source ≠ .customImage ∧ c.isDue policy now recorded = true ∧
        c.candidate policy = .ok candidate ∧ c.keepsRecord recorded candidate = .ok true := by
  unfold decision
  repeat' split
  all_goals grind

theorem decision_eq_adopt_iff {candidate : VersionStatus} :
    c.decision policy now recorded = .adopt candidate ↔
      c.enabled = true ∧ c.source ≠ .customImage ∧ c.isDue policy now recorded = true ∧
        c.candidate policy = .ok candidate ∧ c.keepsRecord recorded candidate = .ok false := by
  unfold decision
  repeat' split
  all_goals grind

theorem decision_eq_fail_iff {error : VersionError} :
    c.decision policy now recorded = .fail error ↔
      c.enabled = true ∧ c.source ≠ .customImage ∧ c.isDue policy now recorded = true ∧
        (c.candidate policy = .error error ∨
          ∃ candidate, c.candidate policy = .ok candidate ∧
            c.keepsRecord recorded candidate = .error error) := by
  unfold decision
  repeat' split
  all_goals grind

end When

end Component

end VersionOperator
