import VersionOperator.Proofs.Resolution.Failure
import VersionOperator.Proofs.Time.Order

namespace VersionOperator

namespace Component

/-- The pass gives the component a new record, made of the pinned image or of a candidate. -/
inductive Renews (c : Component) (policy : ProbePolicy) (now : Instant) (recorded : VersionStatus) :
    Prop
  | pinned (henabled : c.enabled = true) (hsource : c.source = .customImage)
  | adopted {candidate : VersionStatus} (hlooks : c.LooksUp policy now recorded)
      (hcandidate : c.candidate policy = .ok candidate)
      (hkeeps : c.keepsRecord recorded candidate = .ok false)

/-- The pass settles on something: on a new record, or on the one there is, since the candidate is
older. -/
inductive Settles (c : Component) (policy : ProbePolicy) (now : Instant)
    (recorded : VersionStatus) : Prop
  | renewed (h : c.Renews policy now recorded)
  | kept {candidate : VersionStatus} (hlooks : c.LooksUp policy now recorded)
      (hcandidate : c.candidate policy = .ok candidate)
      (hkeeps : c.keepsRecord recorded candidate = .ok true)

/-- The pass settles on nothing: no look-up is due, or there is one and it fails. -/
inductive Idles (c : Component) (policy : ProbePolicy) (now : Instant) (recorded : VersionStatus) :
    Prop
  | notDue (henabled : c.enabled = true) (hsource : c.source ≠ .customImage)
      (hdue : c.isDue policy now recorded = false)
  | unsettled {error : VersionError} (hlooks : c.LooksUp policy now recorded)
      (h : c.Unsettled policy recorded error)

variable {c : Component} {policy : ProbePolicy} {now : Instant} {recorded : VersionStatus}

theorem settles_or_idles (henabled : c.enabled = true) (policy : ProbePolicy) (now : Instant)
    (recorded : VersionStatus) :
    c.Settles policy now recorded ∨ c.Idles policy now recorded := by
  cases hdecision : c.decision policy now recorded with
  | clear => exact absurd hdecision (decision_ne_clear henabled)
  | pin image => exact .inl (.renewed (.pinned henabled (decision_eq_pin_iff.mp hdecision).2.1))
  | skip =>
    obtain ⟨_, hsource, hdue⟩ := decision_eq_skip_iff.mp hdecision
    exact .inr (.notDue henabled hsource hdue)
  | keep candidate =>
    obtain ⟨_, hsource, hdue, hcandidate, hkeeps⟩ := decision_eq_keep_iff.mp hdecision
    exact .inl (.kept ⟨henabled, hsource, hdue⟩ hcandidate hkeeps)
  | adopt candidate =>
    obtain ⟨_, hsource, hdue, hcandidate, hkeeps⟩ := decision_eq_adopt_iff.mp hdecision
    exact .inl (.renewed (.adopted ⟨henabled, hsource, hdue⟩ hcandidate hkeeps))
  | fail error =>
    obtain ⟨hlooks, hunsettled⟩ := decision_eq_fail_iff_unsettled.mp hdecision
    exact .inr (.unsettled hlooks hunsettled)

variable {entry : Entry}

theorem pass_of_pinned (henabled : c.enabled = true) (hsource : c.source = .customImage) :
    c.pass policy now entry = c.settle now false (c.pinned (c.customImage.getD "") now entry) := by
  rw [pass_eq_carryOut, decision_eq_pin_iff.mpr ⟨henabled, hsource, rfl⟩, carryOut]

section LookUp

variable {candidate : VersionStatus} (hlooks : c.LooksUp policy now entry.status)
  (hcandidate : c.candidate policy = .ok candidate)
include hlooks hcandidate

theorem pass_of_adopted (hkeeps : c.keepsRecord entry.status candidate = .ok false) :
    c.pass policy now entry = c.settle now true (c.adopted candidate now entry) := by
  obtain ⟨henabled, hsource, hdue⟩ := hlooks
  rw [pass_eq_carryOut, decision_eq_adopt_iff.mpr ⟨henabled, hsource, hdue, hcandidate, hkeeps⟩,
    carryOut]

theorem pass_of_kept (hkeeps : c.keepsRecord entry.status candidate = .ok true) :
    c.pass policy now entry = c.settle now true (c.kept candidate now entry) := by
  obtain ⟨henabled, hsource, hdue⟩ := hlooks
  rw [pass_eq_carryOut, decision_eq_keep_iff.mpr ⟨henabled, hsource, hdue, hcandidate, hkeeps⟩,
    carryOut]

end LookUp

/-- The entry that a pass has drafted when it sets source and probe time: the probe time is still
the one before, and the ledger has a condition of the component that holds. -/
structure Drafts (c : Component) (entry draft : Entry) : Prop where
  lastProbe : draft.status.lastProbe = entry.status.lastProbe
  report : ∃ report : Condition, report.type = c.kind.conditionType ∧ report.status = .yes ∧
    draft.conditions = entry.conditions.put report

theorem drafts_put {status : VersionStatus} {report : Condition}
    (hlastProbe : status.lastProbe = entry.status.lastProbe)
    (htype : report.type = c.kind.conditionType) (hstatus : report.status = .yes) :
    c.Drafts entry ⟨status, entry.conditions.put report⟩ :=
  ⟨hlastProbe, report, htype, hstatus, rfl⟩

theorem exists_draft (h : c.Settles policy now entry.status) :
    ∃ draft probed, c.Drafts entry draft ∧ c.pass policy now entry = c.settle now probed draft := by
  cases h with
  | @kept candidate hlooks hcandidate hkeeps =>
    refine ⟨c.kept candidate now entry, true, ?_, pass_of_kept hlooks hcandidate hkeeps⟩
    exact drafts_put rfl (by simp) rfl
  | renewed h =>
    cases h with
    | pinned henabled hsource =>
      refine ⟨c.pinned _ now entry, false, ?_, pass_of_pinned henabled hsource⟩
      exact drafts_put rfl (by simp) rfl
    | @adopted candidate hlooks hcandidate hkeeps =>
      refine ⟨c.adopted candidate now entry, true, ?_, pass_of_adopted hlooks hcandidate hkeeps⟩
      refine drafts_put rfl ?_ ?_
      · split <;> simp
      · split <;> rfl

theorem Idles.pass_eq (h : c.Idles policy now entry.status) :
    (entry.status.source = some c.source ∧ c.pass policy now entry = ⟨entry, false, .ok ()⟩) ∨
      ∃ error, c.pass policy now entry = ⟨c.withFailure error now entry, true, .error error⟩ := by
  rw [pass_eq_carryOut]
  cases h with
  | notDue henabled hsource hdue =>
    rw [decision_eq_skip_iff.mpr ⟨henabled, hsource, hdue⟩]
    exact .inl ⟨source_of_not_due hdue, rfl⟩
  | @unsettled error hlooks hunsettled =>
    rw [decision_eq_fail_iff_unsettled.mpr ⟨hlooks, hunsettled⟩]
    exact .inr ⟨error, rfl⟩

theorem Idles.status_pass (h : c.Idles policy now entry.status) :
    (c.pass policy now entry).entry.status = entry.status := by
  rcases h.pass_eq with ⟨_, hpass⟩ | ⟨error, hpass⟩
  · rw [hpass]
  · rw [hpass]
    rfl

theorem settles_of_looksUp (hlooks : c.LooksUp policy now entry.status)
    (hok : (c.pass policy now entry).result = .ok ()) : c.Settles policy now entry.status := by
  refine (settles_or_idles hlooks.enabled policy now entry.status).resolve_right ?_
  intro hidles
  cases hidles with
  | notDue _ _ hdue => exact absurd (hlooks.due.symm.trans hdue) (by decide)
  | unsettled _ hunsettled =>
    rw [pass_eq_carryOut, decision_eq_fail_iff_unsettled.mpr ⟨hlooks, hunsettled⟩] at hok
    exact absurd hok (by simp [carryOut])

end Component

end VersionOperator
