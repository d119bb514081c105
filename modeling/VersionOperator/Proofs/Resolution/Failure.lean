import VersionOperator.Proofs.Resolution.Runs

namespace VersionOperator

/-- The one word that the ledger has for the cause of a failure: the tenant, a text that does not
read as an image or a version, or anything else. -/
inductive VersionError.Cause : VersionError → String → Prop
  | tenant (error : Tenant.Error) : Cause (.tenant error) "DynatraceApiError"
  | probeTimeout (component : String) (seconds : Nat) :
      Cause (.probeTimeout component seconds) "DynatraceApiError"
  | image (error : Image.Error) : Cause (.image error) "InvalidVersion"
  | invalidVersion (version reason : String) :
      Cause (.invalidVersion version reason) "InvalidVersion"
  | invalidConfig (message : String) : Cause (.invalidConfig message) "ValidationFailed"
  | validation (message : String) : Cause (.validation message) "ValidationFailed"
  | components (failures : List (String × VersionError)) :
      Cause (.components failures) "ValidationFailed"

theorem VersionError.cause_reason (error : VersionError) : error.Cause error.reason := by
  cases error with
  | tenant error => exact .tenant error
  | probeTimeout component seconds => exact .probeTimeout component seconds
  | image error => exact .image error
  | invalidVersion version reason => exact .invalidVersion version reason
  | invalidConfig message => exact .invalidConfig message
  | validation message => exact .validation message
  | components failures => exact .components failures

/-- The first condition of the component is false, and says what failed and for which cause. -/
def Ledger.Tells (kind : ComponentKind) (error : VersionError) (ledger : Ledger) : Prop :=
  ∃ entry, ledger.find? kind = some entry ∧ entry.status = .no ∧ entry.message = error.message ∧
    error.Cause entry.reason

theorem Ledger.tells_put_failed (kind : ComponentKind) (error : VersionError) (now : Instant)
    (ledger : Ledger) : (ledger.put (.failed kind error now)).Tells kind error := by
  obtain ⟨entry, hfind, hstatus, hreason, hmessage⟩ :=
    Ledger.exists_find?_put (Condition.type_failed kind now error) ledger
  refine ⟨entry, hfind, hstatus, hmessage, ?_⟩
  rw [hreason]
  exact error.cause_reason

namespace Component

variable {c : Component} {policy : ProbePolicy} {now : Instant} {recorded : VersionStatus}
  {error : VersionError}

/-- A pass looks the component up: it is asked for, has no pinned image, and is due. -/
structure LooksUp (c : Component) (policy : ProbePolicy) (now : Instant)
    (recorded : VersionStatus) : Prop where
  enabled : c.enabled = true
  source : c.source ≠ .customImage
  due : c.isDue policy now recorded = true

/-- Why a look-up settles on nothing: it is refused, it is not there when the wait is over, or it
brings a version that the guard cannot hold against the one on record. -/
inductive Unsettled (c : Component) (policy : ProbePolicy) (recorded : VersionStatus) :
    VersionError → Prop
  | refused {error : VersionError} (hdelay : c.probe.delay ≤ policy.timeout)
      (hprobe : c.probe.result = .error error) : Unsettled c policy recorded error
  | late (hdelay : ¬ c.probe.delay ≤ policy.timeout) :
      Unsettled c policy recorded (.probeTimeout c.name policy.timeout.seconds)
  | incomparable {candidate : VersionStatus} {error : VersionError}
      (hdelay : c.probe.delay ≤ policy.timeout) (hprobe : c.probe.result = .ok candidate)
      (hsource : c.source = .tenantRegistry) (hversion : candidate.version ≠ "")
      (hguard : c.isDowngrade recorded candidate.version = .error error) :
      Unsettled c policy recorded error

theorem decision_eq_fail_iff_unsettled :
    c.decision policy now recorded = .fail error ↔
      c.LooksUp policy now recorded ∧ c.Unsettled policy recorded error := by
  rw [decision_eq_fail_iff]
  constructor
  · rintro ⟨henabled, hsource, hdue, hcandidate | ⟨candidate, hcandidate, hkeeps⟩⟩
    · refine ⟨⟨henabled, hsource, hdue⟩, ?_⟩
      rcases candidate_eq_error_iff.mp hcandidate with ⟨hdelay, hprobe⟩ | ⟨hdelay, rfl⟩
      · exact .refused hdelay hprobe
      · exact .late hdelay
    · refine ⟨⟨henabled, hsource, hdue⟩, ?_⟩
      obtain ⟨hdelay, hprobe⟩ := candidate_eq_ok_iff.mp hcandidate
      obtain ⟨htenant, hversion, hguard⟩ := keepsRecord_eq_error_iff.mp hkeeps
      exact .incomparable hdelay hprobe htenant hversion hguard
  · rintro ⟨⟨henabled, hsource, hdue⟩, hunsettled⟩
    refine ⟨henabled, hsource, hdue, ?_⟩
    cases hunsettled with
    | refused hdelay hprobe => exact .inl (candidate_eq_error_iff.mpr (.inl ⟨hdelay, hprobe⟩))
    | late hdelay => exact .inl (candidate_eq_error_iff.mpr (.inr ⟨hdelay, rfl⟩))
    | @incomparable candidate _ hdelay hprobe htenant hversion hguard =>
      refine .inr ⟨candidate, candidate_eq_ok_iff.mpr ⟨hdelay, hprobe⟩, ?_⟩
      exact keepsRecord_eq_error_iff.mpr ⟨htenant, hversion, hguard⟩

theorem tells_settle {probed : Bool} {entry : Entry}
    (herror : (c.settle now probed entry).result = .error error) :
    c.validate (c.settle now probed entry).entry.status = .error error ∧
      (c.settle now probed entry).entry.conditions.Tells c.kind error := by
  rw [result_settle] at herror
  refine ⟨by rw [status_settle, herror], ?_⟩
  rw [c.settle_of_invalid probed herror]
  exact Ledger.tells_put_failed c.kind error now _

theorem tells_carryOut {entry : Entry} {decision : Decision}
    (herror : (c.carryOut now entry decision).result = .error error) :
    (decision = .fail error ∨
      c.validate (c.carryOut now entry decision).entry.status = .error error) ∧
    (c.carryOut now entry decision).entry.conditions.Tells c.kind error := by
  cases decision with
  | clear => simp [carryOut] at herror
  | skip => simp [carryOut] at herror
  | pin image => exact (tells_settle herror).imp_left .inr
  | keep candidate => exact (tells_settle herror).imp_left .inr
  | adopt candidate => exact (tells_settle herror).imp_left .inr
  | fail reason =>
    obtain rfl : reason = error := by simpa [carryOut] using herror
    exact ⟨.inl rfl, Ledger.tells_put_failed c.kind reason now _⟩

/-- A look-up that settles on nothing makes the pass fail for that reason, and leaves the record as
it was. Every failure of a pass is of this kind or one of the final check; the first condition of
the component tells it, and the conditions of all others stay, in order. -/
theorem failed_pass_tells_why (c : Component) (policy : ProbePolicy) (now : Instant) (entry : Entry)
    (error : VersionError) :
    (c.LooksUp policy now entry.status → c.Unsettled policy entry.status error →
      (c.pass policy now entry).result = .error error ∧
        (c.pass policy now entry).entry.status = entry.status) ∧
    ((c.pass policy now entry).result = .error error →
      (c.LooksUp policy now entry.status ∧ c.Unsettled policy entry.status error ∨
        c.validate (c.pass policy now entry).entry.status = .error error) ∧
      (c.pass policy now entry).entry.conditions.Tells c.kind error ∧
      (c.pass policy now entry).entry.conditions.clear c.kind = entry.conditions.clear c.kind) := by
  constructor
  · intro hlooks hunsettled
    rw [pass_eq_carryOut, decision_eq_fail_iff_unsettled.mpr ⟨hlooks, hunsettled⟩]
    exact ⟨rfl, rfl⟩
  · intro herror
    rw [pass_eq_carryOut] at herror
    obtain ⟨hcause, htells⟩ := tells_carryOut herror
    rw [← pass_eq_carryOut] at hcause htells
    rw [decision_eq_fail_iff_unsettled] at hcause
    exact ⟨hcause, htells, c.clear_pass now policy entry⟩

/-- The tenant names an image whose tag is no version; the ledger has a condition of no component,
and two of the host agent. -/
theorem failed_pass_tells_incomparable :
    let c := (Round.classic {} (.naming "latest") 0).component .oneAgent
    let policy : ProbePolicy := { timeout := Duration.ofSeconds 30 }
    let error := VersionError.invalidVersion "latest" "expected at least major.minor.release"
    let ready : Condition := ⟨"Ready", .yes, "Checked", "", Instant.newYear⟩
    let verified := Condition.verified .oneAgent "1.2.3" Instant.newYear
    let entry : Entry :=
      ⟨{ version := "1.2.3", source := some .tenantRegistry }, [verified, ready, verified]⟩
    let outcome := c.pass policy Instant.newYear entry
    (c.LooksUp policy Instant.newYear entry.status ∧ c.Unsettled policy entry.status error) ∧
      outcome.result = .error error ∧ outcome.entry.status = entry.status ∧
      outcome.entry.conditions.Tells .oneAgent error ∧
      outcome.entry.conditions.clear .oneAgent = [ready] := by
  have hlatest : VersionOperator.isDowngrade "1.2.3" "latest" =
      .error (.invalidVersion "latest" "expected at least major.minor.release") := by
    rfl
  intro c policy error ready verified entry outcome
  have hlooks : c.LooksUp policy Instant.newYear entry.status := ⟨rfl, by decide, rfl⟩
  have hguard : c.isDowngrade entry.status "latest" = .error error := by
    change oneAgentIsDowngrade entry.status "latest" = .error error
    rw [oneAgentIsDowngrade, if_pos ⟨rfl, by decide⟩]
    exact hlatest
  have hunsettled : c.Unsettled policy entry.status error :=
    .incomparable (by decide) rfl rfl (by decide) hguard
  obtain ⟨hunchanged, htells⟩ := failed_pass_tells_why c policy Instant.newYear entry error
  obtain ⟨herror, hstatus⟩ := hunchanged hlooks hunsettled
  obtain ⟨_, htold, hothers⟩ := htells herror
  exact ⟨⟨hlooks, hunsettled⟩, herror, hstatus, htold, hothers.trans (by decide)⟩

end Component

end VersionOperator
