import VersionOperator.Proofs.Resolution.Candidates
import VersionOperator.Proofs.Resolution.Failure

namespace VersionOperator

open Tenant Text

/-- A record with all its parts: a version that is not blank, a source and a probe time; a pinned
image with the word for it in the place of the version; a pinned version only where there can be
one; and otherwise an image unless the record is of the code modules. -/
structure VersionStatus.Complete (kind : ComponentKind) (s : VersionStatus) : Prop where
  version : isBlankText s.version = false
  source : s.source ≠ none
  lastProbe : s.lastProbe ≠ none
  customImage : s.source = some .customImage →
    s.version = "custom-image" ∧ isBlankText s.image = false
  customVersion : s.source = some .customVersion → kind ≠ .activeGate
  image : s.source = some .tenantRegistry ∨ s.source = some .customVersion →
    (s.image = "" ↔ kind = .codeModules)

def VersionStatus.AllOrNothing (kind : ComponentKind) (s : VersionStatus) : Prop :=
  s = {} ∨ s.Complete kind

theorem VersionStatus.AllOrNothing.complete {kind : ComponentKind} {s : VersionStatus}
    (h : s.AllOrNothing kind) (hversion : s.version ≠ "") : s.Complete kind := by
  refine h.resolve_left ?_
  rintro rfl
  exact hversion rfl

structure PassOutcome.Whole (kind : ComponentKind) (outcome : PassOutcome) : Prop where
  status : outcome.entry.status.AllOrNothing kind
  failure : ∀ {error}, outcome.result = .error error → ¬ error.IsValidation

namespace VersionStatus

variable {kind : ComponentKind} {s : VersionStatus} (now : Instant)

theorem complete_customImage (hversion : s.version = "custom-image")
    (himage : isBlankText s.image = false) : (s.markProbed .customImage now).Complete kind where
  version := by
    rw [version_markProbed, hversion]
    decide
  source := by simp
  lastProbe := by simp [markProbed]
  customImage _ := ⟨hversion, himage⟩
  customVersion h := absurd h (by simp)
  image h := absurd h (by simp)

theorem Complete.markProbed_tenantRegistry (h : s.Complete kind)
    (hsource : s.source = some .tenantRegistry) :
    (s.markProbed .tenantRegistry now).Complete kind where
  version := h.version
  source := by simp
  lastProbe := by simp [markProbed]
  customImage h := absurd h (by simp)
  customVersion h := absurd h (by simp)
  image _ := h.image (.inl hsource)

theorem Offers.complete (h : s.Offers kind) {source : VersionSource}
    (himage : source ≠ .customImage) (hversion : source = .customVersion → kind ≠ .activeGate)
    (lastProbe : Option Instant) :
    ({ s with lastProbe }.markProbed source now).Complete kind where
  version := h.version
  source := by simp
  lastProbe := by simp [markProbed]
  customImage hsource := absurd (Option.some.inj hsource) himage
  customVersion hsource := hversion (Option.some.inj hsource)
  image _ := h.image

end VersionStatus

namespace Component

variable {c : Component} {policy : ProbePolicy} {now : Instant} {entry : Entry} (hc : c.Sound)
include hc

theorem whole_settle {probed : Bool}
    (h : (entry.status.markProbed c.source now).Complete c.kind) :
    (c.settle now probed entry).Whole c.kind := by
  refine ⟨?_, ?_⟩
  · rw [status_settle]
    exact .inr h
  · intro error herror
    rw [result_settle, hc.valid (ne_empty_of_not_blank h.version)] at herror
    exact absurd herror (by simp)

theorem not_isValidation_of_unsettled {recorded : VersionStatus} {error : VersionError}
    (h : c.Unsettled policy recorded error) : ¬ error.IsValidation := by
  cases h with
  | refused _ hprobe =>
    have hyields := hc.probe
    rw [hprobe] at hyields
    exact hyields
  | late _ =>
    rintro ⟨message, hmessage⟩
    exact absurd hmessage (by simp)
  | incomparable _ _ _ _ hguard => exact hc.guard hguard

theorem whole_pass (policy : ProbePolicy) (now : Instant)
    (h : entry.status.AllOrNothing c.kind) : (c.pass policy now entry).Whole c.kind := by
  rw [pass_eq_carryOut]
  cases hdecision : c.decision policy now entry.status with
  | clear => exact ⟨.inl rfl, by simp [carryOut]⟩
  | skip => exact ⟨h, by simp [carryOut]⟩
  | pin image =>
    obtain ⟨_, hsource, rfl⟩ := decision_eq_pin_iff.mp hdecision
    obtain ⟨image, himage⟩ := source_eq_customImage_iff.mp hsource
    apply whole_settle hc
    rw [hsource]
    apply VersionStatus.complete_customImage now rfl
    simpa [pinned, himage] using hc.customImage himage
  | keep candidate =>
    obtain ⟨_, _, _, _, hkeeps⟩ := decision_eq_keep_iff.mp hdecision
    obtain ⟨hsource, _, hguard⟩ := keepsRecord_eq_true_iff.mp hkeeps
    have hrecorded := hc.armed hguard
    apply whole_settle hc
    rw [hsource]
    -- The guard is asked about records from the tenant alone, so this one is not empty.
    rcases h with hempty | hcomplete
    · rw [hempty] at hrecorded
      exact absurd hrecorded (by simp)
    · exact hcomplete.markProbed_tenantRegistry now hrecorded
  | adopt candidate =>
    obtain ⟨_, himage, _, hcandidate, _⟩ := decision_eq_adopt_iff.mp hdecision
    have hyields := hc.probe
    rw [(candidate_eq_ok_iff.mp hcandidate).2] at hyields
    apply whole_settle hc
    refine VersionStatus.Offers.complete now hyields himage ?_ entry.status.lastProbe
    intro hsource hgate
    obtain ⟨_, version, hversion⟩ := source_eq_customVersion_iff.mp hsource
    rw [hc.customVersion hgate] at hversion
    exact absurd hversion (by simp)
  | fail error =>
    refine ⟨h, ?_⟩
    intro reason hreason
    obtain rfl : error = reason := by simpa [carryOut] using hreason
    exact not_isValidation_of_unsettled hc (decision_eq_fail_iff_unsettled.mp hdecision).2

end Component

namespace Round

/-- In the round the tenant is asked over HTTP, or not at all, since there is no token. -/
def AsksTenant (r : Round) : Prop :=
  r.OverHttp ∨ ∃ reason, r.client = .withoutToken reason

theorem AsksTenant.answersInFull {r : Round} (h : r.AsksTenant) : r.client.AnswersInFull := by
  rcases h with ⟨transport, complaint, baseUrl, token, hclient⟩ | ⟨reason, hclient⟩
  · rw [hclient]
    exact answersInFull_httpClient transport complaint baseUrl token
  · rw [hclient]
    exact answersInFull_withoutToken reason

theorem whole_attend {r : Round} (h : r.AsksTenant) {kind : ComponentKind} {entry : Entry}
    (hentry : entry.status.AllOrNothing kind) : (r.attend kind entry).Whole kind := by
  have hsound := Component.sound_ofKind (r.resource none) h.answersInFull kind
  have hkind : entry.status.AllOrNothing (r.component kind).kind := by rwa [kind_component]
  have hpass := Component.whole_pass hsound r.policy (r.clock kind) hkind
  rwa [Component.kind_ofKind] at hpass

end Round

theorem allOrNothing_statusAfter {rounds : List Round} (h : ∀ r ∈ rounds, r.AsksTenant)
    (kind : ComponentKind) :
    (((statusAfter none rounds).getD {}).record kind).AllOrNothing kind := by
  refine record_invariant_statusAfter kind ?_ ?_
  · intro r hr entry hentry
    exact (Round.whole_attend (h r hr) hentry).status
  · left
    cases kind <;> rfl

/-- After every pass of a run from nothing, with a tenant that is asked over HTTP or a token that is
missing, every record is complete or empty; and no failure that the pass reports is one of the final
check. -/
theorem records_all_or_nothing (before : List Round) (r : Round)
    (h : ∀ q ∈ before ++ [r], q.AsksTenant) :
    (∀ kind, ((r.resolve (statusAfter none before)).status.record kind).AllOrNothing kind) ∧
      ∀ failure ∈ (r.resolve (statusAfter none before)).failures, ¬ failure.2.IsValidation := by
  constructor
  · intro kind
    have hafter := allOrNothing_statusAfter h kind
    rw [statusAfter_concat] at hafter
    exact hafter
  · intro failure hfailure
    obtain ⟨kind, _, herror⟩ := (r.mem_failures_resolve_iff _).mp hfailure
    have hbefore : ∀ q ∈ before, q.AsksTenant := fun q hq => h q (List.mem_append_left [r] hq)
    have hround : r.AsksTenant := h r (by simp)
    have hrecord := allOrNothing_statusAfter hbefore kind
    exact (Round.whole_attend hround hrecord).failure herror

/-- A pass with a reply of the tenant, and one without a token. The record of the host agent is the
complete one of the first pass, that of the gate is empty. -/
theorem records_all_or_nothing_reply :
    let image := "\x7b\"source\": \"tenant.example/linux/oneagent\", \"tag\": \"1.10.0\"\x7d"
    let reply : Reply := .response 200 (some image.toUTF8.toList)
    let before := [Round.classic {}
      (httpClient (fun _ => Timed.now reply) (fun _ _ => "") "https://x" "token") 0]
    let r := Round.classic {} (.withoutToken "the secret is gone") 1
    let resolution := r.resolve (statusAfter none before)
    (∀ q ∈ before ++ [r], q.AsksTenant) ∧
      ((resolution.status.record .oneAgent).version = "1.10.0" ∧
        (resolution.status.record .oneAgent).Complete .oneAgent ∧
        resolution.status.record .activeGate = {} ∧ resolution.Reports .oneAgent) ∧
      (∀ kind, (resolution.status.record kind).AllOrNothing kind) ∧
      ∀ failure ∈ resolution.failures, ¬ failure.2.IsValidation := by
  intro image reply before r resolution
  have hrounds : ∀ q ∈ before ++ [r], q.AsksTenant :=
    List.forall_mem_cons.mpr
      ⟨.inl ⟨_, fun _ _ => "", _, _, rfl⟩, List.forall_mem_singleton.mpr (.inr ⟨_, rfl⟩)⟩
  have hversion : (resolution.status.record .oneAgent).version = "1.10.0" := by decide +kernel
  have hcomplete := ((records_all_or_nothing before r hrounds).1 .oneAgent).complete
    (hversion ▸ by decide)
  exact ⟨hrounds, ⟨hversion, hcomplete, by decide +kernel, by decide +kernel⟩,
    records_all_or_nothing before r hrounds⟩

end VersionOperator
