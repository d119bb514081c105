import VersionOperator.Proofs.Resolution.Asking
import VersionOperator.Proofs.Resolution.Complete
import VersionOperator.Proofs.Resolution.ProbeTime

/-!
How often a component that follows its tenant is looked up. A look-up that succeeds leaves a record
with a version from the tenant and a probe time that is not before it. No later pass takes that
away, and with such a record no look-up is due before the probe time is old enough. All this needs a
tenant that names no empty version: a record without one would be due at once.
-/

namespace VersionOperator

open Tenant

namespace VersionStatus

/-- The probe time on record, if there is one, is not in a leap second. -/
def OutsideLeap (s : VersionStatus) : Prop :=
  ∀ stamp, s.lastProbe = some stamp → ¬ stamp.IsLeap

/-- The record has a version that came from the tenant, and the probe time is not before that
moment. -/
structure ProbedSince (s : VersionStatus) (t : Instant) : Prop where
  version : s.version ≠ ""
  source : s.source = some .tenantRegistry
  lastProbe : ∃ stamp, s.lastProbe = some stamp ∧ t ≤ stamp

theorem ProbedSince.not_isEmpty {s : VersionStatus} {t : Instant} (h : s.ProbedSince t) :
    s.isEmpty = false := by
  simp [isEmpty, h.version]

end VersionStatus

namespace Component

variable {c : Component} {policy : ProbePolicy} {now t : Instant} {entry : Entry}

theorem outsideLeap_pass (henabled : c.enabled = true) (hnow : ¬ now.IsLeap) (policy : ProbePolicy)
    (h : entry.status.OutsideLeap) : (c.pass policy now entry).entry.status.OutsideLeap := by
  rcases settles_or_idles henabled policy now entry.status with hsettles | hidles
  · intro stamp hstamp
    rw [lastProbe_pass_of_settles hsettles] at hstamp
    obtain rfl := Option.some.inj hstamp
    rcases (entry.status.isLatest_stampAt now).eq_or with hclock | hrecorded
    · rwa [hclock]
    · exact h _ hrecorded
  · rwa [hidles.status_pass]

section Sound

variable (hc : c.Sound)
  (hguard : ∀ {recorded version}, c.isDowngrade recorded version = .ok true →
    recorded.version ≠ "")
include hc hguard

theorem version_pass_of_settles (h : c.Settles policy now entry.status) :
    (c.pass policy now entry).entry.status.version ≠ "" := by
  cases h with
  | kept hlooks hcandidate hkeeps =>
    have hversion : entry.status.version ≠ "" := hguard (keepsRecord_eq_true_iff.mp hkeeps).2.2
    rwa [pass_of_kept hlooks hcandidate hkeeps, status_settle]
  | renewed hrenews =>
    cases hrenews with
    | pinned henabled hsource =>
      rw [pass_of_pinned henabled hsource, status_settle]
      simp [pinned, VersionSource.word]
    | adopted hlooks hcandidate hkeeps =>
      have hyields := hc.probe
      rw [(candidate_eq_ok_iff.mp hcandidate).2] at hyields
      rw [pass_of_adopted hlooks hcandidate hkeeps, status_settle]
      exact ne_empty_of_not_blank hyields.version

variable (htenant : c.source = .tenantRegistry)
include htenant

theorem probedSince_pass_of_settles (h : c.Settles policy now entry.status) :
    (c.pass policy now entry).entry.status.ProbedSince now where
  version := version_pass_of_settles hc hguard h
  source := by rw [source_pass_of_settles h, htenant]
  lastProbe :=
    ⟨_, lastProbe_pass_of_settles h, (entry.status.isLatest_stampAt now).now_le⟩

theorem probedSince_pass (henabled : c.enabled = true) (policy : ProbePolicy) (now : Instant)
    (h : entry.status.ProbedSince t) :
    (c.pass policy now entry).entry.status.ProbedSince t := by
  rcases settles_or_idles henabled policy now entry.status with hsettles | hidles
  · obtain ⟨stamp, hstamp, hle⟩ := h.lastProbe
    obtain ⟨stamp', hstamp', hle'⟩ := advances_pass henabled policy now entry stamp hstamp
    obtain ⟨hversion, hsource, _⟩ := probedSince_pass_of_settles hc hguard htenant hsettles
    exact ⟨hversion, hsource, stamp', hstamp', Instant.le_trans hle hle'⟩
  · rwa [hidles.status_pass]

end Sound

variable {recorded : VersionStatus} {threshold : Duration}

theorem elapsed_of_isDue (htenant : c.source = .tenantRegistry)
    (hthreshold : policy.threshold = some threshold) (h : recorded.ProbedSince t)
    (hdue : c.isDue policy now recorded = true) :
    ∃ stamp, recorded.lastProbe = some stamp ∧ t ≤ stamp ∧
      (threshold.nanos : Int) ≤ now.nanosSince stamp := by
  obtain ⟨stamp, hstamp, hle⟩ := h.lastProbe
  refine ⟨stamp, hstamp, hle, ?_⟩
  -- Of all that makes a component due, the record leaves nothing but its age.
  rw [isDue_iff, htenant, h.not_isEmpty, h.source] at hdue
  rcases hdue with hpinned | hempty | hother | ⟨_, hpassed⟩
  · exact absurd hpinned (by decide)
  · exact absurd hempty (by decide)
  · exact absurd rfl hother
  · exact of_decide_eq_true (hpassed threshold stamp hthreshold hstamp)

theorem isDue_of_elapsed (hauto : c.autoUpdate = true)
    (hthreshold : policy.threshold = some threshold) {stamp : Instant}
    (hstamp : recorded.lastProbe = some stamp)
    (helapsed : (threshold.nanos : Int) ≤ now.nanosSince stamp) :
    c.isDue policy now recorded = true := by
  refine isDue_iff.mpr (.inr (.inr (.inr ⟨hauto, ?_⟩)))
  intro threshold' stamp' hthreshold' hstamp'
  obtain rfl := Option.some.inj (hthreshold.symm.trans hthreshold')
  obtain rfl := Option.some.inj (hstamp.symm.trans hstamp')
  exact decide_eq_true helapsed

end Component

/-- In the round the component is asked for and has neither image nor version pinned, it is looked
up at most once in that time, the tenant is asked over HTTP or not at all, and the clock does not
stand in a leap second. -/
structure Round.Throttled (r : Round) (threshold : Duration) (kind : ComponentKind) : Prop where
  enabled : (r.component kind).enabled = true
  customImage : (r.component kind).customImage = none
  customVersion : (r.component kind).customVersion = none
  threshold : r.policy.threshold = some threshold
  tenant : r.AsksTenant
  clock : ¬ (r.clock kind).IsLeap

namespace Round.Throttled

variable {r : Round} {threshold : Duration} {kind : ComponentKind} (h : r.Throttled threshold kind)
include h

theorem source : (r.component kind).source = .tenantRegistry :=
  Component.source_eq_tenantRegistry_iff.mpr ⟨h.customImage, h.customVersion⟩

theorem sound : (r.component kind).Sound :=
  Component.sound_ofKind (r.resource none) h.tenant.answersInFull kind

variable {entry : Entry} {t : Instant}

theorem probedSince_attend (hentry : entry.status.ProbedSince t) :
    (r.attend kind entry).entry.status.ProbedSince t :=
  Component.probedSince_pass h.sound (Component.version_ne_empty_of_isDowngrade _) h.source
    h.enabled r.policy (r.clock kind) hentry

theorem probedSince_resolve {status : Option DynaKubeStatus}
    (hasks : (r.resolve status).AsksAbout kind) (hok : ¬ (r.resolve status).Reports kind) :
    ((r.resolve status).status.record kind).ProbedSince (r.clock kind) := by
  have hlooks : (r.component kind).LooksUp r.policy (r.clock kind)
      ((status.getD {}).entry kind).status := (asksAbout_resolve_iff.mp hasks).1
  have hsettles := Component.settles_of_looksUp hlooks ((r.not_reports_resolve_iff status).mp hok)
  rw [record_resolve]
  exact Component.probedSince_pass_of_settles h.sound (Component.version_ne_empty_of_isDowngrade _)
    h.source hsettles

end Round.Throttled

section Run

variable {threshold : Duration} {kind : ComponentKind} {rounds : List Round}
  (hrounds : ∀ r ∈ rounds, r.Throttled threshold kind) {status : Option DynaKubeStatus}
include hrounds

theorem outsideLeap_statusAfter (hstart : ((status.getD {}).record kind).OutsideLeap) :
    (((statusAfter status rounds).getD {}).record kind).OutsideLeap := by
  refine record_invariant_statusAfter kind ?_ hstart
  intro r hr entry hentry
  exact Component.outsideLeap_pass (hrounds r hr).enabled (hrounds r hr).clock r.policy hentry

theorem probedSince_statusAfter {t : Instant}
    (hstart : ((status.getD {}).record kind).ProbedSince t) :
    (((statusAfter status rounds).getD {}).record kind).ProbedSince t := by
  refine record_invariant_statusAfter kind (P := fun recorded => recorded.ProbedSince t) ?_ hstart
  intro r hr entry hentry
  exact (hrounds r hr).probedSince_attend hentry

end Run

/-- From a pass that asks the tenant about a component, and does not fail over it, to any later pass
that asks about it, at least the least age of a probe goes by, whatever comes between and whatever
the clock shows. And once the probe on record is that old, a pass looks the component up, if it
follows new versions, and asks the tenant about it, if the tenant can be reached. -/
theorem probe_threshold_limits_rate (start : Option DynaKubeStatus) (kind : ComponentKind)
    (threshold : Duration) (before : List Round) (first : Round) (between : List Round)
    (second : Round)
    (hrounds : ∀ r ∈ before ++ first :: between ++ [second], r.Throttled threshold kind)
    (hstart : ((start.getD {}).record kind).OutsideLeap) :
    let early := first.resolve (statusAfter start before)
    let late := second.resolve (statusAfter start (before ++ first :: between))
    (early.AsksAbout kind → ¬ early.Reports kind → late.AsksAbout kind →
      (threshold.nanos : Int) ≤ (second.clock kind).nanosSince (first.clock kind)) ∧
    ∀ (found : Option DynaKubeStatus) (stamp : Instant),
      (second.component kind).autoUpdate = true →
      ((found.getD {}).record kind).lastProbe = some stamp →
      (threshold.nanos : Int) ≤ (second.clock kind).nanosSince stamp →
        (second.attend kind ((found.getD {}).entry kind)).probed = true ∧
        (∀ query ∈ (second.component kind).probe.asked, query ∈ (second.resolve found).asked) ∧
        ((second.resource found).ReachesTenant kind → (second.resolve found).AsksAbout kind) := by
  intro early late
  have hfirst : first.Throttled threshold kind := hrounds first (by simp)
  have hsecond : second.Throttled threshold kind := hrounds second (by simp)
  constructor
  · intro hearly hsucceeds hlate
    have hbetween : ∀ r ∈ between, r.Throttled threshold kind := fun r hr =>
      hrounds r (by simp [hr])
    have hpassed : ∀ r ∈ before ++ first :: between, r.Throttled threshold kind := fun r hr =>
      hrounds r (List.mem_append_left [second] hr)
    have hafter : statusAfter start (before ++ first :: between) =
        statusAfter (some early.status) between := statusAfter_append start before _
    have hdue := (Round.asksAbout_resolve_iff.mp hlate).1.due
    have hprobed : (((statusAfter start (before ++ first :: between)).getD {}).record
        kind).ProbedSince (first.clock kind) := by
      rw [hafter]
      exact probedSince_statusAfter hbetween (hfirst.probedSince_resolve hearly hsucceeds)
    obtain ⟨stamp, hstamp, hle, helapsed⟩ :=
      Component.elapsed_of_isDue hsecond.source hsecond.threshold hprobed hdue
    -- The probe time may be later than the first pass, if the clock was ahead before it, but it is
    -- never earlier.
    have hleap : ¬ stamp.IsLeap := outsideLeap_statusAfter hpassed hstart stamp hstamp
    calc (threshold.nanos : Int)
      _ ≤ (second.clock kind).nanosSince stamp := helapsed
      _ ≤ (second.clock kind).nanosSince (first.clock kind) :=
        Instant.nanosSince_le_of_le hsecond.clock hfirst.clock hleap hle
  · intro found stamp hauto hstamp helapsed
    have hlooks : second.LooksUp found kind :=
      ⟨hsecond.enabled, by rw [hsecond.source]; decide,
        Component.isDue_of_elapsed hauto hsecond.threshold hstamp helapsed⟩
    refine ⟨Component.probed_pass_iff.mpr hlooks, ?_, ?_⟩
    · intro query hquery
      exact Round.mem_asked_resolve_iff.mpr ⟨kind, hlooks, hquery⟩
    · intro hreaches
      have hasked : (second.component kind).probe.asked = [(second.resource none).question kind] :=
        Component.asked_probe_of_reachesTenant hsecond.customVersion hreaches
      exact Round.asksAbout_resolve_iff.mpr ⟨hlooks, by rw [hasked]; exact List.cons_ne_nil _ _⟩

/-- A look-up every quarter of an hour: one at the start, one without a token that fails, one that
is not due by a clock set back, and one after twenty minutes. -/
theorem probe_threshold_limits_rate_quarter_hour :
    let image := "\x7b\"source\": \"tenant.example/linux/oneagent\", \"tag\": \"1.10.0\"\x7d"
    let reply : Reply := .response 200 (some image.toUTF8.toList)
    let client := httpClient (fun _ => Timed.now reply) (fun _ _ => "") "https://x" "token"
    let threshold := Duration.ofSeconds 900
    let round (client : Client) (minutes : Int) : Round :=
      { Round.classic {} client minutes with
        policy := { threshold := some threshold, timeout := Duration.ofSeconds 30 } }
    let first := round client 0
    let between := [round (.withoutToken "none") 16, round client 10]
    let second := round client 20
    let early := first.resolve (statusAfter none [])
    let late := second.resolve (statusAfter none ([] ++ first :: between))
    ((∀ r ∈ [] ++ first :: between ++ [second], r.Throttled threshold .oneAgent) ∧
      (((none : Option DynaKubeStatus).getD {}).record .oneAgent).OutsideLeap ∧
      early.AsksAbout .oneAgent ∧ ¬ early.Reports .oneAgent ∧ late.AsksAbout .oneAgent) ∧
    (early.AsksAbout .oneAgent → ¬ early.Reports .oneAgent → late.AsksAbout .oneAgent →
      (threshold.nanos : Int) ≤
        (second.clock .oneAgent).nanosSince (first.clock .oneAgent)) ∧
    ∀ (found : Option DynaKubeStatus) (stamp : Instant),
      (second.component .oneAgent).autoUpdate = true →
      ((found.getD {}).record .oneAgent).lastProbe = some stamp →
      (threshold.nanos : Int) ≤ (second.clock .oneAgent).nanosSince stamp →
        (second.attend .oneAgent ((found.getD {}).entry .oneAgent)).probed = true ∧
        (∀ query ∈ (second.component .oneAgent).probe.asked, query ∈ (second.resolve found).asked) ∧
        ((second.resource found).ReachesTenant .oneAgent →
          (second.resolve found).AsksAbout .oneAgent) := by
  refine ⟨⟨?rounds, ?start, ?asks, ?succeeds, ?again⟩,
    probe_threshold_limits_rate _ _ _ _ _ _ _ ?rounds ?start⟩
  case rounds =>
    intro r hr
    simp only [List.nil_append, List.cons_append, List.mem_cons, List.not_mem_nil, or_false] at hr
    rcases hr with rfl | rfl | rfl | rfl
    · exact ⟨rfl, rfl, rfl, rfl, .inl ⟨_, fun _ _ => "", _, _, rfl⟩, by decide⟩
    · exact ⟨rfl, rfl, rfl, rfl, .inr ⟨_, rfl⟩, by decide⟩
    · exact ⟨rfl, rfl, rfl, rfl, .inl ⟨_, fun _ _ => "", _, _, rfl⟩, by decide⟩
    · exact ⟨rfl, rfl, rfl, rfl, .inl ⟨_, fun _ _ => "", _, _, rfl⟩, by decide⟩
  case start =>
    intro stamp hstamp
    exact absurd hstamp (by simp [DynaKubeStatus.record])
  case asks => decide +kernel
  case succeeds => decide +kernel
  case again => decide +kernel

end VersionOperator
