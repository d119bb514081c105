import VersionOperator.Proofs.Resolution.Questions
import VersionOperator.Proofs.Resolution.WithoutToken
import VersionOperator.Proofs.Time.Order

namespace VersionOperator

open Tenant

/-- What the tenant is asked about a component: its newest image, where images are the tenant's to
name, or else its newest version. -/
def DynaKube.question (dk : DynaKube) : ComponentKind → Query
  | .activeGate =>
    if dk.featureFlags.automaticRegistry then .latestImage .activeGate else .gatewayVersion
  | .oneAgent =>
    if dk.featureFlags.automaticRegistry then .latestImage .oneAgent else .agentVersion .host
  | .codeModules => .agentVersion .modules

/-- At least that much time has passed since a probe time. One in the future has not passed, with
one exception: the clock stands in a leap second at the end of a day, the probe time is in the first
second of the next day, and so much more of the leap second is gone. -/
inductive Instant.Passed (now : Instant) (threshold : Duration) (lastProbe : Instant) : Prop
  | past (hle : lastProbe ≤ now) (helapsed : (threshold.nanos : Int) ≤ now.nanosSince lastProbe)
  | leap (hends : now.EndsDayBefore lastProbe)
      (hnano : 1000000000 + lastProbe.nano + threshold.nanos ≤ now.nano)

theorem Instant.passed_iff {now lastProbe : Instant} {threshold : Duration} :
    now.Passed threshold lastProbe ↔ (threshold.nanos : Int) ≤ now.nanosSince lastProbe := by
  rcases Decidable.em (now < lastProbe) with hfuture | hpast
  · rw [le_nanosSince_of_lt_iff hfuture]
    constructor
    · rintro (⟨hle, _⟩ | ⟨hends, hnano⟩)
      · exact absurd hfuture (Int.not_lt.mpr hle)
      · exact ⟨hends, hnano⟩
    · rintro ⟨hends, hnano⟩
      exact .leap hends hnano
  · constructor
    · rintro (⟨_, helapsed⟩ | ⟨⟨hday, hlast, hfirst⟩, _⟩)
      · exact helapsed
      · rw [lt_iff, ordinal, ordinal] at hpast
        have hnano := now.nano_lt
        omega
    · exact .past (Int.not_lt.mp hpast)

namespace Component

/-- The component is to be asked for: it is enabled, has neither image nor version pinned, and its
record is empty or did not come from the tenant, or else it follows new versions and enough time has
passed since the last probe, if there was one and there is such a limit. -/
structure Due (c : Component) (policy : ProbePolicy) (passed : Duration → Instant → Prop)
    (recorded : VersionStatus) : Prop where
  enabled : c.enabled = true
  customImage : c.customImage = none
  customVersion : c.customVersion = none
  stale : recorded.isEmpty = true ∨ recorded.source ≠ some .tenantRegistry ∨
    c.autoUpdate = true ∧ ∀ threshold lastProbe, policy.threshold = some threshold →
      recorded.lastProbe = some lastProbe → passed threshold lastProbe

section

variable {c : Component} {policy : ProbePolicy} {now : Instant} {recorded : VersionStatus}

theorem isDue_iff_stale (himage : c.customImage = none) (hversion : c.customVersion = none) :
    c.isDue policy now recorded = true ↔
      recorded.isEmpty = true ∨ recorded.source ≠ some .tenantRegistry ∨
        c.autoUpdate = true ∧ ∀ threshold lastProbe, policy.threshold = some threshold →
          recorded.lastProbe = some lastProbe → now.Passed threshold lastProbe := by
  have hsource : c.source = .tenantRegistry :=
    source_eq_tenantRegistry_iff.mpr ⟨himage, hversion⟩
  simp only [isDue_iff, hsource, reduceCtorEq, false_or, thresholdPassed, decide_eq_true_eq,
    Instant.passed_iff]

theorem due_iff_needsTenant :
    c.Due policy now.Passed recorded ↔ c.NeedsTenant policy now recorded := by
  constructor
  · rintro ⟨henabled, himage, hversion, hstale⟩
    exact ⟨henabled, himage, hversion, (isDue_iff_stale himage hversion).mpr hstale⟩
  · rintro ⟨henabled, himage, hversion, hdue⟩
    exact ⟨henabled, himage, hversion, (isDue_iff_stale himage hversion).mp hdue⟩

end

section OfKind

variable {dk : DynaKube} {client : Client} {kind : ComponentKind}

theorem asked_probe_of_reachesTenant (hversion : (ofKind dk client kind).customVersion = none)
    (h : dk.ReachesTenant kind) : (ofKind dk client kind).probe.asked = [dk.question kind] := by
  cases kind with
  | activeGate =>
    change (activeGateProbe dk client).asked = _
    cases hflag : dk.featureFlags.automaticRegistry with
    | true => simp [activeGateProbe, DynaKube.question, hflag, Probe.asking]
    | false =>
      obtain ⟨host, hhost⟩ := exists_registry_of_reachesTenant h (by decide) hflag
      simp [activeGateProbe, DynaKube.question, hflag, hhost, Probe.asking]
  | oneAgent =>
    change dk.oneAgentCustomVersion? = none at hversion
    change (oneAgentProbe dk client).asked = _
    cases hflag : dk.featureFlags.automaticRegistry with
    | true => simp [oneAgentProbe, DynaKube.question, hversion, hflag, Probe.asking]
    | false =>
      obtain ⟨host, hhost⟩ := exists_registry_of_reachesTenant h (by decide) hflag
      simp [oneAgentProbe, DynaKube.question, hversion, hflag, hhost, Probe.asking]
  | codeModules =>
    change dk.codeModulesCustomVersion? = none at hversion
    change (codeModulesProbe dk client).asked = _
    simp [codeModulesProbe, DynaKube.question, hversion, Probe.asking]

theorem asked_probe_of_customVersion (h : (ofKind dk client kind).customVersion ≠ none) :
    (ofKind dk client kind).probe.asked = [] := by
  obtain ⟨version, hversion⟩ := Option.ne_none_iff_exists'.mp h
  cases kind with
  | activeGate => exact absurd hversion nofun
  | oneAgent =>
    change dk.oneAgentCustomVersion? = some version at hversion
    change (oneAgentProbe dk client).asked = []
    rw [oneAgentProbe, hversion]
    cases registry dk <;> rfl
  | codeModules =>
    change dk.codeModulesCustomVersion? = some version at hversion
    change (codeModulesProbe dk client).asked = []
    rw [codeModulesProbe, hversion]
    rfl

end OfKind

end Component

section Pass

variable {policy : ProbePolicy} {clock : Clock} {dk : DynaKube} {client : Client}
  {kind : ComponentKind}

theorem asked_componentPass_of_due
    (hdue : (Component.ofKind dk client kind).Due policy (clock kind).Passed
      (dk.recorded.record kind))
    (hreaches : dk.ReachesTenant kind) :
    (componentPass policy clock dk client kind).asked (Component.ofKind dk client kind) =
      [dk.question kind] := by
  have hlooks := (Component.needsTenant_iff.mp (Component.due_iff_needsTenant.mp hdue)).1
  have hprobed : (componentPass policy clock dk client kind).probed = true :=
    Component.probed_pass_iff.mpr hlooks
  rw [PassOutcome.asked, if_pos hprobed]
  exact Component.asked_probe_of_reachesTenant hdue.customVersion hreaches

theorem asked_componentPass_of_not_due
    (h : ¬ ((Component.ofKind dk client kind).Due policy (clock kind).Passed
      (dk.recorded.record kind) ∧ dk.ReachesTenant kind)) :
    (componentPass policy clock dk client kind).asked (Component.ofKind dk client kind) = [] := by
  rw [PassOutcome.asked]
  split
  · rename_i hprobed
    have hlooks := Component.probed_pass_iff.mp hprobed
    rcases Decidable.em ((Component.ofKind dk client kind).customVersion = none) with
      hversion | hversion
    · have hneeds := Component.needsTenant_iff.mpr ⟨hlooks, hversion⟩
      have hreaches : ¬ dk.ReachesTenant kind :=
        fun hreaches => h ⟨Component.due_iff_needsTenant.mpr hneeds, hreaches⟩
      rw [Component.probe_of_not_reachesTenant hversion hreaches, Probe.refused]
    · exact Component.asked_probe_of_customVersion hversion
  · rfl

end Pass

namespace Component

variable {c : Component} {policy : ProbePolicy} {now : Instant} {entry : Entry}

theorem pass_of_cleared (henabled : c.enabled = false) (hstatus : entry.status = {})
    (hfind : entry.conditions.find? c.kind = none) :
    c.pass policy now entry = ⟨entry, false, .ok ()⟩ := by
  rw [pass_of_disabled policy now henabled, Ledger.clear_eq_self hfind, ← hstatus]

end Component

namespace Progress

variable {policy : ProbePolicy} {clock : Clock} {p : Progress} {dk : DynaKube} {client : Client}

theorem step_of_idle {c : Component}
    (h : c.pass policy (clock c.kind) (p.entry c.kind) = ⟨p.entry c.kind, false, .ok ()⟩) :
    p.step policy clock c = p := by
  have hrecord : p.status.withRecord c.kind (p.entry c.kind).status = p.status := by
    cases c.kind <;> rfl
  simp only [step, h, hrecord]
  rfl

theorem stepAll_of_idle {order : List ComponentKind}
    (h : ∀ kind ∈ order, (Component.ofKind dk client kind).pass policy (clock kind) (p.entry kind) =
      ⟨p.entry kind, false, .ok ()⟩) : p.stepAll policy clock dk client order = p := by
  induction order with
  | nil => rfl
  | cons head rest ih =>
    have hhead : p.step policy clock (Component.ofKind dk client head) = p := by
      apply step_of_idle
      rw [Component.kind_ofKind]
      exact h head List.mem_cons_self
    rw [stepAll_cons, hhead]
    exact ih fun kind hkind => h kind (List.mem_cons_of_mem _ hkind)

end Progress

theorem resolveVersions_of_idle {policy : ProbePolicy} {clock : Clock} {dk : DynaKube}
    {client : Client} {s : DynaKubeStatus} (hstatus : dk.status = some s)
    (h : ∀ kind, (Component.ofKind dk client kind).pass policy (clock kind) (s.entry kind) =
      ⟨s.entry kind, false, .ok ()⟩) :
    resolveVersions policy clock dk client =
      { status := s, changed := false, asked := [], result := .ok () } := by
  have hpasses : passes policy clock dk client ComponentKind.all = { status := s } := by
    have hstart : dk.status.getD {} = s := by rw [hstatus, Option.getD_some]
    rw [passes, hstart]
    exact Progress.stepAll_of_idle fun kind _ => h kind
  simp only [resolveVersions, hpasses, hstatus]
  simp

/-- About each component a pass asks the tenant one question, if the component is due and can be
asked for, and else none. If no component is due, none that is enabled has anything pinned, and
those that are not have lost record and condition before, the pass changes nothing. -/
theorem tenant_asked_when_due (policy : ProbePolicy) (clock : Clock) (dk : DynaKube)
    (client : Client) :
    let due (kind : ComponentKind) : Prop :=
      (Component.ofKind dk client kind).Due policy (clock kind).Passed (dk.recorded.record kind)
    let resolution := resolveVersions policy clock dk client
    (∀ kind, let about := resolution.asked.filter fun query => query.subject = kind
      (due kind ∧ dk.ReachesTenant kind → about = [dk.question kind]) ∧
      (¬ (due kind ∧ dk.ReachesTenant kind) → about = [])) ∧
    ∀ s, dk.status = some s → (∀ kind, ¬ due kind) →
      (∀ kind, (Component.ofKind dk client kind).enabled = true →
        (Component.ofKind dk client kind).source = .tenantRegistry) →
      (∀ kind, (Component.ofKind dk client kind).enabled = false →
        s.record kind = {} ∧ s.conditions.find? kind = none) →
      resolution = { status := s, changed := false, asked := [], result := .ok () } := by
  intro due resolution
  constructor
  · intro kind about
    have habout : about = (componentPass policy clock dk client kind).asked
        (Component.ofKind dk client kind) :=
      filter_asked_resolveVersions policy clock dk client kind
    rw [habout]
    constructor
    · rintro ⟨hdue, hreaches⟩
      exact asked_componentPass_of_due hdue hreaches
    · intro h
      exact asked_componentPass_of_not_due h
  · intro s hstatus hquiet hunpinned hcleared
    apply resolveVersions_of_idle hstatus
    intro kind
    cases henabled : (Component.ofKind dk client kind).enabled with
    | false =>
      obtain ⟨hrecord, hfind⟩ := hcleared kind henabled
      rw [← Component.kind_ofKind dk client kind] at hfind
      exact Component.pass_of_cleared henabled hrecord hfind
    | true =>
      have hsource := hunpinned kind henabled
      have hrecorded : dk.recorded = s := by rw [DynaKube.recorded, hstatus, Option.getD_some]
      have hdue :
          (Component.ofKind dk client kind).isDue policy (clock kind) (s.record kind) = false := by
        rw [← Bool.not_eq_true]
        intro hdue
        obtain ⟨himage, hversion⟩ := Component.source_eq_tenantRegistry_iff.mp hsource
        apply hquiet kind
        rw [← hrecorded] at hdue
        exact Component.due_iff_needsTenant.mpr ⟨henabled, himage, hversion, hdue⟩
      apply Component.pass_of_skip
      exact Component.decision_eq_skip_iff.mpr ⟨henabled, by rw [hsource]; decide, hdue⟩

/-- A look-up every quarter of an hour. After twenty minutes the host agent is due, and the tenant
is asked for its newest image; after ten minutes nothing is due, and nothing changes. -/
theorem tenant_asked_when_due_quarter_hour :
    let policy : ProbePolicy :=
      { threshold := some (Duration.ofSeconds 900), timeout := Duration.ofSeconds 30 }
    let client := Client.naming "1.2.4"
    let s : DynaKubeStatus :=
      { oneAgent :=
          { version := "1.2.3"
            image := "tenant.example/linux/oneagent:1.2.3"
            source := some .tenantRegistry
            lastProbe := some .newYear } }
    let dk := (Round.classic {} client 0).resource (some s)
    let late := Instant.newYear.plusMinutes 20
    let early := Instant.newYear.plusMinutes 10
    ((Component.ofKind dk client .oneAgent).Due policy late.Passed s.oneAgent ∧
      dk.ReachesTenant .oneAgent) ∧
    (resolveVersions policy (.still late) dk client).asked.filter
        (fun query => query.subject = .oneAgent) = [.latestImage .oneAgent] ∧
    (∀ kind, ¬ (Component.ofKind dk client kind).Due policy early.Passed (s.record kind)) ∧
    resolveVersions policy (.still early) dk client =
      { status := s, changed := false, asked := [], result := .ok () } := by
  intro policy client s dk late early
  have hdue : (Component.ofKind dk client .oneAgent).Due policy late.Passed s.oneAgent :=
    Component.due_iff_needsTenant.mpr ⟨rfl, rfl, rfl, by decide +kernel⟩
  have hreaches : dk.ReachesTenant .oneAgent := .inr (.inl rfl)
  have hquiet : ∀ kind, ¬ (Component.ofKind dk client kind).Due policy early.Passed
      (s.record kind) := by
    intro kind hdue
    have hneeds := Component.due_iff_needsTenant.mp hdue
    cases kind with
    | activeGate => exact absurd hneeds.enabled (by decide)
    | oneAgent => exact absurd hneeds.due (by decide +kernel)
    | codeModules => exact absurd hneeds.enabled (by decide)
  refine ⟨⟨hdue, hreaches⟩, ?_, hquiet, ?_⟩
  · exact ((tenant_asked_when_due policy (.still late) dk client).1 .oneAgent).1 ⟨hdue, hreaches⟩
  · apply (tenant_asked_when_due policy (.still early) dk client).2 s rfl hquiet
    · intro kind _
      cases kind <;> rfl
    · intro kind henabled
      cases kind with
      | activeGate => exact ⟨rfl, rfl⟩
      | oneAgent => exact absurd henabled (by decide)
      | codeModules => exact ⟨rfl, rfl⟩

/-- Late in a leap second the tenant is asked although the recorded probe is still to come, a tenth
of a second into the new year. By the rule without exception the component would not be due. -/
theorem asks_ahead_of_recorded_probe :
    let now := ((Date.of? 2016 12 31).bind fun date =>
      Instant.ofClock? date 23 59 60 900000000).get rfl
    let lastProbe := ((Date.of? 2017 1 1).bind fun date =>
      Instant.ofClock? date 0 0 0 100000000).get rfl
    let policy : ProbePolicy :=
      { threshold := some (Duration.ofMillis 500), timeout := Duration.ofSeconds 30 }
    let client := Client.naming "1.2.4"
    let recorded : VersionStatus :=
      { version := "1.2.3"
        image := "tenant.example/linux/oneagent:1.2.3"
        source := some .tenantRegistry
        lastProbe := some lastProbe }
    let dk := (Round.classic {} client 0).resource (some { oneAgent := recorded })
    let passed (threshold : Duration) (lastProbe : Instant) : Prop :=
      lastProbe ≤ now ∧ (threshold.nanos : Int) ≤ now.nanosSince lastProbe
    now < lastProbe ∧
    ¬ (Component.ofKind dk client .oneAgent).Due policy passed (dk.recorded.record .oneAgent) ∧
    (resolveVersions policy (.still now) dk client).asked = [.latestImage .oneAgent] := by
  intro now lastProbe policy client recorded dk passed
  have hfuture : now < lastProbe := by decide +kernel
  refine ⟨hfuture, ?_, by decide +kernel⟩
  rintro ⟨_, _, _, hempty | hsource | ⟨_, hpassed⟩⟩
  · exact absurd hempty (by decide)
  · exact absurd rfl hsource
  · exact absurd hfuture (Int.not_lt.mpr (hpassed _ lastProbe rfl rfl).1)

end VersionOperator
