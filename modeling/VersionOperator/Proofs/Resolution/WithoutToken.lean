import VersionOperator.Controller.Error
import VersionOperator.Proofs.Resolution.Failure

namespace VersionOperator

open Tenant

/-- A look-up of the component gets as far as the tenant. The code modules need no registry, nor
does an image that the tenant names. -/
def DynaKube.ReachesTenant (dk : DynaKube) (kind : ComponentKind) : Prop :=
  kind = .codeModules ∨ dk.featureFlags.automaticRegistry = true ∨ dk.tenantRegistry?.isSome = true

instance (dk : DynaKube) (kind : ComponentKind) : Decidable (dk.ReachesTenant kind) :=
  inferInstanceAs (Decidable (_ ∨ _))

namespace Component

/-- Nothing is pinned, and a candidate is to be looked up. -/
structure NeedsTenant (c : Component) (policy : ProbePolicy) (now : Instant)
    (recorded : VersionStatus) : Prop where
  enabled : c.enabled = true
  customImage : c.customImage = none
  customVersion : c.customVersion = none
  due : c.isDue policy now recorded = true

variable {c : Component} {policy : ProbePolicy} {now : Instant} {recorded : VersionStatus}

theorem needsTenant_iff :
    c.NeedsTenant policy now recorded ↔ c.LooksUp policy now recorded ∧ c.customVersion = none := by
  constructor
  · rintro ⟨henabled, himage, hversion, hdue⟩
    refine ⟨⟨henabled, ?_, hdue⟩, hversion⟩
    rw [source_eq_tenantRegistry_iff.mpr ⟨himage, hversion⟩]
    decide
  · rintro ⟨⟨henabled, hsource, hdue⟩, hversion⟩
    refine ⟨henabled, ?_, hversion, hdue⟩
    rw [ne_eq, source_eq_customImage_iff, ← Option.isSome_iff_exists] at hsource
    exact Option.not_isSome_iff_eq_none.mp hsource

/-- A pass that looks nothing up is the same however the component would learn a candidate. -/
theorem pass_withProbe (probe : Probe) {entry : Entry}
    (h : ¬ c.LooksUp policy now entry.status) :
    { c with probe }.pass policy now entry = c.pass policy now entry := by
  have hcarryOut : ∀ decision,
      { c with probe }.carryOut now entry decision = c.carryOut now entry decision := by
    rintro (_ | _ | _ | _ | _ | _) <;> rfl
  have hdecision : { c with probe }.decision policy now entry.status =
      c.decision policy now entry.status := by
    rcases Bool.eq_false_or_eq_true c.enabled with henabled | henabled
    · rcases Decidable.em (c.source = .customImage) with hsource | hsource
      · refine Eq.trans (b := .pin (c.customImage.getD "")) ?_ ?_
        · exact decision_eq_pin_iff.mpr ⟨henabled, hsource, rfl⟩
        · exact (decision_eq_pin_iff.mpr ⟨henabled, hsource, rfl⟩).symm
      · have hdue : c.isDue policy now entry.status = false := by
          rw [← Bool.not_eq_true]
          exact fun hdue => h ⟨henabled, hsource, hdue⟩
        refine Eq.trans (b := .skip) ?_ ?_
        · exact decision_eq_skip_iff.mpr ⟨henabled, hsource, hdue⟩
        · exact (decision_eq_skip_iff.mpr ⟨henabled, hsource, hdue⟩).symm
    · refine Eq.trans (b := .clear) ?_ ?_
      · exact decision_eq_clear_iff.mpr henabled
      · exact (decision_eq_clear_iff.mpr henabled).symm
  rw [pass_eq_carryOut, pass_eq_carryOut, hcarryOut, hdecision]

section OfKind

variable {dk : DynaKube} {kind : ComponentKind}

theorem ofKind_withProbe (a b : Client) :
    ofKind dk b kind = { ofKind dk a kind with probe := (ofKind dk b kind).probe } := by
  cases kind <;> rfl

/-- With a pinned version the tenant is not asked. -/
theorem ofKind_eq_of_customVersion {a : Client} (b : Client)
    (h : (ofKind dk a kind).customVersion ≠ none) : ofKind dk b kind = ofKind dk a kind := by
  obtain ⟨version, hversion⟩ := Option.ne_none_iff_exists'.mp h
  have hprobe : (ofKind dk b kind).probe = (ofKind dk a kind).probe := by
    cases kind with
    | activeGate => exact absurd hversion nofun
    | oneAgent =>
      change dk.oneAgentCustomVersion? = some version at hversion
      change oneAgentProbe dk b = oneAgentProbe dk a
      rw [oneAgentProbe, oneAgentProbe, hversion]
    | codeModules =>
      change dk.codeModulesCustomVersion? = some version at hversion
      change codeModulesProbe dk b = codeModulesProbe dk a
      rw [codeModulesProbe, codeModulesProbe, hversion]
  rw [ofKind_withProbe a b, hprobe]

theorem pass_ofKind_eq {a : Client} (b : Client) {entry : Entry}
    (h : ¬ (ofKind dk a kind).NeedsTenant policy now entry.status) :
    (ofKind dk b kind).pass policy now entry = (ofKind dk a kind).pass policy now entry := by
  rw [needsTenant_iff, not_and_or] at h
  rcases h with hlooks | hversion
  · rw [ofKind_withProbe a b]
    exact pass_withProbe _ hlooks
  · rw [ofKind_eq_of_customVersion b hversion]

theorem exists_registry_of_reachesTenant (h : dk.ReachesTenant kind) (hkind : kind ≠ .codeModules)
    (hflag : dk.featureFlags.automaticRegistry = false) : ∃ host, registry dk = .ok host := by
  rcases h with hmodules | hautomatic | hhost
  · exact absurd hmodules hkind
  · exact absurd (hautomatic.symm.trans hflag) (by decide)
  · obtain ⟨host, hhost⟩ := Option.isSome_iff_exists.mp hhost
    exact ⟨host, by rw [registry, hhost]⟩

theorem probe_of_reachesTenant {reason : String}
    (hversion : (ofKind dk (.withoutToken reason) kind).customVersion = none)
    (h : dk.ReachesTenant kind) :
    ∃ query, (ofKind dk (.withoutToken reason) kind).probe = ⟨[query], Duration.zero,
      .error (.tenant (.authentication ("no usable API token: " ++ reason)))⟩ := by
  cases kind with
  | activeGate =>
    change ∃ query, activeGateProbe dk _ = _
    cases hflag : dk.featureFlags.automaticRegistry with
    | true => exact ⟨_, by rw [activeGateProbe, if_pos hflag]; rfl⟩
    | false =>
      obtain ⟨host, hhost⟩ := exists_registry_of_reachesTenant h nofun hflag
      exact ⟨_, by simp only [activeGateProbe, hflag, hhost]; rfl⟩
  | oneAgent =>
    change dk.oneAgentCustomVersion? = none at hversion
    change ∃ query, oneAgentProbe dk _ = _
    cases hflag : dk.featureFlags.automaticRegistry with
    | true => exact ⟨_, by simp only [oneAgentProbe, hversion, hflag]; rfl⟩
    | false =>
      obtain ⟨host, hhost⟩ := exists_registry_of_reachesTenant h nofun hflag
      exact ⟨_, by simp only [oneAgentProbe, hversion, hflag, hhost]; rfl⟩
  | codeModules =>
    change dk.codeModulesCustomVersion? = none at hversion
    change ∃ query, codeModulesProbe dk _ = _
    exact ⟨_, by rw [codeModulesProbe, hversion]; rfl⟩

theorem probe_of_not_reachesTenant {client : Client}
    (hversion : (ofKind dk client kind).customVersion = none) (h : ¬ dk.ReachesTenant kind) :
    (ofKind dk client kind).probe =
      .refused (.invalidConfig "apiUrl does not contain a tenant host") := by
  obtain ⟨hkind, hflag, hhost⟩ : kind ≠ .codeModules ∧
      dk.featureFlags.automaticRegistry = false ∧ dk.tenantRegistry? = none := by
    rw [DynaKube.ReachesTenant, not_or, not_or, Bool.not_eq_true, Bool.not_eq_true] at h
    exact ⟨h.1, h.2.1, Option.isNone_iff_eq_none.mp (Option.isSome_eq_false_iff.mp h.2.2)⟩
  have hregistry :
      registry dk = .error (.invalidConfig "apiUrl does not contain a tenant host") := by
    rw [registry, hhost]
  cases kind with
  | activeGate =>
    change activeGateProbe dk _ = _
    simp only [activeGateProbe, hflag, hregistry]
    rfl
  | oneAgent =>
    change dk.oneAgentCustomVersion? = none at hversion
    change oneAgentProbe dk _ = _
    simp only [oneAgentProbe, hversion, hflag, hregistry]
    rfl
  | codeModules => exact absurd rfl hkind

end OfKind

end Component

/-- A pass over the resource fails over the component: the record is as it was, the failure is
listed, and the condition of the component is false, for that reason and with that failure. -/
structure Resolution.FailsOver (resolution : Resolution) (dk : DynaKube) (kind : ComponentKind)
    (error : VersionError) (reason : String) : Prop where
  record : resolution.status.record kind = dk.recorded.record kind
  listed : (kind.name, error) ∈ resolution.failures
  condition : ∃ entry, resolution.status.conditions.find? kind = some entry ∧
    entry.status = .no ∧ entry.reason = reason ∧ entry.message = error.message

section

variable {policy : ProbePolicy} {clock : Clock} {dk : DynaKube} {client : Client}
  {kind : ComponentKind}

theorem failsOver_of_refusal {error : VersionError}
    (hneeds : (Component.ofKind dk client kind).NeedsTenant policy (clock kind)
      (dk.recorded.record kind))
    (hdelay : (Component.ofKind dk client kind).probe.delay = Duration.zero)
    (hprobe : (Component.ofKind dk client kind).probe.result = .error error) :
    (resolveVersions policy clock dk client).FailsOver dk kind error error.reason := by
  have hintime : (Component.ofKind dk client kind).probe.delay ≤ policy.timeout := by
    rw [hdelay]
    exact Nat.zero_le _
  have hdecision : (Component.ofKind dk client kind).decision policy (clock kind)
      (dk.recorded.entry kind).status = .fail error := by
    apply Component.decision_eq_fail_iff_unsettled.mpr
    exact ⟨(Component.needsTenant_iff.mp hneeds).1, .refused hintime hprobe⟩
  have hpass : componentPass policy clock dk client kind =
      ⟨(Component.ofKind dk client kind).withFailure error (clock kind) (dk.recorded.entry kind),
        true, .error error⟩ := by
    rw [componentPass, Component.pass_eq_carryOut, hdecision]
    rfl
  have halike := entry_resolveVersions policy clock dk client kind
  rw [hpass] at halike
  constructor
  · exact halike.status
  · apply (mem_failures_resolveVersions_iff policy clock dk client).mpr
    exact ⟨kind, rfl, by rw [hpass]⟩
  · have htype := Condition.type_failed (Component.ofKind dk client kind).kind (clock kind) error
    obtain ⟨entry, hentry, hstatus, hreason, hmessage⟩ :=
      Ledger.exists_find?_put htype dk.recorded.conditions
    refine ⟨entry, ?_, hstatus, hreason, hmessage⟩
    have hfind := halike.find?
    simp only [Component.withFailure, Component.kind_ofKind] at hfind hentry
    exact hfind.trans hentry

theorem mem_failures_of_kind_iff {error : VersionError} :
    (kind.name, error) ∈ (resolveVersions policy clock dk client).failures ↔
      (componentPass policy clock dk client kind).result = .error error := by
  rw [mem_failures_resolveVersions_iff]
  constructor
  · rintro ⟨other, hname, herror⟩
    rw [ComponentKind.name_inj.mp hname]
    exact herror
  · intro herror
    exact ⟨kind, rfl, herror⟩

end

/-- Without a token, whatever the reason, a component that does not need the tenant comes out of a
pass as with any tenant. One that does keeps its record and fails, over the missing token if the
look-up gets as far as the tenant, else over the URL of the tenant. -/
theorem missing_token_hurts_tenant_needs (policy : ProbePolicy) (clock : Clock) (dk : DynaKube)
    (error : ControllerError) (client : Client) (kind : ComponentKind) :
    let c := Component.ofKind dk client kind
    let without := resolveVersions policy clock dk (.withoutToken error.message)
    let resolution := resolveVersions policy clock dk client
    (¬ c.NeedsTenant policy (clock kind) (dk.recorded.record kind) →
      (without.status.entry kind).Alike kind (resolution.status.entry kind) ∧
      ∀ failure, (kind.name, failure) ∈ without.failures ↔
        (kind.name, failure) ∈ resolution.failures) ∧
    (c.NeedsTenant policy (clock kind) (dk.recorded.record kind) →
      (dk.ReachesTenant kind →
        let refusal : VersionError :=
          .tenant (.authentication ("no usable API token: " ++ error.message))
        without.FailsOver dk kind refusal "DynatraceApiError" ∧
        ∃ before, refusal.message = before ++ error.message) ∧
      (¬ dk.ReachesTenant kind →
        without.FailsOver dk kind (.invalidConfig "apiUrl does not contain a tenant host")
          "ValidationFailed")) := by
  intro c without resolution
  constructor
  · intro hneeds
    have hsame : componentPass policy clock dk (.withoutToken error.message) kind =
        componentPass policy clock dk client kind := Component.pass_ofKind_eq _ hneeds
    constructor
    · have hwithout := entry_resolveVersions policy clock dk (.withoutToken error.message) kind
      rw [hsame] at hwithout
      exact hwithout.trans (entry_resolveVersions policy clock dk client kind).symm
    · intro failure
      rw [mem_failures_of_kind_iff, mem_failures_of_kind_iff, hsame]
  · intro hneeds
    -- Whether a component needs the tenant does not hang on what the tenant would say.
    have hneeds' : (Component.ofKind dk (.withoutToken error.message) kind).NeedsTenant policy
        (clock kind) (dk.recorded.record kind) := by
      rw [Component.ofKind_withProbe client]
      exact ⟨hneeds.enabled, hneeds.customImage, hneeds.customVersion, hneeds.due⟩
    constructor
    · intro hreaches refusal
      obtain ⟨query, hprobe⟩ :=
        Component.probe_of_reachesTenant hneeds'.customVersion hreaches
      refine ⟨failsOver_of_refusal hneeds' (by rw [hprobe]) (by rw [hprobe]), ?_⟩
      refine ⟨"Dynatrace API error: " ++ ("Authentication failed: " ++ "no usable API token: "), ?_⟩
      rw [String.append_assoc, String.append_assoc]
      rfl
    · intro hreaches
      have hprobe := Component.probe_of_not_reachesTenant hneeds'.customVersion hreaches
      exact failsOver_of_refusal hneeds' (by rw [hprobe]; rfl) (by rw [hprobe]; rfl)

/-- The URL names no host, and images are composed: the gate fails over the URL, the code modules
over the token, and the host agent is pinned to an image. -/
theorem missing_token_hurts_tenant_needs_without_host :
    let policy : ProbePolicy := { timeout := Duration.ofSeconds 30 }
    let dk : DynaKube :=
      { metadata := { annotations := some [(FeatureFlags.automaticRegistryKey, "false")] }
        spec :=
          { apiUrl := "https://"
            activeGate := { capabilities := ["routing"] }
            oneAgent :=
              { hostMonitoring := some { image := some "registry.example/oneagent:1.2.3" }
                applicationMonitoring := some {} } } }
    let error := ControllerError.tokenSecret "secret tokens does not contain apiToken"
    let without := resolveVersions policy (.still .newYear) dk (.withoutToken error.message)
    let resolution := resolveVersions policy (.still .newYear) dk (.naming "1.2.3")
    without.FailsOver dk .activeGate (.invalidConfig "apiUrl does not contain a tenant host")
      "ValidationFailed" ∧
    without.FailsOver dk .codeModules
      (.tenant (.authentication ("no usable API token: " ++ error.message))) "DynatraceApiError" ∧
    (without.status.entry .oneAgent).Alike .oneAgent (resolution.status.entry .oneAgent) ∧
    without.status.oneAgent.image = "registry.example/oneagent:1.2.3" := by
  intro policy dk error without resolution
  have h := missing_token_hurts_tenant_needs policy (.still .newYear) dk error (.naming "1.2.3")
  have hgate := (h .activeGate).2 ⟨rfl, rfl, rfl, rfl⟩
  have hmodules := (h .codeModules).2 ⟨rfl, rfl, rfl, rfl⟩
  have hagent := (h .oneAgent).1 fun hneeds => absurd hneeds.customImage (by decide)
  refine ⟨hgate.2 (by decide), (hmodules.1 (.inl rfl)).1, hagent.1, rfl⟩

end VersionOperator
