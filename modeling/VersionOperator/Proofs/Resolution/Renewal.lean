import VersionOperator.Proofs.Resolution.Settling
import VersionOperator.Proofs.Resolution.Steady

namespace VersionOperator

open Tenant
open VersionStatus (SameButProbe)

namespace Component

variable {c : Component} {policy : ProbePolicy} {now : Instant} {entry : Entry}

/-- The new record that a component comes to, but for the probe time: the pinned image, or the
candidate. What is on record has no part in it. -/
def renewal (c : Component) : Except VersionError VersionStatus :=
  if c.source = .customImage then
    .ok
      { version := VersionSource.customImage.word
        image := c.customImage.getD ""
        source := some .customImage }
  else
    match c.probe.result with
    | .ok candidate => .ok { candidate with source := some c.source }
    | .error error => .error error

theorem renewal_of_image (h : c.source = .customImage) :
    c.renewal = .ok
      { version := VersionSource.customImage.word
        image := c.customImage.getD ""
        source := some .customImage } := by
  rw [renewal, if_pos h]

theorem renewal_of_candidate {candidate : VersionStatus} (h : c.source ≠ .customImage)
    (hprobe : c.probe.result = .ok candidate) :
    c.renewal = .ok { candidate with source := some c.source } := by
  rw [renewal, if_neg h, hprobe]

theorem sameButProbe_renewal (h : c.Renews policy now entry.status) :
    ∃ fresh, c.renewal = .ok fresh ∧
      (c.pass policy now entry).entry.status.SameButProbe fresh := by
  cases h with
  | pinned henabled hsource =>
    refine ⟨_, renewal_of_image hsource, ?_⟩
    rw [pass_of_pinned henabled hsource, status_settle, hsource]
    exact ⟨rfl, rfl, rfl⟩
  | adopted hlooks hcandidate hkeeps =>
    refine ⟨_, renewal_of_candidate hlooks.source (candidate_eq_ok_iff.mp hcandidate).2, ?_⟩
    rw [pass_of_adopted hlooks hcandidate hkeeps, status_settle]
    exact ⟨rfl, rfl, rfl⟩

theorem renews_of_pinned (henabled : c.enabled = true) (hpinned : c.source ≠ .tenantRegistry)
    (hok : (c.pass policy now entry).result = .ok ()) : c.Renews policy now entry.status := by
  by_cases himage : c.source = .customImage
  · exact .pinned henabled himage
  · have hversion : c.source = .customVersion := by
      cases hsource : c.source with
      | tenantRegistry => exact absurd hsource hpinned
      | customImage => exact absurd hsource himage
      | customVersion => rfl
    have hlooks : c.LooksUp policy now entry.status :=
      ⟨henabled, himage, isDue_iff.mpr (.inl hversion)⟩
    cases settles_of_looksUp hlooks hok with
    | renewed h => exact h
    | kept _ _ hkeeps => exact absurd (keepsRecord_eq_true_iff.mp hkeeps).1 hpinned

end Component

/-- The image that goes with a pinned version: that of the host agent is composed in the registry of
the tenant, and code modules have none. -/
def DynaKube.imageOfPinned? (dk : DynaKube) (version : String) : ComponentKind → Option String
  | .activeGate => none
  | .oneAgent =>
    dk.tenantRegistry?.map fun host => Image.compose host oneAgentRepository version
  | .codeModules => some ""

namespace Component

variable {dk dk' : DynaKube} {client : Client} {kind : ComponentKind}

theorem ofKind_congr (hspec : dk.spec = dk'.spec)
    (hannotations : dk.metadata.annotations = dk'.metadata.annotations) (client : Client)
    (kind : ComponentKind) : ofKind dk client kind = ofKind dk' client kind := by
  obtain ⟨⟨_, _, annotations, _, _⟩, spec, _⟩ := dk
  obtain ⟨⟨_, _, annotations', _, _⟩, spec', _⟩ := dk'
  obtain rfl : spec = spec' := hspec
  obtain rfl : annotations = annotations' := hannotations
  cases kind <;> rfl

theorem registry_eq_ok {host : String} (h : registry dk = .ok host) :
    dk.tenantRegistry? = some host := by
  unfold registry at h
  cases hhost : dk.tenantRegistry? <;> simp_all

theorem candidate_of_customVersion {version : String} {candidate : VersionStatus}
    (hversion : (ofKind dk client kind).customVersion = some version)
    (hprobe : (ofKind dk client kind).probe.result = .ok candidate) :
    candidate.version = version ∧ dk.imageOfPinned? version kind = some candidate.image := by
  cases kind with
  | activeGate => exact absurd hversion (by simp [ofKind, activeGate])
  | oneAgent =>
    change dk.oneAgentCustomVersion? = some version at hversion
    change (oneAgentProbe dk client).result = .ok candidate at hprobe
    rw [oneAgentProbe, hversion] at hprobe
    cases hregistry : registry dk with
    | error error => simp [hregistry, Probe.refused] at hprobe
    | ok host =>
      simp only [hregistry, Probe.known, Except.ok.injEq] at hprobe
      rw [← hprobe, DynaKube.imageOfPinned?, registry_eq_ok hregistry]
      exact ⟨rfl, rfl⟩
  | codeModules =>
    change dk.codeModulesCustomVersion? = some version at hversion
    change (codeModulesProbe dk client).result = .ok candidate at hprobe
    rw [codeModulesProbe, hversion] at hprobe
    simp only [Probe.known, Except.ok.injEq] at hprobe
    rw [← hprobe]
    exact ⟨rfl, rfl⟩

end Component

/-- The record holds what the resource pins for the component: the image, with the word for it in
the place of the version, or else the version, with the image that goes with it. -/
structure VersionStatus.HoldsPinned (s : VersionStatus) (dk : DynaKube) (c : Component) : Prop where
  image : ∀ {image}, c.customImage = some image →
    s.version = "custom-image" ∧ s.image = image ∧ s.source = some .customImage
  version : ∀ {version}, c.customImage = none → c.customVersion = some version →
    s.version = version ∧ dk.imageOfPinned? version c.kind = some s.image ∧
      s.source = some .customVersion

theorem VersionStatus.SameButProbe.holdsPinned {a b : VersionStatus} {dk : DynaKube} {c : Component}
    (h : a.SameButProbe b) (hb : b.HoldsPinned dk c) : a.HoldsPinned dk c where
  image himage := by
    rw [h.version, h.image, h.source]
    exact hb.image himage
  version himage hversion := by
    rw [h.version, h.image, h.source]
    exact hb.version himage hversion

namespace Component

variable {dk dk' : DynaKube} {client : Client} {kind : ComponentKind}

theorem holdsPinned_renewal {fresh : VersionStatus}
    (h : (ofKind dk client kind).renewal = .ok fresh) :
    fresh.HoldsPinned dk (ofKind dk client kind) where
  image {image} himage := by
    rw [renewal_of_image (source_eq_customImage_iff.mpr ⟨image, himage⟩), himage] at h
    rw [← Except.ok.inj h]
    exact ⟨rfl, rfl, rfl⟩
  version {version} himage hversion := by
    have hsource := source_eq_customVersion_iff.mpr ⟨himage, version, hversion⟩
    unfold renewal at h
    rw [hsource, if_neg (by decide)] at h
    cases hprobe : (ofKind dk client kind).probe.result with
    | error error => simp [hprobe] at h
    | ok candidate =>
      simp only [hprobe, Except.ok.injEq] at h
      obtain ⟨hcandidate, hpinned⟩ := candidate_of_customVersion hversion hprobe
      rw [← h, kind_ofKind]
      exact ⟨hcandidate, hpinned, rfl⟩

/-- The new records that two passes give a component are the same but for the probe time, if the
resource asks for the same and the tenant gives the same answers, whatever was on record, and
whenever and however often the component is looked up. With something pinned, a pass that succeeds
always gives a new record, and that holds what is pinned. -/
theorem new_record_forgets_old (hspec : dk.spec = dk'.spec)
    (hannotations : dk.metadata.annotations = dk'.metadata.annotations) (client : Client)
    (kind : ComponentKind) (policy policy' : ProbePolicy) (now now' : Instant) (a b : Entry) :
    let c := ofKind dk client kind
    let c' := ofKind dk' client kind
    let outcome := c.pass policy now a
    let outcome' := c'.pass policy' now' b
    (c.Renews policy now a.status → c'.Renews policy' now' b.status →
      outcome.entry.status.SameButProbe outcome'.entry.status) ∧
    (c.enabled = true → c.source ≠ .tenantRegistry → outcome.result = .ok () →
      c.Renews policy now a.status ∧ outcome.entry.status.HoldsPinned dk c) := by
  intro c c' outcome outcome'
  constructor
  · intro ha hb
    obtain ⟨fresh, hfresh, hsame⟩ := sameButProbe_renewal ha
    obtain ⟨fresh', hfresh', hsame'⟩ := sameButProbe_renewal hb
    -- The two resources make one component: the rest of the metadata has no say in it.
    have hc : c = c' := ofKind_congr hspec hannotations client kind
    rw [hc, hfresh'] at hfresh
    obtain rfl := Except.ok.inj hfresh
    exact hsame.trans hsame'.symm
  · intro henabled hpinned hok
    have hrenews := renews_of_pinned henabled hpinned hok
    obtain ⟨fresh, hfresh, hsame⟩ := sameButProbe_renewal hrenews
    exact ⟨hrenews, hsame.holdsPinned (holdsPinned_renewal hfresh)⟩

/-- A version is pinned now. One pass finds nothing on record, the other an image that was pinned
before. -/
theorem new_record_forgets_old_image :
    let r := Round.classic { version := some "1.2.3" } (.withoutToken "none") 0
    let old : VersionStatus :=
      { version := "custom-image", image := "old.example/agent:9", source := some .customImage }
    let dk := r.resource none
    let dk' := r.resource (some { oneAgent := old })
    let c := ofKind dk r.client .oneAgent
    let c' := ofKind dk' r.client .oneAgent
    let outcome := c.pass r.policy (r.clock .oneAgent) ⟨{}, []⟩
    let outcome' := c'.pass r.policy (r.clock .oneAgent) ⟨old, []⟩
    (dk.spec = dk'.spec ∧ dk.metadata.annotations = dk'.metadata.annotations ∧
      c.Renews r.policy (r.clock .oneAgent) {} ∧ c'.Renews r.policy (r.clock .oneAgent) old ∧
      c.enabled = true ∧ c.source ≠ .tenantRegistry ∧ outcome.result = .ok ()) ∧
    (c.Renews r.policy (r.clock .oneAgent) {} → c'.Renews r.policy (r.clock .oneAgent) old →
      outcome.entry.status.SameButProbe outcome'.entry.status) ∧
    (c.enabled = true → c.source ≠ .tenantRegistry → outcome.result = .ok () →
      c.Renews r.policy (r.clock .oneAgent) {} ∧ outcome.entry.status.HoldsPinned dk c) := by
  refine ⟨⟨?spec, ?annotations, ?first, ?second, rfl, by decide, rfl⟩,
    new_record_forgets_old ?spec ?annotations _ _ _ _ _ _ ⟨{}, []⟩ ⟨_, []⟩⟩
  case spec => rfl
  case annotations => rfl
  case first => exact .adopted ⟨rfl, by decide, rfl⟩ rfl rfl
  case second => exact .adopted ⟨rfl, by decide, rfl⟩ rfl rfl

end Component

end VersionOperator
