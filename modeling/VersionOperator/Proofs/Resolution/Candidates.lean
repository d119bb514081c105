import VersionOperator.Proofs.AgentVersion.Order
import VersionOperator.Proofs.Tenant.Answers
import VersionOperator.Resolution.Component

namespace VersionOperator

open Tenant Text

def VersionError.IsValidation (error : VersionError) : Prop :=
  ∃ message, error = .validation message

theorem readVersion_eq_error {s : String} {error : VersionError}
    (h : readVersion s = .error error) : ¬ error.IsValidation := by
  rintro ⟨message, rfl⟩
  unfold readVersion at h
  cases hparse : AgentVersion.parse s <;> simp [hparse] at h

theorem isDowngrade_eq_error {current candidate : String} {error : VersionError}
    (h : isDowngrade current candidate = .error error) : ¬ error.IsValidation := by
  unfold isDowngrade at h
  cases hcurrent : readVersion current with
  | error fault =>
    obtain rfl : fault = error := by simpa [hcurrent] using h
    exact readVersion_eq_error hcurrent
  | ok v =>
    cases hcandidate : readVersion candidate with
    | error fault =>
      obtain rfl : fault = error := by simpa [hcurrent, hcandidate] using h
      exact readVersion_eq_error hcandidate
    | ok w => simp [hcurrent, hcandidate] at h

namespace Image

theorem compose_ne_empty (registry repository version : String) :
    compose registry repository version ≠ "" := by
  intro h
  have hlist := congrArg String.toList h
  simp [compose] at hlist

theorem not_blank_of_isTagStart {c : Char} (h : isTagStart c = true) : isBlank c = false := by
  change (((decide (65 ≤ c.val ∧ c.val ≤ 90) || (decide (97 ≤ c.val) && decide (c.val ≤ 122))) ||
    (decide (48 ≤ c.val) && decide (c.val ≤ 57))) || decide (c = '_')) = true at h
  simp only [Bool.or_eq_true, Bool.and_eq_true, decide_eq_true_eq, UInt32.le_iff_toNat_le] at h
  apply not_blank_of_visible
  change 0x21 ≤ c.val.toNat ∧ c.val.toNat ≤ 0x7E
  rcases h with ((⟨hleast, hmost⟩ | ⟨hleast, hmost⟩) | ⟨hleast, hmost⟩) | rfl
  · exact ⟨Nat.le_trans (by decide) hleast, Nat.le_trans hmost (by decide)⟩
  · exact ⟨Nat.le_trans (by decide) hleast, Nat.le_trans hmost (by decide)⟩
  · exact ⟨Nat.le_trans (by decide) hleast, Nat.le_trans hmost (by decide)⟩
  · decide

theorem not_blank_of_isTag {tag : String} (h : isTag tag.toList = true) :
    isBlankText tag = false := by
  unfold isBlankText
  cases htag : tag.toList with
  | nil =>
    rw [htag] at h
    exact absurd h (by decide)
  | cons c rest =>
    rw [htag] at h
    simp only [isTag, Bool.and_eq_true] at h
    simp [not_blank_of_isTagStart h.1.1]

end Image

theorem Tenant.LatestImage.uri_ne_empty (image : LatestImage) : image.uri ≠ "" := by
  intro h
  have hlist := congrArg String.toList h
  simp [LatestImage.uri] at hlist

/-- A candidate with all that a record of the component has: a version that is not blank, and an
image unless it is for code modules. -/
structure VersionStatus.Offers (kind : ComponentKind) (candidate : VersionStatus) : Prop where
  version : isBlankText candidate.version = false
  image : candidate.image = "" ↔ kind = .codeModules

/-- A look-up that brings a candidate with all that a record has, or fails for a cause of its own.
-/
def Yields (kind : ComponentKind) : Except VersionError VersionStatus → Prop
  | .ok candidate => candidate.Offers kind
  | .error error => ¬ error.IsValidation

theorem Probe.yields_asking {α : Type} {kind : ComponentKind} {query : Query}
    {reply : Timed (Except Error α)} {next : α → Except VersionError VersionStatus}
    (hnext : ∀ {answer}, reply.value = .ok answer → Yields kind (next answer)) :
    Yields kind (asking query reply next).result := by
  unfold asking
  cases hreply : reply.value with
  | ok answer => exact hnext hreply
  | error error =>
    rintro ⟨message, hmessage⟩
    exact absurd hmessage (by simp)

namespace Component

theorem ofLatestImage_eq_ok_iff {image : LatestImage} {candidate : VersionStatus} :
    ofLatestImage image = .ok candidate ↔
      Image.tagOf image.uri = .ok candidate.version ∧
        candidate = { version := candidate.version, image := image.uri } := by
  unfold ofLatestImage versionOfImage
  cases Image.tagOf image.uri with
  | error error => simp
  | ok tag =>
    simp only [Except.ok.injEq]
    constructor
    · rintro rfl
      exact ⟨rfl, rfl⟩
    · rintro ⟨rfl, hcandidate⟩
      exact hcandidate.symm

section

variable {kind : ComponentKind}

theorem yields_refused_registry {dk : DynaKube} {error : VersionError}
    (h : registry dk = .error error) : Yields kind (Probe.refused error).result := by
  rintro ⟨message, rfl⟩
  unfold registry at h
  cases hhost : dk.tenantRegistry? <;> simp [hhost] at h

variable (hkind : kind ≠ .codeModules)
include hkind

theorem offers_composed (registry repository : String) {version : String}
    (hversion : isBlankText version = false) :
    (composed registry repository version).Offers kind := by
  refine ⟨hversion, ?_⟩
  simp [composed, Image.compose_ne_empty, hkind]

theorem yields_ofLatestImage (image : LatestImage) : Yields kind (ofLatestImage image) := by
  cases h : ofLatestImage image with
  | ok candidate =>
    obtain ⟨htag, hcandidate⟩ := ofLatestImage_eq_ok_iff.mp h
    have himage : candidate.image = image.uri := congrArg VersionStatus.image hcandidate
    refine ⟨Image.not_blank_of_isTag (Image.isTag_of_tagOf htag), ?_⟩
    simp [himage, image.uri_ne_empty, hkind]
  | error error =>
    rintro ⟨message, rfl⟩
    unfold ofLatestImage versionOfImage at h
    cases htag : Image.tagOf image.uri <;> simp [htag] at h

end

variable (dk : DynaKube) {client : Client}

section Probes

variable (hclient : client.AnswersInFull)
include hclient

theorem yields_activeGateProbe : Yields .activeGate (activeGateProbe dk client).result := by
  unfold activeGateProbe
  split
  · apply Probe.yields_asking
    intro image _
    exact yields_ofLatestImage (by decide) image
  · cases hregistry : registry dk with
    | error error => exact yields_refused_registry hregistry
    | ok host =>
      apply Probe.yields_asking
      intro version hanswer
      exact offers_composed (by decide) _ _ (hclient.gatewayVersion hanswer)

theorem yields_oneAgentProbe : Yields .oneAgent (oneAgentProbe dk client).result := by
  unfold oneAgentProbe
  cases hpinned : dk.oneAgentCustomVersion? with
  | some version =>
    cases hregistry : registry dk with
    | error error => exact yields_refused_registry hregistry
    | ok host =>
      obtain ⟨agent, _, hversion⟩ := Option.bind_eq_some_iff.mp hpinned
      exact offers_composed (by decide) _ _ (isBlankText_of_presentText? hversion)
  | none =>
    simp only
    split
    · apply Probe.yields_asking
      intro image _
      exact yields_ofLatestImage (by decide) image
    · cases hregistry : registry dk with
      | error error => exact yields_refused_registry hregistry
      | ok host =>
        apply Probe.yields_asking
        intro version hanswer
        exact offers_composed (by decide) _ _ (hclient.agentVersion hanswer)

theorem yields_codeModulesProbe : Yields .codeModules (codeModulesProbe dk client).result := by
  unfold codeModulesProbe
  cases hpinned : dk.codeModulesCustomVersion? with
  | some version =>
    obtain ⟨mode, _, hversion⟩ := Option.bind_eq_some_iff.mp hpinned
    exact ⟨isBlankText_of_presentText? hversion, by simp⟩
  | none =>
    apply Probe.yields_asking
    intro version hanswer
    exact ⟨hclient.agentVersion hanswer, by simp⟩

end Probes

/-- What a pass can rely on in a component: a pinned image is not blank, the gate has no pinned
version, a look-up brings all that a record has, only a record of the tenant is kept against a
candidate, and the final check, which no other failure is mistaken for, asks for a version alone. -/
structure Sound (c : Component) : Prop where
  customImage : ∀ {image}, c.customImage = some image → isBlankText image = false
  customVersion : c.kind = .activeGate → c.customVersion = none
  probe : Yields c.kind c.probe.result
  armed : ∀ {recorded version}, c.isDowngrade recorded version = .ok true →
    recorded.source = some .tenantRegistry
  guard : ∀ {recorded version error}, c.isDowngrade recorded version = .error error →
    ¬ error.IsValidation
  valid : ∀ {recorded}, recorded.version ≠ "" → c.validate recorded = .ok ()

theorem oneAgentIsDowngrade_armed {recorded : VersionStatus} {version : String}
    (h : oneAgentIsDowngrade recorded version = .ok true) :
    recorded.source = some .tenantRegistry ∧ recorded.version ≠ "" := by
  unfold oneAgentIsDowngrade at h
  split at h
  · rename_i harmed
    exact harmed
  · simp at h

theorem version_ne_empty_of_isDowngrade {kind : ComponentKind} {recorded : VersionStatus}
    {version : String} (h : (ofKind dk client kind).isDowngrade recorded version = .ok true) :
    recorded.version ≠ "" := by
  cases kind with
  | activeGate => simp [ofKind, activeGate] at h
  | oneAgent => exact (oneAgentIsDowngrade_armed h).2
  | codeModules => simp [ofKind, codeModules] at h

theorem requireVersion_eq_ok {name : String} {recorded : VersionStatus}
    (h : recorded.version ≠ "") : requireVersion name recorded = .ok () := by
  rw [requireVersion, if_neg h]

theorem sound_ofKind (hclient : client.AnswersInFull) (kind : ComponentKind) :
    (ofKind dk client kind).Sound := by
  cases kind with
  | activeGate =>
    exact
      { customImage := isBlankText_of_presentText?
        customVersion := fun _ => rfl
        probe := yields_activeGateProbe dk hclient
        armed := fun h => by simp [ofKind, activeGate] at h
        guard := fun h => by simp [ofKind, activeGate] at h
        valid := requireVersion_eq_ok }
  | oneAgent =>
    refine ⟨?_, fun h => absurd h (by simp), yields_oneAgentProbe dk hclient,
      fun h => (oneAgentIsDowngrade_armed h).1, ?_, requireVersion_eq_ok⟩
    · intro image h
      obtain ⟨agent, _, himage⟩ := Option.bind_eq_some_iff.mp h
      exact isBlankText_of_presentText? himage
    · intro recorded version error h
      change oneAgentIsDowngrade recorded version = .error error at h
      unfold oneAgentIsDowngrade at h
      split at h
      · exact isDowngrade_eq_error h
      · simp at h
  | codeModules =>
    exact
      { customImage := isBlankText_of_presentText?
        customVersion := fun h => absurd h (by simp)
        probe := yields_codeModulesProbe dk hclient
        armed := fun h => by simp [ofKind, codeModules] at h
        guard := fun h => by simp [ofKind, codeModules] at h
        valid := fun _ => rfl }

end Component

end VersionOperator
