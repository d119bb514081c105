import VersionOperator.Proofs.Resolution.Runs

namespace Option.Rel

variable {α β : Type} {r : α → β → Prop} {a a' : Option α} {b b' : Option β}

theorem isSome_eq (h : Option.Rel r a b) : a.isSome = b.isSome := by
  cases h <;> rfl

theorem or (h : Option.Rel r a b) (h' : Option.Rel r a' b') :
    Option.Rel r (a.or a') (b.or b') := by
  cases h with
  | some hr => exact .some hr
  | none => exact h'

theorem map {γ δ : Type} {s : γ → δ → Prop} {f : α → γ} {g : β → δ} (h : Option.Rel r a b)
    (hfg : ∀ {x y}, r x y → s (f x) (g y)) : Option.Rel s (a.map f) (b.map g) := by
  cases h with
  | some hr => exact .some (hfg hr)
  | none => exact .none

theorem bind_eq {γ : Type} {f : α → Option γ} {g : β → Option γ} (h : Option.Rel r a b)
    (hfg : ∀ {x y}, r x y → f x = g y) : a.bind f = b.bind g := by
  cases h with
  | some hr => exact hfg hr
  | none => rfl

end Option.Rel

namespace VersionOperator

open Tenant
open Text (presentText? isBlankText)

/-- The setting stays, or it has a blank text and is taken out. -/
inductive Text.Unblanked : Option String → Option String → Prop
  | kept (setting : Option String) : Unblanked setting setting
  | dropped {text : String} (hblank : isBlankText text = true) : Unblanked (some text) none

structure HostAgent.Unblanked (a b : HostAgent) : Prop where
  image : Text.Unblanked a.image b.image
  version : Text.Unblanked a.version b.version
  autoUpdate : a.autoUpdate = b.autoUpdate

structure CloudNative.Unblanked (a b : CloudNative) : Prop where
  host : a.host.Unblanked b.host
  codeModulesImage : Text.Unblanked a.codeModulesImage b.codeModulesImage

structure ApplicationMonitoring.Unblanked (a b : ApplicationMonitoring) : Prop where
  version : Text.Unblanked a.version b.version
  codeModulesImage : Text.Unblanked a.codeModulesImage b.codeModulesImage

structure ActiveGateSpec.Unblanked (a b : ActiveGateSpec) : Prop where
  capabilities : a.capabilities = b.capabilities
  image : Text.Unblanked a.image b.image

structure OneAgentSpec.Unblanked (a b : OneAgentSpec) : Prop where
  classicFullStack : Option.Rel HostAgent.Unblanked a.classicFullStack b.classicFullStack
  cloudNativeFullStack :
    Option.Rel CloudNative.Unblanked a.cloudNativeFullStack b.cloudNativeFullStack
  hostMonitoring : Option.Rel HostAgent.Unblanked a.hostMonitoring b.hostMonitoring
  applicationMonitoring :
    Option.Rel ApplicationMonitoring.Unblanked a.applicationMonitoring b.applicationMonitoring

structure DynaKubeSpec.Unblanked (a b : DynaKubeSpec) : Prop where
  apiUrl : a.apiUrl = b.apiUrl
  tokens : Text.Unblanked a.tokens b.tokens
  activeGate : a.activeGate.Unblanked b.activeGate
  oneAgent : a.oneAgent.Unblanked b.oneAgent

/-- The second resource is the first one with any number of blank texts taken out: of the name of
the secret, and of the pinned images and versions. -/
structure DynaKube.Unblanked (a b : DynaKube) : Prop where
  metadata : a.metadata = b.metadata
  spec : a.spec.Unblanked b.spec
  status : a.status = b.status

namespace Text.Unblanked

variable {a a' b b' : Option String}

theorem presentText?_eq (h : Text.Unblanked a b) : presentText? a = presentText? b := by
  cases h with
  | kept => rfl
  | dropped hblank => rw [presentText?_some, if_pos hblank, presentText?_none]

/-- The first of two settings counts even when it is blank, so what is read from them stays, unless
a blank one is taken out from before one that is not. -/
theorem presentText?_or_eq (h : Text.Unblanked a b) (h' : Text.Unblanked a' b')
    (hbare : a.isSome = true → b = none → presentText? a' = none) :
    presentText? (a.or a') = presentText? (b.or b') := by
  cases h with
  | kept =>
    cases a with
    | some text => rfl
    | none => exact h'.presentText?_eq
  | dropped hblank =>
    rw [Option.some_or, Option.none_or, (dropped hblank).presentText?_eq, presentText?_none,
      ← h'.presentText?_eq, hbare rfl rfl]

theorem bind {α β : Type} {r : α → β → Prop} {f : α → Option String} {g : β → Option String}
    {x : Option α} {y : Option β} (h : Option.Rel r x y)
    (hfg : ∀ {m n}, r m n → Text.Unblanked (f m) (g n)) :
    Text.Unblanked (x.bind f) (y.bind g) := by
  cases h with
  | some hr => exact hfg hr
  | none => exact kept none

end Text.Unblanked

namespace DynaKube

def cloudNativeImage? (dk : DynaKube) : Option String :=
  dk.spec.oneAgent.cloudNativeFullStack.bind (·.codeModulesImage)

def applicationImage? (dk : DynaKube) : Option String :=
  dk.spec.oneAgent.applicationMonitoring.bind (·.codeModulesImage)

/-- The image of the code modules in the cloud-native mode is taken out, and in application
monitoring there is one that is not blank. -/
structure Uncovers (a b : DynaKube) (image : String) : Prop where
  given : a.cloudNativeImage?.isSome = true
  dropped : b.cloudNativeImage? = none
  hidden : presentText? a.applicationImage? = some image

theorem codeModulesCustomImage?_eq (dk : DynaKube) :
    dk.codeModulesCustomImage? = presentText? (dk.cloudNativeImage?.or dk.applicationImage?) := rfl

namespace Unblanked

variable {a b : DynaKube} (h : a.Unblanked b)
include h

theorem featureFlags_eq : a.featureFlags = b.featureFlags := by
  rw [featureFlags, featureFlags, h.metadata]

theorem tenantRegistry?_eq : a.tenantRegistry? = b.tenantRegistry? := by
  unfold tenantRegistry?
  rw [h.spec.apiUrl]

theorem tokensSecretName?_eq : a.tokensSecretName? = b.tokensSecretName? := by
  rw [tokensSecretName?, tokensSecretName?, h.spec.tokens.presentText?_eq, h.metadata]

theorem activeGateEnabled_eq : a.activeGateEnabled = b.activeGateEnabled := by
  rw [activeGateEnabled, activeGateEnabled, h.spec.activeGate.capabilities]

theorem activeGateCustomImage?_eq : a.activeGateCustomImage? = b.activeGateCustomImage? :=
  h.spec.activeGate.image.presentText?_eq

theorem hostAgent? : Option.Rel HostAgent.Unblanked a.hostAgent? b.hostAgent? :=
  have modes := h.spec.oneAgent
  (modes.classicFullStack.or (modes.cloudNativeFullStack.map (·.host))).or modes.hostMonitoring

theorem oneAgentCustomImage?_eq : a.oneAgentCustomImage? = b.oneAgentCustomImage? :=
  h.hostAgent?.bind_eq fun host => host.image.presentText?_eq

theorem oneAgentCustomVersion?_eq : a.oneAgentCustomVersion? = b.oneAgentCustomVersion? :=
  h.hostAgent?.bind_eq fun host => host.version.presentText?_eq

theorem oneAgentAutoUpdate_eq : a.oneAgentAutoUpdate = b.oneAgentAutoUpdate :=
  congrArg (Option.getD · true) (h.hostAgent?.bind_eq fun host => host.autoUpdate)

theorem appInjectionNeeded_eq : a.appInjectionNeeded = b.appInjectionNeeded := by
  rw [appInjectionNeeded, appInjectionNeeded, h.spec.oneAgent.cloudNativeFullStack.isSome_eq,
    h.spec.oneAgent.applicationMonitoring.isSome_eq]

theorem codeModulesCustomVersion?_eq :
    a.codeModulesCustomVersion? = b.codeModulesCustomVersion? :=
  h.spec.oneAgent.applicationMonitoring.bind_eq fun mode => mode.version.presentText?_eq

theorem cloudNativeImage? : Text.Unblanked a.cloudNativeImage? b.cloudNativeImage? :=
  .bind h.spec.oneAgent.cloudNativeFullStack (·.codeModulesImage)

theorem applicationImage? : Text.Unblanked a.applicationImage? b.applicationImage? :=
  .bind h.spec.oneAgent.applicationMonitoring (·.codeModulesImage)

theorem codeModulesCustomImage?_of_uncovers {image : String} (huncovers : a.Uncovers b image) :
    a.codeModulesCustomImage? = none ∧ b.codeModulesCustomImage? = some image := by
  obtain ⟨hgiven, hdropped, hhidden⟩ := huncovers
  have himage := h.cloudNativeImage?
  obtain ⟨text, htext⟩ := Option.isSome_iff_exists.mp hgiven
  rw [htext, hdropped] at himage
  rw [codeModulesCustomImage?_eq, codeModulesCustomImage?_eq, htext, hdropped, Option.some_or,
    Option.none_or, ← h.applicationImage?.presentText?_eq]
  exact ⟨himage.presentText?_eq, hhidden⟩

theorem codeModulesCustomImage?_eq_of_not_uncovers (hbare : ∀ image, ¬ a.Uncovers b image) :
    a.codeModulesCustomImage? = b.codeModulesCustomImage? := by
  apply h.cloudNativeImage?.presentText?_or_eq h.applicationImage?
  intro hgiven hdropped
  cases himage : presentText? a.applicationImage? with
  | none => rfl
  | some image => exact absurd ⟨hgiven, hdropped, himage⟩ (hbare image)

end Unblanked

end DynaKube

namespace Component

variable {a b : DynaKube} (h : a.Unblanked b) (client : Client)
include h

theorem registry_unblanked : registry a = registry b := by
  rw [registry, registry, h.tenantRegistry?_eq]

theorem activeGate_unblanked : activeGate a client = activeGate b client := by
  simp only [activeGate, activeGateProbe, registry_unblanked h, h.featureFlags_eq,
    h.activeGateEnabled_eq, h.activeGateCustomImage?_eq]

theorem oneAgent_unblanked : oneAgent a client = oneAgent b client := by
  simp only [oneAgent, oneAgentProbe, registry_unblanked h, h.featureFlags_eq,
    h.hostAgent?.isSome_eq, h.oneAgentCustomImage?_eq, h.oneAgentCustomVersion?_eq,
    h.oneAgentAutoUpdate_eq]

theorem codeModules_unblanked (himage : a.codeModulesCustomImage? = b.codeModulesCustomImage?) :
    codeModules a client = codeModules b client := by
  simp only [codeModules, codeModulesProbe, h.featureFlags_eq, h.appInjectionNeeded_eq, himage,
    h.codeModulesCustomVersion?_eq]

end Component

theorem resolveVersions_congr {a b : DynaKube} {client : Client} (hstatus : a.status = b.status)
    (h : ∀ kind, Component.ofKind a client kind = Component.ofKind b client kind)
    (policy : ProbePolicy) (clock : Clock) :
    resolveVersions policy clock a client = resolveVersions policy clock b client := by
  have hcomponents : Component.ofKind a client = Component.ofKind b client := funext h
  have hpasses : passes policy clock a client ComponentKind.all =
      passes policy clock b client ComponentKind.all := by
    rw [passes, passes, hcomponents, hstatus]
  rw [resolveVersions, resolveVersions, hpasses, hstatus]

/-- Blank texts may be taken out of the specification: the secret, and what is pinned for the gate
and the host agent, stay the same, and so do these two components. For the code modules the pinned
version stays the same, but the pinned image only if a blank one of the cloud-native mode is not
taken out from above one of application monitoring. Then every pass stays the same. -/
theorem blank_settings_count_as_absent {a b : DynaKube} (h : a.Unblanked b) :
    (a.tokensSecretName? = b.tokensSecretName? ∧
      a.activeGateCustomImage? = b.activeGateCustomImage? ∧
      a.oneAgentCustomImage? = b.oneAgentCustomImage? ∧
      a.oneAgentCustomVersion? = b.oneAgentCustomVersion? ∧
      a.codeModulesCustomVersion? = b.codeModulesCustomVersion?) ∧
    (∀ client kind, kind ≠ .codeModules →
      Component.ofKind a client kind = Component.ofKind b client kind) ∧
    (∀ image, a.Uncovers b image →
      a.codeModulesCustomImage? = none ∧ b.codeModulesCustomImage? = some image) ∧
    ((∀ image, ¬ a.Uncovers b image) →
      a.codeModulesCustomImage? = b.codeModulesCustomImage? ∧
      ∀ client,
        (∀ kind, (Component.ofKind a client kind).source =
          (Component.ofKind b client kind).source) ∧
        ∀ policy clock, resolveVersions policy clock a client =
          resolveVersions policy clock b client) := by
  have hothers : ∀ client kind, kind ≠ .codeModules →
      Component.ofKind a client kind = Component.ofKind b client kind := by
    intro client kind hkind
    cases kind with
    | activeGate => exact Component.activeGate_unblanked h client
    | oneAgent => exact Component.oneAgent_unblanked h client
    | codeModules => exact absurd rfl hkind
  refine ⟨⟨h.tokensSecretName?_eq, h.activeGateCustomImage?_eq, h.oneAgentCustomImage?_eq,
    h.oneAgentCustomVersion?_eq, h.codeModulesCustomVersion?_eq⟩, hothers,
    fun _ => h.codeModulesCustomImage?_of_uncovers, ?_⟩
  intro hbare
  have himage := h.codeModulesCustomImage?_eq_of_not_uncovers hbare
  refine ⟨himage, fun client => ?_⟩
  have hsame : ∀ kind, Component.ofKind a client kind = Component.ofKind b client kind := by
    intro kind
    rcases Decidable.em (kind = .codeModules) with rfl | hkind
    · exact Component.codeModules_unblanked h client himage
    · exact hothers client kind hkind
  constructor
  · intro kind
    rw [hsame kind]
  · exact resolveVersions_congr h.status hsame

/-- The name of the secret, the image of the gate, and the images of the cloud-native mode are
blank, and so is the version for application monitoring. All but the image of the gate are taken
out. -/
theorem blank_settings_count_as_absent_cloudNative :
    let resource (tokens : Option String) (cloudNative : CloudNative)
        (applicationMonitoring : ApplicationMonitoring) : DynaKube :=
      { metadata := { name := some "dynakube" }
        spec :=
          { apiUrl := "https://tenant.example/api"
            tokens := tokens
            activeGate := { capabilities := ["routing"], image := some "\t" }
            oneAgent :=
              { cloudNativeFullStack := some cloudNative
                applicationMonitoring := some applicationMonitoring } } }
    let a := resource (some " ")
      { host := { image := some "", version := some "1.2.3" }, codeModulesImage := some "  " }
      { version := some "\n" }
    let b := resource none { host := { version := some "1.2.3" } } {}
    let policy : ProbePolicy := { timeout := Duration.ofSeconds 30 }
    let client := Client.naming "1.2.4"
    (a.Unblanked b ∧ ∀ image, ¬ a.Uncovers b image) ∧
    a.tokensSecretName? = b.tokensSecretName? ∧
    a.codeModulesCustomImage? = b.codeModulesCustomImage? ∧
    resolveVersions policy (.still .newYear) a client =
      resolveVersions policy (.still .newYear) b client := by
  intro resource a b policy client
  have h : a.Unblanked b :=
    { metadata := rfl
      status := rfl
      spec :=
        { apiUrl := rfl
          tokens := .dropped (by decide)
          activeGate := ⟨rfl, .kept _⟩
          oneAgent :=
            { classicFullStack := .none
              cloudNativeFullStack :=
                .some ⟨⟨.dropped (by decide), .kept _, rfl⟩, .dropped (by decide)⟩
              hostMonitoring := .none
              applicationMonitoring := .some ⟨.dropped (by decide), .kept _⟩ } } }
  have hbare : ∀ image, ¬ a.Uncovers b image :=
    fun _ huncovers => nomatch huncovers.hidden
  obtain ⟨⟨htokens, _⟩, _, _, hsame⟩ := blank_settings_count_as_absent h
  obtain ⟨himage, hpass⟩ := hsame hbare
  exact ⟨⟨h, hbare⟩, htokens, himage, (hpass client).2 policy (.still .newYear)⟩

/-- With the blank image of the cloud-native mode the code modules follow the tenant; without it
they are pinned to the image of application monitoring. -/
theorem blank_image_hides_another :
    let resource (cloudNative : CloudNative) : DynaKube :=
      { metadata := { name := some "dynakube" }
        spec :=
          { apiUrl := "https://tenant.example/api"
            oneAgent :=
              { cloudNativeFullStack := some cloudNative
                applicationMonitoring :=
                  some { codeModulesImage := some "registry.example/codemodules:1.2.3" } } } }
    let a := resource { codeModulesImage := some "  " }
    let b := resource {}
    let client := Client.naming "1.2.4"
    let policy : ProbePolicy := { timeout := Duration.ofSeconds 30 }
    let image := "registry.example/codemodules:1.2.3"
    a.Unblanked b ∧
    a.codeModulesCustomImage? = none ∧ b.codeModulesCustomImage? = some image ∧
    (Component.codeModules a client).source = .tenantRegistry ∧
    (Component.codeModules b client).source = .customImage ∧
    (resolveVersions policy (.still .newYear) a client).status.codeModules.version = "1.2.4" ∧
    (resolveVersions policy (.still .newYear) b client).status.codeModules.image = image := by
  intro resource a b client policy image
  have h : a.Unblanked b :=
    { metadata := rfl
      status := rfl
      spec :=
        { apiUrl := rfl
          tokens := .kept _
          activeGate := ⟨rfl, .kept _⟩
          oneAgent :=
            { classicFullStack := .none
              cloudNativeFullStack := .some ⟨⟨.kept _, .kept _, rfl⟩, .dropped (by decide)⟩
              hostMonitoring := .none
              applicationMonitoring := .some ⟨.kept _, .kept _⟩ } } }
  exact ⟨h, rfl, rfl, rfl, rfl, by decide +kernel, by decide +kernel⟩

end VersionOperator
