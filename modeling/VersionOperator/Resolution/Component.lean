import VersionOperator.Resolution.Error
import VersionOperator.Resource.DynaKube
import VersionOperator.Tenant.Client

namespace VersionOperator

open Tenant

/-- What a component comes by when it looks its version up: the questions it asked on the way, the
time it took, and the candidate or the reason why there is none. -/
structure Probe where
  asked : List Query
  delay : Duration
  result : Except VersionError VersionStatus

namespace Probe

def known (candidate : VersionStatus) : Probe :=
  ⟨[], Duration.zero, .ok candidate⟩

def refused (error : VersionError) : Probe :=
  ⟨[], Duration.zero, .error error⟩

/-- A look-up that asks one question and makes the candidate of its answer. -/
def asking {α : Type} (query : Query) (reply : Timed (Except Error α))
    (candidate : α → Except VersionError VersionStatus) : Probe :=
  ⟨[query], reply.delay,
    match reply.value with
    | .ok answer => candidate answer
    | .error error => .error (.tenant error)⟩

end Probe

/-- A managed component in one pass. `isDowngrade` and `validate` are asked about the record as it
stands at that moment. -/
structure Component where
  name : String
  kind : ComponentKind
  enabled : Bool
  customImage : Option String
  customVersion : Option String
  autoUpdate : Bool
  autoRegistry : Bool
  isDowngrade : VersionStatus → String → Except VersionError Bool
  probe : Probe
  validate : VersionStatus → Except VersionError Unit

/-- A pinned image wins over a pinned version, which wins over the tenant. Whether the component
follows the tenant, and how, has no say in it. -/
def Component.source (c : Component) : VersionSource :=
  if c.customImage.isSome then .customImage
  else if c.customVersion.isSome then .customVersion
  else .tenantRegistry

def activeGateRepository : String := "linux/activegate"

def oneAgentRepository : String := "linux/oneagent"

namespace Component

def registry (dk : DynaKube) : Except VersionError String :=
  match dk.tenantRegistry? with
  | some host => .ok host
  | none => .error (.invalidConfig "apiUrl does not contain a tenant host")

def composed (registry repository version : String) : VersionStatus :=
  { version, image := Image.compose registry repository version }

def ofLatestImage (image : LatestImage) : Except VersionError VersionStatus :=
  match versionOfImage image.uri with
  | .ok version => .ok { version, image := image.uri }
  | .error error => .error error

def requireVersion (name : String) (record : VersionStatus) : Except VersionError Unit :=
  if record.version = "" then
    .error (.validation ("build version of " ++ name ++ " image is not set"))
  else .ok ()

/-- How the gate learns a candidate: the newest image, or the newest version with an image composed
in the registry of the tenant. -/
def activeGateProbe (dk : DynaKube) (client : Client) : Probe :=
  if dk.featureFlags.automaticRegistry then
    Probe.asking (.latestImage .activeGate) (client.latestImage .activeGate) ofLatestImage
  else
    match registry dk with
    | .error error => Probe.refused error
    | .ok host =>
      Probe.asking .gatewayVersion client.gatewayVersion fun version =>
        .ok (composed host activeGateRepository version)

/-- The gate. It cannot be pinned to a version, and takes any candidate. -/
def activeGate (dk : DynaKube) (client : Client) : Component where
  name := ComponentKind.activeGate.name
  kind := .activeGate
  enabled := dk.activeGateEnabled
  customImage := dk.activeGateCustomImage?
  customVersion := none
  autoUpdate := !dk.featureFlags.disableActiveGateUpdates
  autoRegistry := dk.featureFlags.automaticRegistry
  isDowngrade := fun _ _ => .ok false
  probe := activeGateProbe dk client
  validate := requireVersion "ActiveGate"

/-- How the host agent learns a candidate: a pinned version with its image composed, the newest
image, or the newest version with its image composed. -/
def oneAgentProbe (dk : DynaKube) (client : Client) : Probe :=
  match dk.oneAgentCustomVersion? with
  | some version =>
    match registry dk with
    | .error error => Probe.refused error
    | .ok host => Probe.known (composed host oneAgentRepository version)
  | none =>
    if dk.featureFlags.automaticRegistry then
      Probe.asking (.latestImage .oneAgent) (client.latestImage .oneAgent) ofLatestImage
    else
      match registry dk with
      | .error error => Probe.refused error
      | .ok host =>
        Probe.asking (.agentVersion .host) (client.agentVersion .host) fun version =>
          .ok (composed host oneAgentRepository version)

/-- Only a version that came from the tenant is guarded against an older one. -/
def oneAgentIsDowngrade (recorded : VersionStatus) (candidate : String) :
    Except VersionError Bool :=
  if recorded.source = some .tenantRegistry ∧ recorded.version ≠ "" then
    VersionOperator.isDowngrade recorded.version candidate
  else .ok false

def oneAgent (dk : DynaKube) (client : Client) : Component where
  name := ComponentKind.oneAgent.name
  kind := .oneAgent
  enabled := dk.hostAgent?.isSome
  customImage := dk.oneAgentCustomImage?
  customVersion := dk.oneAgentCustomVersion?
  autoUpdate := dk.oneAgentAutoUpdate
  autoRegistry := dk.featureFlags.automaticRegistry
  isDowngrade := oneAgentIsDowngrade
  probe := oneAgentProbe dk client
  validate := requireVersion "OneAgent"

/-- How the code modules learn a candidate: a pinned version or the newest one. They are loaded from
an archive, so there is no image. -/
def codeModulesProbe (dk : DynaKube) (client : Client) : Probe :=
  match dk.codeModulesCustomVersion? with
  | some version => Probe.known { version }
  | none =>
    Probe.asking (.agentVersion .modules) (client.agentVersion .modules) fun version =>
      .ok { version }

/-- The code modules. They always follow the tenant, take any candidate, and are always valid. -/
def codeModules (dk : DynaKube) (client : Client) : Component where
  name := ComponentKind.codeModules.name
  kind := .codeModules
  enabled := dk.appInjectionNeeded
  customImage := dk.codeModulesCustomImage?
  customVersion := dk.codeModulesCustomVersion?
  autoUpdate := true
  autoRegistry := dk.featureFlags.automaticRegistry
  isDowngrade := fun _ _ => .ok false
  probe := codeModulesProbe dk client
  validate := fun _ => .ok ()

def ofKind (dk : DynaKube) (client : Client) : ComponentKind → Component
  | .activeGate => activeGate dk client
  | .oneAgent => oneAgent dk client
  | .codeModules => codeModules dk client

@[simp] theorem kind_ofKind (dk : DynaKube) (client : Client) (kind : ComponentKind) :
    (ofKind dk client kind).kind = kind := by
  cases kind <;> rfl

@[simp] theorem name_ofKind (dk : DynaKube) (client : Client) (kind : ComponentKind) :
    (ofKind dk client kind).name = kind.name := by
  cases kind <;> rfl

end Component

end VersionOperator
