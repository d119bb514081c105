import VersionOperator.Resource.FeatureFlags
import VersionOperator.Resource.VersionStatus
import VersionOperator.Text.Pieces

namespace VersionOperator

open Text

structure HostAgent where
  image : Option String := none
  version : Option String := none
  autoUpdate : Option Bool := none
deriving DecidableEq

structure CloudNative where
  host : HostAgent := {}
  codeModulesImage : Option String := none
deriving DecidableEq

structure ApplicationMonitoring where
  version : Option String := none
  codeModulesImage : Option String := none
deriving DecidableEq

structure ActiveGateSpec where
  capabilities : List String := []
  image : Option String := none
deriving DecidableEq

/-- The modes of the agent. More than one may be given; the questions below say which one counts. -/
structure OneAgentSpec where
  classicFullStack : Option HostAgent := none
  cloudNativeFullStack : Option CloudNative := none
  hostMonitoring : Option HostAgent := none
  applicationMonitoring : Option ApplicationMonitoring := none
deriving DecidableEq

structure DynaKubeSpec where
  apiUrl : String
  tokens : Option String := none
  activeGate : ActiveGateSpec := {}
  oneAgent : OneAgentSpec := {}
deriving DecidableEq

structure Metadata where
  name : Option String := none
  inNamespace : Option String := none
  annotations : Option Annotations := none
  generation : Option Int := none
  uid : Option String := none
deriving DecidableEq

structure DynaKube where
  metadata : Metadata
  spec : DynaKubeSpec
  status : Option DynaKubeStatus := none
deriving DecidableEq

namespace DynaKube

def featureFlags (dk : DynaKube) : FeatureFlags :=
  FeatureFlags.ofAnnotations dk.metadata.annotations

/-- The name of the secret with the token: as given, else the name of the resource. -/
def tokensSecretName? (dk : DynaKube) : Option String :=
  (presentText? dk.spec.tokens).or dk.metadata.name

/-- The host that a URL names: what stands behind the scheme, up to the first slash. -/
def hostOf (url : List Char) : List Char :=
  let url := trim url
  let rest := match cutAt? [':', '/', '/'] url with
    | some (_, rest) => rest
    | none => url
  firstPiece '/' rest

def tenantRegistry? (dk : DynaKube) : Option String :=
  match hostOf dk.spec.apiUrl.toList with
  | [] => none
  | host => some (String.ofList host)

def activeGateEnabled (dk : DynaKube) : Bool :=
  !dk.spec.activeGate.capabilities.isEmpty

def activeGateCustomImage? (dk : DynaKube) : Option String :=
  presentText? dk.spec.activeGate.image

/-- The settings of the host agent: those of the classic mode, else those of the cloud-native one,
else those of host monitoring. -/
def hostAgent? (dk : DynaKube) : Option HostAgent :=
  let modes := dk.spec.oneAgent
  (modes.classicFullStack.or (modes.cloudNativeFullStack.map (·.host))).or modes.hostMonitoring

def oneAgentCustomImage? (dk : DynaKube) : Option String :=
  dk.hostAgent?.bind fun host => presentText? host.image

def oneAgentCustomVersion? (dk : DynaKube) : Option String :=
  dk.hostAgent?.bind fun host => presentText? host.version

def oneAgentAutoUpdate (dk : DynaKube) : Bool :=
  (dk.hostAgent?.bind (·.autoUpdate)).getD true

def appInjectionNeeded (dk : DynaKube) : Bool :=
  dk.spec.oneAgent.cloudNativeFullStack.isSome || dk.spec.oneAgent.applicationMonitoring.isSome

/-- The pinned image of the code modules. One given for the cloud-native mode, even a blank one,
hides one given for application monitoring. -/
def codeModulesCustomImage? (dk : DynaKube) : Option String :=
  let modes := dk.spec.oneAgent
  presentText? <|
    (modes.cloudNativeFullStack.bind (·.codeModulesImage)).or
      (modes.applicationMonitoring.bind (·.codeModulesImage))

def codeModulesCustomVersion? (dk : DynaKube) : Option String :=
  dk.spec.oneAgent.applicationMonitoring.bind fun mode => presentText? mode.version

end DynaKube

end VersionOperator
