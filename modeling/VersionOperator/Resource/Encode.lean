import VersionOperator.Json.Basic
import VersionOperator.Resource.DynaKube
import VersionOperator.Time.Rfc3339

namespace VersionOperator

def Json.memberIf {α : Type} (name : String) (write : α → Json) : Option α → List (String × Json)
  | some value => [(name, write value)]
  | none => []

def Json.memberUnlessEmpty (name value : String) : List (String × Json) :=
  if value = "" then [] else [(name, .text value)]

def Instant.toJson (t : Instant) : Json :=
  .text (Time.write t)

def VersionSource.toJson (source : VersionSource) : Json :=
  .text source.word

def VersionStatus.toJson (s : VersionStatus) : Json :=
  .object <|
    Json.memberUnlessEmpty "version" s.version ++ Json.memberUnlessEmpty "imageID" s.image ++
      Json.memberIf "source" VersionSource.toJson s.source ++
      Json.memberIf "lastProbeTimestamp" Instant.toJson s.lastProbe

def Condition.toJson (c : Condition) : Json :=
  .object
    [("type", .text c.type), ("status", .text c.status.word), ("reason", .text c.reason),
      ("message", .text c.message), ("lastTransitionTime", c.since.toJson)]

def Ledger.toJson (conditions : Ledger) : Json :=
  .list (conditions.map Condition.toJson)

def DynaKubeStatus.toJson (s : DynaKubeStatus) : Json :=
  .object
    [("activeGate", s.activeGate.toJson), ("oneAgent", s.oneAgent.toJson),
      ("codeModules", s.codeModules.toJson), ("conditions", Ledger.toJson s.conditions)]

def HostAgent.members (h : HostAgent) : List (String × Json) :=
  Json.memberIf "image" Json.text h.image ++ Json.memberIf "version" Json.text h.version ++
    Json.memberIf "autoUpdate" Json.bool h.autoUpdate

def HostAgent.toJson (h : HostAgent) : Json :=
  .object h.members

/-- The cloud-native mode: the settings of the host agent and its own in one object. -/
def CloudNative.toJson (c : CloudNative) : Json :=
  .object (c.host.members ++ Json.memberIf "codeModulesImage" Json.text c.codeModulesImage)

def ApplicationMonitoring.toJson (a : ApplicationMonitoring) : Json :=
  .object <|
    Json.memberIf "version" Json.text a.version ++
      Json.memberIf "codeModulesImage" Json.text a.codeModulesImage

def ActiveGateSpec.toJson (a : ActiveGateSpec) : Json :=
  .object <|
    ("capabilities", .list (a.capabilities.map Json.text)) ::
      Json.memberIf "image" Json.text a.image

def OneAgentSpec.toJson (o : OneAgentSpec) : Json :=
  .object <|
    Json.memberIf "classicFullStack" HostAgent.toJson o.classicFullStack ++
      Json.memberIf "cloudNativeFullStack" CloudNative.toJson o.cloudNativeFullStack ++
      Json.memberIf "hostMonitoring" HostAgent.toJson o.hostMonitoring ++
      Json.memberIf "applicationMonitoring" ApplicationMonitoring.toJson o.applicationMonitoring

def DynaKubeSpec.toJson (s : DynaKubeSpec) : Json :=
  .object <|
    ("apiUrl", .text s.apiUrl) :: Json.memberIf "tokens" Json.text s.tokens ++
      [("activeGate", s.activeGate.toJson), ("oneAgent", s.oneAgent.toJson)]

def Annotations.toJson (annotations : Annotations) : Json :=
  .object (annotations.map fun (name, value) => (name, Json.text value))

def Metadata.toJson (m : Metadata) : Json :=
  .object <|
    Json.memberIf "name" Json.text m.name ++ Json.memberIf "namespace" Json.text m.inNamespace ++
      Json.memberIf "annotations" Annotations.toJson m.annotations ++
      Json.memberIf "generation" Json.integer m.generation ++ Json.memberIf "uid" Json.text m.uid

def DynaKube.apiVersion : String := "dynatrace.com/v1beta5"

def DynaKube.kind : String := "DynaKube"

def DynaKube.toJson (dk : DynaKube) : Json :=
  .object <|
    [("apiVersion", .text DynaKube.apiVersion), ("kind", .text DynaKube.kind),
      ("metadata", dk.metadata.toJson), ("spec", dk.spec.toJson)] ++
      Json.memberIf "status" DynaKubeStatus.toJson dk.status

end VersionOperator
