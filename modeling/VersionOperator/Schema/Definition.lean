import VersionOperator.Resource.Encode
import VersionOperator.Schema.Basic

namespace VersionOperator

namespace Definition

def describedText (description : String) : Schema :=
  .text { description := some description } none []

def optionalText (description : String) : Schema :=
  .text { description := some description, nullable := true } none []

def moment (description : String) (nullable : Bool) : Schema :=
  .text { description := some description, nullable } (some "date-time") []

def hostAgentProperties : List (String × Schema) :=
  [("autoUpdate",
      .boolean {
        description := some "Automatically follow the latest version (default: true)"
        nullable := true }),
    ("image", optionalText "Custom OneAgent image"),
    ("version", optionalText "Pinned OneAgent version")]

def hostAgentMode (description : String) : Schema :=
  .object { description := some description, nullable := true } hostAgentProperties []

def codeModulesImage : String × Schema :=
  ("codeModulesImage", optionalText "Custom code modules image")

def cloudNative : Schema :=
  .object
    { description := some "Cloud-native full-stack injection (host agent plus code modules)"
      nullable := true }
    (hostAgentProperties.take 1 ++ codeModulesImage :: hostAgentProperties.drop 1) []

def applicationMonitoring : Schema :=
  .object
    { description := some "Application monitoring only (code modules, no host agent)"
      nullable := true }
    [codeModulesImage, ("version", optionalText "Pinned code modules version")] []

def oneAgent : Schema :=
  .object
    { description := some "OneAgent deployment mode", filledWith := some (.object []) }
    [("applicationMonitoring", applicationMonitoring),
      ("classicFullStack", hostAgentMode "Classic full-stack injection"),
      ("cloudNativeFullStack", cloudNative),
      ("hostMonitoring", hostAgentMode "Host monitoring only")]
    []

def activeGate : Schema :=
  .object
    { description := some "ActiveGate configuration"
      filledWith := some (.object [("capabilities", .list [])]) }
    [("capabilities",
        .list
          { description := some <|
              "Enabled capabilities (e.g. \"routing\", \"kubernetes-monitoring\"); " ++
                "empty disables the ActiveGate"
            filledWith := some (.list []) }
          (.text {} none [])),
      ("image", optionalText "Custom ActiveGate image")]
    []

def spec : Schema :=
  .object
    { description := some "Monitoring setup of a cluster against one Dynatrace tenant" }
    [("activeGate", activeGate),
      ("apiUrl",
        describedText "Tenant API URL (e.g. \"https://abc12345.live.dynatrace.com/api\")"),
      ("oneAgent", oneAgent),
      ("tokens",
        optionalText "Name of the secret holding the API token (defaults to the DynaKube name)")]
    ["apiUrl"]

def source : Schema :=
  .wordOrNull
    { description := some "Source the version was resolved from" }
    ("Where a resolved version came from.\n\n" ++
      "Serializes as kebab-case (\"tenant-registry\", \"custom-image\", \"custom-version\").")
    [VersionSource.tenantRegistry.word, VersionSource.customImage.word,
      VersionSource.customVersion.word]

def record (description : String) : Schema :=
  .object
    { description := some description, filledWith := some (.object []) }
    [("imageID", describedText "Fully qualified image reference selected for the component"),
      ("lastProbeTimestamp", moment "Time of the last accepted resolution attempt" true),
      ("source", source),
      ("version", describedText "Version string (vendor version or the custom-image sentinel)")]
    []

def condition : Schema :=
  .object
    { description := some "Condition represents an observation of the resource state" }
    [("lastTransitionTime", moment "Last time the status or reason changed" false),
      ("message",
        .text
          { description := some "Human-readable message", filledWith := some (.text "") } none []),
      ("reason", describedText "Machine-readable reason for the last transition"),
      ("status",
        .text { description := some "Status of the condition" } none
          [Truth.yes.word, Truth.no.word, Truth.unknown.word]),
      ("type", describedText "Type of condition")]
    ["lastTransitionTime", "reason", "status", "type"]

def status : Schema :=
  .object
    { description := some "Observed state written by the operator", nullable := true }
    [("activeGate", record "ActiveGate version status"),
      ("codeModules", record "Code modules version status"),
      ("conditions",
        .list
          { description := some "Conditions represent the latest available observations"
            filledWith := some (.list []) }
          condition),
      ("oneAgent", record "OneAgent version status")]
    []

/-- The resource, its metadata apart, which the server knows without being told. -/
def schema : Schema :=
  .object
    { description := some "Auto-generated derived type for DynaKubeSpec via \x60CustomResource\x60"
      title := some DynaKube.kind }
    [("spec", spec), ("status", status)] ["spec"]

def version : Json :=
  .object
    [("additionalPrinterColumns", .list []), ("name", .text "v1beta5"),
      ("schema", .object [("openAPIV3Schema", schema.toJson)]), ("served", .bool true),
      ("storage", .bool true), ("subresources", .object [("status", .object [])])]

def names : Json :=
  .object
    [("categories", .list []), ("kind", .text DynaKube.kind), ("plural", .text "dynakubes"),
      ("shortNames", .list [.text "dk"]), ("singular", .text "dynakube")]

def document : Json :=
  .object
    [("apiVersion", .text "apiextensions.k8s.io/v1"), ("kind", .text "CustomResourceDefinition"),
      ("metadata", .object [("name", .text "dynakubes.dynatrace.com")]),
      ("spec",
        .object
          [("group", .text "dynatrace.com"), ("names", names), ("scope", .text "Namespaced"),
            ("versions", .list [version])])]

end Definition

end VersionOperator
