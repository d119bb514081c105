import VersionOperator.Resource.Encode

namespace VersionOperator

def Json.orNull (name : String) (ms : List (String × Json)) : List (String × Json) :=
  match Json.lookup name ms with
  | some _ => ms
  | none => ms ++ [(name, .null)]

def VersionStatus.patch (s : VersionStatus) : Json :=
  .object <|
    ["version", "imageID", "source", "lastProbeTimestamp"].foldl
      (fun ms name => Json.orNull name ms)
      s.toJson.members

def DynaKubeStatus.patch (s : DynaKubeStatus) : Json :=
  .object
    [("activeGate", s.activeGate.patch), ("oneAgent", s.oneAgent.patch),
      ("codeModules", s.codeModules.patch), ("conditions", Ledger.toJson s.conditions)]

def statusPatch (s : DynaKubeStatus) : Json :=
  .object [("status", s.patch)]

end VersionOperator
