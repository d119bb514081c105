import VersionOperator.Image.Reference
import VersionOperator.AgentVersion
import VersionOperator.Tenant.Error

namespace VersionOperator

inductive VersionError where
  | tenant (error : Tenant.Error)
  | probeTimeout (component : String) (seconds : Nat)
  | image (error : Image.Error)
  | invalidVersion (version : String) (reason : String)
  | invalidConfig (message : String)
  | validation (message : String)
  | components (failures : List (String × VersionError))

namespace VersionError

mutual

def message : VersionError → String
  | .tenant error => "Dynatrace API error: " ++ error.message
  | .probeTimeout component seconds =>
    component ++ " version probe timed out after " ++ toString seconds ++ "s"
  | .image error => "Invalid image reference: " ++ error.message
  | .invalidVersion version reason => "Invalid version '" ++ version ++ "': " ++ reason
  | .invalidConfig text => "Invalid configuration: " ++ text
  | .validation text => "Status validation failed: " ++ text
  | .components failures =>
    "Version resolution failed for " ++ String.intercalate ", " (descriptions failures)

def descriptions : List (String × VersionError) → List String
  | [] => []
  | (component, error) :: rest =>
    (component ++ " (" ++ error.message ++ ")") :: descriptions rest

end

/-- Whether the tenant did not answer as it should, or not in time. -/
def isApiError : VersionError → Bool
  | tenant _ => true
  | probeTimeout _ _ => true
  | _ => false

def isParseError : VersionError → Bool
  | image _ => true
  | invalidVersion _ _ => true
  | _ => false

def reason (error : VersionError) : String :=
  if error.isApiError then "DynatraceApiError"
  else if error.isParseError then "InvalidVersion"
  else "ValidationFailed"

end VersionError

def readVersion (s : String) : Except VersionError AgentVersion :=
  match AgentVersion.parse s with
  | .ok version => .ok version
  | .error fault => .error (.invalidVersion s fault.message)

/-- Whether a candidate is older than the version it would take the place of. The current version is
read first. -/
def isDowngrade (current candidate : String) : Except VersionError Bool :=
  match readVersion current with
  | .error error => .error error
  | .ok currentVersion =>
    match readVersion candidate with
    | .error error => .error error
    | .ok candidateVersion => .ok (candidateVersion.older currentVersion)

def versionOfImage (image : String) : Except VersionError String :=
  match Image.tagOf image with
  | .ok tag => .ok tag
  | .error error => .error (.image error)

end VersionOperator
