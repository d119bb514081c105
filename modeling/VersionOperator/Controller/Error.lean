import VersionOperator.Cluster.Request
import VersionOperator.Resolution.Error
import VersionOperator.Text.Quoted

namespace VersionOperator

structure ApiFailure where
  status : String := "Failure"
  message : String
  reason : String
  code : Nat
deriving DecidableEq

namespace ApiFailure

/-- The failure in words: its message and reason, and the whole record behind them. -/
def describe (f : ApiFailure) : String :=
  "ApiError: " ++ f.message ++ ": " ++ f.reason ++ " (ErrorResponse \x7b status: " ++
    Text.quoted f.status ++ ", message: " ++ Text.quoted f.message ++ ", reason: " ++
    Text.quoted f.reason ++ ", code: " ++ toString f.code ++ " \x7d)"

def secretNotFound (name : String) : ApiFailure where
  message := "secrets \"" ++ name ++ "\" not found"
  reason := "NotFound"
  code := 404

end ApiFailure

/-- Why the API server did not do what a request asks for: it refused, or no answer came that could
be read, for the reason given. -/
inductive ClusterFailure where
  | refused (failure : ApiFailure)
  | unanswered (reason : String)
deriving DecidableEq

def ClusterFailure.describe : ClusterFailure → String
  | refused failure => failure.describe
  | unanswered reason => reason

inductive ControllerError where
  | request (fault : RequestFault)
  | cluster (failure : ClusterFailure)
  | tenant (error : Tenant.Error)
  | version (error : VersionError)
  | tokenSecret (message : String)
  | invalidConfig (message : String)
  | watch (message : String)

def ControllerError.message : ControllerError → String
  | request fault => "Kubernetes error: Failed to build request: " ++ fault.message
  | cluster failure => "Kubernetes error: " ++ failure.describe
  | tenant error => "Dynatrace error: " ++ error.message
  | version error => error.message
  | tokenSecret text => "Token secret error: " ++ text
  | invalidConfig text => "Invalid configuration: " ++ text
  | watch text => "Resource watch failed: " ++ text

end VersionOperator
