import VersionOperator.Resolution.Error
import VersionOperator.Resource.Condition

namespace VersionOperator

namespace Condition

def verified (kind : ComponentKind) (version : String) (now : Instant) : Condition where
  type := kind.conditionType
  status := .yes
  reason := "Verified"
  message := "Version " ++ version ++ " resolved from the tenant registry"
  since := now

def verificationSkipped (kind : ComponentKind) (now : Instant) : Condition where
  type := kind.conditionType
  status := .yes
  reason := "VerificationSkipped"
  message := "Custom image or version is used, verification skipped"
  since := now

def downgradeSkipped (kind : ComponentKind) (current candidate : String) (now : Instant) :
    Condition where
  type := kind.conditionType
  status := .yes
  reason := "DowngradeSkipped"
  message :=
    "Keeping version " ++ current ++ ", update to older version " ++ candidate ++ " skipped"
  since := now

def failed (kind : ComponentKind) (error : VersionError) (now : Instant) : Condition where
  type := kind.conditionType
  status := .no
  reason := error.reason
  message := error.message
  since := now

end Condition

end VersionOperator
