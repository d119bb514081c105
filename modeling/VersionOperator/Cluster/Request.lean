import VersionOperator.Resource.Encode
import VersionOperator.Url.Target

namespace VersionOperator

inductive ClusterRequest where
  | readSecret (inNamespace name : String)
  | patchStatus (inNamespace name : String) (patch : Json)

/-- Why a request cannot be formed: the object has no name, or the target would be none. -/
inductive RequestFault where
  | noName
  | target (fault : Url.TargetFault)
deriving DecidableEq

def RequestFault.message : RequestFault → String
  | noName => "failed to validate request: A non-empty name is required"
  | target .badCharacter => "failed to build request: invalid uri character"
  | target .tooLong => "failed to build request: uri too long"

namespace ClusterRequest

def patchContentType : String := "application/merge-patch+json"

def method : ClusterRequest → String
  | readSecret _ _ => "GET"
  | patchStatus _ _ _ => "PATCH"

def name : ClusterRequest → String
  | readSecret _ name => name
  | patchStatus _ name _ => name

/-- The target of a request. That of a patch ends in a query, which is empty. -/
def target : ClusterRequest → String
  | readSecret inNamespace name => "/api/v1/namespaces/" ++ inNamespace ++ "/secrets/" ++ name
  | patchStatus inNamespace name _ =>
    "/apis/" ++ DynaKube.apiVersion ++ "/namespaces/" ++ inNamespace ++ "/dynakubes/" ++ name ++
      "/status?"

def path (r : ClusterRequest) : Except RequestFault String :=
  if r.name = "" then .error .noName
  else (Url.targetPath r.target).mapError .target

def isFormed (r : ClusterRequest) : Bool :=
  r.path.isOk

def line (r : ClusterRequest) : String :=
  r.method ++ " " ++ r.path.toOption.getD ""

def seenName (name : String) : String :=
  String.ofList (name.toList.takeWhile fun c => c ≠ '?' && c ≠ '#')

end ClusterRequest

end VersionOperator
