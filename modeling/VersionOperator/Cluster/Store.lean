import VersionOperator.Controller.Step
import VersionOperator.Json.MergePatch
import VersionOperator.Resource.Decode

namespace VersionOperator

structure ObjectKey where
  inNamespace : String
  name : String
deriving DecidableEq

def DynaKube.key? (dk : DynaKube) : Option ObjectKey :=
  dk.metadata.name.map fun name => ⟨dk.inNamespace, name⟩

abbrev Store := List (ObjectKey × Json)

namespace Store

def find? (key : ObjectKey) (store : Store) : Option Json :=
  (List.find? (fun entry => entry.1 = key) store).map Prod.snd

def delete (key : ObjectKey) (store : Store) : Store :=
  List.filter (fun entry => entry.1 ≠ key) store

def assign (key : ObjectKey) (document : Json) : Store → Store
  | [] => [(key, document)]
  | (other, old) :: rest =>
    if other = key then (key, document) :: rest else (other, old) :: assign key document rest

def status? (document : Json) : Option Json :=
  match document.get? "status" with
  | some .null => none
  | status => status

/-- A document with the state of another one, if it has none itself. -/
def keepStatus (stored : Option Json) (document : Json) : Json :=
  match status? document, stored.bind status? with
  | none, some status => .object (Json.assign "status" status document.members)
  | _, _ => document

def put (key : ObjectKey) (document : Json) (store : Store) : Store :=
  assign key (keepStatus (store.find? key) document) store

def patch (key : ObjectKey) (change : Json) (store : Store) : Store :=
  match store.find? key with
  | some document => assign key (document.merge change) store
  | none => store

def resource? (key : ObjectKey) (store : Store) : Option DynaKube :=
  (store.find? key).bind DynaKube.ofJson?

end Store

/-- The secrets of a cluster, or why one of them cannot be read, by namespace and name. -/
abbrev SecretStore := List (ObjectKey × Except ClusterFailure Secret)

def SecretStore.read (secrets : SecretStore) (inNamespace name : String) :
    Except ClusterFailure Secret :=
  match List.find? (fun entry => entry.1 = ⟨inNamespace, name⟩) secrets with
  | some (_, .ok secret) => .ok { secret with name := some name }
  | some (_, .error failure) => .error failure
  | none => .error (.refused (.secretNotFound name))

end VersionOperator
