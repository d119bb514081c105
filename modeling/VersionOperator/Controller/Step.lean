import VersionOperator.Controller.Backoff
import VersionOperator.Controller.Token
import VersionOperator.Resolution.Reconcile
import VersionOperator.Resource.StatusPatch

namespace VersionOperator

/-- The API server in one step: the secrets by namespace and name, and the failure of a patch, if it
fails. -/
structure Cluster where
  secret : String → String → Except ClusterFailure Secret
  patchFailure : Option ClusterFailure := none

/-- The tenants by URL and token, or why no client can be made for one. -/
abbrev Tenants := String → String → Except Tenant.Error Tenant.Client

structure Controller where
  policy : ProbePolicy
  interval : Duration
  backoffs : Backoffs := {}

/-- What a step does and comes to: the requests to the API server in order, the questions asked of
the tenant, the patch that the server took, and the time to the next step or the error. -/
structure StepOutcome where
  requests : List ClusterRequest := []
  asked : List Tenant.Query := []
  written : Option Json := none
  result : Except ControllerError Duration

def DynaKube.inNamespace (dk : DynaKube) : String :=
  dk.metadata.inNamespace.getD "default"

def resourceKey (inNamespace name : String) : String :=
  inNamespace ++ "/" ++ name

namespace Controller

def secretName (dk : DynaKube) : Except ControllerError String :=
  match dk.tokensSecretName? with
  | some name => .ok name
  | none => .error (.invalidConfig "DynaKube has no tokens secret")

def tokenRequest (dk : DynaKube) : Except ControllerError ClusterRequest := do
  let request := ClusterRequest.readSecret dk.inNamespace (← secretName dk)
  match request.path with
  | .ok _ => .ok request
  | .error fault => .error (.request fault)

def tokenRequests (dk : DynaKube) : List ClusterRequest :=
  (tokenRequest dk).toOption.toList

def token (cluster : Cluster) (dk : DynaKube) : Except ControllerError String := do
  let request ← tokenRequest dk
  match cluster.secret dk.inNamespace (ClusterRequest.seenName request.name) with
  | .error failure => .error (.cluster failure)
  | .ok secret => secret.apiToken

def sendPatch (cluster : Cluster) (request : ClusterRequest) : Except ControllerError Unit :=
  match request.path, cluster.patchFailure with
  | .error fault, _ => .error (.request fault)
  | .ok _, some failure => .error (.cluster failure)
  | .ok _, none => .ok ()

theorem sendPatch_eq_ok_iff {cluster : Cluster} {request : ClusterRequest} :
    sendPatch cluster request = .ok () ↔
      request.isFormed = true ∧ cluster.patchFailure = none := by
  unfold sendPatch ClusterRequest.isFormed
  cases request.path <;> cases cluster.patchFailure <;> simp [Except.isOk, Except.toBool]

def tenantClient (cluster : Cluster) (tenants : Tenants) (dk : DynaKube) :
    Except ControllerError Tenant.Client := do
  let token ← token cluster dk
  (tenants dk.spec.apiUrl token).mapError .tenant

/-- The tenant of a resource; one that explains itself when there is no client for it. -/
def client (cluster : Cluster) (tenants : Tenants) (dk : DynaKube) : Tenant.Client :=
  match tenantClient cluster tenants dk with
  | .ok client => client
  | .error error => Tenant.Client.withoutToken error.message

def reconcile (c : Controller) (clock : Clock) (cluster : Cluster) (tenants : Tenants)
    (dk : DynaKube) : StepOutcome × Controller :=
  match dk.metadata.name with
  | none => ({ result := .error (.invalidConfig "DynaKube missing name") }, c)
  | some name =>
    let resolved := resolveVersions c.policy clock dk (client cluster tenants dk)
    let change := statusPatch resolved.status
    let patch := ClusterRequest.patchStatus dk.inNamespace name change
    let requests := tokenRequests dk ++
      if resolved.changed && patch.isFormed then [patch] else []
    match if resolved.changed then sendPatch cluster patch else .ok () with
    | .error error => ({ requests, asked := resolved.asked, result := .error error }, c)
    | .ok () =>
      let written := if resolved.changed then some change else none
      match resolved.result with
      | .error error =>
        ({ requests, asked := resolved.asked, written, result := .error (.version error) }, c)
      | .ok () =>
        ({ requests, asked := resolved.asked, written, result := .ok c.interval },
          { c with backoffs := c.backoffs.reset (resourceKey dk.inNamespace name) })

def errorRequeue (c : Controller) (dk : DynaKube) : Option Duration × Controller :=
  let key := resourceKey dk.inNamespace (dk.metadata.name.getD "")
  let (delay, _, backoffs) := c.backoffs.recordError key
  (delay, { c with backoffs })

/-- A step over a resource and, when it fails, the delay after it. -/
def step (c : Controller) (clock : Clock) (cluster : Cluster) (tenants : Tenants)
    (dk : DynaKube) : StepOutcome × Option Duration × Controller :=
  let (outcome, c) := c.reconcile clock cluster tenants dk
  match outcome.result with
  | .ok _ => (outcome, none, c)
  | .error _ =>
    let (delay, c) := c.errorRequeue dk
    (outcome, delay, c)

end Controller

end VersionOperator
