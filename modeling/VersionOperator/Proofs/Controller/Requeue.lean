import VersionOperator.Proofs.Cluster.Request
import VersionOperator.Proofs.Controller.Backoff
import VersionOperator.Proofs.Resolution.Interference

namespace VersionOperator

open Tenant

/-- A resource at which the controller looks, and how things stand then: what the clock shows, and
how the cluster and the tenant answer. The namespace has no slash, so the key of the resource in the
controller is that of no other. -/
structure Visit where
  key : ObjectKey
  resource : DynaKube
  key?_eq : resource.key? = some key
  no_slash : '/' ∉ key.inNamespace.toList
  clock : Clock
  cluster : Cluster
  tenants : Tenants

namespace Visit

variable (v : Visit) (policy : ProbePolicy)

def resolution : Resolution :=
  resolveVersions policy v.clock v.resource (Controller.client v.cluster v.tenants v.resource)

/-- The pass has made another state of the one that the resource has, if it has any. -/
def Changes : Prop :=
  v.resource.status ≠ some (v.resolution policy).status

instance : Decidable (v.Changes policy) :=
  inferInstanceAs (Decidable (_ ≠ _))

def patch : ClusterRequest :=
  .patchStatus v.key.inNamespace v.key.name (statusPatch (v.resolution policy).status)

/-- The state is stored as it is after the pass: it was so before, or the patch went through. -/
def Stores : Prop :=
  v.Changes policy → (v.patch policy).isFormed = true ∧ v.cluster.patchFailure = none

/-- How the step over a resource ends. A patch that cannot be formed or is refused comes before the
failures of components, and both before success. -/
inductive Ends (interval : Duration) : Except ControllerError Duration → Prop
  | unformed {fault : RequestFault} (hchanges : v.Changes policy)
      (hpath : (v.patch policy).path = .error fault) : Ends interval (.error (.request fault))
  | refused {failure : ClusterFailure} (hchanges : v.Changes policy)
      (hformed : (v.patch policy).isFormed = true)
      (hfailure : v.cluster.patchFailure = some failure) :
      Ends interval (.error (.cluster failure))
  | failed (hstores : v.Stores policy) (hfailures : (v.resolution policy).failures ≠ []) :
      Ends interval (.error (.version (.components (v.resolution policy).failures)))
  | succeeded (hstores : v.Stores policy) (hfailures : (v.resolution policy).failures = []) :
      Ends interval (.ok interval)

theorem changes_of_status_eq_none (h : v.resource.status = none) : v.Changes policy := by
  rw [Changes, h]
  exact (Option.some_ne_none _).symm

variable {v policy} in
theorem Ends.isOk_eq_false {interval : Duration} {result : Except ControllerError Duration}
    {failure : ClusterFailure} (h : v.Ends policy interval result) (hchanges : v.Changes policy)
    (hfailure : v.cluster.patchFailure = some failure) : result.isOk = false := by
  cases h with
  | unformed _ _ => rfl
  | refused _ _ _ => rfl
  | failed _ _ => rfl
  | succeeded hstores _ => exact absurd (hfailure.symm.trans (hstores hchanges).2) nofun

theorem name_eq : v.resource.metadata.name = some v.key.name := by
  obtain ⟨name, hname, hkey⟩ := Option.map_eq_some_iff.mp v.key?_eq
  rw [hname, ← hkey]

theorem inNamespace_eq : v.resource.inNamespace = v.key.inNamespace := by
  obtain ⟨name, _, hkey⟩ := Option.map_eq_some_iff.mp v.key?_eq
  rw [← hkey]

end Visit

def StepOutcome.failed (outcome : StepOutcome) : Bool :=
  !outcome.result.isOk

namespace ObjectKey

def text (key : ObjectKey) : String :=
  resourceKey key.inNamespace key.name

/-- Without a slash in the namespace the first slash of the text ends it. -/
theorem text_inj {a b : ObjectKey} (ha : '/' ∉ a.inNamespace.toList)
    (hb : '/' ∉ b.inNamespace.toList) : a.text = b.text ↔ a = b := by
  have hcut : ∀ {key : ObjectKey}, '/' ∉ key.inNamespace.toList →
      Text.cut? '/' key.text.toList = some (key.inNamespace.toList, key.name.toList) := by
    intro key hkey
    apply Text.cut?_eq_some_iff.mpr
    refine ⟨?_, hkey⟩
    rw [text, resourceKey, String.toList_append, String.toList_append, List.append_assoc]
    rfl
  constructor
  · intro h
    have hsame := (hcut ha).symm.trans ((congrArg (Text.cut? '/' ·.toList) h).trans (hcut hb))
    obtain ⟨hinNamespace, hname⟩ := Prod.mk.inj (Option.some.inj hsame)
    obtain ⟨inNamespace, name⟩ := a
    rw [ObjectKey.mk.injEq]
    exact ⟨String.toList_inj.mp hinNamespace, String.toList_inj.mp hname⟩
  · rintro rfl
    rfl

end ObjectKey

namespace Controller

variable (c : Controller) (v : Visit)

/-- The step over a resource at a visit: what it comes to, the delay after it if it fails, and the
controller after it. -/
def visit : StepOutcome × Option Duration × Controller :=
  c.step v.clock v.cluster v.tenants v.resource

theorem sendPatch_eq_error {cluster : Cluster} {request : ClusterRequest} {error : ControllerError}
    (h : sendPatch cluster request = .error error) :
    (∃ fault, request.path = .error fault ∧ error = .request fault) ∨
      request.isFormed = true ∧
        ∃ failure, cluster.patchFailure = some failure ∧ error = .cluster failure := by
  unfold sendPatch at h
  split at h
  · rename_i fault hpath
    exact .inl ⟨fault, hpath, (Except.error.inj h).symm⟩
  · rename_i path failure hpath hfailure
    refine .inr ⟨?_, failure, hfailure, (Except.error.inj h).symm⟩
    rw [ClusterRequest.isFormed, hpath]
    rfl
  · exact absurd h (by simp)

/-- What the controller makes of a resource, before it asks for a delay: the patch is the last
request if it is one, and only a success changes anything in the controller. -/
structure Makes (left : StepOutcome × Controller) : Prop where
  requests : left.1.requests = tokenRequests v.resource ++
    if v.Changes c.policy ∧ (v.patch c.policy).isFormed = true then [v.patch c.policy] else []
  ends : v.Ends c.policy c.interval left.1.result
  controller : left.2 =
    if left.1.failed then c else { c with backoffs := c.backoffs.attempt ⟨v.key.text, false⟩ }

theorem makes_reconcile : c.Makes v (c.reconcile v.clock v.cluster v.tenants v.resource) := by
  unfold reconcile
  rw [v.name_eq, v.inNamespace_eq]
  have hresolution : resolveVersions c.policy v.clock v.resource
      (client v.cluster v.tenants v.resource) = v.resolution c.policy := rfl
  have hpatch : ClusterRequest.patchStatus v.key.inNamespace v.key.name
      (statusPatch (v.resolution c.policy).status) = v.patch c.policy := rfl
  have hchanged : (v.resolution c.policy).changed = decide (v.Changes c.policy) := rfl
  have hresult : (v.resolution c.policy).result =
      if (v.resolution c.policy).failures = [] then .ok ()
      else .error (.components (v.resolution c.policy).failures) :=
    result_resolveVersions_of_failures _ _ _ _
  simp only [hresolution, hpatch, hchanged, hresult, Bool.and_eq_true, decide_eq_true_eq]
  -- A patch that cannot be sent ends the step before the failures of components are looked at.
  cases hdelivery : (if v.Changes c.policy then sendPatch v.cluster (v.patch c.policy)
      else .ok () : Except ControllerError Unit) with
  | error error =>
    refine ⟨rfl, ?_, rfl⟩
    by_cases hchanges : v.Changes c.policy
    · rw [if_pos hchanges] at hdelivery
      rcases sendPatch_eq_error hdelivery with
        ⟨fault, hpath, rfl⟩ | ⟨hformed, failure, hfailure, rfl⟩
      · exact .unformed hchanges hpath
      · exact .refused hchanges hformed hfailure
    · rw [if_neg hchanges] at hdelivery
      exact absurd hdelivery (by simp)
  | ok _ =>
    have hstores : v.Stores c.policy := by
      intro hchanges
      rw [if_pos hchanges] at hdelivery
      exact sendPatch_eq_ok_iff.mp hdelivery
    by_cases hfailures : (v.resolution c.policy).failures = []
    · rw [if_pos hfailures]
      exact ⟨rfl, .succeeded hstores hfailures, rfl⟩
    · rw [if_neg hfailures]
      exact ⟨rfl, .failed hstores hfailures, rfl⟩

theorem outcome_visit :
    (c.visit v).1 = (c.reconcile v.clock v.cluster v.tenants v.resource).1 := by
  simp only [visit, step]
  split
  · rfl
  · rfl

theorem requeue_visit :
    (c.visit v).2.1 =
      (if (c.visit v).1.failed then (c.backoffs.answer v.key.text).1 else none) ∧
    (c.visit v).2.2 =
      { c with backoffs := c.backoffs.attempt ⟨v.key.text, (c.visit v).1.failed⟩ } := by
  have hafter := (c.makes_reconcile v).controller
  rw [outcome_visit, visit, step]
  generalize c.reconcile v.clock v.cluster v.tenants v.resource = left at hafter ⊢
  obtain ⟨outcome, after⟩ := left
  cases hresult : outcome.result with
  | ok interval =>
    have hfailed : outcome.failed = false := by
      rw [StepOutcome.failed, hresult]
      rfl
    simp only [hfailed, Bool.false_eq_true, if_false] at hafter
    subst hafter
    simp only [hresult, hfailed, and_true]
    rfl
  | error error =>
    have hfailed : outcome.failed = true := by
      rw [StepOutcome.failed, hresult]
      rfl
    simp only [hfailed, if_true] at hafter
    subst hafter
    simp only [hresult, hfailed, if_true, errorRequeue, v.name_eq, v.inNamespace_eq]
    exact ⟨rfl, rfl⟩

theorem ends_visit : v.Ends c.policy c.interval (c.visit v).1.result := by
  rw [outcome_visit]
  exact (c.makes_reconcile v).ends

theorem method_of_mem_tokenRequests {dk : DynaKube} {request : ClusterRequest}
    (h : request ∈ tokenRequests dk) : request.method = "GET" := by
  rw [tokenRequests, Option.mem_toList, tokenRequest] at h
  cases hname : secretName dk with
  | error error =>
    rw [hname] at h
    exact absurd h (by simp [bind, Except.bind, Except.toOption])
  | ok name =>
    simp only [hname, bind, Except.bind] at h
    split at h
    · rw [← Option.some.inj h]
      rfl
    · exact absurd h (by simp [Except.toOption])

theorem patches_visit :
    (c.visit v).1.requests.filter (fun request => request.method = "PATCH") =
      if v.Changes c.policy ∧ (v.patch c.policy).isFormed = true then [v.patch c.policy]
      else [] := by
  have hreads :
      (tokenRequests v.resource).filter (fun request => request.method = "PATCH") = [] := by
    apply List.filter_eq_nil_iff.mpr
    intro request hrequest
    rw [method_of_mem_tokenRequests hrequest]
    decide
  rw [outcome_visit, (c.makes_reconcile v).requests, List.filter_append, hreads, List.nil_append]
  split
  · rfl
  · rfl

theorem outcome_of_backoffs (b : Backoffs) :
    ({ c with backoffs := b }.visit v).1 = (c.visit v).1 := by
  rw [outcome_visit, outcome_visit]
  unfold reconcile
  cases v.resource.metadata.name with
  | none => rfl
  | some name =>
    simp only
    split
    · rfl
    · split
      · rfl
      · rfl

def fresh (policy : ProbePolicy) (interval : Duration) : Controller :=
  { policy, interval }

def after (visits : List Visit) : Controller :=
  visits.foldl (fun c v => (c.visit v).2.2) c

def attempt : Attempt ObjectKey :=
  ⟨v.key, (c.visit v).1.failed⟩

def countedAttempts (visits : List Visit) : List (Attempt String) :=
  visits.map fun v => ⟨v.key.text, (c.visit v).1.failed⟩

theorem after_concat (earlier : List Visit) :
    c.after (earlier ++ [v]) = ((c.after earlier).visit v).2.2 := by
  rw [after, List.foldl_append]
  rfl

theorem after_eq (earlier : List Visit) :
    c.after earlier = { c with backoffs := c.backoffs.after (c.countedAttempts earlier) } := by
  induction earlier using List.reverseRecOn with
  | nil => rfl
  | append_singleton earlier v ih =>
    rw [after_concat, (requeue_visit _ v).2, ih, outcome_of_backoffs, countedAttempts,
      countedAttempts, List.map_append, List.map_singleton, Backoffs.after_concat]

theorem outcome_after (earlier : List Visit) : ((c.after earlier).visit v).1 = (c.visit v).1 := by
  rw [after_eq, outcome_of_backoffs]

theorem failuresInARow_text (earlier : List Visit) :
    failuresInARow v.key.text (c.countedAttempts earlier) =
      failuresInARow v.key (earlier.map c.attempt) := by
  induction earlier using List.reverseRecOn with
  | nil => rfl
  | append_singleton earlier u ih =>
    rw [countedAttempts, List.map_append, List.map_append, List.map_singleton, List.map_singleton,
      ← countedAttempts, attempt]
    by_cases hkey : u.key = v.key
    · rw [hkey]
      cases (c.visit u).1.failed with
      | true => rw [failuresInARow_concat_failure, failuresInARow_concat_failure, ih]
      | false => rw [failuresInARow_concat_success, failuresInARow_concat_success]
    · have htext : u.key.text ≠ v.key.text := fun h =>
        hkey ((ObjectKey.text_inj u.no_slash v.no_slash).mp h)
      rw [failuresInARow_concat_of_ne htext, failuresInARow_concat_of_ne hkey, ih]

theorem fibonacci_minutes (n : Nat) :
    Delay.fibonacci (Duration.ofSeconds 60) (Duration.ofSeconds 600) n =
      Duration.ofSeconds (min (Nat.fib n * 60) 600) := by
  have hnanos : ∀ {seconds : Nat}, seconds ≤ 600 →
      (Duration.ofSeconds seconds).nanos = seconds * 1000000000 := by
    intro seconds hseconds
    have hbound : seconds * 1000000000 < Text.wordLimit * 1000000000 := by
      unfold Text.wordLimit
      omega
    rw [Duration.ofSeconds, Duration.ofNanos, dif_pos hbound]
  apply Duration.ext
  rw [Delay.nanos_fibonacci, hnanos (by decide), hnanos (by decide), hnanos (Nat.min_le_right _ _)]
  omega

theorem delay_after (policy : ProbePolicy) (interval : Duration) (earlier : List Visit) :
    let n := failuresInARow v.key (earlier.map (fresh policy interval).attempt) + 1
    (((fresh policy interval).after earlier).visit v).2.1 =
      if ((fresh policy interval).visit v).1.failed then
        some (Duration.ofSeconds (min (Nat.fib n * 60) 600))
      else none := by
  intro n
  have hle : Duration.ofSeconds 60 ≤ Duration.ofSeconds 600 := by decide
  have hmost : 2 * (Duration.ofSeconds 600).nanos < Text.wordLimit * 1000000000 := by decide
  have hfailures := Backoffs.failures_after hle hmost
    ((fresh policy interval).countedAttempts earlier) v.key.text
  rw [failuresInARow_text] at hfailures
  have hanswer := Backoffs.recordError_of_failures hle hmost hfailures
  rw [fibonacci_minutes] at hanswer
  have hdelay : (((fresh policy interval).after earlier).backoffs.answer v.key.text).1 =
      some (Duration.ofSeconds (min (Nat.fib n * 60) 600)) := by
    rw [after_eq]
    exact congrArg Prod.fst hanswer
  rw [(requeue_visit _ v).1, hdelay, outcome_after]

theorem failuresInARow_own (earlier : List Visit) :
    failuresInARow v.key ((earlier.filter fun u => u.key = v.key).map c.attempt) =
      failuresInARow v.key (earlier.map c.attempt) := by
  rw [← failuresInARow_filter v.key (earlier.map c.attempt), List.filter_map]
  rfl

/-- Over visits to any resources in any order, what a step comes to hangs on the visit alone. It
sends the state as one patch exactly when the pass made another one and the patch can be formed,
which admitted names make sure of. After the n-th failure of a resource in a row the delay is the
n-th Fibonacci number of minutes, up to ten minutes, and it would be the same without all visits to
other resources. -/
theorem requeues_follow_runs (policy : ProbePolicy) (interval : Duration) (earlier : List Visit)
    (v : Visit) :
    let start := fresh policy interval
    let step := (start.after earlier).visit v
    let n := failuresInARow v.key (earlier.map start.attempt) + 1
    step.1 = (start.visit v).1 ∧
    (AdmittedNames v.key.inNamespace v.key.name → (v.patch policy).isFormed = true) ∧
    step.1.requests.filter (fun request => request.method = "PATCH") =
      (if v.Changes policy ∧ (v.patch policy).isFormed = true then [v.patch policy] else []) ∧
    v.Ends policy interval step.1.result ∧
    step.2.1 =
      (if step.1.failed then some (Duration.ofSeconds (min (Nat.fib n * 60) 600)) else none) ∧
    ((start.after (earlier.filter fun u => u.key = v.key)).visit v).2.1 = step.2.1 := by
  intro start step n
  have houtcome : step.1 = (start.visit v).1 := start.outcome_after v earlier
  refine ⟨houtcome, fun h => h.isFormed_patchStatus _, ?_, ?_, ?_, ?_⟩
  · rw [houtcome]
    exact start.patches_visit v
  · rw [houtcome]
    exact start.ends_visit v
  · rw [houtcome]
    exact delay_after v policy interval earlier
  · rw [delay_after, failuresInARow_own]
    exact (delay_after v policy interval earlier).symm

/-- A visit to a resource of that name that has no state yet. There is no secret in the cluster, and
patches fail like that, if they do. -/
def visitWithoutState (name : String) (patchFailure : Option ClusterFailure) : Visit where
  key := ⟨"dynatrace", name⟩
  resource :=
    { metadata := { name := some name, inNamespace := some "dynatrace" }
      spec := { apiUrl := "https://abc12345.live.dynatrace.com/api", tokens := some "tokens" } }
  key?_eq := rfl
  no_slash := by
    change '/' ∉ "dynatrace".toList
    decide
  clock := .still Instant.newYear
  cluster := { secret := fun _ name => .error (.refused (.secretNotFound name)), patchFailure }
  tenants := fun _ _ => .ok (Client.withoutToken "")

theorem key_visitWithoutState (name : String) (patchFailure : Option ClusterFailure) :
    (visitWithoutState name patchFailure).key = ⟨"dynatrace", name⟩ := rfl

/-- The third refusal in a row of a patch for one resource, with a refusal for another one between,
and a visit to a third one. -/
theorem requeues_follow_runs_third :
    let policy : ProbePolicy := { timeout := Duration.ofSeconds 30 }
    let interval := Duration.ofSeconds 900
    let conflict : ClusterFailure :=
      .refused { message := "stale", reason := "Conflict", code := 409 }
    let refused := visitWithoutState "dynakube" (some conflict)
    let earlier := [refused, visitWithoutState "other" (some conflict), refused,
      visitWithoutState "third" none]
    let step := ((fresh policy interval).after earlier).visit refused
    AdmittedNames refused.key.inNamespace refused.key.name ∧
    step.1.requests.filter (fun request => request.method = "PATCH") = [refused.patch policy] ∧
    refused.Ends policy interval step.1.result ∧
    step.2.1 = some (Duration.ofSeconds 120) := by
  intro policy interval conflict refused earlier step
  have hadmitted : AdmittedNames refused.key.inNamespace refused.key.name := by
    constructor
    · exact List.all_eq_true.mp (by decide)
    · exact List.all_eq_true.mp (by decide)
    · decide
    · decide
    · decide
  have hchanges : ∀ name, (visitWithoutState name (some conflict)).Changes policy := fun _ =>
    Visit.changes_of_status_eq_none _ _ rfl
  have hfailed : ∀ name,
      ((fresh policy interval).visit (visitWithoutState name (some conflict))).1.failed = true := by
    intro name
    have hisOk := ((fresh policy interval).ends_visit _).isOk_eq_false (hchanges name) rfl
    rw [StepOutcome.failed, hisOk]
    rfl
  have hcount : failuresInARow refused.key (earlier.map (fresh policy interval).attempt) = 2 := by
    simp [failuresInARow, attempt, earlier, refused, hfailed, key_visitWithoutState]
  obtain ⟨houtcome, hformed, hpatches, hends, hdelay, -⟩ :=
    requeues_follow_runs policy interval earlier refused
  simp only [step]
  refine ⟨hadmitted, ?_, hends, ?_⟩
  · exact hpatches.trans (if_pos ⟨hchanges _, hformed hadmitted⟩)
  · rw [hcount, houtcome, if_pos (hfailed _)] at hdelay
    exact hdelay.trans (congrArg some (by decide))

/-- A name with a blank in it forms no request: there is another state, but nothing is sent. -/
theorem sends_nothing_for_blank_name :
    let policy : ProbePolicy := { timeout := Duration.ofSeconds 30 }
    let start := fresh policy (Duration.ofSeconds 900)
    let v := visitWithoutState "a b" none
    v.Changes policy ∧ ¬ ∃ request ∈ (start.visit v).1.requests, request.method = "PATCH" := by
  intro policy start v
  have hunformed : ∀ change,
      (ClusterRequest.patchStatus "dynatrace" "a b" change).isFormed = false := by
    intro change
    have hnull : (ClusterRequest.patchStatus "dynatrace" "a b" .null).isFormed = false := by decide
    exact hnull
  refine ⟨v.changes_of_status_eq_none policy rfl, ?_⟩
  rintro ⟨request, hrequest, hmethod⟩
  have hpatches := start.patches_visit v
  rw [if_neg fun h => Bool.noConfusion ((hunformed _).symm.trans h.2)] at hpatches
  exact List.filter_eq_nil_iff.mp hpatches request hrequest (decide_eq_true hmethod)

end Controller

end VersionOperator
