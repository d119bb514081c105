import VersionOperator.Proofs.Resolution.Components
import VersionOperator.Tenant.Http

namespace VersionOperator

open Tenant

def Instant.newYear : Instant :=
  ((Date.of? 2024 1 1).bind fun date => Instant.ofClock? date 0 0 0 0).get rfl

/-- A tenant that has the same version, or image tag, for whatever it is asked. -/
def Tenant.Client.naming (version : String) : Client where
  agentVersion _ := Timed.now (.ok version)
  gatewayVersion := Timed.now (.ok version)
  latestImage _ := Timed.now (.ok ⟨"tenant.example/linux/oneagent", version⟩)

/-- One pass of a run: the resource as it is declared at that time, how components are looked up,
what the clock shows to each of them, and how the tenant answers. Between two passes all of that may
change; the state alone is carried from pass to pass. -/
structure Round where
  metadata : Metadata
  spec : DynaKubeSpec
  policy : ProbePolicy
  clock : Clock
  client : Client

namespace Round

variable (r : Round) (status : Option DynaKubeStatus) (kind : ComponentKind)

def resource : DynaKube where
  metadata := r.metadata
  spec := r.spec
  status := status

def resolve : Resolution :=
  resolveVersions r.policy r.clock (r.resource status) r.client

/-- A component in the round. The state has no say in what it is. -/
def component : Component :=
  Component.ofKind (r.resource none) r.client kind

def attend (entry : Entry) : PassOutcome :=
  (r.component kind).pass r.policy (r.clock kind) entry

@[simp] theorem kind_component : (r.component kind).kind = kind :=
  Component.kind_ofKind _ _ kind

theorem ofKind_resource :
    Component.ofKind (r.resource status) r.client kind = r.component kind := by
  cases kind <;> rfl

theorem componentPass_resource :
    componentPass r.policy r.clock (r.resource status) r.client kind =
      r.attend kind ((status.getD {}).entry kind) := by
  rw [componentPass, ofKind_resource]
  rfl

theorem entry_resolve :
    ((r.resolve status).status.entry kind).Alike kind
      (r.attend kind ((status.getD {}).entry kind)).entry := by
  rw [← componentPass_resource]
  exact entry_resolveVersions _ _ _ _ kind

theorem record_resolve :
    (r.resolve status).status.record kind =
      (r.attend kind ((status.getD {}).entry kind)).entry.status :=
  (r.entry_resolve status kind).status

variable {kind}

theorem mem_failures_resolve_iff {failure : String × VersionError} :
    failure ∈ (r.resolve status).failures ↔
      ∃ kind, failure.1 = kind.name ∧
        (r.attend kind ((status.getD {}).entry kind)).result = .error failure.2 := by
  simp only [← componentPass_resource]
  exact mem_failures_resolveVersions_iff _ _ _ _

theorem reports_resolve_iff :
    (r.resolve status).Reports kind ↔
      ∃ error, (r.attend kind ((status.getD {}).entry kind)).result = .error error := by
  rw [← componentPass_resource]
  exact reports_resolveVersions_iff _ _ _ _

theorem not_reports_resolve_iff :
    ¬ (r.resolve status).Reports kind ↔
      (r.attend kind ((status.getD {}).entry kind)).result = .ok () := by
  rw [reports_resolve_iff]
  cases (r.attend kind ((status.getD {}).entry kind)).result <;> simp

theorem result_resolve_eq_ok_iff :
    (r.resolve status).result = .ok () ↔
      ∀ kind, (r.attend kind ((status.getD {}).entry kind)).result = .ok () := by
  rw [resolve, result_resolveVersions_eq_ok_iff]
  apply forall_congr'
  intro kind
  rw [componentPass_resource]

theorem result_resolve_of_one {error : VersionError}
    (herror : (r.attend kind ((status.getD {}).entry kind)).result = .error error)
    (hothers : ∀ other, other ≠ kind →
      (r.attend other ((status.getD {}).entry other)).result = .ok ()) :
    (r.resolve status).result = .error (.components [(kind.name, error)]) := by
  apply result_resolveVersions_of_one
  · rw [componentPass_resource]
    exact herror
  · intro other h
    rw [componentPass_resource]
    exact hothers other h

/-- In the round the resource asks for a host agent and pins neither its image nor its version. -/
structure FollowsTenant (r : Round) : Prop where
  hostAgent : (r.resource none).hostAgent?.isSome = true
  image : (r.resource none).oneAgentCustomImage? = none
  version : (r.resource none).oneAgentCustomVersion? = none

theorem followsTenant_iff {r : Round} :
    r.FollowsTenant ↔
      (r.component .oneAgent).enabled = true ∧
        (r.component .oneAgent).source = .tenantRegistry := by
  rw [Component.source_eq_tenantRegistry_iff]
  constructor
  · rintro ⟨henabled, himage, hversion⟩
    exact ⟨henabled, himage, hversion⟩
  · rintro ⟨henabled, himage, hversion⟩
    exact ⟨henabled, himage, hversion⟩

/-- In the round the tenant is asked over HTTP, at some URL, with some token, over some network. -/
def OverHttp (r : Round) : Prop :=
  ∃ transport complaint baseUrl token, r.client = httpClient transport complaint baseUrl token

theorem result_attend_of_alike {a b : Entry} (h : a.Alike kind b) :
    (r.attend kind a).result = (r.attend kind b).result :=
  (r.component kind).result_pass_of_alike (r.clock kind) r.policy (by simpa using h)

theorem conditions_resolve
    (hsilent : ∀ (kind : ComponentKind) (entry : Entry),
      entry.Alike kind ((status.getD {}).entry kind) →
        (r.attend kind entry).entry.conditions = entry.conditions) :
    (r.resolve status).status.conditions = (status.getD {}).conditions := by
  apply conditions_resolveVersions
  intro kind entry hentry
  rw [ofKind_resource]
  exact hsilent kind entry hentry

/-- A round some minutes into a year, in which nothing but a host agent in the classic mode is asked
for. -/
def classic (host : HostAgent) (client : Client) (minutes : Int) : Round where
  metadata := {}
  spec :=
    { apiUrl := "https://tenant.example/api"
      oneAgent := { classicFullStack := some host } }
  policy := { timeout := Duration.ofSeconds 30 }
  clock := .still (Instant.newYear.plusMinutes minutes)
  client := client

end Round

def statusAfter : Option DynaKubeStatus → List Round → Option DynaKubeStatus
  | status, [] => status
  | status, r :: rest => statusAfter (some (r.resolve status).status) rest

theorem statusAfter_append (status : Option DynaKubeStatus) (earlier later : List Round) :
    statusAfter status (earlier ++ later) = statusAfter (statusAfter status earlier) later := by
  induction earlier generalizing status with
  | nil => rfl
  | cons r rest ih => exact ih _

theorem statusAfter_concat (status : Option DynaKubeStatus) (rounds : List Round) (r : Round) :
    statusAfter status (rounds ++ [r]) = some (r.resolve (statusAfter status rounds)).status := by
  rw [statusAfter_append]
  rfl

theorem exists_statusAfter (s : DynaKubeStatus) (rounds : List Round) :
    ∃ a, statusAfter (some s) rounds = some a := by
  induction rounds generalizing s with
  | nil => exact ⟨s, rfl⟩
  | cons r rest ih => exact ih _

/-- What every pass over a component keeps, a run keeps: a statement on entries that does not tell
alike ones apart holds after the run if it holds before. -/
theorem invariant_statusAfter (kind : ComponentKind) {P : Entry → Prop}
    (halike : ∀ {a b : Entry}, a.Alike kind b → P b → P a) {rounds : List Round}
    (hpass : ∀ r ∈ rounds, ∀ entry, P entry → P (r.attend kind entry).entry)
    {status : Option DynaKubeStatus} (hstart : P ((status.getD {}).entry kind)) :
    P (((statusAfter status rounds).getD {}).entry kind) := by
  induction rounds generalizing status with
  | nil => exact hstart
  | cons r rest ih =>
    apply ih
    · intro later hlater
      exact hpass later (List.mem_cons_of_mem _ hlater)
    · exact halike (r.entry_resolve status kind) (hpass r List.mem_cons_self _ hstart)

theorem record_invariant_statusAfter (kind : ComponentKind) {P : VersionStatus → Prop}
    {rounds : List Round}
    (hpass : ∀ r ∈ rounds, ∀ entry : Entry, P entry.status → P (r.attend kind entry).entry.status)
    {status : Option DynaKubeStatus} (hstart : P ((status.getD {}).record kind)) :
    P (((statusAfter status rounds).getD {}).record kind) := by
  refine invariant_statusAfter kind (P := fun entry => P entry.status) ?_ hpass hstart
  intro a b halike hb
  rwa [halike.status]

end VersionOperator
