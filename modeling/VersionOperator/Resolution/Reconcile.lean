import VersionOperator.Resolution.Pass

namespace VersionOperator

open Tenant

/-- What the clock shows to the pass over each component. -/
abbrev Clock := ComponentKind → Instant

/-- The clock that shows the same time to all passes. -/
def Clock.still (now : Instant) : Clock :=
  fun _ => now

/-- What the passes so far have made of the state: the state, the questions asked, and the failures,
each in order. -/
structure Progress where
  status : DynaKubeStatus
  asked : List Query := []
  failures : List (String × VersionError) := []

namespace Progress

def entry (p : Progress) (kind : ComponentKind) : Entry :=
  ⟨p.status.record kind, p.status.conditions⟩

def step (policy : ProbePolicy) (clock : Clock) (p : Progress) (c : Component) : Progress :=
  let outcome := c.pass policy (clock c.kind) (p.entry c.kind)
  { status :=
      { p.status.withRecord c.kind outcome.entry.status with
        conditions := outcome.entry.conditions }
    asked := if outcome.probed then p.asked ++ c.probe.asked else p.asked
    failures := match outcome.result with
      | .ok () => p.failures
      | .error error => p.failures ++ [(c.name, error)] }

end Progress

/-- What a version pass over a resource comes to: the state after it, whether that is another one
than before, the questions asked of the tenant, and how it ended. A resource without state always
gets another one. -/
structure Resolution where
  status : DynaKubeStatus
  changed : Bool
  asked : List Query
  result : Except VersionError Unit

/-- The components of a resource in the given order, one pass over each. -/
def passes (policy : ProbePolicy) (clock : Clock) (dk : DynaKube) (client : Client)
    (order : List ComponentKind) : Progress :=
  (order.map (Component.ofKind dk client)).foldl (Progress.step policy clock)
    { status := dk.status.getD {} }

def resolveVersions (policy : ProbePolicy) (clock : Clock) (dk : DynaKube) (client : Client) :
    Resolution :=
  let done := passes policy clock dk client ComponentKind.all
  { status := done.status
    changed := dk.status ≠ some done.status
    asked := done.asked
    result := if done.failures.isEmpty then .ok () else .error (.components done.failures) }

end VersionOperator
