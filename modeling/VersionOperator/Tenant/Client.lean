import VersionOperator.Tenant.Error
import VersionOperator.Tenant.Model
import VersionOperator.Time.Duration

namespace VersionOperator.Tenant

/-- A value and the time that passes before it is there. -/
structure Timed (α : Type) where
  delay : Duration
  value : α

def Timed.now {α : Type} (value : α) : Timed α :=
  ⟨Duration.zero, value⟩

/-- A result that is looked at further once it is there; an error stays as it is. -/
def Timed.andThen {ε α β : Type} (result : Timed (Except ε α)) (next : α → Except ε β) :
    Timed (Except ε β) :=
  ⟨result.delay,
    match result.value with
    | .ok a => next a
    | .error e => .error e⟩

structure Client where
  agentVersion : Installer → Timed (Except Error String)
  gatewayVersion : Timed (Except Error String)
  latestImage : ImageSubject → Timed (Except Error LatestImage)

/-- The client that stands in when there is no token: every question fails, and says why there is
none. -/
def Client.withoutToken (reason : String) : Client :=
  let refusal := Error.authentication ("no usable API token: " ++ reason)
  { agentVersion := fun _ => Timed.now (.error refusal)
    gatewayVersion := Timed.now (.error refusal)
    latestImage := fun _ => Timed.now (.error refusal) }

end VersionOperator.Tenant
