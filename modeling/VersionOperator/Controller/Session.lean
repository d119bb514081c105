import VersionOperator.Cluster.Store

namespace VersionOperator

structure Session where
  controller : Controller
  store : Store := []

namespace Session

def stored (store : Store) (dk : DynaKube) (outcome : StepOutcome) : Store :=
  match dk.key?, outcome.written with
  | some key, some change => store.patch key change
  | _, _ => store

/-- One step over a resource. One without a name is in no store, and is taken as it is given. -/
def step (s : Session) (clock : Clock) (cluster : Cluster) (tenants : Tenants)
    (dk : DynaKube) : StepOutcome × Option Duration × Session :=
  let (outcome, retry, controller) := s.controller.step clock cluster tenants dk
  (outcome, retry, { controller, store := stored s.store dk outcome })

end Session

end VersionOperator
