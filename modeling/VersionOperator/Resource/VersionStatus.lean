import VersionOperator.Resource.Condition

namespace VersionOperator

inductive VersionSource where
  | tenantRegistry
  | customImage
  | customVersion
deriving DecidableEq

namespace VersionSource

/-- The word for a source; that for a pinned image also stands in the place of its version. -/
def word : VersionSource → String
  | tenantRegistry => "tenant-registry"
  | customImage => "custom-image"
  | customVersion => "custom-version"

def ofWord? (word : String) : Option VersionSource :=
  if word = "tenant-registry" then some .tenantRegistry
  else if word = "custom-image" then some .customImage
  else if word = "custom-version" then some .customVersion
  else none

end VersionSource

/-- The record about one component. The record of a component that is not asked for has nothing in
it. -/
structure VersionStatus where
  version : String := ""
  image : String := ""
  source : Option VersionSource := none
  lastProbe : Option Instant := none
deriving DecidableEq

namespace VersionStatus

def isEmpty (s : VersionStatus) : Bool :=
  s.version = "" && s.image = ""

/-- The time of the last look-up after one more of them: it never moves back. -/
def stampAt (s : VersionStatus) (now : Instant) : Instant :=
  match s.lastProbe with
  | some recorded => recorded.later now
  | none => now

def markProbed (s : VersionStatus) (source : VersionSource) (now : Instant) : VersionStatus :=
  { s with source := some source, lastProbe := some (s.stampAt now) }

end VersionStatus

structure DynaKubeStatus where
  activeGate : VersionStatus := {}
  oneAgent : VersionStatus := {}
  codeModules : VersionStatus := {}
  conditions : Ledger := []
deriving DecidableEq

namespace DynaKubeStatus

def record (s : DynaKubeStatus) : ComponentKind → VersionStatus
  | .activeGate => s.activeGate
  | .oneAgent => s.oneAgent
  | .codeModules => s.codeModules

def withRecord (s : DynaKubeStatus) (kind : ComponentKind) (r : VersionStatus) : DynaKubeStatus :=
  match kind with
  | .activeGate => { s with activeGate := r }
  | .oneAgent => { s with oneAgent := r }
  | .codeModules => { s with codeModules := r }

@[simp] theorem record_withRecord_self (s : DynaKubeStatus) (kind : ComponentKind)
    (r : VersionStatus) : (s.withRecord kind r).record kind = r := by
  cases kind <;> rfl

theorem record_withRecord_of_ne (s : DynaKubeStatus) {kind other : ComponentKind}
    (h : other ≠ kind) (r : VersionStatus) :
    (s.withRecord kind r).record other = s.record other := by
  cases kind <;> cases other <;> first | rfl | exact absurd rfl h

@[simp] theorem conditions_withRecord (s : DynaKubeStatus) (kind : ComponentKind)
    (r : VersionStatus) : (s.withRecord kind r).conditions = s.conditions := by
  cases kind <;> rfl

end DynaKubeStatus

end VersionOperator
