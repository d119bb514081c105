import VersionOperator.Resolution.Component
import VersionOperator.Resolution.Report

/-!
The version pass over one component. A component that is not asked for loses its record. A pinned
image is taken as it is. Otherwise a candidate is looked up when that is due, and taken over unless
the component finds it older than what is on record. Only a pass that got that far moves the probe
time; a pass that fails before leaves the record as it was and tells why in the ledger.
-/

namespace VersionOperator

/-- How often and how long a component is looked up: the least age of the last probe before the next
one, if there is such a limit, and the longest wait for an answer. -/
structure ProbePolicy where
  threshold : Option Duration := none
  timeout : Duration

/-- What a pass reads and writes: the record of the component and the ledger of the resource. -/
structure Entry where
  status : VersionStatus
  conditions : Ledger
deriving DecidableEq

/-- What a pass leaves: the entry, whether a candidate was looked up, and how it ended. -/
structure PassOutcome where
  entry : Entry
  probed : Bool
  result : Except VersionError Unit

namespace Component

/-- Whether so much time has passed since the last probe. A probe time in the future has not passed
at all. -/
def thresholdPassed (threshold : Duration) (lastProbe now : Instant) : Bool :=
  (threshold.nanos : Int) ≤ now.nanosSince lastProbe

/-- Whether a candidate is to be looked up. A pinned version always is, and so is a component with
nothing on record or with a record from another source. Otherwise it has to follow the tenant, and
the last probe has to be old enough. -/
def isDue (c : Component) (policy : ProbePolicy) (now : Instant) (recorded : VersionStatus) :
    Bool :=
  if c.source = .customVersion then true
  else if recorded.isEmpty || recorded.source ≠ some c.source then true
  else if !c.autoUpdate then false
  else
    match policy.threshold, recorded.lastProbe with
    | some threshold, some lastProbe => thresholdPassed threshold lastProbe now
    | _, _ => true

/-- The candidate, if it comes in time. One that comes just at the end of the wait is in time. -/
def candidate (c : Component) (policy : ProbePolicy) : Except VersionError VersionStatus :=
  if c.probe.delay ≤ policy.timeout then c.probe.result
  else .error (.probeTimeout c.name policy.timeout.seconds)

/-- Whether the record is kept because the candidate is older. A pinned version may move either way,
and a candidate without version is not compared. -/
def keepsRecord (c : Component) (recorded candidate : VersionStatus) : Except VersionError Bool :=
  if c.source = .tenantRegistry ∧ candidate.version ≠ "" then
    c.isDowngrade recorded candidate.version
  else .ok false

/-- The entry with a failure told in the ledger; the record is as it was. -/
def withFailure (c : Component) (error : VersionError) (now : Instant) (entry : Entry) : Entry :=
  { entry with conditions := entry.conditions.put (.failed c.kind error now) }

def pinned (c : Component) (image : String) (now : Instant) (entry : Entry) : Entry :=
  { status := { entry.status with image, version := VersionSource.customImage.word }
    conditions := entry.conditions.put (.verificationSkipped c.kind now) }

/-- The entry of a component that keeps its record although the tenant has another version. -/
def kept (c : Component) (candidate : VersionStatus) (now : Instant) (entry : Entry) : Entry :=
  { entry with
    conditions := entry.conditions.put
      (.downgradeSkipped c.kind entry.status.version candidate.version now) }

/-- The entry of a component that takes a candidate over. The time of the last probe stays, until
the pass sets it. -/
def adopted (c : Component) (candidate : VersionStatus) (now : Instant) (entry : Entry) : Entry :=
  { status := { candidate with lastProbe := entry.status.lastProbe }
    conditions := entry.conditions.put <|
      if c.source = .customVersion then .verificationSkipped c.kind now
      else .verified c.kind candidate.version now }

/-- The entry after looking a candidate up, before the probe time is set. -/
def resolve (c : Component) (policy : ProbePolicy) (now : Instant) (entry : Entry) :
    Except VersionError Entry :=
  match c.candidate policy with
  | .error error => .error error
  | .ok candidate =>
    match c.keepsRecord entry.status candidate with
    | .error error => .error error
    | .ok true => .ok (c.kept candidate now entry)
    | .ok false => .ok (c.adopted candidate now entry)

/-- The end of a pass that has settled on a version: source and probe time are set, and the record
is checked. A record that does not pass stays, with the failure in the ledger. -/
def settle (c : Component) (now : Instant) (probed : Bool) (entry : Entry) : PassOutcome :=
  let entry := { entry with status := entry.status.markProbed c.source now }
  match c.validate entry.status with
  | .ok () => ⟨entry, probed, .ok ()⟩
  | .error error => ⟨c.withFailure error now entry, probed, .error error⟩

def pass (c : Component) (policy : ProbePolicy) (now : Instant) (entry : Entry) : PassOutcome :=
  if !c.enabled then ⟨⟨{}, entry.conditions.clear c.kind⟩, false, .ok ()⟩
  else if c.source = .customImage then
    c.settle now false (c.pinned (c.customImage.getD "") now entry)
  else if c.isDue policy now entry.status then
    match c.resolve policy now entry with
    | .ok resolved => c.settle now true resolved
    | .error error => ⟨c.withFailure error now entry, true, .error error⟩
  else ⟨entry, false, .ok ()⟩

end Component

end VersionOperator
