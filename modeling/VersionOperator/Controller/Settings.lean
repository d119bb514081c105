import VersionOperator.Controller.Error
import VersionOperator.Text.Blank
import VersionOperator.Text.Natural
import VersionOperator.Time.Duration

namespace VersionOperator

/-- The settings: the one namespace to watch, if it is one, the least age of a probe before the
next, the longest wait for an answer, and the time between two passes over a resource. -/
structure Settings where
  watchNamespace : Option String
  probeThreshold : Option Duration
  probeTimeout : Duration
  reconcileInterval : Duration
deriving DecidableEq

namespace Settings

def defaultProbeTimeout : Duration := Duration.ofSeconds 30

def defaultInterval : Duration := Duration.ofSeconds 900

def namespaceKey : String := "WATCH_NAMESPACE"

def thresholdKey : String := "VERSION_PROBE_THRESHOLD_SECONDS"

def timeoutKey : String := "VERSION_PROBE_TIMEOUT_SECONDS"

def intervalKey : String := "RECONCILE_INTERVAL_SECONDS"

def seconds (env : String → Option String) (key : String) :
    Except ControllerError (Option Duration) :=
  match Text.presentText? (env key) with
  | none => .ok none
  | some value =>
    match Text.readNatural? Text.wordLimit (Text.trim value.toList) with
    | some n => .ok (some (Duration.ofSeconds n))
    | none =>
      .error (.invalidConfig (key ++ " must be a number of seconds, got '" ++ value ++ "'"))

def positive (key : String) (d : Duration) : Except ControllerError Unit :=
  if d = Duration.zero then .error (.invalidConfig (key ++ " must be greater than 0")) else .ok ()

/-- The settings that the variables give. All of them are read before any is checked. -/
def read (env : String → Option String) : Except ControllerError Settings := do
  let probeThreshold ← seconds env thresholdKey
  let timeout ← seconds env timeoutKey
  let interval ← seconds env intervalKey
  let probeTimeout := timeout.getD defaultProbeTimeout
  let reconcileInterval := interval.getD defaultInterval
  positive timeoutKey probeTimeout
  positive intervalKey reconcileInterval
  return {
    watchNamespace := Text.presentText? (env namespaceKey)
    probeThreshold
    probeTimeout
    reconcileInterval }

end Settings

end VersionOperator
