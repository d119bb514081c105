import VersionOperator.Cluster.Store
import VersionOperator.Controller.SpecChange

/-!
The controller at work over the objects of a cluster. An object that brings something new, and every
pass that ends, asks for another pass at a certain time; the pass is put off by the debounce, so
that changes in quick succession make one pass. Times are thousandths of a second since the start.
-/

namespace VersionOperator

/-- By how much a pass is put off, so that further changes can join it. -/
def debounce : Nat := 5000

abbrev Schedule := List (ObjectKey × Nat)

namespace Schedule

def time? (key : ObjectKey) (schedule : Schedule) : Option Nat :=
  (List.find? (fun entry => entry.1 = key) schedule).map Prod.snd

def cancel (key : ObjectKey) (schedule : Schedule) : Schedule :=
  List.filter (fun entry => entry.1 ≠ key) schedule

/-- A pass asked for at a time. One that is to come then or later moves; one that is to come before
stays, and the new one is dropped. -/
def request (key : ObjectKey) (time : Nat) (schedule : Schedule) : Schedule :=
  match schedule.time? key with
  | some planned =>
    if time ≤ planned then (key, time + debounce) :: schedule.cancel key else schedule
  | none => (key, time + debounce) :: schedule

def first? : Schedule → Option (ObjectKey × Nat)
  | [] => none
  | entry :: rest =>
    match first? rest with
    | some later => if later.2 < entry.2 then some later else some entry
    | none => some entry

end Schedule

inductive Incident where
  | put (key : ObjectKey) (document : Json)
  | delete (key : ObjectKey)
  | secrets (secrets : SecretStore)
  | patchFailure (failure : Option ClusterFailure)

/-- The cluster and the controller at work in it: the objects and secrets, whether patches fail,
what the controller has seen and plans, and the requests so far with their times, the latest first.
-/
structure Watch where
  watched : Option String
  start : Instant
  tenants : Tenants
  controller : Controller
  store : Store := []
  secrets : SecretStore := []
  patchFailure : Option ClusterFailure := none
  seen : Generations ObjectKey := []
  schedule : Schedule := []
  log : List (Nat × ClusterRequest) := []

namespace Watch

def sees (w : Watch) (key : ObjectKey) : Bool :=
  match w.watched with
  | some inNamespace => key.inNamespace = inNamespace
  | none => true

def arrive (w : Watch) (time : Nat) (key : ObjectKey) : Watch :=
  match w.store.resource? key with
  | some dk =>
    if w.sees key then
      let (isNew, seen) := w.seen.arrive key dk.metadata.generation
      { w with
        seen
        schedule := if isNew then w.schedule.request key time else w.schedule }
    else w
  | none => w

/-- Something happens to the cluster. A deleted object asks for no pass. -/
def incident (w : Watch) (time : Nat) : Incident → Watch
  | .put key document => { w with store := w.store.put key document }.arrive time key
  | .delete key => { w with store := w.store.delete key }
  | .secrets secrets => { w with secrets }
  | .patchFailure failure => { w with patchFailure := failure }

def cluster (w : Watch) : Cluster where
  secret := w.secrets.read
  patchFailure := w.patchFailure

/-- The pass planned over an object, which takes no time. Nothing is done when the object is gone. A
state that was written comes back as a change of the object. -/
def runPass (w : Watch) (time : Nat) (key : ObjectKey) : Watch :=
  let w := { w with schedule := w.schedule.cancel key }
  match w.store.resource? key with
  | none => w
  | some dk =>
    let (outcome, retry, controller) :=
      w.controller.step (.still (w.start.plusNanos (time * 1000000))) w.cluster w.tenants dk
    let w := { w with
      controller
      log := (outcome.requests.map (time, ·)).reverse ++ w.log }
    let w := match outcome.written with
      | some change => { w with store := w.store.patch key change }.arrive time key
      | none => w
    let delay := match outcome.result with
      | .ok interval => interval
      | .error _ => retry.getD Duration.zero
    { w with schedule := w.schedule.request key (time + delay.nanos / 1000000) }

/-- Incidents and passes in the order of their times, incidents before passes of the same time,
until the end, which no pass reaches. The first argument bounds their number. -/
def run (horizon : Nat) : Nat → List (Nat × Incident) → Watch → Watch
  | 0, _, w => w
  | steps + 1, incidents, w =>
    match incidents, w.schedule.first? with
    | (time, i) :: rest, some (key, planned) =>
      if time ≤ planned then
        if time < horizon then run horizon steps rest (w.incident time i) else w
      else if planned < horizon then run horizon steps incidents (w.runPass planned key)
      else w
    | (time, i) :: rest, none =>
      if time < horizon then run horizon steps rest (w.incident time i) else w
    | [], some (key, planned) =>
      if planned < horizon then run horizon steps [] (w.runPass planned key) else w
    | [], none => w

/-- The requests to the API server up to the end, with their times. Two passes over one object lie
at least the debounce apart, which bounds the number of steps. -/
def requestsUntil (horizon : Nat) (initial : List (ObjectKey × Json))
    (incidents : List (Nat × Incident)) (w : Watch) : List (Nat × ClusterRequest) :=
  let opening := initial.map fun (key, document) => (0, Incident.put key document)
  let all := opening ++ incidents
  let steps := all.length + all.length * (horizon / debounce + 1)
  (run horizon steps all w).log.reverse

end Watch

end VersionOperator
