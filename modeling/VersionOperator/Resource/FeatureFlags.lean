import VersionOperator.Text.Blank

namespace VersionOperator

abbrev Annotations := List (String × String)

structure FeatureFlags where
  disableActiveGateUpdates : Bool := false
  automaticRegistry : Bool := true
deriving DecidableEq

namespace FeatureFlags

/-- The annotation that stops the gate from following new versions. -/
def disableActiveGateUpdatesKey : String :=
  "feature.dynatrace.com/disable-activegate-updates"

/-- The annotation that decides whether images are looked up or composed. -/
def automaticRegistryKey : String :=
  "feature.dynatrace.com/automatic-registry"

/-- The truth value that a text names: true or false in ASCII letters of either case, with white
space around it. -/
def readBool? (s : String) : Option Bool :=
  let word := String.ofList (Text.lowerAscii (Text.trim s.toList))
  if word = "true" then some true else if word = "false" then some false else none

def annotation? (name : String) (annotations : Annotations) : Option String :=
  (annotations.find? fun entry => entry.1 = name).map Prod.snd

/-- The switches that the annotations set. A switch that is not set, or set to another word, has its
default. -/
def ofAnnotations (annotations : Option Annotations) : FeatureFlags :=
  let flag (name : String) (default : Bool) : Bool :=
    (((annotations.getD []) |> annotation? name).bind readBool?).getD default
  { disableActiveGateUpdates := flag disableActiveGateUpdatesKey false
    automaticRegistry := flag automaticRegistryKey true }

end FeatureFlags

end VersionOperator
