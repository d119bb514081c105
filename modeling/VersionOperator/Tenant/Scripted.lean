import VersionOperator.Tenant.Client

namespace VersionOperator.Tenant

/-- The answers of a script, the latest for a question in front. What it does not cover is not
found. A version may be scripted to fail with a message, an image only to be there. -/
structure Script where
  agentVersions : List (Installer × Except String String) := []
  gatewayVersion : Option (Except String String) := none
  images : List (ImageSubject × LatestImage) := []

def scriptedFailure (message : String) : Error :=
  .api 500 message

def notScripted (message : String) : Error :=
  .api 404 message

def scriptedFor? {κ α : Type} [DecidableEq κ] (key : κ) (entries : List (κ × α)) : Option α :=
  (entries.find? fun entry => entry.1 = key).map Prod.snd

def scriptedVersion (scripted : Option (Except String String)) (missing : String) :
    Timed (Except Error String) :=
  Timed.now <| match scripted with
    | some result => result.mapError scriptedFailure
    | none => .error (notScripted missing)

def Script.client (script : Script) : Client where
  agentVersion installer :=
    scriptedVersion (scriptedFor? installer script.agentVersions)
      ("no agent version scripted for " ++ platform ++ "/" ++ installer.word)
  gatewayVersion :=
    scriptedVersion script.gatewayVersion ("no ActiveGate version scripted for " ++ platform)
  latestImage subject :=
    Timed.now <| match scriptedFor? subject script.images with
      | some image => .ok image
      | none => .error (notScripted ("no " ++ subject.word ++ " image scripted"))

end VersionOperator.Tenant
