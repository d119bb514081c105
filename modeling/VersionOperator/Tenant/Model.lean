namespace VersionOperator.Tenant

def platform : String := "unix"

/-- The two installers: the whole host agent, and the modules alone. -/
inductive Installer where
  | host
  | modules
deriving DecidableEq

def Installer.word : Installer → String
  | host => "default"
  | modules => "paas"

/-- The components whose image the tenant can name. -/
inductive ImageSubject where
  | oneAgent
  | activeGate
deriving DecidableEq

def ImageSubject.word : ImageSubject → String
  | oneAgent => "oneagent"
  | activeGate => "activegate"

structure LatestImage where
  source : String
  tag : String
deriving DecidableEq

def LatestImage.uri (image : LatestImage) : String :=
  image.source ++ ":" ++ image.tag

inductive Query where
  | agentVersion (installer : Installer)
  | gatewayVersion
  | latestImage (subject : ImageSubject)
deriving DecidableEq

end VersionOperator.Tenant
