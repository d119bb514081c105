namespace VersionOperator.Tenant

/-- Why a request had no response: it could not be formed, with the URL when there is one at all, or
nobody answered it. -/
inductive HttpFailure where
  | unformed (url : Option String)
  | unanswered (url : String)
deriving DecidableEq

def HttpFailure.message : HttpFailure → String
  | unformed none => "builder error"
  | unformed (some url) => "builder error for url (" ++ url ++ ")"
  | unanswered url => "error sending request for url (" ++ url ++ ")"

/-- Why a question to the tenant failed. A body that cannot be read comes with the complaint of its
reader. -/
inductive Error where
  | http (failure : HttpFailure)
  | api (status : Nat) (message : String)
  | authentication (message : String)
  | serialization (complaint : String)
  | invalidResponse (message : String)
deriving DecidableEq

def Error.message : Error → String
  | http failure => "HTTP error: " ++ failure.message
  | api status message =>
    "Dynatrace API error (" ++ toString status ++ "): " ++ message
  | authentication message => "Authentication failed: " ++ message
  | serialization complaint => "Serialization error: " ++ complaint
  | invalidResponse message => "Invalid response: " ++ message

end VersionOperator.Tenant
