import VersionOperator.Json.Reader
import VersionOperator.Resource.Fields
import VersionOperator.Tenant.Client
import VersionOperator.Text.Blank
import VersionOperator.Text.Utf8
import VersionOperator.Url.Target

namespace VersionOperator.Tenant

open Text

structure Request where
  url : String
  authorization : String
  accept : String
deriving DecidableEq

def Request.method : String := "GET"

/-- What comes back for a request: nothing at all, or a status with the bytes of the body, or with
none when the body breaks off. -/
inductive Reply where
  | nothing
  | response (status : Nat) (body : Option (List UInt8))

abbrev Transport := Request → Timed Reply

def unreachable : Transport := fun _ => Timed.now .nothing

def requestTimeout : Duration := Duration.ofSeconds 30

def awaited (reply : Timed Reply) : Timed Reply :=
  if reply.delay ≤ requestTimeout then reply else ⟨requestTimeout, .nothing⟩

def Query.path : Query → String
  | .agentVersion installer =>
    "/v1/deployment/installer/agent/" ++ platform ++ "/" ++ installer.word ++ "/latest/metainfo"
  | .gatewayVersion => "/v1/deployment/installer/gateway/" ++ platform ++ "/latest/metainfo"
  | .latestImage .oneAgent => "/v1/deployment/image/agent/oneAgent/latest"
  | .latestImage .activeGate => "/v1/deployment/image/gateway/latest"

def isHeaderValue (s : String) : Bool :=
  s.toList.all fun c => c = '\t' || (0x20 ≤ c.toNat && c.toNat ≠ 0x7F)

/-- The URL of a question: the URL of the tenant without slashes at its end, and the path. -/
def Query.url (baseUrl : String) (query : Query) : String :=
  String.ofList (dropTrailing '/' baseUrl.toList) ++ query.path

/-- The request for a question, if one can be formed: the URL has to name a host, the token has to
be the value of a header, and the URL has to be one that requests are sent to. Of several faults the
first one counts. -/
def Query.request (baseUrl token : String) (query : Query) : Except HttpFailure Request :=
  match Url.read? (query.url baseUrl) with
  | none => .error (.unformed none)
  | some url =>
    let written := String.ofList url.withoutCredentials.written
    if url.host? = none then .error (.unformed (some written))
    else if !isHeaderValue token then .error (.unformed none)
    else if url.withoutCredentials.isTarget then
      .ok ⟨written, "Api-Token " ++ token, "application/json"⟩
    else .error (.unformed (some written))

def statusPhrase? (status : Nat) : Option String :=
  if status = 401 then some "Unauthorized"
  else if status = 403 then some "Forbidden"
  else none

def statusText (status : Nat) : String :=
  toString status ++ " " ++ (statusPhrase? status).getD "<unknown status code>"

/-- The body of a good response to a question, or the error that the response comes to. -/
def Query.body (query : Query) (status : Nat) (body : String) : Except Error String :=
  if status = 401 ∨ status = 403 then
    .error <| .authentication <|
      query.path ++ " rejected the API token: " ++ statusText status ++ " - " ++ body
  else if status < 200 ∨ 300 ≤ status then
    .error (.api status ("GET " ++ query.path ++ " failed: " ++ body))
  else .ok body

def Query.received (query : Query) (request : Request) : Reply → Except Error String
  | .nothing => .error (.http (.unanswered request.url))
  | .response status body => query.body status (String.ofList (readUtf8Lenient (body.getD [])))

/-- The body of the response to a question, if it is a good one, and when it is there. A request
that cannot be formed fails at once. -/
def Query.fetch (transport : Transport) (baseUrl token : String) (query : Query) :
    Timed (Except Error String) :=
  match query.request baseUrl token with
  | .error failure => Timed.now (.error (.http failure))
  | .ok request =>
    let reply := awaited (transport request)
    ⟨reply.delay, query.received request reply.value⟩

def ofVersionJson? (name : String) (document : Json) : Option String :=
  (document.fields? 1).bind fun fields => fields.required 0 name Json.text?

def versionJson (name version : String) : Json :=
  .object [(name, .text version)]

def agentVersionField : String := "latestAgentVersion"

def gatewayVersionField : String := "latestGatewayVersion"

def LatestImage.ofJson? (document : Json) : Option LatestImage := do
  let fields ← document.fields? 2
  let source ← fields.required 0 "source" Json.text?
  let tag ← fields.required 1 "tag" Json.text?
  return { source, tag }

def LatestImage.toJson (image : LatestImage) : Json :=
  .object [("source", .text image.source), ("tag", .text image.tag)]

def memberCount (name : String) (document : Json) : Nat :=
  document.members.countP fun m => m.1 = name

/-- The document of a body, of which those names alone are looked at. None of them may stand in it
twice; what stands under other names need not make sense. -/
def readBody? (names : List String) (body : String) : Option Json :=
  (Json.readWholeIn? names.contains body).filter fun document =>
    names.all fun name => memberCount name document ≤ 1

/-- What the reader of bodies says of one that is not the document a question asks for. -/
abbrev Complaint := Query → String → String

def readVersionBody (name : String) (complaint : String → String) (body : String) :
    Except Error String :=
  match (readBody? [name] body).bind (ofVersionJson? name) with
  | none => .error (.serialization (complaint body))
  | some version =>
    if isBlankText version then .error (.invalidResponse (name ++ " is empty")) else .ok version

def readImageBody (subject : ImageSubject) (complaint : String → String) (body : String) :
    Except Error LatestImage :=
  match (readBody? ["source", "tag"] body).bind LatestImage.ofJson? with
  | none => .error (.serialization (complaint body))
  | some image =>
    if isBlankText image.source then
      .error (.invalidResponse (subject.word ++ " image source is empty"))
    else .ok image

def httpClient (transport : Transport) (complaint : Complaint) (baseUrl token : String) :
    Client where
  agentVersion installer :=
    (Query.fetch transport baseUrl token (.agentVersion installer)).andThen
      (readVersionBody agentVersionField (complaint (.agentVersion installer)))
  gatewayVersion :=
    (Query.fetch transport baseUrl token .gatewayVersion).andThen
      (readVersionBody gatewayVersionField (complaint .gatewayVersion))
  latestImage subject :=
    (Query.fetch transport baseUrl token (.latestImage subject)).andThen
      (readImageBody subject (complaint (.latestImage subject)))

end VersionOperator.Tenant
