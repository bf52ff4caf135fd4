import TypedSeries.Csv.ResultTable
import TypedSeries.Engine
import TypedSeries.Http.Answer
import TypedSeries.Point

/-!
# The client of a store's server

1. A target is a fixed path and parameters, their values percent coded (`target`).
2. `Client.send` makes one request; `accept` and `decodeAnswer` judge what comes back.
3. Above them stand the operations: health, writing, queries, and creating, finding, deleting and
   listing buckets. Only the health request goes without the token.
-/

namespace TypedSeries.Http

/-- A path with its parameters. -/
def target (path : String) (parameters : List (String × String)) : String :=
  match parameters with
  | [] => path
  | _ => String.ofList (path.toList ++ '?' ::
      ['&'].intercalate (parameters.map fun p => p.1.toList ++ '=' :: Percent.encode p.2))

/-- A text without the slashes at its end. -/
def dropSlashes (s : String) : String :=
  String.ofList (s.toList.reverse.dropWhile (· = '/')).reverse

/-- Whether a text can stand in a header. -/
def isHeaderText (s : String) : Bool :=
  s.toList.all fun c => c = '\t' || (32 ≤ c.toNat && c.toNat ≠ 127)

/-- A client of one server, for one organization. -/
structure Client where
  base : String
  token : String
  organization : String
deriving DecidableEq

namespace Client

def ofEngine (e : Engine) : Client := ⟨dropSlashes e.host, e.token, e.organization⟩

/-! ## Requests -/

/-- What names the program to a server. -/
def userAgent : String × String := ("user-agent", "aluminum/0.1.0")

def authorization (c : Client) : String × String := ("authorization", "Token " ++ c.token)

/-- A fault in how a request is put together. -/
def builderFault (cause : String) : RequestFault := ⟨"builder error", cause, false⟩

/-- The fault of an address to which no request can be sent. -/
def schemeFault (u : Url) : RequestFault :=
  ⟨"builder error for url (" ++ u.toText ++ ")", "URL scheme is not allowed", false⟩

/-- A request for a target below the base, or why there can be none. -/
def request (c : Client) (m : Method) (target : String) (headers : List (String × String))
    (body : String) : Except RequestFault Request :=
  match Url.parse (c.base ++ target) with
  | .error e => .error (builderFault e.message)
  | .ok u =>
    if u.host.isNone then .error (schemeFault u)
    else if !headers.all (fun h => isHeaderText h.2) then
      .error (builderFault "failed to parse header value")
    else if !u.isHttp then .error (schemeFault u)
    else .ok ⟨m, u, headers ++ [userAgent], body⟩

/-- A request without a body that bears the token. -/
def plain (c : Client) (m : Method) (target : String) : Except RequestFault Request :=
  c.request m target [c.authorization, ("accept", "*/*")] ""

/-- A request that bears the token and JSON. -/
def withJson (c : Client) (m : Method) (target accept : String) (body : Json) :
    Except RequestFault Request :=
  c.request m target [c.authorization, ("accept", accept), ("content-type", "application/json")]
    body.toText

/-! ## Sending -/

/-- The part of the program that logs what the client does. -/
def logTarget : String := "aluminum::transport::http"

def event (level : Level) (text : String) (details : List (String × Json)) : Event :=
  ⟨level, logTarget, text, details⟩

/-- What was being done while a request was sent to an address. -/
def sending (u : Url) : String := "error sending request for url (" ++ u.toText ++ ")"

/-- The error of an address to which there is no connection. -/
def noConnection (u : Url) (cause : String) : TransportError :=
  .unavailable (sending u ++ ": error trying to connect: " ++ cause)

/-- The error of an address that closes the connection without an answer. -/
def noAnswer (u : Url) : TransportError :=
  .request ⟨sending u, "connection closed before message completed", false⟩

/-- What it means that a redirected request is lost at an address. -/
def lossError (u : Url) : Loss → TransportError
  | .refused cause => noConnection u cause
  | .dropped => noAnswer u
  | .endless => .request
    ⟨"error following redirect for url (" ++ u.toText ++ ")", "too many redirects", false⟩

/-- The answer of a reply, or what its absence means. -/
def answerOf (r : Request) : Reply → Except TransportError (Nat × Body)
  | .answer status body => .ok (status, body)
  | .refused cause => .error (noConnection r.url cause)
  | .dropped => .error (noAnswer r.url)
  | .silent => .error .timeout
  | .astray place loss => .error (lossError place loss)

/-- Make a request, if it can be made, and take its answer. -/
def answerTo (s : Server) : Except RequestFault Request →
    Conversation (Except TransportError (Nat × Body))
  | .error f => return .error (.request f)
  | .ok r => return answerOf r (← Conversation.exchange s r)

/-- Make a request for an operation and log it; a failure is logged too. -/
def send (s : Server) (operation : String) (r : Except RequestFault Request) :
    Conversation (Nat × Body) := do
  Conversation.log (event .debug "Sending store request" [("op", .text operation)])
  match ← answerTo s r with
  | .ok answer => return answer
  | .error e =>
    Conversation.log
      (event .warn "Store request failed" [("op", .text operation), ("error", .text e.message)])
    throw e

/-! ## Health -/

/-- An answer to the health request that tells of trouble in the server means that the store is
not there. -/
def healthError : TransportError → TransportError
  | .api status reason => if 500 ≤ status then .unavailable reason else .api status reason
  | e => e

/-- A credentials check that finds no organization means that the caller is not known. -/
def credentialsError (c : Client) : TransportError → TransportError
  | .api status reason =>
    if status = 400 ∨ status = 404 then
      .unauthorized ("organization " ++ c.organization ++ ": " ++ reason)
    else .api status reason
  | e => e

/-- Whether the server is well and knows the caller. The health request bears no token; listing
one bucket checks token and organization. -/
def ping (c : Client) (s : Server) : Conversation Bool := do
  let answer ← send s "health" (c.request .get "/health" [("accept", "*/*")] "")
  let body ← (accept answer).mapError healthError
  let status ← decodeBody healthOfSource? body
  if status ≠ "pass" then
    Conversation.log (event .warn "Store reports unhealthy" [("status", .text status)])
    return false
  let answer ← send s "check_org"
    (c.plain .get (target "/api/v2/buckets" [("orgID", c.organization), ("limit", "1")]))
  let _ ← (accept answer).mapError c.credentialsError
  return true

/-! ## Writing and querying -/

/-- Write points to a bucket; without points nothing is sent. -/
def write (c : Client) (s : Server) (bucket : String) (points : List Point) :
    Conversation Bool := do
  if points = [] then return true
  let answer ← send s "write" (c.request .post
    (target "/api/v2/write" [("orgID", c.organization), ("bucket", bucket), ("precision", "ns")])
    [c.authorization, ("accept", "*/*"), ("content-type", "text/plain; charset=utf-8")]
    (Point.toLines points))
  let _ ← accept answer
  Conversation.log (event .debug "Wrote points"
    [("bucket", .text bucket), ("points", .integer points.length)])
  return true

/-- The body of a query request. -/
def queryBody (query : String) : Json :=
  .object [("query", .text query), ("type", .text "flux"),
    ("dialect", .object [("header", .boolean true), ("annotations", .array []),
      ("delimiter", .text ",")])]

/-- Run query text; the rows come back under the given bucket's name. -/
def queryText (c : Client) (s : Server) (bucket query : String) : Conversation QueryOutput := do
  Conversation.log
    (event .debug "Running query" [("bucket", .text bucket), ("query", .text query)])
  let answer ← send s "query" (c.withJson .post
    (target "/api/v2/query" [("orgID", c.organization)]) "application/csv" (queryBody query))
  let body ← accept answer
  let rows ← Csv.decode (← body.read)
  return ⟨bucket, rows⟩

/-! ## Buckets -/

/-- The body of a request for a new bucket: its schema travels as the description. -/
def createBody (c : Client) (name : String) (schema : Schema) : Json :=
  .object [("orgID", .text c.organization), ("name", .text name),
    ("description", .text schema.toJson.toText), ("retentionRules", .array [])]

/-- Create a bucket; one that exists is left as it is. -/
def create (c : Client) (s : Server) (name : String) (schema : Schema) : Conversation Unit := do
  let answer ← send s "create_bucket"
    (c.withJson .post "/api/v2/buckets" "*/*" (c.createBody name schema))
  if answer.1 = 409 ∨ answer.1 = 422 then
    Conversation.log (event .debug "Bucket already exists" [("bucket", .text name)])
    return ()
  let _ ← accept answer
  Conversation.log (event .info "Created bucket" [("bucket", .text name)])
  return ()

/-- The first bucket of exactly that name. -/
def find (c : Client) (s : Server) (name : String) : Conversation (Option Entry) := do
  let answer ← send s "find_bucket"
    (c.plain .get (target "/api/v2/buckets" [("orgID", c.organization), ("name", name)]))
  if answer.1 = 404 then return none
  let page ← decodeAnswer pageOfSource? answer
  return page.find? (·.name = name)

/-- Delete a bucket; false if there is none. -/
def delete (c : Client) (s : Server) (name : String) : Conversation Bool := do
  match ← c.find s name with
  | none => return false
  | some entry =>
    let answer ← send s "delete_bucket"
      (c.plain .delete ("/api/v2/buckets/" ++ String.ofList (Percent.encode entry.id)))
    if answer.1 = 404 then return false
    let _ ← accept answer
    Conversation.log (event .info "Deleted bucket" [("bucket", .text name)])
    return true

/-- How many buckets a page of a listing may hold. -/
def pageSize : Nat := 100

/-- The page of a listing that starts at an offset. -/
def page (c : Client) (s : Server) (offset : Nat) : Conversation (List Entry) := do
  let answer ← send s "list_buckets" (c.plain .get
    (target "/api/v2/buckets"
      [("orgID", c.organization), ("limit", pageSize.repr), ("offset", offset.repr)]))
  decodeAnswer pageOfSource? answer

/-- The entries from an offset on, over at most `pages` pages; a page that is not full is the
last. -/
def entriesFrom (c : Client) (s : Server) : Nat → Nat → Conversation (List Entry)
  | 0, _ => throw .timeout
  | pages + 1, offset => do
    let entries ← c.page s offset
    if entries.length < pageSize then return entries
    return entries ++ (← c.entriesFrom s pages (offset + entries.length))

/-- Every bucket the server lists. A server of which `span` answers count cannot fill more pages. -/
def list (c : Client) (s : Server) : Conversation (List RemoteBucket) := do
  return (← c.entriesFrom s (s.span + 1) 0).map Entry.toRemote

end Client

end TypedSeries.Http
