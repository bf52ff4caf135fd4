import TypedSeries.Http.Url
import TypedSeries.Log.Event
import TypedSeries.Transport.Error

/-!
# Requests and replies

1. A server says what becomes of each request on the wire, given those before it: a reply, or a
   redirection to another address.
2. A client follows redirections (`Server.follow`), at most `maxRedirects` for one request of its
   own. What comes of that request is the reply at the end (`Server.next`), and what the server has
   seen is its wire (`Server.wire`).

Finitely many of a server's answers count and what follows them is silence, so every conversation
with it ends.
-/

namespace TypedSeries.Http

/-! ## Requests -/

inductive Method where
  | get
  | post
  | delete
deriving DecidableEq, Repr

def Method.name : Method → String
  | get => "GET"
  | post => "POST"
  | delete => "DELETE"

/-- A request as it is sent. -/
structure Request where
  method : Method
  url : Url
  headers : List (String × String)
  body : String
deriving DecidableEq

/-- The first line of a request, without the protocol's version. -/
def Request.line (r : Request) : String :=
  r.method.name ++ " " ++ String.ofList r.url.target

/-! ## Redirections -/

/-- The ways in which a server sends a request elsewhere: by 301, 302, 303, 307 and 308. -/
inductive Redirection where
  | movedPermanently
  | found
  | seeOther
  | temporary
  | permanent
deriving DecidableEq, Repr

/-- Whether a request keeps its method and its body; else it becomes a look at the other place. -/
def Redirection.keepsBody : Redirection → Bool
  | temporary | permanent => true
  | movedPermanently | found | seeOther => false

namespace Request

/-- The headers that tell of a body. -/
def bodyHeaders : List String :=
  ["transfer-encoding", "content-encoding", "content-type", "content-length"]

/-- The headers that tell who asks. -/
def callerHeaders : List String :=
  ["authorization", "cookie", "cookie2", "proxy-authorization", "www-authenticate"]

/-- A request whose headers of some names are left out. -/
def without (r : Request) (names : List String) : Request :=
  { r with headers := r.headers.filter fun h => !names.contains h.1 }

/-- A request that tells which address led to its own, unless that was a safer one. -/
def referred (r : Request) (previous : Url) : Request :=
  if r.url.scheme = "http".toList ∧ previous.scheme = "https".toList then r
  else { r with headers := (r.without ["referer"]).headers ++
    [("referer", { previous with fragment := none }.toText)] }

/-- A request for another place. -/
def moved (r : Request) (kind : Redirection) (place : Url) : Request :=
  if kind.keepsBody then { r with url := place }
  else { r.without bodyHeaders with method := .get, url := place, body := "" }

/-- The request that a redirection leads to. Who asks is told to no other host. -/
def redirected (r : Request) (kind : Redirection) (place : Url) : Request :=
  let onward := (r.moved kind place).referred r.url
  if place.sharesSite r.url then onward else onward.without callerHeaders

end Request

/-! ## Replies -/

/-- The body of an answer: whole, broken off, or still awaited when time runs out. -/
inductive Body where
  | whole (text : String)
  | broken
  | stalled
deriving DecidableEq

/-- How a request that has been redirected comes to nothing: at an address without a connection, at
one that closes it without an answer, or because there are redirections without end. -/
inductive Loss where
  | refused (cause : String)
  | dropped
  | endless
deriving DecidableEq

/-- What becomes of a request: no connection, a connection closed without an answer, no answer in
time, an answer, or a loss at an address it was redirected to. -/
inductive Reply where
  | refused (cause : String)
  | dropped
  | silent
  | answer (status : Nat) (body : Body)
  | astray (place : Url) (loss : Loss)
deriving DecidableEq

namespace Reply

def isAnswer : Reply → Bool
  | answer .. => true
  | _ => false

def isRefusal : Reply → Bool
  | refused _ => true
  | _ => false

/-- What a reply at an address means to the request that was redirected there. -/
def elsewhere (place : Url) : Reply → Reply
  | refused cause => astray place (.refused cause)
  | dropped => astray place .dropped
  | reply => reply

end Reply

/-- What becomes of a request on the wire: a reply, or a redirection to the address that its
location leads to. A status that redirects, with no such location, is an answer like any other. -/
inductive Hop where
  | reply (r : Reply)
  | redirect (kind : Redirection) (place : Url)
deriving DecidableEq

def Hop.isRefusal : Hop → Bool
  | reply r => r.isRefusal
  | redirect .. => false

/-- Requests on the wire with what became of them, in order. -/
abbrev Wire := List (Request × Hop)

/-- Requests of a client with what became of them in the end, in the order they were made. -/
abbrev Exchanges := List (Request × Reply)

/-- The requests of a wire that reached a server. -/
def Wire.received (w : Wire) : List Request := (w.filter fun e => !e.2.isRefusal).map Prod.fst

/-! ## Servers -/

/-- What becomes of each request on the wire, given those before it; of the requests a client makes
only the first `span` answered ones count. -/
structure Server where
  hop : List Request → Request → Hop
  span : Nat

/-- How often one request is redirected before its client gives up. -/
def maxRedirects : Nat := 10

namespace Server

/-- Send a request after what is on the wire, follow at most so many redirections, and take the
reply at the end. -/
def follow (s : Server) : Nat → Wire → Request → Wire × Reply
  | left, sent, r =>
    let hop := s.hop (sent.map Prod.fst) r
    match hop, left with
    | .reply reply, _ => ([(r, hop)], reply)
    | .redirect _ _, 0 => ([(r, hop)], .astray r.url .endless)
    | .redirect kind place, left + 1 =>
      let (onward, reply) := s.follow left (sent ++ [(r, hop)]) (r.redirected kind place)
      ((r, hop) :: onward, reply.elsewhere place)

/-- All that is on the wire after a client's requests. -/
def wire (s : Server) (requests : List Request) : Wire :=
  requests.foldl (fun sent r => sent ++ (s.follow maxRedirects sent r).1) []

/-- What becomes of a client's next request: an answer past the last that counts is silence. -/
def next (s : Server) (before : Exchanges) (r : Request) : Reply :=
  let reply := (s.follow maxRedirects (s.wire (before.map Prod.fst)) r).2
  if reply.isAnswer ∧ s.span ≤ before.countP (·.2.isAnswer) then .silent else reply

/-- A server no connection reaches. -/
def unreachable (cause : String) : Server := ⟨fun _ _ => .reply (.refused cause), 0⟩

end Server

/-! ## Conversations -/

/-- The requests made so far with what became of them, and the events logged. -/
structure Trace where
  exchanges : Exchanges
  events : List Event

namespace Trace

def empty : Trace := ⟨[], []⟩

/-- The requests made. -/
def requests (t : Trace) : List Request := t.exchanges.map Prod.fst

/-- The requests made of which the first address was reached. -/
def received (t : Trace) : List Request :=
  (t.exchanges.filter fun e => !e.2.isRefusal).map Prod.fst

def noteAll (t : Trace) (es : List Event) : Trace := { t with events := t.events ++ es }

def note (t : Trace) (e : Event) : Trace := t.noteAll [e]

end Trace

/-- Steps of a conversation: they may fail, and what was sent and logged stays either way. -/
abbrev Conversation (α : Type) := ExceptT TransportError (StateM Trace) α

namespace Conversation

/-- Log an event. -/
def log (e : Event) : Conversation Unit := fun t => (.ok (), t.note e)

/-- Make a request and take what becomes of it. -/
def exchange (s : Server) (r : Request) : Conversation Reply := fun t =>
  let reply := s.next t.exchanges r
  (.ok reply, { t with exchanges := t.exchanges ++ [(r, reply)] })

end Conversation

end TypedSeries.Http
