import TypedSeries.Http.Client
import TypedSeries.MemoryStore

/-!
# Transports

A transport carries operations to a store: one in memory, one in memory that plays dead, or a
server. Each operation gives its answer or error and the transport after it.
-/

namespace TypedSeries

/-- A way to a store, with the state it has. -/
inductive Transport where
  | memory (buckets : MemoryStore)
  | offline
  | http (client : Http.Client) (server : Http.Server) (trace : Http.Trace)

/-- An operation of a transport. -/
abbrev Operation (α : Type) := ExceptT TransportError (StateM Transport) α

namespace Transport

/-- The error of a store in memory that plays dead. -/
def offlineError : TransportError := .unavailable "memory transport is offline"

/-- The error of a bucket that does not exist. -/
def noBucket (name : String) : TransportError := .api 404 ("bucket \"" ++ name ++ "\" not found")

/-- The short name of a transport. -/
def name : Transport → String
  | memory _ | offline => "memory"
  | http .. => "http"

/-- An operation as it goes for each transport. A store in memory changes only if it succeeds. -/
def operate (inMemory : MemoryStore → Except TransportError (α × MemoryStore))
    (online : Http.Client → Http.Server → Http.Conversation α) : Operation α
  | memory buckets =>
    match inMemory buckets with
    | .ok (a, buckets) => (.ok a, memory buckets)
    | .error e => (.error e, memory buckets)
  | offline => (.error offlineError, offline)
  | http client server trace =>
    let (result, trace) := online client server trace
    (result, http client server trace)

/-- Whether the store can be reached and knows the caller. -/
def ping : Operation Bool := operate (fun m => .ok (true, m)) Http.Client.ping

/-- Write points to a bucket; those without a timestamp get the current time from a store in
memory. -/
def write (bucket : String) (points : List Point) (now : Int64) : Operation Bool :=
  operate
    (fun m => match MemoryStore.write? m bucket points now with
      | some m => .ok (true, m)
      | none => .error (noBucket bucket))
    (fun c s => c.write s bucket points)

/-- What a plan selects from the buckets in memory. -/
def select (m : MemoryStore) (plan : Plan) (now : Int64) :
    Except TransportError (QueryOutput × MemoryStore) :=
  match MemoryStore.query? m plan now with
  | some output => .ok (output, m)
  | none => .error (noBucket plan.bucket)

/-- Run query text. In memory it is read as a pipeline whose literals take the kinds of the
bucket's columns. -/
def queryText (bucket query : String) (now : Int64) : Operation QueryOutput :=
  operate
    (fun m => match Pipeline.parse query with
      | .ok p => select m (p.toPlan (MemoryStore.kindOf m p.bucket)) now
      | .error e => .error (.api 400 e.message))
    (fun c s => c.queryText s bucket query)

/-- Run a plan; a server gets it as text. -/
def query (plan : Plan) (now : Int64) : Operation QueryOutput :=
  operate (fun m => select m plan now) (fun c s => c.queryText s plan.bucket plan.toText)

/-- Create a bucket; one that exists is left as it is. -/
def create (name : String) (schema : Schema) : Operation Unit :=
  operate (fun m => .ok ((), MemoryStore.create m name schema)) (fun c s => c.create s name schema)

/-- Delete a bucket; false if there is none. -/
def delete (name : String) : Operation Bool :=
  operate (fun m => .ok (NameMap.contains m name, NameMap.erase m name))
    (fun c s => c.delete s name)

/-- Every bucket of the store. -/
def list : Operation (List RemoteBucket) :=
  operate (fun m => .ok (MemoryStore.list m, m)) Http.Client.list

/-- What is on the wire to a server. -/
def wire : Transport → Http.Wire
  | http _ server trace => server.wire trace.requests
  | memory _ | offline => []

/-- How many rows a bucket in memory holds. -/
def rowCount (bucket : String) : Transport → Nat
  | memory buckets => MemoryStore.rowCount buckets bucket
  | offline | http .. => 0

/-- Log events, where a log is kept. -/
def noteAll (es : List Event) : Transport → Transport
  | http client server trace => http client server (trace.noteAll es)
  | t => t

def note (e : Event) : Transport → Transport := noteAll [e]

@[simp] theorem noteAll_memory (es : List Event) (m : MemoryStore) :
    (memory m).noteAll es = memory m := rfl

@[simp] theorem noteAll_offline (es : List Event) : offline.noteAll es = offline := rfl

@[simp] theorem noteAll_nil (t : Transport) : t.noteAll [] = t := by
  cases t with
  | http c s trace => exact congrArg (fun es => http c s ⟨trace.exchanges, es⟩) (List.append_nil _)
  | _ => rfl

end Transport

end TypedSeries
