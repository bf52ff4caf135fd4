import TypedSeries.Http.Exchange
import TypedSeries.Json.Source
import TypedSeries.Transport.Answer

/-!
# Answers of a store's server

How a status is judged and what the JSON bodies say.
-/

namespace TypedSeries.Http

/-! ## Bodies -/

/-- A text without the byte order mark in front. -/
def dropMark (s : String) : String :=
  match s.toList with
  | '\ufeff' :: rest => String.ofList rest
  | _ => s

namespace Body

/-- The text of a body that could be read to its end. -/
def read : Body → Except TransportError String
  | whole text => .ok (dropMark text)
  | broken => .error (.request ⟨"error decoding response body",
      "error reading a body from connection: end of file before message length reached", false⟩)
  | stalled => .error (.request ⟨"error decoding response body", "operation timed out", true⟩)

/-- The text of a body, empty if it could not be read. -/
def readOrEmpty : Body → String
  | whole text => dropMark text
  | broken | stalled => ""

end Body

/-! ## Statuses -/

def isSuccess (status : Nat) : Bool := 200 ≤ status && status < 300

/-- What a refusing answer says: its JSON message, or all of its text. -/
def refusalText (body : Body) : String :=
  let text := body.readOrEmpty
  match (Source.parse text).bind (·.slots ["message"]) with
  | some [some m] => m.text?.getD text
  | _ => text

/-- The error of an answer that is no success. -/
def refusal (status : Nat) (body : Body) : TransportError :=
  if status = 401 ∨ status = 403 then .unauthorized (refusalText body)
  else .api status (refusalText body)

/-- The body of a success. -/
def accept (answer : Nat × Body) : Except TransportError Body :=
  if isSuccess answer.1 then .ok answer.2 else .error (refusal answer.1 answer.2)

/-! ## Documents -/

/-- A bucket as a page of a listing holds it. -/
structure Entry where
  id : String
  name : String
  description : Option String
deriving DecidableEq

namespace Entry

/-- The bucket an entry describes; a description that is no schema counts for nothing. -/
def toRemote (e : Entry) : RemoteBucket := ⟨e.name, e.description.bind Schema.ofJsonText?⟩

/-- A text that may be absent or null. -/
def optionalText? : Option Source → Option (Option String)
  | none => some none
  | some .null => some none
  | some s => s.text?.map some

def ofSource? (s : Source) : Option Entry :=
  match s.slots ["id", "name", "description"] with
  | some [some id, some name, description] => do
    return ⟨← id.text?, ← name.text?, ← optionalText? description⟩
  | _ => none

end Entry

/-- The entries of a page; a page without a list of buckets has none. -/
def pageOfSource? (s : Source) : Option (List Entry) :=
  match s.slots ["buckets"] with
  | some [none] => some []
  | some [some (.array items)] => items.mapM Entry.ofSource?
  | _ => none

/-- The status a health document names. -/
def healthOfSource? (s : Source) : Option String :=
  match s.slots ["status"] with
  | some [some status] => status.text?
  | _ => none

/-- Decode a JSON body. -/
def decodeBody (ofSource? : Source → Option α) (body : Body) : Except TransportError α := do
  match (Source.parse (← body.read)).bind ofSource? with
  | some a => return a
  | none => throw (.decode .notAsExpected)

/-- Judge an answer and decode its JSON body. -/
def decodeAnswer (ofSource? : Source → Option α) (answer : Nat × Body) :
    Except TransportError α := do
  decodeBody ofSource? (← accept answer)

end TypedSeries.Http
