import TypedSeries.Store.Basic

/-!
# Bucket handles

A handle writes records of its type to the bucket of that name and reads them back. Rows that come
from a bucket are hydrated by the type registered under the bucket's name, which has to be the
handle's.
-/

namespace TypedSeries

namespace Handle

/-- The name of the record type and of its bucket. -/
def name (h : Handle) : String := h.recordType.name

/-! ## Writing -/

/-- Write records in one batch, a nanosecond apart from the time of writing on. -/
def addAll (h : Handle) (records : List Row) (now : Int64) : StoreAction Bool :=
  Store.onTransport (Transport.write h.name (Point.ofBatch h.recordType records now) now)

def add (h : Handle) (record : Row) (now : Int64) : StoreAction Bool := h.addAll [record] now

/-! ## Reading -/

/-- A record read from a raw row by its registered type. -/
def readRow (h : Handle) (t : RecordType) (raw : Row) : Except SchemaError Row := do
  h.declaration.readRecord (← t.hydrate raw)

/-- The records of an output, if it comes from a bucket of the handle's type. -/
def readOutput (h : Handle) (output : QueryOutput) : StoreAction (List Row) := do
  let t ← Store.fromRegistry (·.resolve output.name)
  if t.name ≠ h.declaration.name then throw (.typeMismatch h.declaration.name t.name)
  Store.ofSchemaResult (output.rows.mapM (h.readRow t))

/-- Run query text and read what it selects. -/
def rawQuery (h : Handle) (query : String) (now : Int64) : StoreAction (List Row) := do
  h.readOutput (← Store.onTransport (Transport.queryText h.name query now))

/-- Run a select as text. -/
def execute (h : Handle) (select : Plan) (now : Int64) : StoreAction (List Row) := do
  Store.note ⟨.debug, "aluminum::bucket", "Executing select",
    [("bucket", .text h.name), ("query", .text select.toText)]⟩
  h.rawQuery select.toText now

/-- Run a select as it is. -/
def query (h : Handle) (select : Plan) (now : Int64) : StoreAction (List Row) := do
  h.readOutput (← Store.onTransport (Transport.query select now))

/-! ## Describing -/

/-- The bucket's name and columns. -/
def description (h : Handle) : Description := h.recordType.schema.describe

/-- What may be shown of a handle on a transport. -/
def summary (h : Handle) (t : Transport) : String :=
  "Bucket \x7b name: " ++ quote h.name ++ ", transport: " ++ quote t.name ++ " \x7d"

end Handle

end TypedSeries
