import TypedSeries.QueryError
import TypedSeries.Record.Error
import TypedSeries.Transport.Error

/-!
# Errors of a store

Errors of the layers below, sorted by what a caller can do about them.
-/

namespace TypedSeries

/-- Why an operation of a store or of a bucket failed. -/
inductive StoreError where
  | connection (reason : String)
  | notFound (record : String)
  | typeMismatch (expected found : String)
  | schema (e : SchemaError)
  | query (e : QueryError)
  | api (status : Nat) (reason : String)
  | decode (fault : DecodeFault)
deriving DecidableEq

namespace StoreError

def message : StoreError → String
  | connection reason => "Connection error: " ++ reason
  | notFound record => "Record type not found: " ++ record
  | typeMismatch expected found => "Type mismatch: expected " ++ expected ++ ", found " ++ found
  | schema e => "Schema error: " ++ e.message
  | query e => "Query error: " ++ e.message
  | api status reason => "Store API error " ++ status.repr ++ ": " ++ reason
  | decode fault => "Decode error: " ++ fault.message

/-- A name that was never registered is a matter of its own; all else is about a schema. -/
def ofSchema : SchemaError → StoreError
  | .notFound record => notFound record
  | e => schema e

/-- A store that cannot be reached or refuses the caller is a connection error. A request that
never got a status has status `0`. -/
def ofTransport (e : TransportError) : StoreError :=
  if e.isConnection then connection e.message
  else match e with
    | .api status reason => api status reason
    | .decode fault => decode fault
    | e => api 0 e.message

end StoreError

end TypedSeries
