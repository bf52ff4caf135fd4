import TypedSeries.Schema

/-!
# What a transport answers
-/

namespace TypedSeries

/-- Rows under the name of the bucket a query read them from. -/
structure QueryOutput where
  name : String
  rows : List Row
deriving DecidableEq

/-- A bucket as a store lists it, with its schema if one is known. -/
structure RemoteBucket where
  name : String
  schema : Option Schema
deriving DecidableEq

end TypedSeries
