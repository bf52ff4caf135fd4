import TypedSeries.Value

/-!
# Errors of declarations, registration and hydration
-/

namespace TypedSeries

/-- What is wrong with a declaration, a registration or a raw row. -/
inductive SchemaError where
  | emptyName
  | duplicateField (record field : String)
  | reservedField (record field : String)
  | nonStringTag (record field : String) (kind : Kind)
  | multipleMeasurements (record : String)
  | noValueField (record : String)
  | conflict (record : String)
  | notFound (record : String)
  | missingValue (record field : String)
  | invalidValue (field : String) (kind : Kind) (value : String)
deriving DecidableEq

namespace SchemaError

def message : SchemaError → String
  | emptyName => "Record type name must not be empty"
  | duplicateField record field => "Duplicate field '" ++ field ++ "' in record type " ++ record
  | reservedField record field =>
    "Field '" ++ field ++ "' in record type " ++ record ++ " uses a reserved name"
  | nonStringTag record field kind =>
    "Tag '" ++ field ++ "' in record type " ++ record ++ " must be a string, not " ++ kind.name
  | multipleMeasurements record =>
    "Record type " ++ record ++ " declares more than one measurement field"
  | noValueField record => "Record type " ++ record ++ " declares no value field"
  | conflict record =>
    "Record type " ++ record ++ " is already registered with a different schema"
  | notFound record => "Record type not found: " ++ record
  | missingValue record field =>
    "Missing value for field '" ++ field ++ "' of record type " ++ record
  | invalidValue field kind value =>
    "Invalid value '" ++ value ++ "' for field '" ++ field ++ "', expected " ++ kind.name

end SchemaError

end TypedSeries
