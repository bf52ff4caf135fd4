import TypedSeries.Record.Type

/-!
# Declarations

A declaration lists the columns a program writes and reads; it may still have faults. Its records
are rows that hold each declared column with its declared kind.
-/

namespace TypedSeries

/-- A declared record: a name, which is also its bucket's, and columns in order. -/
structure Declaration where
  name : String
  fields : List Field
deriving DecidableEq, Repr

namespace Declaration

/-- The record type of a declaration, or its first fault. -/
def recordType (d : Declaration) : Except SchemaError RecordType :=
  RecordType.declare d.name d.fields

/-- One column of a record, read from a typed row: it must stand there and read as its kind. -/
def readField (record : String) (row : Row) (f : Field) : Except SchemaError Value :=
  match row.get? f.name with
  | none => .error (.missingValue record f.name)
  | some v =>
    match v.coerce f.kind with
    | some w => .ok w
    | none => .error (.invalidValue f.name f.kind v.toText)

/-- A record read from a typed row. -/
def readRecord (d : Declaration) (row : Row) : Except SchemaError Row :=
  collectRow (readField d.name row) d.fields .empty

end Declaration

/-- The record types of a root's declarations, up to the first fault. -/
def recordTypes (declarations : List Declaration) : Except SchemaError (List RecordType) :=
  declarations.mapM Declaration.recordType

end TypedSeries
