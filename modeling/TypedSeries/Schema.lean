import TypedSeries.Json.Document
import TypedSeries.Json.Source
import TypedSeries.Record.Declaration

/-!
# Bucket schemas

A schema is what a store keeps of a record type: its name and, sorted by name, the kind of each
column. The place of a column in a point is known locally and never written, so a schema read
back from a store has values only.
-/

namespace TypedSeries

/-- What a schema says of a column. -/
structure Column where
  kind : Kind
  role : Role
deriving DecidableEq, Repr

/-- A title and the columns under it, sorted by name. -/
structure Schema where
  title : String
  columns : NameMap Column
deriving DecidableEq

/-- A bucket's name and columns, as shown to a caller. -/
structure Description where
  name : String
  columns : NameMap Column
deriving DecidableEq

/-- The schema of a record type. -/
def RecordType.schema (t : RecordType) : Schema :=
  ⟨t.name, .ofList (t.fields.map fun f => (f.name, ⟨f.kind, f.role⟩))⟩

namespace Schema

/-- A schema that knows no column. -/
def untyped (title : String) : Schema := ⟨title, .empty⟩

/-- The kind of a column, if it is declared. -/
def kindOf (s : Schema) (name : String) : Option Kind := (s.columns.get? name).map Column.kind

/-- The first column, by name, that names the measurement. -/
def measurementColumn (s : Schema) : Option String :=
  (s.columns.entries.find? fun e => e.2.role = .measurement).map Prod.fst

def describe (s : Schema) : Description := ⟨s.title, s.columns⟩

end Schema

/-! ## JSON forms -/

/-- Columns as an object of their kinds. -/
def columnsToJson (columns : NameMap Column) : Json :=
  .object (columns.entries.map fun e => (e.1, .object [("type", .text e.2.kind.name)]))

def Schema.toJson (s : Schema) : Json :=
  .object [("title", .text s.title), ("fields", columnsToJson s.columns)]

def Description.toJson (d : Description) : Json :=
  .object [("name", .text d.name), ("meta", .object [("schema", columnsToJson d.columns)])]

/-- A description with the members of each object sorted by name. -/
def Description.toSortedJson (d : Description) : Json :=
  .object [("meta", .object [("schema", columnsToJson d.columns)]), ("name", .text d.name)]

/-- A kind by its name, alone or as the one member, holding null, of an object. -/
def Kind.ofSource? : Source → Option Kind
  | .text s => s.bind Kind.ofName?
  | .object [(some k, .null)] => Kind.ofName? k
  | _ => none

/-- A column, whose place is not written. -/
def Column.ofSource? (s : Source) : Option Column :=
  match s.slots ["type"] with
  | some [some kind] => (Kind.ofSource? kind).map fun k => ⟨k, .field⟩
  | _ => none

/-- Columns by name; of two with one name the later stays. -/
def columnsOfSource? (s : Source) : Option (NameMap Column) :=
  s.entries?.bind fun members =>
    (members.mapM fun m => (Column.ofSource? m.2).map fun c => (m.1, c)).map NameMap.ofList

def Schema.ofSource? (s : Source) : Option Schema :=
  match s.slots ["title", "fields"] with
  | some [some title, some columns] => do
    let t ← title.text?
    let cs ← columnsOfSource? columns
    return ⟨t, cs⟩
  | _ => none

/-- The schema a JSON text holds. -/
def Schema.ofJsonText? (s : String) : Option Schema := (Source.parse s).bind Schema.ofSource?

end TypedSeries
