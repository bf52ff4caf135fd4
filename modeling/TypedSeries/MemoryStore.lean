import TypedSeries.Pipeline.Grammar
import TypedSeries.Point
import TypedSeries.Transport.Answer

/-!
# A store in memory

Buckets by name, each with the schema it was created with and its rows in the order they were
written. A query selects the rows in its time window that satisfy every predicate; one on the
measurement column looks at the stored measurement name.
-/

namespace TypedSeries

/-- A schema and rows in the order of writing. -/
structure Bucket where
  schema : Schema
  rows : List Row
deriving DecidableEq

/-- The row a store keeps of a point: measurement, time, tags, then values. -/
def Point.toRow (p : Point) (now : Int64) : Row :=
  let row := NameMap.empty.insert measurementColumn (.text p.measurement)
  let row := row.insert timeColumn (.integer (p.timestamp.getD now))
  (row.insertAll (p.tags.entries.map fun e => (e.1, .text e.2))).insertAll p.fields.entries

namespace Bucket

/-- Whether a row's time lies in a window, ends included. -/
def inWindow (start now : Int64) (row : Row) : Bool :=
  match row.get? timeColumn with
  | some (.integer t) => start ≤ t && t ≤ now
  | _ => false

/-- Where a predicate looks in a row: the stored measurement name stands for the column that
names the measurement. -/
def storedColumn (s : Schema) (column : String) : String :=
  if some column = s.measurementColumn then TypedSeries.measurementColumn else column

/-- Whether a row has the column of a predicate and satisfies it there. -/
def satisfies (s : Schema) (row : Row) (p : Predicate) : Bool :=
  match row.get? (storedColumn s p.column) with
  | some v => p.accepts v
  | none => false

/-- The rows a plan selects at a given time. -/
def select (b : Bucket) (plan : Plan) (now : Int64) : List Row :=
  (b.rows.filter (inWindow (plan.range.start now) now)).filter fun row =>
    plan.predicates.all (satisfies b.schema row)

end Bucket

/-- Buckets by name. -/
abbrev MemoryStore := NameMap Bucket

namespace MemoryStore

/-- Write points at the end of a bucket, if it exists. -/
def write? (m : MemoryStore) (bucket : String) (points : List Point) (now : Int64) :
    Option MemoryStore :=
  (NameMap.get? m bucket).map fun b =>
    NameMap.insert m bucket { b with rows := b.rows ++ points.map (·.toRow now) }

/-- Run a plan, if its bucket exists. -/
def query? (m : MemoryStore) (plan : Plan) (now : Int64) : Option QueryOutput :=
  (NameMap.get? m plan.bucket).map fun b => ⟨plan.bucket, b.select plan now⟩

/-- The kinds of a bucket's columns; a bucket that does not exist has none. -/
def kindOf (m : MemoryStore) (bucket column : String) : Option Kind :=
  (NameMap.get? m bucket).bind fun b => b.schema.kindOf column

/-- Create a bucket; one that exists stays as it is. -/
def create (m : MemoryStore) (name : String) (schema : Schema) : MemoryStore :=
  if NameMap.contains m name then m else NameMap.insert m name ⟨schema, []⟩

/-- The buckets, sorted by name. -/
def list (m : MemoryStore) : List RemoteBucket :=
  m.entries.map fun e => ⟨e.1, some e.2.schema⟩

theorem map_name_list (m : MemoryStore) : m.list.map RemoteBucket.name = NameMap.names m := by
  unfold list
  rw [List.map_map]
  rfl

/-- How many rows a bucket holds. -/
def rowCount (m : MemoryStore) (bucket : String) : Nat :=
  match NameMap.get? m bucket with
  | some b => b.rows.length
  | none => 0

end MemoryStore

end TypedSeries
