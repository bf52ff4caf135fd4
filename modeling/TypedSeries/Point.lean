import TypedSeries.Record.Declaration

/-!
# Points and their lines

A point is what a store keeps of a record: a measurement name, indexed texts, values and a
timestamp. A batch of points is written one point to a line.

    measurement,tag=text field=value,field=value timestamp
-/

namespace TypedSeries

/-- A measurement, tags, values, and a timestamp in nanoseconds unless the store is to give one. -/
structure Point where
  measurement : String
  tags : NameMap String
  fields : NameMap Value
  timestamp : Option Int64
deriving DecidableEq

namespace Point

/-! ## Laying out a record -/

/-- Put one column of a record at its place in a point. An empty tag is left out, since a store
cannot hold it. -/
def placeField (row : Row) (p : Point) (f : Field) : Point :=
  match row.get? f.name with
  | none => p
  | some v =>
    match f.role with
    | .measurement => { p with measurement := v.toText }
    | .tag => if v.toText = "" then p else { p with tags := p.tags.insert f.name v.toText }
    | .field => { p with fields := p.fields.insert f.name v }

/-- The point of a record. The measurement column names the measurement, and without one the
record type does. -/
def ofRow (t : RecordType) (row : Row) (timestamp : Option Int64) : Point :=
  t.fields.foldl (placeField row) ⟨t.name, .empty, .empty, timestamp⟩

/-- The points of a batch, their timestamps counted up from the time of writing. -/
def ofBatch (t : RecordType) (rows : List Row) (now : Int64) : List Point :=
  rows.mapIdx fun i row => ofRow t row (some (Int64.ofIntClamp (now.toInt + i)))

/-! ## Lines -/

/-- A text with a backslash before each of the given characters. -/
def escape (special : List Char) (cs : List Char) : List Char :=
  cs.flatMap fun c => if c ∈ special then ['\\', c] else [c]

/-- A key or a tag value in a line. -/
def escapeKey (s : String) : List Char := escape [',', '=', ' '] s.toList

/-- A measurement name in a line. -/
def escapeMeasurement (s : String) : List Char := escape [',', ' '] s.toList

/-- A value in a line: text in double quotes, integers with an `i`. -/
def valueText : Value → List Char
  | .text s => '"' :: (escape ['"', '\\'] s.toList ++ ['"'])
  | .integer i => integerText i ++ ['i']
  | .number x => x.toText
  | .boolean b => (if b then "true" else "false").toList

/-- A point on one line. -/
def line (p : Point) : List Char :=
  escapeMeasurement p.measurement ++
    p.tags.entries.flatMap (fun e => ',' :: (escapeKey e.1 ++ '=' :: escapeKey e.2)) ++
    ' ' :: ([','].intercalate
      (p.fields.entries.map fun e => escapeKey e.1 ++ '=' :: valueText e.2)) ++
    match p.timestamp with
    | some t => ' ' :: integerText t
    | none => []

/-- A batch, one point to a line. -/
def lines (ps : List Point) : List Char := ['\n'].intercalate (ps.map line)

def toLine (p : Point) : String := String.ofList p.line

def toLines (ps : List Point) : String := String.ofList (lines ps)

end Point

end TypedSeries
