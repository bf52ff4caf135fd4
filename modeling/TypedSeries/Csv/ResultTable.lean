import TypedSeries.Csv.Record
import TypedSeries.Record.Type
import TypedSeries.Time.Instant
import TypedSeries.Transport.Error

/-!
# Result tables

The answer to a query has a record for each value of each series. The values of one time, one
measurement and one set of tags are gathered into one row, a column for each field, in the order
in which such sets first appear. Values stay texts.
-/

namespace TypedSeries.Csv

/-- The column that names the field of a record. -/
def fieldColumn : String := "_field"

/-- The column that holds the value of a record. -/
def valueColumn : String := "_value"

/-- Whether cells name the columns of the records after them. -/
def isHeader (cells : List String) : Bool :=
  (cells.contains "result" && cells.contains "table") ||
    (cells.contains "error" && cells.contains "reference")

/-- Whether cells are a remark on the table. -/
def isAnnotation (cells : List String) : Bool :=
  match cells with
  | c :: _ => c.toList.head? = some '#'
  | [] => false

def isBlankRecord (cells : List String) : Bool := cells.all (· = "")

/-- Whether a column is none of those the store adds. -/
def isUserColumn (name : String) : Bool :=
  name ≠ "" && name.toList.head? ≠ some '_' && name ≠ "result" && name ≠ "table"

/-- The time of a row: nanoseconds if it reads as an instant, else its text. -/
def timeValue (s : String) : Value :=
  match readInstant s.toList with
  | some t => .integer t
  | none => .text s

/-- A record and the columns it stands under. -/
structure Record where
  columns : List String
  cells : List String

namespace Record

/-- The cell under a column. -/
def cell? (r : Record) (name : String) : Option String :=
  (r.columns.findIdx? (· = name)).bind fun i => r.cells[i]?

/-- The user's columns with their cells; a missing cell is empty. -/
def userCells (r : Record) : List (String × String) :=
  (r.columns.mapIdx fun i name => (name, r.cells.getD i "")).filter fun c => isUserColumn c.1

/-- The time, measurement and tags that make records belong to one row. -/
def key (r : Record) : List String :=
  (r.cell? timeColumn).getD "" :: (r.cell? measurementColumn).getD "" ::
    r.userCells.map fun c => c.1 ++ "=" ++ c.2

/-- Put a record's time, measurement, tags and value into its row. -/
def addTo (r : Record) (row : Row) : Row :=
  let row := match r.cell? timeColumn with
    | some t => row.insert timeColumn (timeValue t)
    | none => row
  let row := match r.cell? measurementColumn with
    | some m => row.insert measurementColumn (.text m)
    | none => row
  let row := row.insertAll ((r.userCells.filter fun c => c.2 ≠ "").map fun c => (c.1, .text c.2))
  match r.cell? fieldColumn, r.cell? valueColumn with
  | some f, some v => row.insert f (.text v)
  | _, _ => row

end Record

/-- Rows under their keys, in the order of first appearance. -/
abbrev Rows := List (List String × Row)

/-- Put a record into the row of its key, a new one at the end if there is none yet. -/
def Rows.add (r : Record) : Rows → Rows
  | [] => [(r.key, r.addTo .empty)]
  | (k, row) :: rest => if k = r.key then (k, r.addTo row) :: rest else (k, row) :: Rows.add r rest

/-- The columns in force and the rows so far. -/
structure Table where
  columns : Option (List String)
  rows : Rows

namespace Table

/-- Take in the cells of one record. A table with a column `error` tells of a failed query. -/
def read (t : Table) (cells : List String) : Except TransportError Table :=
  if isBlankRecord cells ∨ isAnnotation cells then .ok t
  else if isHeader cells then .ok { t with columns := some cells }
  else match t.columns with
    | none => .error (.decode .rowBeforeHeader)
    | some columns =>
      if columns.contains "error" then
        .error (.api 400 (((Record.mk columns cells).cell? "error").getD ""))
      else .ok { t with rows := Rows.add ⟨columns, cells⟩ t.rows }

end Table

/-- The rows of the records of an answer. -/
def rowsOf (rs : List (List String)) : Except TransportError (List Row) :=
  (rs.foldlM Table.read ⟨none, []⟩).map fun t => t.rows.map Prod.snd

/-- The rows an answer holds. -/
def decode (s : String) : Except TransportError (List Row) := rowsOf (records s)

end TypedSeries.Csv
