/-!
# Records of comma-separated text

A record is a line of cells with commas between them. A cell in double quotes may hold commas,
line ends and, doubled, quotes. Empty lines hold no record.
-/

namespace TypedSeries.Csv

/-- Where a reader stands: before a record, before a cell, in a cell, in a quoted cell, or after a
quote in a quoted cell. -/
inductive Place where
  | record
  | cell
  | bare
  | quoted
  | afterQuote
deriving DecidableEq, Repr

def isLineEnd (c : Char) : Bool := c = '\n' || c = '\r'

/-- The records from a place on, given the cells before it and, reversed, the text of the cell it
is in. -/
def scan : Place → List String → List Char → List Char → List (List String)
  | place, cells, text, [] =>
    if place = .record then [] else [cells ++ [String.ofList text.reverse]]
  | place, cells, text, c :: cs =>
    if place = .quoted then
      if c = '"' then scan .afterQuote cells text cs else scan .quoted cells (c :: text) cs
    else if c = '"' ∧ (place = .record ∨ place = .cell) then scan .quoted cells text cs
    else if c = '"' ∧ place = .afterQuote then scan .quoted cells (c :: text) cs
    else if c = ',' then scan .cell (cells ++ [String.ofList text.reverse]) [] cs
    else if isLineEnd c then
      if place = .record then scan .record [] [] cs
      else (cells ++ [String.ofList text.reverse]) :: scan .record [] [] cs
    else scan .bare cells (c :: text) cs

/-- The records of a text, after the byte order mark if there is one. -/
def records (s : String) : List (List String) :=
  match s.toList with
  | '\ufeff' :: cs => scan .record [] [] cs
  | cs => scan .record [] [] cs

end TypedSeries.Csv
