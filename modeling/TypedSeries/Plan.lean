import TypedSeries.Predicate
import TypedSeries.Range
import TypedSeries.Record.Declaration

/-!
# Query plans

A plan asks one bucket for the rows in a range that satisfy all predicates. Its text is a
pipeline: the bucket, the range, and a filter for each predicate in order, names and literals
between double quotes.
-/

namespace TypedSeries

/-- A bucket, a range and predicates that must all hold. -/
structure Plan where
  bucket : String
  range : Range
  predicates : List Predicate
deriving DecidableEq

/-! ## Quoted literals -/

/-- One character inside a quoted literal. -/
def literalChar (c : Char) : List Char :=
  if c = '"' then ['\\', '"']
  else if c = '\\' then ['\\', '\\']
  else if c = '\n' then ['\\', 'n']
  else [c]

/-- A text as it stands between the quotes of a literal. -/
def escapeLiteral (cs : List Char) : List Char := cs.flatMap literalChar

/-- A text as a quoted literal. -/
def quoteLiteral (cs : List Char) : List Char := '"' :: (escapeLiteral cs ++ ['"'])

/-! ## Plans as text -/

/-- One filter stage: the row's column, the operator, the literal in quotes. -/
def Predicate.render (p : Predicate) : List Char :=
  " |> filter(fn: (r) => r.".toList ++ p.column.toList ++ ' ' :: (p.op.symbol ++
    ' ' :: (quoteLiteral p.value.toText.toList ++ [')']))

namespace Plan

/-- A plan over a bucket with the standard range and no predicate. -/
def ofBucket (bucket : String) : Plan := ⟨bucket, .standard, []⟩

def render (p : Plan) : List Char :=
  "from(bucket: ".toList ++ quoteLiteral p.bucket.toList ++
    (")".toList ++ " |> range(start: ".toList ++ p.range.render ++ ")".toList ++
      p.predicates.flatMap Predicate.render)

/-- The pipeline text of a plan. -/
def toText (p : Plan) : String := String.ofList p.render

/-- Equality of plans as values compare. -/
def equals (p q : Plan) : Bool :=
  p.bucket = q.bucket && p.range = q.range && p.predicates.length = q.predicates.length &&
    (p.predicates.zip q.predicates).all fun e => e.1.equals e.2

/-- The plan with one more predicate. -/
def filterBy (p : Plan) (q : Predicate) : Plan := { p with predicates := p.predicates ++ [q] }

/-- The plan with several more predicates. -/
def filterByAll (p : Plan) (qs : List Predicate) : Plan :=
  { p with predicates := p.predicates ++ qs }

/-- The plan over the range a text names. -/
def withRange (p : Plan) (text : String) : Except QueryError Plan :=
  match Range.parse text with
  | .ok r => .ok { p with range := r }
  | .error e => .error e

end Plan

/-- The plan over a declaration's bucket, before any predicate. -/
def Declaration.select (d : Declaration) : Plan := .ofBucket d.name

/-- A comparison of a declared column with a literal of its kind. -/
def Field.compareWith (f : Field) (op : Operator) (value : Value) : Predicate :=
  .of f.name f.kind op value

end TypedSeries
