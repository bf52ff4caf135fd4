import TypedSeries.Plan

/-!
# Pipelines

What query text says before its literals are given the kinds of their columns.
-/

namespace TypedSeries

/-- A filter stage: a column, an operator and a literal as it was written. -/
structure Filter where
  column : String
  op : Operator
  literal : Value
deriving DecidableEq

/-- One stage after the source of a pipeline. -/
inductive Stage where
  | range (r : Range)
  | filter (f : Filter)
deriving DecidableEq

/-- A source bucket, the range of the last range stage, and the filters in order. -/
structure Pipeline where
  bucket : String
  range : Option Range
  filters : List Filter
deriving DecidableEq

/-- A filter typed after its column; a column of no known kind takes the literal's own. -/
def Filter.toPredicate (f : Filter) (kindOf : String → Option Kind) : Predicate :=
  .of f.column ((kindOf f.column).getD f.literal.kind) f.op f.literal

namespace Pipeline

/-- The last range among stages. -/
def lastRange (stages : List Stage) : Option Range :=
  stages.foldl (fun r s => match s with | .range x => some x | .filter _ => r) none

/-- The filters among stages, in order. -/
def filtersOf (stages : List Stage) : List Filter :=
  stages.filterMap fun s => match s with | .filter f => some f | .range _ => none

def ofStages (bucket : String) (stages : List Stage) : Pipeline :=
  ⟨bucket, lastRange stages, filtersOf stages⟩

/-- The plan of a pipeline, its literals typed after their columns; without a range stage the
standard range is meant. -/
def toPlan (p : Pipeline) (kindOf : String → Option Kind) : Plan :=
  ⟨p.bucket, p.range.getD .standard, p.filters.map (·.toPredicate kindOf)⟩

end Pipeline

end TypedSeries
