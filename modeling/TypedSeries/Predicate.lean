import TypedSeries.QueryError
import TypedSeries.Value

/-!
# Predicates

A predicate compares one column with a literal. The literal is read as the column's kind when it
is built, and a candidate when it is tested; what cannot be compared does not match.
-/

namespace TypedSeries

/-! ## Operators -/

/-- The six comparisons, in table order. -/
inductive Operator where
  | less
  | lessEqual
  | greater
  | greaterEqual
  | equal
  | notEqual
deriving DecidableEq, Repr

namespace Operator

/-- All operators in table order. -/
def all : List Operator := [less, lessEqual, greater, greaterEqual, equal, notEqual]

/-- How an operator is written in a query. -/
def symbol : Operator → List Char
  | less => ['<']
  | lessEqual => ['<', '=']
  | greater => ['>']
  | greaterEqual => ['>', '=']
  | equal => ['=']
  | notEqual => ['!', '=']

def symbolText (op : Operator) : String := String.ofList op.symbol

/-- The operator a symbol names; equality has two symbols. -/
def ofSymbol? (cs : List Char) : Option Operator :=
  if cs = ['=', '='] then some equal else all.find? (·.symbol = cs)

/-- The operator a text names. -/
def parse (s : String) : Except QueryError Operator :=
  match ofSymbol? s.toList with
  | some op => .ok op
  | none => .error (.invalidOperator s)

@[simp] theorem ofSymbol?_symbol (op : Operator) : ofSymbol? op.symbol = some op := by
  cases op <;> decide

/-- Whether an ordering of left and right satisfies an operator. -/
def holds (op : Operator) (o : Ordering) : Bool :=
  match op with
  | less => o = .lt
  | lessEqual => o ≠ .gt
  | greater => o = .gt
  | greaterEqual => o ≠ .lt
  | equal => o = .eq
  | notEqual => o ≠ .eq

end Operator

/-! ## Predicates -/

/-- A column, the kind it is compared as, an operator and a literal, which has been read as the kind
if it can be. -/
@[ext]
structure Predicate where
  column : String
  kind : Kind
  op : Operator
  value : Value
  settled : (value.coerce kind).getD value = value
deriving DecidableEq

namespace Predicate

/-- A literal that has been read as a kind reads as itself. -/
theorem settled_getD_coerce (v : Value) (k : Kind) :
    (((v.coerce k).getD v).coerce k).getD ((v.coerce k).getD v) = (v.coerce k).getD v := by
  cases h : v.coerce k with
  | none => rw [Option.getD_none, h, Option.getD_none]
  | some w => rw [Option.getD_some, ← Value.kind_of_coerce h, Value.coerce_kind, Option.getD_some]

/-- A predicate whose literal is read as the column's kind if it can be. -/
def of (column : String) (kind : Kind) (op : Operator) (value : Value) : Predicate where
  column := column
  kind := kind
  op := op
  value := (value.coerce kind).getD value
  settled := settled_getD_coerce value kind

/-- Whether a column value satisfies a predicate. -/
def accepts (p : Predicate) (candidate : Value) : Bool :=
  match (candidate.coerce p.kind).bind (·.compare p.value) with
  | some o => p.op.holds o
  | none => false

/-- A predicate in words. -/
def toText (p : Predicate) : String :=
  p.column ++ " " ++ p.op.symbolText ++ " " ++ p.value.toText

/-- Equality of predicates as values compare: one over NaN differs from itself. -/
def equals (p q : Predicate) : Bool :=
  p.column = q.column && p.kind = q.kind && p.op = q.op && p.value.equals q.value

end Predicate

end TypedSeries
