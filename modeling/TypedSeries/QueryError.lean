import TypedSeries.Text.Quoted

/-!
# Errors of query text
-/

namespace TypedSeries

/-- What query text lacks where it cannot be read on: a given word, or a given character. -/
inductive Expected where
  | word
  | character
deriving DecidableEq, Repr

/-- Where query text cannot be read on: what is left of it there, and what should follow. -/
structure Stuck where
  rest : List Char
  expected : Expected
deriving DecidableEq, Repr

/-- What is wrong with a query. -/
inductive QueryError where
  | stuck (place : Stuck)
  | leftOver (rest : String)
  | invalidRange (text : String)
  | invalidOperator (symbol : String)
deriving DecidableEq

namespace QueryError

def message : QueryError → String
  | stuck s =>
    "Parse error: Error(Error \x7b input: " ++ quote (String.ofList s.rest) ++ ", code: " ++
      (match s.expected with | .word => "Tag" | .character => "Char") ++ " \x7d)"
  | leftOver rest => "Parse error: Unexpected input after pipeline: '" ++ rest ++ "'"
  | invalidRange text => "Invalid time range: " ++ text
  | invalidOperator symbol => "Invalid operator: " ++ symbol

end QueryError

end TypedSeries
