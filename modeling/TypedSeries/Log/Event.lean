import TypedSeries.Json.Document

/-!
# Log events
-/

namespace TypedSeries

/-- How much an event matters, most important first. -/
inductive Level where
  | error
  | warn
  | info
  | debug
  | trace
deriving DecidableEq, Repr

namespace Level

def name : Level → String
  | error => "ERROR"
  | warn => "WARN"
  | info => "INFO"
  | debug => "DEBUG"
  | trace => "TRACE"

/-- The place of a level, counted from the most important. -/
def depth : Level → Nat
  | error => 1
  | warn => 2
  | info => 3
  | debug => 4
  | trace => 5

end Level

/-- Something that happened: what, in which part of the program, and its particulars. -/
structure Event where
  level : Level
  target : String
  text : String
  details : List (String × Json)

namespace Event

/-- An event as a line of a structured log holds it. -/
def toJson (e : Event) : Json :=
  .object [("level", .text e.level.name),
    ("fields", .object (("message", .text e.text) :: e.details)), ("target", .text e.target)]

end Event

end TypedSeries
