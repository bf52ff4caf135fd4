import TypedSeries.Log.Event
import TypedSeries.Number.Reading
import TypedSeries.Text.Alphanumeric
import TypedSeries.Text.Blank
import TypedSeries.Text.Pieces

/-!
# Log filters

A filter is a list of directives with commas between them. A directive gives the depth to which
the events of a part of the program are kept: `part=level`, `part` alone for every event of it, or
a level alone for the whole program. The directive with the longest matching part decides.
-/

namespace TypedSeries

/-- A part of the program, the empty one being all of it, and the depth kept there. -/
structure Directive where
  part : List Char
  depth : Nat
deriving DecidableEq, Repr

namespace Directive

/-- The level words and the depths they keep. -/
def levels : List (String × Nat) :=
  [("off", 0), ("error", 1), ("warn", 2), ("info", 3), ("debug", 4), ("trace", 5)]

/-- A depth by its word in any case or by its number. -/
def depth? (cs : List Char) : Option Nat :=
  match readDigits (match cs with | '+' :: ds => ds | ds => ds) with
  | some n => if n ≤ 5 then some n else none
  | none => levels.lookup (String.ofList (cs.map Char.toLower))

/-- Whether a directive may start with a character. -/
def isStart (c : Char) : Bool := isAlphanumeric c || c = '-' || c = ':' || c = '_'

/-- A directive that is not about spans. -/
def read (cs : List Char) : Option Directive :=
  let cs := trim cs
  let part := cs.takeWhile (· ≠ '=')
  match cs.dropWhile (· ≠ '=') with
  | [] =>
    match depth? part with
    | some d => some ⟨[], d⟩
    | none => some ⟨part, 5⟩
  | _ :: [] => some ⟨part, 5⟩
  | _ :: level => (depth? level).map fun d => ⟨part, d⟩

/-- A directive about spans names a part, spans in brackets and a depth. Nothing here runs in a
span, so it is checked and keeps nothing. -/
def spanDirective? (cs : List Char) : Option Unit :=
  match ((trim cs).dropWhile (· ≠ '[')).dropWhile (· ≠ ']') with
  | [_] => some ()
  | _ :: '=' :: level => if level = [] then some () else (depth? level).map fun _ => ()
  | _ => none

/-- Read the directives of a filter: none for one about spans, an error for a bad one. -/
def parse? (cs : List Char) : Option (List Directive) :=
  match trim cs with
  | [] => none
  | c :: _ =>
    if c = '[' then (spanDirective? cs).map fun _ => []
    else if !isStart c then none
    else if '[' ∈ (trim cs).takeWhile (· ≠ '=') then (spanDirective? cs).map fun _ => []
    else (read cs).map fun d => [d]

end Directive

/-- The directives in force. -/
abbrev LogFilter := List Directive

namespace LogFilter

/-- A filter; one without directives keeps the errors of the whole program. -/
def parse? (s : String) : Option LogFilter :=
  match ((pieces ',' s.toList).filter (· ≠ [])).mapM Directive.parse? with
  | some [] => some [⟨[], 1⟩]
  | some ds => some ds.flatten
  | none => none

/-- Whether one directive's part is at least as long as another's. -/
def longer (best : Option Directive) (d : Directive) : Option Directive :=
  match best with
  | some b => if b.part.length ≤ d.part.length then some d else some b
  | none => some d

/-- Whether an event is kept. -/
def keeps (f : LogFilter) (e : Event) : Bool :=
  match (f.filter fun d => d.part.isPrefixOf e.target.toList).foldl longer none with
  | some d => e.level.depth ≤ d.depth
  | none => false

end LogFilter

end TypedSeries
