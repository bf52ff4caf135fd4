import TypedSeries.Number.Integer64
import TypedSeries.Number.Reading
import TypedSeries.QueryError

/-!
# Ranges relative to now

A range is an amount of a unit of time, written `-1h`, that reaches back from the present.
Lengths are integers of nanoseconds; only the longest length and the start are clamped.
-/

namespace TypedSeries

/-! ## Units -/

/-- A unit of time. -/
inductive TimeUnit where
  | nanosecond
  | microsecond
  | millisecond
  | second
  | minute
  | hour
  | day
  | week
deriving DecidableEq, Repr

namespace TimeUnit

/-- The letters of a unit after an amount. -/
def suffix : TimeUnit → List Char
  | nanosecond => ['n', 's']
  | microsecond => ['u', 's']
  | millisecond => ['m', 's']
  | second => ['s']
  | minute => ['m']
  | hour => ['h']
  | day => ['d']
  | week => ['w']

def ofSuffix? (cs : List Char) : Option TimeUnit :=
  [nanosecond, microsecond, millisecond, second, minute, hour, day, week].find? (·.suffix = cs)

@[simp] theorem ofSuffix?_suffix (u : TimeUnit) : ofSuffix? u.suffix = some u := by
  cases u <;> decide

/-- The nanoseconds of one unit. -/
def nanoseconds : TimeUnit → Nat
  | nanosecond => 1
  | microsecond => 1000
  | millisecond => 1000000
  | second => 1000000000
  | minute => 60 * 1000000000
  | hour => 3600 * 1000000000
  | day => 86400 * 1000000000
  | week => 604800 * 1000000000

end TimeUnit

/-! ## Ranges -/

/-- An amount of a unit, counted back from now. -/
structure Range where
  amount : Int64
  unit : TimeUnit
deriving DecidableEq

namespace Range

/-- One hour back, where a query does not say. -/
def standard : Range := ⟨1, .hour⟩

instance : Inhabited Range := ⟨standard⟩

/-- The written form of a range. -/
def render (r : Range) : List Char := '-' :: (integerText r.amount ++ r.unit.suffix)

def toText (r : Range) : String := String.ofList r.render

/-- A minus sign, decimal digits of a 64-bit amount and a unit, and nothing else. -/
def read (cs : List Char) : Option Range :=
  match cs with
  | '-' :: cs =>
    (readDigits (cs.takeWhile Char.isDigit)).bind fun n =>
      if n < int64Bound then
        (TimeUnit.ofSuffix? (cs.dropWhile Char.isDigit)).map fun u => ⟨Int64.ofInt n, u⟩
      else none
  | _ => none

/-- A range in text, with white space around it. -/
def parse (s : String) : Except QueryError Range :=
  match read (trim s.toList) with
  | some r => .ok r
  | none => .error (.invalidRange s)

/-! ## Length and start -/

/-- The longest length there is, in nanoseconds: the largest 64-bit count of milliseconds. -/
def longest : Int := ((int64Bound : Int) - 1) * 1000000

/-- How far back a range reaches, in nanoseconds; past the longest length in either direction it
is the longest length. -/
def length (r : Range) : Int :=
  let exact := r.amount.toInt * r.unit.nanoseconds
  if exact.natAbs ≤ longest.natAbs then exact else longest

/-- The whole seconds of the length, toward zero. -/
def wholeSeconds (r : Range) : Int := r.length.tdiv 1000000000

/-- The nanoseconds past the whole seconds. -/
def subsecond (r : Range) : Int := r.length.tmod 1000000000

/-- The length in 64 bits; one that does not fit counts as the largest. -/
def reach (r : Range) : Int :=
  if FitsInt64 r.length then r.length else (int64Bound : Int) - 1

/-- The earliest timestamp in the range at a given time, clamped to 64 bits. -/
def start (r : Range) (now : Int64) : Int64 := Int64.ofIntClamp (now.toInt - r.reach)

end Range

end TypedSeries
