import TypedSeries.Number.Integer64
import TypedSeries.Number.Reading

/-!
# Instants

An instant is written as a date, a time of day and an offset from universal time, and counted in
nanoseconds from the start of 1970. A sixtieth second reads as the second after it.
-/

namespace TypedSeries

/-! ## The calendar -/

def isLeapYear (y : Nat) : Bool := y % 4 = 0 && (y % 100 ≠ 0 || y % 400 = 0)

/-- The lengths of the months of a year. -/
def monthLengths (y : Nat) : List Nat :=
  [31, if isLeapYear y then 29 else 28, 31, 30, 31, 30, 31, 31, 30, 31, 30, 31]

/-- Days from the start of year zero to the start of a year. -/
def daysBeforeYear (y : Nat) : Nat := 365 * y + (y + 3) / 4 - (y + 99) / 100 + (y + 399) / 400

/-- A day of the calendar. -/
structure Day where
  year : Nat
  month : Nat
  day : Nat
deriving DecidableEq, Repr

namespace Day

def isValid (d : Day) : Bool :=
  1 ≤ d.month && d.month ≤ 12 && 1 ≤ d.day && d.day ≤ (monthLengths d.year).getD (d.month - 1) 0

/-- Days from the start of 1970, negative before it. -/
def number (d : Day) : Int :=
  (daysBeforeYear d.year + ((monthLengths d.year).take (d.month - 1)).foldl (· + ·) 0 +
    (d.day - 1) : Nat) - (daysBeforeYear 1970 : Nat)

end Day

/-! ## Reading -/

/-- Exactly `n` digits and what follows them. -/
def digitsOfLength (n : Nat) (cs : List Char) : Option (Nat × List Char) :=
  if n ≤ cs.length then (readDigits (cs.take n)).map fun v => (v, cs.drop n) else none

/-- A given character in front. -/
def afterChar (c : Char) : List Char → Option (List Char)
  | d :: rest => if d = c then some rest else none
  | [] => none

/-- A day, as in `2024-01-31`. -/
def readDay (cs : List Char) : Option (Day × List Char) := do
  let (y, cs) ← digitsOfLength 4 cs
  let (m, cs) ← digitsOfLength 2 (← afterChar '-' cs)
  let (d, cs) ← digitsOfLength 2 (← afterChar '-' cs)
  if (Day.mk y m d).isValid then return (⟨y, m, d⟩, cs) else none

/-- Nine places of a fraction of a second; further ones are dropped. -/
def nanoseconds (ds : List Char) : Nat := digitsValue ((ds ++ List.replicate 9 '0').take 9)

/-- The fraction of a second, if a point follows. -/
def readSecondFraction : List Char → Option (Nat × List Char)
  | '.' :: cs =>
    let ds := cs.takeWhile Char.isDigit
    if ds = [] then none else some (nanoseconds ds, cs.dropWhile Char.isDigit)
  | cs => some (0, cs)

/-- A time of day in nanoseconds, as in `23:59:59.5`. -/
def readTimeOfDay (cs : List Char) : Option (Nat × List Char) := do
  let (h, cs) ← digitsOfLength 2 cs
  let (m, cs) ← digitsOfLength 2 (← afterChar ':' cs)
  let (s, cs) ← digitsOfLength 2 (← afterChar ':' cs)
  let (n, cs) ← readSecondFraction cs
  if h < 24 ∧ m < 60 ∧ s ≤ 60 then return (((h * 60 + m) * 60 + s) * 1000000000 + n, cs) else none

/-- An offset from universal time in seconds, less than a day. -/
def readOffset : List Char → Option (Int × List Char)
  | [] => none
  | c :: cs =>
    if c = 'Z' ∨ c = 'z' then some (0, cs)
    else if c = '+' ∨ c = '-' ∨ c = '−' then do
      let (h, cs) ← digitsOfLength 2 cs
      let (m, cs) ← digitsOfLength 2 (← afterChar ':' cs)
      let s : Int := (h * 60 + m) * 60
      if m < 60 ∧ s < 86400 then return (if c = '+' then s else -s, cs) else none
    else none

/-- Whether a character may stand between a day and a time. -/
def isTimeMark (c : Char) : Bool := c = 'T' || c = 't' || c = ' '

/-- The nanoseconds of an instant, if it is one and they fit 64 bits. -/
def readInstant (cs : List Char) : Option Int64 := do
  let (day, cs) ← readDay cs
  match cs with
  | mark :: cs =>
    if !isTimeMark mark then none
    let (time, cs) ← readTimeOfDay cs
    let (offset, cs) ← readOffset cs
    let n : Int := (day.number * 86400 - offset) * 1000000000 + time
    if cs = [] then int64? n else none
  | [] => none

end TypedSeries
