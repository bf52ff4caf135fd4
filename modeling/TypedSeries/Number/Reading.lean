import TypedSeries.Number.Decimal
import TypedSeries.Number.Integer64

/-!
# Reading numbers

Integers are a sign and digits; doubles are a sign and either a decimal with an optional
exponent or one of the words for infinity and NaN in any case.
-/

namespace TypedSeries

/-- A sign, if one stands in front, and the rest. -/
def splitSign : List Char → Bool × List Char
  | '-' :: cs => (true, cs)
  | '+' :: cs => (false, cs)
  | cs => (false, cs)

/-- A non-empty run of decimal digits and nothing else. -/
def readDigits (cs : List Char) : Option Nat :=
  if cs ≠ [] ∧ cs.all Char.isDigit then some (digitsValue cs) else none

/-- An integer of 64 bits: an optional sign and decimal digits. -/
def readInteger (cs : List Char) : Option Int64 :=
  let (negative, ds) := splitSign cs
  (readDigits ds).bind fun n =>
    int64? (if negative then -(n : Int) else (n : Int))

/-- The decimal text of an integer. -/
def integerText (i : Int64) : List Char :=
  let n := i.toInt
  (if n < 0 then ['-'] else []) ++ decimalDigits n.natAbs

/-- The exponent after its mark; past `65536` further digits no longer count. -/
def readExponent (cs : List Char) : Option Int :=
  let (negative, ds) := splitSign cs
  if ds ≠ [] ∧ ds.all Char.isDigit then
    let n : Nat := ds.foldl (fun n c => if n < 65536 then 10 * n + (c.toNat - 48) else n) 0
    some (if negative then -(n : Int) else (n : Int))
  else none

/-- An exponent part, which may be absent. -/
def readExponentPart : List Char → Option Int
  | [] => some 0
  | c :: cs => if c = 'e' ∨ c = 'E' then readExponent cs else none

/-- Digits with an optional point among them, at least one digit, and an optional exponent. -/
def readDecimal (cs : List Char) : Option Decimal :=
  let whole := cs.takeWhile Char.isDigit
  let (fraction, rest) :=
    match cs.dropWhile Char.isDigit with
    | '.' :: r => (r.takeWhile Char.isDigit, r.dropWhile Char.isDigit)
    | r => ([], r)
  if whole ++ fraction = [] then none
  else (readExponentPart rest).map fun e =>
    Decimal.normalize ⟨digitsValue (whole ++ fraction), e - fraction.length⟩

/-- A double: an optional sign, then a decimal or a word for infinity or NaN. -/
def readNumber (cs : List Char) : Option Binary64 :=
  let (negative, body) := splitSign cs
  match readDecimal body with
  | some d => some (d.toBinary64 negative)
  | none =>
    let word := String.ofList (body.map Char.toLower)
    if word = "inf" ∨ word = "infinity" then some (.infinite negative)
    else if word = "nan" then some .nan
    else none

end TypedSeries
