import TypedSeries.Number.Binary64

/-!
# Decimal numbers and the shortest text of a double

1. A decimal is `coefficient · 10 ^ exponent`; `Decimal.toBinary64` rounds it to the nearest
   double.
2. Every finite double is a decimal exactly (`Decimal.exact`), of at most 768 digits.
3. `Decimal.shortest` cuts that decimal to one digit, to two, and so on, and stops at the first
   cut that still rounds to the double. Of the two neighbours on one grid the nearer is taken,
   and a `Tie` says which one when they are equally near.
4. `plainText` and `scientificText` lay the digits out.

**Main.** `shortest_eq_or_toBinary64`: what is written reads back, unless it is the exact decimal
itself.
-/

namespace TypedSeries

/-- The decimal digits of a natural number, without leading zeros. -/
abbrev decimalDigits (n : Nat) : List Char := Nat.toDigits 10 n

/-- The number a list of decimal digits writes. -/
abbrev digitsValue (cs : List Char) : Nat := Nat.ofDigitChars 10 cs 0

theorem digitsValue_decimalDigits (n : Nat) : digitsValue (decimalDigits n) = n :=
  Nat.ofDigitChars_toDigits (by decide) (by decide)

/-- The number `coefficient · 10 ^ exponent`. -/
structure Decimal where
  coefficient : Nat
  exponent : Int
deriving DecidableEq, Repr

/-- Which of two equally near decimals is taken. -/
inductive Tie where
  | toEven
  | up
deriving DecidableEq, Repr

namespace Decimal

/-! ## Normal form -/

/-- Move the trailing zeros of the coefficient into the exponent. -/
def strip (c : Nat) (e : Int) : Decimal :=
  if h : c ≠ 0 ∧ c % 10 = 0 then strip (c / 10) (e + 1) else ⟨c, e⟩
termination_by c
decreasing_by omega

/-- The same number with no trailing zero in its coefficient; zero has exponent zero. -/
def normalize (d : Decimal) : Decimal :=
  if d.coefficient = 0 then ⟨0, 0⟩ else strip d.coefficient d.exponent

/-- How many digits the coefficient has. -/
def length (d : Decimal) : Nat := (decimalDigits d.coefficient).length

/-- The position of the decimal point, counted from the first digit. -/
def pointPosition (d : Decimal) : Int := d.length + d.exponent

/-! ## Rounding to a double -/

/-- The nearest double of that sign. A decimal of more than 310 digits before the point is past
every double, and one with more than 330 zeros after it rounds to zero. -/
def toBinary64 (negative : Bool) (d : Decimal) : Binary64 :=
  if d.coefficient = 0 then .zero negative
  else if 310 < d.pointPosition then .infinite negative
  else if d.pointPosition < -330 then .zero negative
  else if 0 ≤ d.exponent then
    .nearest negative (d.coefficient * Nat.pow 10 d.exponent.toNat * unitsPerOne) 1
  else .nearest negative (d.coefficient * unitsPerOne) (Nat.pow 10 (-d.exponent).toNat)

/-! ## Shortest digits -/

/-- The decimal that a count of units is exactly: `2 ^ -1074` is `5 ^ 1074 · 10 ^ -1074`. -/
def exact (units : Nat) : Decimal := normalize ⟨units * Nat.pow 5 1074, -1074⟩

/-- The decimal next below on the grid without the last `cut` digits. -/
def below (d : Decimal) (cut : Nat) : Decimal :=
  normalize ⟨d.coefficient / Nat.pow 10 cut, d.exponent + cut⟩

/-- The decimal next above on the grid without the last `cut` digits. -/
def above (d : Decimal) (cut : Nat) : Decimal :=
  normalize ⟨d.coefficient / Nat.pow 10 cut + 1, d.exponent + cut⟩

/-- Whether the upper of the two grid neighbours is the one to take. -/
def roundsUp (tie : Tie) (d : Decimal) (cut : Nat) : Bool :=
  let r := 2 * (d.coefficient % Nat.pow 10 cut)
  if r = Nat.pow 10 cut then
    match tie with
    | .up => true
    | .toEven => d.coefficient / Nat.pow 10 cut % 2 = 1
  else Nat.pow 10 cut < r

/-- The grid neighbour of `d` that rounds to `x`, the nearer one if both do. -/
def onGrid (tie : Tie) (x : Binary64) (d : Decimal) (cut : Nat) : Option Decimal :=
  let low := d.below cut
  let high := d.above cut
  if low.toBinary64 false = x then
    if high.toBinary64 false = x then some (if d.roundsUp tie cut then high else low) else some low
  else if high.toBinary64 false = x then some high
  else none

/-- The neighbour on the coarsest of the grids with at most `cut` digits cut off. -/
def search (tie : Tie) (x : Binary64) (d : Decimal) : Nat → Decimal
  | 0 => d
  | cut + 1 =>
    match d.onGrid tie x (cut + 1) with
    | some e => e
    | none => search tie x d cut

/-- The fewest digits that round to the double of `units`. -/
def shortest (tie : Tie) (units : Nat) (h : Representable units) : Decimal :=
  let full := exact units
  search tie (.finite false units h) full (full.length - 1)

theorem toBinary64_of_onGrid {tie : Tie} {x : Binary64} {d e : Decimal} {cut : Nat}
    (h : d.onGrid tie x cut = some e) : e.toBinary64 false = x := by
  unfold onGrid at h
  dsimp only at h
  split at h
  next hlow =>
    split at h
    next hhigh => cases h; split <;> assumption
    next => cases h; exact hlow
  next =>
    split at h
    next hhigh => cases h; exact hhigh
    next => cases h

theorem search_eq_or_toBinary64 (tie : Tie) (x : Binary64) (d : Decimal) (cut : Nat) :
    search tie x d cut = d ∨ (search tie x d cut).toBinary64 false = x := by
  induction cut with
  | zero => exact .inl rfl
  | succ cut ih =>
    rw [search]
    split
    next e he => exact .inr (toBinary64_of_onGrid he)
    next => exact ih

/-- What is written for a double either is its exact decimal or was seen to round to it. -/
theorem shortest_eq_or_toBinary64 (tie : Tie) (units : Nat) (h : Representable units) :
    shortest tie units h = exact units ∨
      (shortest tie units h).toBinary64 false = .finite false units h :=
  search_eq_or_toBinary64 _ _ _ _

/-! ## Layouts -/

/-- Digits with the point at its place and no exponent. -/
def plain (d : Decimal) : List Char :=
  let ds := decimalDigits d.coefficient
  if 0 ≤ d.exponent then ds ++ List.replicate d.exponent.toNat '0'
  else
    let after := (-d.exponent).toNat
    if after < ds.length then ds.take (ds.length - after) ++ '.' :: ds.drop (ds.length - after)
    else '0' :: '.' :: (List.replicate (after - ds.length) '0' ++ ds)

/-- One digit, the point, the others, and the exponent with its sign. -/
def scientific (d : Decimal) : List Char :=
  let e := d.pointPosition - 1
  let tail := 'e' :: (if e < 0 then '-' else '+') :: decimalDigits e.natAbs
  match decimalDigits d.coefficient with
  | [] => tail
  | [c] => c :: tail
  | c :: cs => c :: '.' :: (cs ++ tail)

end Decimal

/-! ## Texts of a double -/

namespace Binary64

/-- A double in text: the fewest digits, never an exponent, no point on integers. A tie between
two shortest decimals goes up. -/
def toText : Binary64 → List Char
  | nan => ['N', 'a', 'N']
  | infinite negative => (if negative then ['-'] else []) ++ ['i', 'n', 'f']
  | finite negative units h =>
    (if negative then ['-'] else []) ++ (Decimal.shortest .up units h).plain

/-- A finite double in a JSON document: the fewest digits, `.0` on integers, an exponent from
`10 ^ 16` on and below `10 ^ -5`. A tie between two shortest decimals goes to the even one. -/
def toJsonText (negative : Bool) (units : Nat) (h : Representable units) : List Char :=
  let d := Decimal.shortest .toEven units h
  let p := d.pointPosition
  (if negative then ['-'] else []) ++
    if units = 0 then ['0', '.', '0']
    else if -5 < p ∧ p ≤ 16 then if 0 ≤ d.exponent then d.plain ++ ['.', '0'] else d.plain
    else d.scientific

end Binary64

end TypedSeries
