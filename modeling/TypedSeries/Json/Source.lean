import TypedSeries.Number.Integer64
import TypedSeries.Value

/-!
# Reading JSON

1. `Source.parse` reads a JSON text as it stands: number literals stay digits, and a string whose
   escapes name half of a surrogate pair is kept as unreadable, since a reader that skips it never
   decodes it.
2. `NumberLiteral.toValue?` gives a literal its value. Digits are gathered into 64 bits, and the
   power of ten is applied to the rounded significand, so the last digit of a long literal may
   round differently from the exact decimal.
3. `Source.slots` reads a structure either from an object, whose unknown members are skipped and
   whose known members come at most once, or from an array by position.
-/

namespace TypedSeries

/-! ## Syntax -/

/-- A number as it is written. -/
structure NumberLiteral where
  negative : Bool
  whole : List Char
  fraction : Option (List Char)
  exponent : Option (Bool × List Char)

/-- A JSON text as it is written; a string is `none` when it cannot be decoded. -/
inductive Source where
  | null
  | boolean (b : Bool)
  | number (n : NumberLiteral)
  | text (s : Option String)
  | array (items : List Source)
  | object (members : List (Option String × Source))

namespace Source

instance : Inhabited Source := ⟨null⟩

/-! ## Strings -/

/-- The value of a hexadecimal digit of either case. -/
def hexDigit? (c : Char) : Option Nat :=
  if '0' ≤ c ∧ c ≤ '9' then some (c.toNat - 48)
  else if 'a' ≤ c ∧ c ≤ 'f' then some (c.toNat - 87)
  else if 'A' ≤ c ∧ c ≤ 'F' then some (c.toNat - 55)
  else none

/-- The value of four hexadecimal digits. -/
def hexUnit? (a b c d : Char) : Option Nat := do
  let a ← hexDigit? a
  let b ← hexDigit? b
  let c ← hexDigit? c
  let d ← hexDigit? d
  return ((a * 16 + b) * 16 + c) * 16 + d

/-- The character a one-letter escape stands for. -/
def shortEscape? (c : Char) : Option Char :=
  if c = '"' ∨ c = '\\' ∨ c = '/' then some c
  else if c = 'b' then some '\x08'
  else if c = 'f' then some '\x0c'
  else if c = 'n' then some '\n'
  else if c = 'r' then some '\r'
  else if c = 't' then some '\t'
  else none

/-- The code units of a string up to its closing quote, and what follows the quote. -/
def stringUnits : List Char → Option (List Nat × List Char)
  | '"' :: rest => some ([], rest)
  | '\\' :: 'u' :: a :: b :: c :: d :: rest => do
    let u ← hexUnit? a b c d
    let (us, rest) ← stringUnits rest
    return (u :: us, rest)
  | '\\' :: e :: rest => do
    let c ← shortEscape? e
    let (us, rest) ← stringUnits rest
    return (c.toNat :: us, rest)
  | c :: rest =>
    if c = '\\' ∨ c.toNat < 32 then none
    else (stringUnits rest).map fun p => (c.toNat :: p.1, p.2)
  | [] => none

/-- Join surrogate pairs; half a pair has no character. -/
def joinUnits : List Nat → Option (List Char)
  | [] => some []
  | [u] => if 0xD800 ≤ u ∧ u < 0xE000 then none else some [Char.ofNat u]
  | u :: v :: rest =>
    if 0xD800 ≤ u ∧ u < 0xDC00 then
      if 0xDC00 ≤ v ∧ v < 0xE000 then
        (joinUnits rest).map (Char.ofNat (0x10000 + (u - 0xD800) * 0x400 + (v - 0xDC00)) :: ·)
      else none
    else if 0xDC00 ≤ u ∧ u < 0xE000 then none
    else (joinUnits (v :: rest)).map (Char.ofNat u :: ·)

/-- A string after its opening quote. -/
def readString (cs : List Char) : Option (Option String × List Char) :=
  (stringUnits cs).map fun p => ((joinUnits p.1).map String.ofList, p.2)

/-! ## Numbers -/

/-- Digits at the front of a text and the rest. -/
def spanDigits (cs : List Char) : List Char × List Char :=
  (cs.takeWhile Char.isDigit, cs.dropWhile Char.isDigit)

/-- The fraction of a number, if a point follows. -/
def readFraction : List Char → Option (Option (List Char) × List Char)
  | '.' :: rest =>
    let (ds, rest) := spanDigits rest
    if ds = [] then none else some (some ds, rest)
  | rest => some (none, rest)

/-- The exponent of a number, if its mark follows. -/
def readExponentMark : List Char → Option (Option (Bool × List Char) × List Char)
  | [] => some (none, [])
  | c :: rest =>
    if c = 'e' ∨ c = 'E' then
      let (negative, rest) := splitSign rest
      let (ds, rest) := spanDigits rest
      if ds = [] then none else some (some (negative, ds), rest)
    else some (none, c :: rest)

/-- A number without a sign: no zero stands before other digits of its whole part. -/
def readUnsigned (negative : Bool) (cs : List Char) : Option (NumberLiteral × List Char) := do
  let (whole, rest) := spanDigits cs
  if whole = [] ∨ (whole.head? = some '0' ∧ whole.length ≠ 1) then none
  let (fraction, rest) ← readFraction rest
  let (exponent, rest) ← readExponentMark rest
  return (⟨negative, whole, fraction, exponent⟩, rest)

def readNumberLiteral : List Char → Option (NumberLiteral × List Char)
  | '-' :: rest => readUnsigned true rest
  | cs => readUnsigned false cs

/-! ## Values -/

mutual

/-- One JSON value at the front of a text, nested at most `fuel` deep, and the rest. -/
def read : Nat → List Char → Option (Source × List Char)
  | 0, _ => none
  | fuel + 1, cs =>
    match skipSpaces cs with
    | 'n' :: 'u' :: 'l' :: 'l' :: rest => some (null, rest)
    | 't' :: 'r' :: 'u' :: 'e' :: rest => some (boolean true, rest)
    | 'f' :: 'a' :: 'l' :: 's' :: 'e' :: rest => some (boolean false, rest)
    | '"' :: rest => (readString rest).map fun p => (text p.1, p.2)
    | '[' :: rest =>
      match skipSpaces rest with
      | ']' :: rest => some (array [], rest)
      | rest => (readItems fuel rest).map fun p => (array p.1, p.2)
    | '\x7b' :: rest =>
      match skipSpaces rest with
      | '\x7d' :: rest => some (object [], rest)
      | rest => (readMembers fuel rest).map fun p => (object p.1, p.2)
    | rest => (readNumberLiteral rest).map fun p => (number p.1, p.2)

/-- The items of an array after its bracket, at least one. -/
def readItems : Nat → List Char → Option (List Source × List Char)
  | 0, _ => none
  | fuel + 1, cs => do
    let (v, rest) ← read fuel cs
    match skipSpaces rest with
    | ',' :: rest =>
      let (vs, rest) ← readItems fuel rest
      return (v :: vs, rest)
    | ']' :: rest => return ([v], rest)
    | _ => none

/-- The members of an object after its brace, at least one. -/
def readMembers : Nat → List Char → Option (List (Option String × Source) × List Char)
  | 0, _ => none
  | fuel + 1, cs =>
    match skipSpaces cs with
    | '"' :: rest => do
      let (k, rest) ← readString rest
      match skipSpaces rest with
      | ':' :: rest =>
        let (v, rest) ← read fuel rest
        match skipSpaces rest with
        | ',' :: rest =>
          let (ms, rest) ← readMembers fuel rest
          return ((k, v) :: ms, rest)
        | '\x7d' :: rest => return ([(k, v)], rest)
        | _ => none
      | _ => none
    | _ => none

end

/-- A whole text that is one JSON value with white space around it. Every step into a value uses
a character, so the length of the text is depth enough. -/
def parse (s : String) : Option Source :=
  let cs := s.toList
  match read (2 * cs.length + 1) cs with
  | some (v, rest) => if skipSpaces rest = [] then some v else none
  | none => none

end Source

/-! ## The value of a literal -/

namespace NumberLiteral

/-- Digits gathered onto a significand until 64 bits are full, with the count of those left. -/
def gather (significand : Nat) : List Char → Nat × Nat
  | [] => (significand, 0)
  | c :: cs =>
    let next := significand * 10 + (c.toNat - 48)
    if next < word64Bound then gather next cs else (significand, cs.length + 1)

/-- `10 ^ n` as a double. -/
def powerOfTen (n : Nat) : Binary64 := .nearest false (Nat.pow 10 n * unitsPerOne) 1

/-- Apply a power of ten to a significand, in steps of at most `10 ^ 308`. An infinite result is
refused. Two steps down take any 64-bit significand to zero, so three rounds are enough. -/
def scale : Nat → Binary64 → Int → Option Binary64
  | 0, x, _ => some x
  | rounds + 1, x, e =>
    if e.natAbs ≤ 308 then
      if 0 ≤ e then
        let y := x.times (powerOfTen e.natAbs)
        if y.isInfinite then none else some y
      else some (x.quotient (powerOfTen e.natAbs))
    else if x.isZero then some x
    else if 0 ≤ e then none
    else scale rounds (x.quotient (powerOfTen 308)) (e + 308)

/-- The double of a significand and a power of ten. -/
def scaled (negative : Bool) (significand : Nat) (e : Int) : Option Binary64 :=
  (scale 3 (.ofInt significand) e).map fun x => if negative then x.negate else x

/-- The double of a literal. An exponent past 31 bits refuses or vanishes at once. -/
def toBinary64? (n : NumberLiteral) : Option Binary64 :=
  let (s, dropped) := gather 0 n.whole
  let (s, e) :=
    match n.fraction with
    | none => (s, (dropped : Int))
    | some ds =>
      let (t, left) := gather s ds
      (t, (dropped : Int) - (ds.length - left : Nat))
  match n.exponent with
  | none => scaled n.negative s e
  | some (negativeExponent, ds) =>
    let x := digitsValue ds
    if x < 2147483648 then scaled n.negative s (if negativeExponent then e - x else e + x)
    else if s ≠ 0 ∧ !negativeExponent then none
    else some (.zero n.negative)

/-- A literal without fraction or exponent that fits 64 signed bits is an integer, except that
minus zero is a double; every other literal is a double. -/
def toValue? (n : NumberLiteral) : Option Value :=
  let w := digitsValue n.whole
  if n.fraction.isNone ∧ n.exponent.isNone ∧ w < word64Bound then
    if n.negative then
      if w = 0 then some (.number (.zero true))
      else if w ≤ int64Bound then some (.integer (Int64.ofInt (-(w : Int))))
      else some (.number (.ofInt (-(w : Int))))
    else if w < int64Bound then some (.integer (Int64.ofInt w))
    else some (.number (.ofInt w))
  else n.toBinary64?.map .number

end NumberLiteral

/-! ## Decoding -/

namespace Source

def text? : Source → Option String
  | text s => s
  | _ => none

/-- A value of one of the four kinds. -/
def value? : Source → Option Value
  | text s => s.map .text
  | number n => n.toValue?
  | boolean b => some (.boolean b)
  | _ => none

/-- The members of a given name. -/
def membersNamed (name : String) (members : List (Option String × Source)) : List Source :=
  (members.filter fun m => m.1 = some name).map Prod.snd

/-- What stands for each of the fields of a structure, in field order. -/
def slots (fields : List String) : Source → Option (List (Option Source))
  | object members =>
    if members.all (fun m => m.1.isSome) ∧
        fields.all (fun f => (membersNamed f members).length ≤ 1) then
      some (fields.map fun f => (membersNamed f members).head?)
    else none
  | array items =>
    if items.length ≤ fields.length then
      some (items.map some ++ List.replicate (fields.length - items.length) none)
    else none
  | _ => none

/-- The entries of an object, its later members over earlier ones of the same name. -/
def entries? : Source → Option (List (String × Source))
  | object members => members.mapM fun m => m.1.map fun k => (k, m.2)
  | _ => none

end Source

/-- The value a JSON text holds, if it holds a single text, number or truth value. -/
def Value.ofJsonText? (s : String) : Option Value := (Source.parse s).bind Source.value?

end TypedSeries
