import TypedSeries.Json.Source
import TypedSeries.Number.Integer64
import TypedSeries.Text.Pieces
import TypedSeries.Time.Instant
import TypedSeries.Toml.Tree

/-!
# Keys and plain values of TOML

Each reader takes a piece from the front of a text and gives what follows. Numbers, dates and
words are told apart on the whole run of characters that can stand in one.
-/

namespace TypedSeries.Toml

/-- A reader of pieces. -/
abbrev Reader (α : Type) := List Char → Option (α × List Char)

/-! ## White space and comments -/

def isGap (c : Char) : Bool := c = ' ' || c = '\t'

def skipGap (cs : List Char) : List Char := cs.dropWhile isGap

/-- Whether a character may stand in a comment or in quotes: no control character but the tab. -/
def isPlain (c : Char) : Bool := c = '\t' || (32 ≤ c.toNat && c.toNat ≠ 127)

/-- What follows a line end. -/
def afterNewline : List Char → Option (List Char)
  | '\n' :: cs => some cs
  | '\r' :: '\n' :: cs => some cs
  | _ => none

/-- What follows the rest of a line that holds nothing more than a comment. -/
def afterLine (cs : List Char) : Option (List Char) :=
  let cs := match skipGap cs with
    | '#' :: cs => cs.dropWhile isPlain
    | cs => cs
  if cs = [] then some [] else afterNewline cs

/-- What follows gaps, line ends and comments; `inComment` tells whether a comment is going on. -/
def skipLines (inComment : Bool) : List Char → List Char
  | [] => []
  | c :: cs =>
    if c = '\n' ∨ (c = '\r' ∧ cs.head? = some '\n') then skipLines false cs
    else if inComment ∧ isPlain c then skipLines true cs
    else if !inComment ∧ isGap c then skipLines false cs
    else if !inComment ∧ c = '#' then skipLines true cs
    else c :: cs

/-! ## Strings -/

/-- The character of a code point that is no surrogate. -/
def charOf? (n : Nat) : Option Char := if n.isValidChar then some (Char.ofNat n) else none

/-- The character that stands after a backslash for another. -/
def escape? (c : Char) : Option Char :=
  if c = '"' ∨ c = '\\' then some c
  else if c = 'b' then some '\x08'
  else if c = 't' then some '\t'
  else if c = 'n' then some '\n'
  else if c = 'f' then some '\x0c'
  else if c = 'r' then some '\r'
  else none

def cons? (c : Option Char) (rest : Option (List Char × List Char)) :
    Option (List Char × List Char) := do
  let c ← c
  let (cs, rest) ← rest
  return (c :: cs, rest)

/-- The character of four hexadecimal digits. -/
def shortCode? (a b c d : Char) : Option Char := (Source.hexUnit? a b c d).bind charOf?

/-- The character of eight hexadecimal digits. -/
def longCode? (a b c d e f g h : Char) : Option Char := do
  let high ← Source.hexUnit? a b c d
  let low ← Source.hexUnit? e f g h
  charOf? (65536 * high + low)

/-- A quoted string after its opening quote. -/
def quotedBody : List Char → Option (List Char × List Char)
  | '"' :: rest => some ([], rest)
  | '\\' :: 'u' :: a :: b :: c :: d :: rest => cons? (shortCode? a b c d) (quotedBody rest)
  | '\\' :: 'U' :: a :: b :: c :: d :: e :: f :: g :: h :: rest =>
    cons? (longCode? a b c d e f g h) (quotedBody rest)
  | '\\' :: e :: rest => cons? (escape? e) (quotedBody rest)
  | c :: rest => if isPlain c ∧ c ≠ '\\' then cons? (some c) (quotedBody rest) else none
  | [] => none

/-- A quoted string over several lines after its opening quotes. After a backslash at the end of a
line, white space is left out up to the next character. -/
def longQuotedBody : Bool → List Char → Option (List Char × List Char)
  | skipping, '\n' :: rest =>
    if skipping then longQuotedBody true rest else cons? (some '\n') (longQuotedBody false rest)
  | skipping, '\r' :: '\n' :: rest =>
    if skipping then longQuotedBody true rest else cons? (some '\n') (longQuotedBody false rest)
  | _, '"' :: '"' :: '"' :: '"' :: '"' :: rest => some (['"', '"'], rest)
  | _, '"' :: '"' :: '"' :: '"' :: rest => some (['"'], rest)
  | _, '"' :: '"' :: '"' :: rest => some ([], rest)
  | _, '\\' :: 'u' :: a :: b :: c :: d :: rest =>
    cons? (shortCode? a b c d) (longQuotedBody false rest)
  | _, '\\' :: 'U' :: a :: b :: c :: d :: e :: f :: g :: h :: rest =>
    cons? (longCode? a b c d e f g h) (longQuotedBody false rest)
  | _, '\\' :: e :: rest =>
    if isGap e ∨ e = '\n' ∨ e = '\r' then
      if (afterNewline (skipGap (e :: rest))).isSome then longQuotedBody true rest else none
    else cons? (escape? e) (longQuotedBody false rest)
  | skipping, c :: rest =>
    if skipping ∧ isGap c then longQuotedBody true rest
    else if isPlain c ∧ c ≠ '\\' then cons? (some c) (longQuotedBody false rest)
    else none
  | _, [] => none

/-- A literal string after its opening quote. -/
def literalBody : List Char → Option (List Char × List Char)
  | '\'' :: rest => some ([], rest)
  | c :: rest => if isPlain c then cons? (some c) (literalBody rest) else none
  | [] => none

/-- A literal string over several lines after its opening quotes. -/
def longLiteralBody : List Char → Option (List Char × List Char)
  | '\n' :: rest => cons? (some '\n') (longLiteralBody rest)
  | '\r' :: '\n' :: rest => cons? (some '\n') (longLiteralBody rest)
  | '\'' :: '\'' :: '\'' :: '\'' :: '\'' :: rest => some (['\'', '\''], rest)
  | '\'' :: '\'' :: '\'' :: '\'' :: rest => some (['\''], rest)
  | '\'' :: '\'' :: '\'' :: rest => some ([], rest)
  | c :: rest => if isPlain c then cons? (some c) (longLiteralBody rest) else none
  | [] => none

/-- The text after opening quotes, without a line end that follows them at once. -/
def dropNewline (cs : List Char) : List Char := (afterNewline cs).getD cs

/-- A string on one line. -/
def shortString : List Char → Option (List Char × List Char)
  | '"' :: cs => quotedBody cs
  | '\'' :: cs => literalBody cs
  | _ => none

/-- A string of any kind. -/
def string : List Char → Option (List Char × List Char)
  | '"' :: '"' :: '"' :: cs => longQuotedBody false (dropNewline cs)
  | '\'' :: '\'' :: '\'' :: cs => longLiteralBody (dropNewline cs)
  | cs => shortString cs

/-! ## Keys -/

def isKeyChar (c : Char) : Bool := c.isAlphanum || c = '_' || c = '-'

/-- One part of a key, bare or a string. -/
def keyPart (cs : List Char) : Option (String × List Char) :=
  match cs.takeWhile isKeyChar with
  | [] => (shortString cs).map fun p => (String.ofList p.1, p.2)
  | name => some (String.ofList name, cs.dropWhile isKeyChar)

/-- The parts of a key with dots and gaps between them, at most `fuel` many. -/
def keyParts : Nat → List Char → Option (List String × List Char)
  | 0, _ => none
  | fuel + 1, cs => do
    let (part, rest) ← keyPart (skipGap cs)
    match skipGap rest with
    | '.' :: rest =>
      let (parts, rest) ← keyParts fuel rest
      return (part :: parts, rest)
    | rest => return ([part], rest)

/-- How many parts a key may have, and how deep values may be nested. -/
def depthLimit : Nat := 79

/-- A key: the path to a table, and a name in it. -/
def key (cs : List Char) : Option (List String × String × List Char) := do
  let (parts, rest) ← keyParts depthLimit cs
  match parts.getLast? with
  | some name => return (parts.dropLast, name, rest)
  | none => none

/-! ## Numbers -/

/-- Digits of a class, with single underscores between digits only, without the underscores. -/
def digitRun (isDigit : Char → Bool) (cs : List Char) : Option (List Char) :=
  let ps := pieces '_' cs
  if ps.all fun p => p ≠ [] ∧ p.all isDigit then some ps.flatten else none

def isHexDigit (c : Char) : Bool := (Source.hexDigit? c).isSome
def isOctalDigit (c : Char) : Bool := '0' ≤ c && c ≤ '7'
def isBinaryDigit (c : Char) : Bool := c = '0' || c = '1'

/-- The value of digits of a base. -/
def baseValue (base : Nat) (cs : List Char) : Nat :=
  cs.foldl (fun n c => base * n + (Source.hexDigit? c).getD 0) 0

/-- Decimal digits that do not start with a needless zero. -/
def wholeDigits (cs : List Char) : Option (List Char) :=
  (digitRun Char.isDigit cs).bind fun ds =>
    if ds.head? = some '0' ∧ cs.length ≠ 1 then none else some ds

/-- An integer, with a sign if it is decimal. -/
def integer? (cs : List Char) : Option Int64 :=
  match cs with
  | '0' :: 'x' :: ds => (digitRun isHexDigit ds).bind fun ds => int64? (baseValue 16 ds)
  | '0' :: 'o' :: ds => (digitRun isOctalDigit ds).bind fun ds => int64? (baseValue 8 ds)
  | '0' :: 'b' :: ds => (digitRun isBinaryDigit ds).bind fun ds => int64? (baseValue 2 ds)
  | _ =>
    let (negative, ds) := splitSign cs
    (wholeDigits ds).bind fun ds =>
      int64? (if negative then -(digitsValue ds : Int) else digitsValue ds)

/-- The part of a number after its point or at its end: digits, which may start with zeros. -/
def fractionDigits (cs : List Char) : Option (List Char) := digitRun Char.isDigit cs

/-- A number's exponent with its mark, an optional sign and digits. -/
def exponentText : List Char → Option (List Char)
  | [] => some []
  | e :: cs =>
    if e = 'e' ∨ e = 'E' then
      match cs with
      | '-' :: ds => (fractionDigits ds).map ('e' :: '-' :: ·)
      | '+' :: ds => (fractionDigits ds).map ('e' :: ·)
      | ds => (fractionDigits ds).map ('e' :: ·)
    else none

def isExponentMark (c : Char) : Bool := c = 'e' || c = 'E'

/-- The digits, point and exponent of a number that has a point or an exponent. -/
def fractionalText (cs : List Char) : Option (List Char) := do
  let mantissa := cs.takeWhile (!isExponentMark ·)
  let exponent ← exponentText (cs.dropWhile (!isExponentMark ·))
  match cut '.' mantissa with
  | (whole, some fraction) =>
    return (← wholeDigits whole) ++ '.' :: (← fractionDigits fraction) ++ exponent
  | (whole, none) => if exponent = [] then none else return (← wholeDigits whole) ++ exponent

/-- A number that is no integer; one too large for a double is refused unless it is negative. -/
def number? (cs : List Char) : Option Binary64 :=
  let (negative, body) := splitSign cs
  if String.ofList body = "inf" then some (.infinite negative)
  else if String.ofList body = "nan" then some .nan
  else (fractionalText body).bind fun text => (readDecimal text).bind fun d =>
    let x := d.toBinary64 negative
    if x = .infinite false then none else some x

/-! ## Dates and times -/

/-- A time of day without an offset. -/
def timeOfDay (cs : List Char) : Option (List Char) := (readTimeOfDay cs).map Prod.snd

/-- What may follow a time of day: nothing, `Z`, or hours and minutes of an offset. -/
def isOffset : List Char → Bool
  | [] => true
  | [c] => c = 'Z' || c = 'z'
  | c :: cs =>
    (c = '+' || c = '-') &&
      match (do
        let (h, cs) ← digitsOfLength 2 cs
        let (m, cs) ← digitsOfLength 2 (← afterChar ':' cs)
        if cs = [] then some (h, m) else none) with
      | some (h, m) => h < 24 && m < 60
      | none => false

/-- Whether characters are a time of day with an optional offset. -/
def isTime (cs : List Char) : Bool :=
  match timeOfDay cs with
  | some rest => isOffset rest
  | none => false

/-- Whether characters are a date, a time of day, or both with an optional offset. -/
def isMoment (cs : List Char) : Bool :=
  match readDay cs with
  | some (_, []) => true
  | some (_, mark :: rest) => (mark = 'T' || mark = 't') && isTime rest
  | none => timeOfDay cs = some []

/-- Whether characters are a date alone. -/
def isDay (cs : List Char) : Bool :=
  match readDay cs with
  | some (_, rest) => rest = []
  | none => false

/-! ## Words -/

/-- Characters of numbers, dates and words. -/
def isWordChar (c : Char) : Bool :=
  c.isAlphanum || c = '+' || c = '-' || c = '_' || c = '.' || c = ':'

/-- The value of a word. -/
def wordValue (cs : List Char) : Option Toml :=
  if String.ofList cs = "true" then some (.boolean true)
  else if String.ofList cs = "false" then some (.boolean false)
  else if isMoment cs then some (.moment cs)
  else match integer? cs with
    | some i => some (.integer i)
    | none => (number? cs).map .number

/-- A number, date or word. A date may be followed by one space and a time. -/
def word (cs : List Char) : Option (Toml × List Char) :=
  let first := cs.takeWhile isWordChar
  let rest := cs.dropWhile isWordChar
  match rest with
  | ' ' :: more =>
    let second := more.takeWhile isWordChar
    if isDay first ∧ isTime second then
      some (.moment (first ++ ' ' :: second), more.dropWhile isWordChar)
    else (wordValue first).map fun v => (v, rest)
  | _ => (wordValue first).map fun v => (v, rest)

end TypedSeries.Toml
