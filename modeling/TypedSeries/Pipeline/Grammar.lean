import TypedSeries.Pipeline.Basic
import TypedSeries.Text.Alphanumeric

/-!
# Reading query text

    from(bucket: "NAME") |> range(start: -1h) |> filter(fn: (r) => r.COLUMN < LITERAL) ...

1. Every reader takes the text at its front and returns the rest, or says where it got stuck and
   what it expected there.
2. `readSource` reads the `from` clause; being stuck in it is the error of the whole query.
3. `readStages` reads as many stages as there are. What follows the last one must be white space.
-/

namespace TypedSeries

/-- A reader of the front of a text. -/
abbrev Reads (α : Type) := List Char → Except Stuck (α × List Char)

namespace Grammar

/-! ## Words, characters and white space -/

/-- The rest of a text after a word in front of it. -/
def afterWord : List Char → List Char → Option (List Char)
  | [], cs => some cs
  | w :: ws, c :: cs => if w = c then afterWord ws cs else none
  | _ :: _, [] => none

/-- A given word. -/
def word (w : List Char) (cs : List Char) : Except Stuck (List Char) :=
  match afterWord w cs with
  | some rest => .ok rest
  | none => .error ⟨cs, .word⟩

/-- A given character. -/
def character (c : Char) : List Char → Except Stuck (List Char)
  | [] => .error ⟨[], .character⟩
  | d :: cs => if c = d then .ok cs else .error ⟨d :: cs, .character⟩

/-- An opening parenthesis with white space around it. -/
def openParen (cs : List Char) : Except Stuck (List Char) := do
  let cs ← character '(' (skipSpaces cs)
  return skipSpaces cs

/-- A closing parenthesis after white space. -/
def closeParen (cs : List Char) : Except Stuck (List Char) :=
  character ')' (skipSpaces cs)

/-- The name of an argument and its colon, and the white space after each. -/
def argument (name : List Char) (cs : List Char) : Except Stuck (List Char) := do
  let cs ← word name cs
  let cs ← character ':' (skipSpaces cs)
  return skipSpaces cs

/-! ## Literals -/

/-- A quoted text up to its closing quote: a backslash takes the next character as it is, except
that `\n` is a line feed. -/
def literalBody : List Char → Option (List Char × List Char)
  | [] => none
  | '"' :: rest => some ([], rest)
  | ['\\'] => none
  | '\\' :: 'n' :: rest => (literalBody rest).map fun p => ('\n' :: p.1, p.2)
  | '\\' :: c :: rest => (literalBody rest).map fun p => (c :: p.1, p.2)
  | c :: rest => (literalBody rest).map fun p => (c :: p.1, p.2)

/-- A quoted text; one that is not closed is stuck at its opening quote. -/
def stringLiteral : Reads (List Char) := fun cs =>
  match cs with
  | '"' :: rest =>
    match literalBody rest with
    | some p => .ok p
    | none => .error ⟨cs, .character⟩
  | _ => .error ⟨cs, .character⟩

/-- A character of a literal without quotes. -/
def isBare (c : Char) : Bool := isAsciiAlphanumeric c || c = '.' || c = '-' || c = '+'

/-- What a literal without quotes means: an integer, else a double, else a truth value, else
text. -/
def bareValue (cs : List Char) : Value :=
  match readInteger cs with
  | some i => .integer i
  | none =>
    match readNumber cs with
    | some x => .number x
    | none =>
      match Value.readBoolean cs with
      | some b => .boolean b
      | none => .text (String.ofList cs)

/-- A literal, with or without quotes. -/
def literal : Reads Value := fun cs =>
  match stringLiteral cs with
  | .ok (s, rest) => .ok (.text (String.ofList s), rest)
  | .error _ =>
    let token := cs.takeWhile isBare
    if token = [] then .error ⟨cs, .word⟩ else .ok (bareValue token, cs.dropWhile isBare)

/-! ## Operators and columns -/

/-- The operator symbols, longer ones before those they begin with. -/
def operatorSymbols : List (List Char) :=
  [['<', '='], ['>', '='], ['=', '='], ['!', '='], ['<'], ['>'], ['=']]

/-- The first of several words that stands in front. -/
def firstWord : List (List Char) → Reads (List Char)
  | [], cs => .error ⟨cs, .word⟩
  | w :: ws, cs =>
    match afterWord w cs with
    | some rest => .ok (w, rest)
    | none => firstWord ws cs

def operator : Reads Operator := fun cs => do
  let (symbol, rest) ← firstWord operatorSymbols cs
  match Operator.ofSymbol? symbol with
  | some op => return (op, rest)
  | none => .error ⟨cs, .word⟩

/-- A character of a column name. -/
def isNameChar (c : Char) : Bool := isAlphanumeric c || c = '_'

/-- A column name. -/
def columnName : Reads String := fun cs =>
  let name := cs.takeWhile isNameChar
  if name = [] then .error ⟨cs, .word⟩
  else .ok (String.ofList name, cs.dropWhile isNameChar)

/-! ## Stages -/

/-- A range, `-` and letters and digits of ASCII. -/
def rangeStart : Reads Range := fun cs =>
  match cs with
  | '-' :: rest =>
    let token := rest.takeWhile isAsciiAlphanumeric
    match Range.read ('-' :: token) with
    | some r => .ok (r, rest.dropWhile isAsciiAlphanumeric)
    | none => .error ⟨cs, .word⟩
  | _ => .error ⟨cs, .character⟩

/-- `range(start: -1h)`. -/
def rangeStage : Reads Range := fun cs => do
  let cs ← word "range".toList cs
  let cs ← openParen cs
  let cs ← argument "start".toList cs
  let (r, cs) ← rangeStart cs
  let cs ← closeParen cs
  return (r, cs)

/-- `filter(fn: (r) => r.COLUMN < LITERAL)`. -/
def filterStage : Reads Filter := fun cs => do
  let cs ← word "filter".toList cs
  let cs ← openParen cs
  let cs ← argument "fn".toList cs
  let cs ← character '(' cs
  let cs ← character 'r' (skipSpaces cs)
  let cs ← character ')' (skipSpaces cs)
  let cs ← word "=>".toList (skipSpaces cs)
  let cs ← word "r.".toList (skipSpaces cs)
  let (column, cs) ← columnName cs
  let (op, cs) ← operator (skipSpaces cs)
  let (value, cs) ← literal (skipSpaces cs)
  let cs ← closeParen cs
  return (⟨column, op, value⟩, cs)

def stage : Reads Stage := fun cs =>
  match rangeStage cs with
  | .ok (r, rest) => .ok (.range r, rest)
  | .error _ =>
    match filterStage cs with
    | .ok (f, rest) => .ok (.filter f, rest)
    | .error e => .error e

/-- A stage after its mark `|>`, with white space before and after the mark. -/
def pipedStage : Reads Stage := fun cs => do
  let cs ← word "|>".toList (skipSpaces cs)
  stage (skipSpaces cs)

/-- As many stages as there are, and the text from the first place where there is none. A stage
is counted only if it takes something away, which every stage does. -/
def readStages (cs : List Char) : List Stage × List Char :=
  match pipedStage cs with
  | .ok (s, rest) =>
    if rest.length < cs.length then
      let (stages, rest) := readStages rest
      (s :: stages, rest)
    else ([], cs)
  | .error _ => ([], cs)
termination_by cs.length

/-- `from(bucket: "NAME")`. -/
def readSource : Reads String := fun cs => do
  let cs ← word "from".toList cs
  let cs ← openParen cs
  let cs ← argument "bucket".toList cs
  let (name, cs) ← stringLiteral cs
  let cs ← closeParen cs
  return (String.ofList name, cs)

end Grammar

open Grammar in
/-- The pipeline a text says: a source and stages, with nothing but white space after them. -/
def Pipeline.read (cs : List Char) : Except QueryError Pipeline :=
  match readSource (skipSpaces cs) with
  | .error e => .error (.stuck e)
  | .ok (bucket, rest) =>
    let (stages, rest) := readStages rest
    let left := trim rest
    if left = [] then .ok (.ofStages bucket stages)
    else .error (.leftOver (String.ofList left))

def Pipeline.parse (s : String) : Except QueryError Pipeline := Pipeline.read s.toList

end TypedSeries
