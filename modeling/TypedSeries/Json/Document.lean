import TypedSeries.Value

/-!
# Writing JSON

A document is written either on one line without spaces or indented by two spaces. Object
members come out in the order they are given in.
-/

namespace TypedSeries

/-- A JSON document. -/
inductive Json where
  | null
  | boolean (b : Bool)
  | integer (i : Int)
  | number (x : Binary64)
  | text (s : String)
  | array (items : List Json)
  | object (members : List (String × Json))

namespace Json

instance : Inhabited Json := ⟨null⟩

/-! ## Leaves -/

/-- The four hexadecimal digits of a control character, after `\u`. -/
def controlEscape (c : Char) : List Char :=
  ['\\', 'u', '0', '0', Nat.digitChar (c.toNat / 16), Nat.digitChar (c.toNat % 16)]

/-- One character inside a JSON string. -/
def escapeChar (c : Char) : List Char :=
  if c = '"' then ['\\', '"']
  else if c = '\\' then ['\\', '\\']
  else if c = '\n' then ['\\', 'n']
  else if c = '\r' then ['\\', 'r']
  else if c = '\t' then ['\\', 't']
  else if c = '\x08' then ['\\', 'b']
  else if c = '\x0c' then ['\\', 'f']
  else if c.toNat < 32 then controlEscape c
  else [c]

/-- A JSON string with its quotes. -/
def stringText (s : String) : List Char :=
  '"' :: (s.toList.flatMap escapeChar ++ ['"'])

/-- A number that is no finite double is written as `null`. -/
def numberText : Binary64 → List Char
  | .finite negative units h => Binary64.toJsonText negative units h
  | _ => ['n', 'u', 'l', 'l']

def intText (i : Int) : List Char :=
  (if i < 0 then ['-'] else []) ++ decimalDigits i.natAbs

/-! ## One line -/

mutual

/-- A document on one line. -/
def render : Json → List Char
  | null => ['n', 'u', 'l', 'l']
  | boolean b => if b then ['t', 'r', 'u', 'e'] else ['f', 'a', 'l', 's', 'e']
  | integer i => intText i
  | number x => numberText x
  | text s => stringText s
  | array items => '[' :: (renderItems items ++ [']'])
  | object members => '\x7b' :: (renderMembers members ++ ['\x7d'])

/-- Items with commas between them. -/
def renderItems : List Json → List Char
  | [] => []
  | [j] => render j
  | j :: i :: rest => render j ++ ',' :: renderItems (i :: rest)

/-- Members with commas between them. -/
def renderMembers : List (String × Json) → List Char
  | [] => []
  | [(k, j)] => stringText k ++ ':' :: render j
  | (k, j) :: m :: rest => stringText k ++ ':' :: (render j ++ ',' :: renderMembers (m :: rest))

end

/-- The text of a document on one line. -/
def toText (j : Json) : String := String.ofList (render j)

/-! ## Indented -/

/-- A new line, indented to a depth. -/
def newLine (depth : Nat) : List Char := '\n' :: List.replicate (2 * depth) ' '

mutual

/-- A document over several lines; what is empty stays on one. -/
def indent (depth : Nat) : Json → List Char
  | array [] => ['[', ']']
  | array (j :: rest) => '[' :: (indentItems (depth + 1) (j :: rest) ++ newLine depth ++ [']'])
  | object [] => ['\x7b', '\x7d']
  | object (m :: rest) =>
    '\x7b' :: (indentMembers (depth + 1) (m :: rest) ++ newLine depth ++ ['\x7d'])
  | null => ['n', 'u', 'l', 'l']
  | boolean b => if b then ['t', 'r', 'u', 'e'] else ['f', 'a', 'l', 's', 'e']
  | integer i => intText i
  | number x => numberText x
  | text s => stringText s

/-- Each item on lines of its own. -/
def indentItems (depth : Nat) : List Json → List Char
  | [] => []
  | [j] => newLine depth ++ indent depth j
  | j :: i :: rest => newLine depth ++ indent depth j ++ ',' :: indentItems depth (i :: rest)

/-- Each member on lines of its own. -/
def indentMembers (depth : Nat) : List (String × Json) → List Char
  | [] => []
  | [(k, j)] => newLine depth ++ stringText k ++ ':' :: ' ' :: indent depth j
  | (k, j) :: m :: rest =>
    newLine depth ++ stringText k ++ ':' :: ' ' :: (indent depth j ++
      ',' :: indentMembers depth (m :: rest))

end

/-- The text of a document over several lines. -/
def toIndentedText (j : Json) : String := String.ofList (indent 0 j)

end Json

/-! ## Values and rows -/

namespace Value

def toJson : Value → Json
  | text s => .text s
  | integer i => .integer i.toInt
  | number x => .number x
  | boolean b => .boolean b

end Value

/-- A row as an object with a member for each column. -/
def rowToJson (row : Row) : Json :=
  .object (row.entries.map fun e => (e.1, e.2.toJson))

end TypedSeries
