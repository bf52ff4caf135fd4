import TypedSeries.NameMap
import TypedSeries.Number.Reading
import TypedSeries.Text.Blank

/-!
# Values

A column holds text, a 64-bit integer, a double or a truth value. `Value.coerce` reads a value
as another kind where that loses nothing, and `Value.compare` orders values of compatible kinds.
-/

namespace TypedSeries

/-! ## Kinds -/

/-- The four kinds a column may be declared with. -/
inductive Kind where
  | string
  | integer
  | number
  | boolean
deriving DecidableEq, Repr

namespace Kind

/-- The name of a kind in schemas. -/
def name : Kind → String
  | string => "string"
  | integer => "integer"
  | number => "number"
  | boolean => "boolean"

/-- The kind a schema means by a name. -/
def ofName? : String → Option Kind
  | "string" => some string
  | "integer" => some integer
  | "number" => some number
  | "boolean" => some boolean
  | _ => none

/-- The kind a caller means by a name: `float` is another word for `number`. -/
def ofAlias? (s : String) : Option Kind :=
  if s = "float" then some number else ofName? s

@[simp] theorem ofName?_name (k : Kind) : ofName? k.name = some k := by cases k <;> rfl

end Kind

/-! ## Values -/

/-- A value of one of the four kinds. -/
inductive Value where
  | text (s : String)
  | integer (i : Int64)
  | number (x : Binary64)
  | boolean (b : Bool)
deriving DecidableEq

/-- A row: values under column names. -/
abbrev Row := NameMap Value

namespace Value

def kind : Value → Kind
  | text _ => .string
  | integer _ => .integer
  | number _ => .number
  | boolean _ => .boolean

/-- A value in words. -/
def toText : Value → String
  | text s => s
  | integer i => String.ofList (integerText i)
  | number x => String.ofList x.toText
  | boolean b => if b then "true" else "false"

/-- The truth value a text names. -/
def readBoolean (cs : List Char) : Option Bool :=
  if cs = ['t', 'r', 'u', 'e'] then some true
  else if cs = ['f', 'a', 'l', 's', 'e'] then some false
  else none

/-- A value read as a kind: text is parsed without the white space around it, integers widen to
the nearest double, doubles narrow to the integer they are, and everything has a text. -/
def coerce : Value → Kind → Option Value
  | text s, .string => some (text s)
  | text s, .integer => (readInteger (trim s.toList)).map integer
  | text s, .number => (readNumber (trim s.toList)).map number
  | text s, .boolean => (readBoolean (trim s.toList)).map boolean
  | integer i, .string => some (text (integer i).toText)
  | integer i, .integer => some (integer i)
  | integer i, .number => some (number (.ofInt i.toInt))
  | integer _, .boolean => none
  | number x, .string => some (text (number x).toText)
  | number x, .integer => x.toInt?.map (integer ∘ Int64.ofInt)
  | number x, .number => some (number x)
  | number _, .boolean => none
  | boolean b, .string => some (text (boolean b).toText)
  | boolean _, .integer => none
  | boolean _, .number => none
  | boolean b, .boolean => some (boolean b)

@[simp] theorem coerce_kind (v : Value) : v.coerce v.kind = some v := by cases v <;> rfl

@[simp] theorem coerce_string (v : Value) : v.coerce .string = some (text v.toText) := by
  cases v <;> rfl

/-- What a value is read as has the kind asked for. -/
theorem kind_of_coerce {v w : Value} {k : Kind} (h : v.coerce k = some w) : w.kind = k := by
  cases v <;> cases k <;> grind [coerce, kind, Option.map_eq_some_iff]

/-- The order of two values: text by code points, numbers by size, false before true. Text and
truth values are in order with nothing of another kind, NaN with nothing at all. -/
def compare : Value → Value → Option Ordering
  | text a, text b => some (Ord.compare a b)
  | integer a, integer b => some (Ord.compare a.toInt b.toInt)
  | number a, number b => a.compare b
  | integer a, number b => (Binary64.ofInt a.toInt).compare b
  | number a, integer b => a.compare (.ofInt b.toInt)
  | boolean a, boolean b => some (Ord.compare a b)
  | _, _ => none

/-- Equality of two values of one kind; NaN equals nothing, both zeros are equal. -/
def equals : Value → Value → Bool
  | text a, text b => a = b
  | integer a, integer b => a = b
  | number a, number b => a.equals b
  | boolean a, boolean b => a = b
  | _, _ => false

end Value

end TypedSeries
