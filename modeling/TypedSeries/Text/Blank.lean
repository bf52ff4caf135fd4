/-!
# White space

Names, literals and query ends are trimmed of the white space of every script; the query grammar
itself knows four characters only.
-/

namespace TypedSeries

/-- Whether a character's code point lies in one of the ranges, ends included. -/
def inRanges (ranges : List (Nat × Nat)) (c : Char) : Bool :=
  ranges.any fun r => r.1 ≤ c.toNat && c.toNat ≤ r.2

/-- The code points of white space. -/
def blankRanges : List (Nat × Nat) :=
  [(0x9, 0xd), (0x20, 0x20), (0x85, 0x85), (0xa0, 0xa0), (0x1680, 0x1680), (0x2000, 0x200a),
   (0x2028, 0x2029), (0x202f, 0x202f), (0x205f, 0x205f), (0x3000, 0x3000)]

def isBlank (c : Char) : Bool := inRanges blankRanges c

/-- Drop white space at the front. -/
def trimLeft (cs : List Char) : List Char := cs.dropWhile isBlank

/-- Drop white space at both ends. -/
def trim (cs : List Char) : List Char := (trimLeft (trimLeft cs).reverse).reverse

/-- The text without white space at its ends. -/
def trimText (s : String) : String := String.ofList (trim s.toList)

theorem trim_nil : trim [] = [] := rfl

/-- Space, tab, carriage return and line feed: the white space inside a query. -/
def isSpace (c : Char) : Bool := c = ' ' ∨ c = '\t' ∨ c = '\r' ∨ c = '\n'

/-- Drop the white space of the query grammar at the front. -/
def skipSpaces (cs : List Char) : List Char := cs.dropWhile isSpace

end TypedSeries
