import TypedSeries.Number.Binary64

/-!
# Values and tables of TOML

While a text is read its tables form a tree that remembers how each table came to be, since that
decides where it may be added to: a table is open to a header below it, to dotted keys only if
dotted keys made it, and to a header of its own only while it was merely implied.
-/

namespace TypedSeries

/-- A value of a TOML text; a date or time is kept as it is written. -/
inductive Toml where
  | text (s : String)
  | integer (i : Int64)
  | number (x : Binary64)
  | boolean (b : Bool)
  | moment (cs : List Char)
  | array (items : List Toml)
  | table (entries : List (String × Toml))

namespace Toml

instance : Inhabited Toml := ⟨table []⟩

/-- How a table came to be: by its own header, as part of the path of a header, or by dotted
keys. -/
inductive Origin where
  | stated
  | implied
  | dotted
deriving DecidableEq, Repr

/-- A value, a table with its entries, or the tables of an array in the order of their headers. -/
inductive Node where
  | leaf (v : Toml)
  | table (origin : Origin) (entries : List (String × Node))
  | tables (items : List (List (String × Node)))

/-- Entries by key, in the order they came. -/
abbrev Entries := List (String × Node)

/-- What stands under a key. -/
def Entries.get? (key : String) (es : Entries) : Option Node := es.lookup key

/-- Put a node under a key, in place of what stands there. -/
def Entries.put (key : String) (n : Node) : Entries → Entries
  | [] => [(key, n)]
  | (k, m) :: es => if k = key then (k, n) :: es else (k, m) :: Entries.put key n es

/-! ## Adding to a tree -/

/-- Change the entries at the end of a path. A missing table on the way is made with the origin
given; dotted keys enter no table that a header stated. -/
def descend (made : Origin) (change : Origin → Entries → Option Entries) :
    List String → Origin → Entries → Option Entries
  | [], origin, es => change origin es
  | key :: path, _, es =>
    match es.get? key with
    | none => do
      let inner ← descend made change path made []
      return es.put key (.table made inner)
    | some (.leaf _) => none
    | some (.table origin inner) =>
      if made = .dotted ∧ origin = .stated then none
      else do
        let inner ← descend made change path origin inner
        return es.put key (.table origin inner)
    | some (.tables items) =>
      match items.reverse with
      | [] => none
      | last :: front => do
        let last ← descend made change path .stated last
        return es.put key (.tables (last :: front).reverse)

/-- A value under a new key of a table: after dots only of a table that dotted keys made, without
them of any other. -/
def assign (dots : Bool) (key : String) (v : Toml) (origin : Origin) (es : Entries) :
    Option Entries :=
  if dots = (origin = .dotted : Bool) ∧ (es.get? key).isNone then some (es.put key (.leaf v))
  else none

/-- A value under a path of keys of a table. -/
def define (path : List String) (key : String) (v : Toml) (origin : Origin) (es : Entries) :
    Option Entries :=
  descend .dotted (assign (path ≠ []) key v) path origin es

/-- A header for a table: there is none yet, or it was only implied. -/
def openTable (key : String) (_ : Origin) (es : Entries) : Option Entries :=
  match es.get? key with
  | none => some (es.put key (.table .stated []))
  | some (.table .implied inner) => some (es.put key (.table .stated inner))
  | some _ => none

/-- A header for one more table of an array. -/
def openItem (key : String) (_ : Origin) (es : Entries) : Option Entries :=
  match es.get? key with
  | none => some (es.put key (.tables [[]]))
  | some (.tables items) => some (es.put key (.tables (items ++ [[]])))
  | some _ => none

/-! ## The value of a tree -/

mutual

/-- The value of a node. -/
def Node.toValue : Node → Toml
  | .leaf v => v
  | .table _ es => .table (entryValues es)
  | .tables items => .array (itemValues items)

def entryValues : List (String × Node) → List (String × Toml)
  | [] => []
  | (k, n) :: es => (k, n.toValue) :: entryValues es

def itemValues : List (List (String × Node)) → List Toml
  | [] => []
  | es :: rest => .table (entryValues es) :: itemValues rest

end

end Toml

end TypedSeries
