import TypedSeries.Toml.Scalar

/-!
# TOML texts

1. Values: strings, words, arrays and inline tables, nested at most `depthLimit` deep.
2. Lines: headers, which open a table or one more table of an array, and keys with values, which go
   to the table opened last.
-/

namespace TypedSeries.Toml

/-! ## Values -/

mutual

/-- A value, given how deep it may be nested. -/
def value : Nat → Nat → List Char → Option (Toml × List Char)
  | 0, _, _ => none
  | fuel + 1, depth, cs =>
    match cs with
    | '[' :: rest =>
      if depth = 0 then none
      else (items fuel (depth - 1) rest).map fun p => (.array p.1, p.2)
    | '\x7b' :: rest =>
      if depth = 0 then none
      else match skipGap rest with
        | '\x7d' :: rest => some (.table [], rest)
        | rest => (inlineEntries fuel (depth - 1) [] rest).map fun p =>
            (.table (entryValues p.1), p.2)
    | '"' :: _ => (string cs).map fun p => (.text (String.ofList p.1), p.2)
    | '\'' :: _ => (string cs).map fun p => (.text (String.ofList p.1), p.2)
    | _ => word cs

/-- The items of an array up to its closing bracket; a comma may stand before it. -/
def items : Nat → Nat → List Char → Option (List Toml × List Char)
  | 0, _, _ => none
  | fuel + 1, depth, cs =>
    match skipLines false cs with
    | ']' :: rest => some ([], rest)
    | cs => do
      let (v, rest) ← value fuel depth cs
      match skipLines false rest with
      | ',' :: rest =>
        let (vs, rest) ← items fuel depth rest
        return (v :: vs, rest)
      | ']' :: rest => return ([v], rest)
      | _ => none

/-- The entries of an inline table up to its closing brace, added to those before them. -/
def inlineEntries : Nat → Nat → Entries → List Char → Option (Entries × List Char)
  | 0, _, _, _ => none
  | fuel + 1, depth, es, cs => do
    let (path, name, rest) ← key cs
    let rest ← afterChar '=' rest
    let (v, rest) ← value fuel depth (skipGap rest)
    let es ← define path name v .stated es
    match skipGap rest with
    | ',' :: rest => inlineEntries fuel depth es rest
    | '\x7d' :: rest => return (es, rest)
    | _ => none

end

/-! ## Lines -/

/-- A header: whether it is for an array, the path above its name, its name, and what follows the
line. -/
def header (cs : List Char) : Option ((Bool × List String × String) × List Char) :=
  match cs with
  | '[' :: '[' :: rest => do
    let (path, name, rest) ← key rest
    let rest ← afterLine (← afterChar ']' (← afterChar ']' rest))
    return ((true, path, name), rest)
  | '[' :: rest => do
    let (path, name, rest) ← key rest
    let rest ← afterLine (← afterChar ']' rest)
    return ((false, path, name), rest)
  | _ => none

/-- The entries after the lines of a text; `opened` is the path of the table opened last. -/
def readLines : Nat → List String → Entries → List Char → Option Entries
  | 0, _, _, _ => none
  | fuel + 1, opened, es, cs =>
    match skipGap cs with
    | [] => some es
    | '[' :: rest => do
      let ((isArray, path, name), rest) ← header ('[' :: rest)
      let es ← descend .implied (if isArray then openItem name else openTable name) path .stated es
      readLines fuel (path ++ [name]) es rest
    | c :: rest =>
      if c = '#' ∨ c = '\n' ∨ c = '\r' then do
        readLines fuel opened es (← afterLine (c :: rest))
      else do
        let (path, name, rest) ← key (c :: rest)
        let rest ← afterChar '=' rest
        let (v, rest) ← value (2 * rest.length + 1) depthLimit (skipGap rest)
        let es ← descend .implied (define path name v) opened .stated es
        readLines fuel opened es (← afterLine rest)

/-- The table a text holds. -/
def parse? (s : String) : Option Toml :=
  let cs := match s.toList with
    | '\ufeff' :: cs => cs
    | cs => cs
  (readLines (cs.length + 1) [] [] cs).map fun es => .table (entryValues es)

end TypedSeries.Toml
