import TypedSeries.NameMap
import TypedSeries.Text.Pieces

/-!
# Files

1. A file holds a text or other bytes, and may be read and written or not (`File`).
2. A tree of files is seen from one directory (`Files`): a path that starts with a slash goes from
   the root, every other path from that directory. A directory is there exactly if a name lies below
   it; a name that ends in a slash stands for an empty one.
-/

namespace TypedSeries

/-- Why a file could not be read or written. -/
inductive FileError where
  | notFound
  | notDirectory
  | isDirectory
  | denied
  | notText
deriving DecidableEq, Repr

def FileError.message : FileError → String
  | notFound => "No such file or directory (os error 2)"
  | notDirectory => "Not a directory (os error 20)"
  | isDirectory => "Is a directory (os error 21)"
  | denied => "Permission denied (os error 13)"
  | notText => "stream did not contain valid UTF-8"

/-! ## One file -/

/-- What a file holds: a text, or bytes that are none. -/
inductive Content where
  | text (s : String)
  | bytes
deriving DecidableEq, Repr

/-- A file and what may be done with it. -/
structure File where
  content : Content
  mayRead : Bool
  mayWrite : Bool
deriving DecidableEq, Repr

namespace File

/-- A file of a text that may be read and written. -/
def ofText (s : String) : File := ⟨.text s, true, true⟩

/-- The text of a file. -/
def read (f : File) : Except FileError String :=
  if f.mayRead then
    match f.content with
    | .text s => .ok s
    | .bytes => .error .notText
  else .error .denied

/-- Change what a file holds. -/
def change (f : File) (how : Content → Content) : Except FileError File :=
  if f.mayWrite then .ok { f with content := how f.content } else .error .denied

end File

/-! ## Trees of files -/

/-- Files under the names of their paths, segments joined by slashes. -/
structure Files where
  named : NameMap File

/-- What a path leads to. -/
inductive Place where
  | file (name : String)
  | directory
  | missing (name : String)
deriving DecidableEq, Repr

namespace Files

def empty : Files := ⟨.empty⟩

/-- Files of texts that may all be read and written. -/
def ofTexts (texts : NameMap String) : Files := ⟨texts.map .ofText⟩

instance : Coe (NameMap String) Files := ⟨ofTexts⟩

/-- The file of a name, an empty one if there is none. -/
def file (fs : Files) (name : String) : File := (fs.named.get? name).getD (.ofText "")

/-- Put a file in the place of the one of its name. -/
def put (fs : Files) (name : String) (f : File) : Files := ⟨fs.named.insert name f⟩

/-! ### Paths -/

/-- The name of a file from the segments of its path. -/
def nameOf (segments : List (List Char)) : String := String.ofList (['/'].intercalate segments)

/-- The segments of a root's path are one empty segment. -/
def root : List (List Char) := [[]]

/-- Whether a name lies below the directory of the given segments; both starts are directories. -/
def isDirectory (fs : Files) (segments : List (List Char)) : Bool :=
  segments = [] || segments = root ||
    fs.named.names.any fun name => (segments.flatMap (· ++ ['/'])).isPrefixOf name.toList

/-- One directory up; a root has none above it. -/
def up (segments : List (List Char)) : List (List Char) :=
  if segments = root then root else segments.dropLast

/-- Where a path starts, and its segments from there. -/
def startOf (path : String) : List (List Char) × List (List Char) :=
  match path.toList with
  | '/' :: cs => (root, pieces '/' cs)
  | cs => ([], pieces '/' cs)

/-- Follow the segments of a path from a directory. -/
def follow (fs : Files) : List (List Char) → List (List Char) → Except FileError Place
  | _, [] => .ok .directory
  | here, segment :: rest =>
    if segment = [] ∨ segment = ['.'] then follow fs here rest
    else if segment = ['.', '.'] then follow fs (up here) rest
    else
      let next := here ++ [segment]
      if fs.isDirectory next then follow fs next rest
      else if fs.named.contains (nameOf next) then
        if rest = [] then .ok (.file (nameOf next)) else .error .notDirectory
      else if rest = [] then .ok (.missing (nameOf next))
      else if rest.all (· = []) then .error .isDirectory
      else .error .notFound

/-- What a path leads to. -/
def locate (fs : Files) (path : String) : Except FileError Place :=
  if path = "" then .error .notFound
  else
    let (start, segments) := startOf path
    follow fs start segments

/-- The name of what a path leads to, whether it is there or not. -/
def nameAt (path : String) : String :=
  let (start, segments) := startOf path
  nameOf (segments.foldl (fun here segment =>
    if segment = [] ∨ segment = ['.'] then here
    else if segment = ['.', '.'] then up here
    else here ++ [segment]) start)

/-- The directory a path leads into. -/
def directoryOf (path : String) : String :=
  nameAt (nameOf ((pieces '/' path.toList).dropLast ++ [[]]))

/-! ### Reading and writing -/

/-- The text of a file. -/
def read (fs : Files) (path : String) : Except FileError String :=
  match fs.locate path with
  | .ok (.file name) => (fs.file name).read
  | .ok .directory => .error .isDirectory
  | .ok (.missing _) => .error .notFound
  | .error .isDirectory => .error .notFound
  | .error e => .error e

/-- Whether a path leads to something that is there. -/
def isThere (fs : Files) (path : String) : Bool :=
  match fs.locate path with
  | .ok (.file _) | .ok .directory => true
  | _ => false

/-- Change what a file holds, which is an empty text if it is new. -/
def change (fs : Files) (path : String) (how : Content → Content) : Except FileError Files :=
  match fs.locate path with
  | .ok (.file name) | .ok (.missing name) => ((fs.file name).change how).map (fs.put name)
  | .ok .directory => .error .isDirectory
  | .error e => .error e

/-- Put a text into a file in place of what it holds. -/
def write (fs : Files) (path text : String) : Except FileError Files :=
  fs.change path fun _ => .text text

/-- Make sure a file is there to be added to. -/
def create (fs : Files) (path : String) : Except FileError Files := fs.change path id

end Files

end TypedSeries
