import TypedSeries.CommandLine.Run

/-!
# The program

Looks at the environment and the files a run touches, runs, and carries out what comes of it. The
program has no network of its own: every connection is refused.
-/

namespace TypedSeries.CommandLine

/-- The variables a run looks at. -/
def variableNames : List String :=
  ["ALUMINUM_HOST", "ALUMINUM_TOKEN", "ALUMINUM_ORG_ID", "ALUMINUM_TIMEOUT_MS",
   "ALUMINUM_LOG_LEVEL", "ALUMINUM_LOG_FORMAT", "RUST_LOG"]

/-- The variables that are set. -/
def lookAtEnvironment : IO Environment := do
  let mut env := NameMap.empty
  for name in variableNames do
    if let some value ← IO.getEnv name then env := env.insert name value
  return env

/-- The user's directory for settings. -/
def lookForUserDirectory : IO String := do
  match ← IO.getEnv "XDG_CONFIG_HOME" with
  | some directory => return directory
  | none => return ((← IO.getEnv "HOME").getD "") ++ "/.config"

/-- Whether a file that is there can be written. -/
def canWrite (path : String) : IO Bool := do
  try IO.FS.withFile path .append fun _ => return true catch _ => return false

/-- The file at a path, if there is one. -/
def fileAt? (path : String) : IO (Option File) := do
  try
    let bytes ← IO.FS.readBinFile path
    let content : Content := match String.fromUTF8? bytes with
      | some s => .text s
      | none => .bytes
    return some ⟨content, true, ← canWrite path⟩
  catch
  | .permissionDenied .. => return some ⟨.bytes, false, ← canWrite path⟩
  | _ => return none

/-- The files of a run, as far as it touches them. -/
def lookAtFiles (w : World) (args : List String) : IO World := do
  let mut files := w.files
  for path in filesRead w.userDirectory args do
    if let some file ← fileAt? path then files := files.put (Files.nameAt path) file
  match fileWritten { w with files } args with
  | none => return { w with files }
  | some path =>
    files := files.put (Files.directoryOf path ++ "/") (.ofText "")
    if let some file ← fileAt? path then files := files.put (Files.nameAt path) file
    return { w with files }

/-- Write the files a run has changed. -/
def writeFiles (before after : Files) : IO Unit := do
  for (name, file) in after.named.entries do
    if before.named.get? name ≠ some file then
      if let .text s := file.content then IO.FS.writeFile name s

/-- Add the events of a run to its log. -/
def writeLog (o : Outcome) : IO Unit := do
  let lines := String.join (o.log.map fun e => e.toJson.toText ++ "\n")
  match o.logFile with
  | none => (← IO.getStderr).putStr lines
  | some path => IO.FS.withFile path .append fun h => h.putStr lines

end TypedSeries.CommandLine

open TypedSeries.CommandLine in
def main (args : List String) : IO UInt32 := do
  let w : World := ⟨← lookAtEnvironment, .empty, .unreachable "no network", ← lookForUserDirectory⟩
  let w ← lookAtFiles w args
  let o := run w args
  writeFiles w.files o.files
  writeLog o
  IO.print o.printed
  IO.eprint o.complaint
  if let some e := o.error then IO.eprintln ("Error: " ++ e)
  return UInt32.ofNat o.exit
