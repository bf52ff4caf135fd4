import TypedSeries.CommandLine.Arguments
import TypedSeries.Log.Filter
import TypedSeries.Settings.Source
import TypedSeries.Store.Basic

/-!
# Running the program

A run is a function of the arguments, the environment, the files and the server. It ends with an
exit code, what is printed, an error if there is one, the files, the requests, and the events kept
by the log.
-/

namespace TypedSeries.CommandLine

/-- The words for what is refused: `usage` for arguments, `report` for the text of a settings file.
They may quote it. -/
class Wording where
  usage : List String → String
  report : String → String

/-- Words that quote nothing. -/
instance Wording.plain : Wording where
  usage _ := "error: wrong arguments\n\nFor more information, try '--help'.\n"
  report _ := "TOML parse error"

/-- What a run finds around it. -/
structure World where
  environment : Environment
  files : Files
  server : Http.Server
  userDirectory : String
  [wording : Wording]

/-- An exit code and what is printed: what was asked for, or a complaint. -/
structure Ending where
  exit : Nat
  printed : String
  complaint : String
deriving DecidableEq

/-- How a run ends. -/
structure Outcome extends Ending where
  error : Option String
  files : Files
  exchanges : Http.Exchanges
  wire : Http.Wire
  logFile : Option String
  log : List Event

/-- The requests that reached a server. -/
def Outcome.requests (o : Outcome) : List Http.Request := o.wire.received

/-- The ending of what has been asked for. -/
def Ending.done (printed : String) : Ending := ⟨0, printed, ""⟩

/-- The ending of an error, which is shown by itself. -/
def Ending.failed : Ending := ⟨1, "", ""⟩

/-- An error and its causes as they are shown. -/
def errorText : List String → String
  | [] => ""
  | [e] => e
  | [e, cause] => e ++ "\n\nCaused by:\n    " ++ cause
  | e :: causes =>
    e ++ "\n\nCaused by:" ++
      String.join (causes.mapIdx fun i cause => "\n    " ++ i.repr ++ ": " ++ cause)

/-- A run that ends before the store is asked. -/
def Outcome.early (w : World) (ending : Ending) : Outcome :=
  ⟨ending, none, w.files, [], [], none, []⟩

/-- A run that fails before the store is asked. -/
def Outcome.failure (w : World) (causes : List String) : Outcome :=
  ⟨.failed, some (errorText causes), w.files, [], [], none, []⟩

/-! ## Settings and log -/

/-- Settings with those overridden that options give. -/
def Options.override (o : Options) (s : Settings) : Settings :=
  ⟨{ s.connection with
      host := o.host.getD s.connection.host
      token := o.token.getD s.connection.token
      organization := o.organization.getD s.connection.organization }, s.log⟩

/-- The settings of a run: of the file named or else of the first found, then the environment, then
the options. -/
def settingsOf (w : World) (o : Options) : Except SettingsError Settings :=
  match o.config with
  | some path => (Settings.loadWith w.files w.environment path).map o.override
  | none =>
    .ok (o.override (.search w.files w.environment (Settings.searchPath w.userDirectory)))

/-- The filter for the level in the settings. -/
def levelFilter (level : String) : Option LogFilter :=
  LogFilter.parse? ("aluminum=" ++ String.ofList ((trim level.toList).map Char.toLower))

/-- The filter of a run: the environment's, if it is one, or else that of the settings. -/
def filterOf (env : Environment) (s : LogSettings) : Option LogFilter :=
  ((env.get? "RUST_LOG").bind LogFilter.parse?).or (levelFilter s.level)

/-- What goes wrong with the log. -/
inductive LogError where
  | filter
  | file (path : String) (e : FileError)
deriving DecidableEq

def LogError.message : LogError → String
  | filter => "Invalid log filter: invalid filter directive"
  | file path e => "Failed to open log file " ++ path ++ ": " ++ e.message

/-- The filter of a run, and the files with the log among them. -/
def openLog (w : World) (s : LogSettings) : Except LogError (LogFilter × Files) :=
  match filterOf w.environment s with
  | none => .error .filter
  | some f =>
    match s.file with
    | none => .ok (f, w.files)
    | some path =>
      match w.files.create path with
      | .ok files => .ok (f, files)
      | .error e => .error (.file path e)

/-! ## Tasks -/

/-- How a task ends, or an error with its causes. -/
abbrev Finish := Except (List String) Ending

/-- The event of a query that has been answered. -/
def queryComplete (output : QueryOutput) : Event :=
  ⟨.info, "aluminum", "Query complete",
    [("bucket", .text output.name), ("rows", .integer output.rows.length)]⟩

def finishHealth (host : String) : Except StoreError Bool → Finish
  | .ok true => .ok (.done ("Store at " ++ host ++ " is healthy\n"))
  | .ok false => .ok ⟨1, "", "Store at " ++ host ++ " reports unhealthy\n"⟩
  | .error e => .error [e.message]

def finishBuckets : Except StoreError (List Description) → Finish
  | .ok ds => .ok (.done ((Json.array (ds.map Description.toJson)).toIndentedText ++ "\n"))
  | .error e => .error [e.message]

def finishQuery : Except TransportError QueryOutput → Finish
  | .ok output => .ok (.done ((Json.array (output.rows.map rowToJson)).toIndentedText ++ "\n"))
  | .error e => .error e.chain

def finishDelete (bucket : String) : Except TransportError Bool → Finish
  | .ok true => .ok (.done ("Deleted bucket " ++ bucket ++ "\n"))
  | .ok false => .ok (.done ("Bucket " ++ bucket ++ " does not exist\n"))
  | .error e => .error e.chain

/-- Do a task with a store. A server keeps its own time, so none is given. -/
def perform (s : Store) : Task → Finish × Transport
  | .health =>
    let (result, s') := Store.healthy s
    (finishHealth s.engine.host result, s'.transport)
  | .buckets =>
    let (result, s') := Store.getBuckets s
    (finishBuckets result, s'.transport)
  | .query bucket query =>
    match Transport.queryText bucket query 0 s.transport with
    | (.ok output, t) => (finishQuery (.ok output), t.note (queryComplete output))
    | (.error e, t) => (finishQuery (.error e), t)
  | .delete bucket =>
    let (result, t) := Transport.delete bucket s.transport
    (finishDelete bucket result, t)
  | .config _ => (.ok (.done ""), s.transport)

/-- Write or print the settings template. -/
def writeTemplate (w : World) : Option String → Outcome
  | none => .early w (.done Settings.template)
  | some path =>
    match w.files.write path Settings.template with
    | .ok files => .early { w with files } (.done ("Config written to " ++ path ++ "\n"))
    | .error e => .failure w ["writing " ++ path, e.message]

/-- What a transport has sent and logged. -/
def traceOf : Transport → Http.Trace
  | .http _ _ trace => trace
  | .memory _ | .offline => .empty

/-- How a run ends after a task with a server. -/
def Outcome.ofTask (server : Http.Server) (logFile : Option String) (filter : LogFilter)
    (files : Files) (finish : Finish) (trace : Http.Trace) : Outcome :=
  let (ending, error) := match finish with
    | .ok ending => (ending, none)
    | .error causes => (Ending.failed, some (errorText causes))
  ⟨ending, error, files, trace.exchanges, server.wire trace.requests, logFile,
    trace.events.filter filter.keeps⟩

/-- The store of a run. -/
def storeOf (w : World) (s : Settings) : Store :=
  ⟨s.engine, .http (.ofEngine s.engine) w.server .empty, .empty⟩

/-- Ask the store with given settings. -/
def askStore (w : World) (s : Settings) (task : Task) : Outcome :=
  match openLog w s.log with
  | .error e => .failure w [e.message]
  | .ok (filter, files) =>
    let (finish, transport) := perform (storeOf w s) task
    .ofTask w.server s.log.file filter files finish (traceOf transport)

/-- Do what the options and a task say. -/
def runTask (w : World) (o : Options) : Task → Outcome
  | .config output => writeTemplate w output
  | task =>
    match settingsOf w o with
    | .ok s => askStore w s task
    | .error e => .failure w [e.message w.wording.report]

/-- Do what arguments ask for. Wrong arguments end the run with exit code 2. -/
def run (w : World) (args : List String) : Outcome :=
  match parse args with
  | none => .early w ⟨2, "", w.wording.usage args⟩
  | some .version => .early w (.done versionText)
  | some (.help about) => .early w (.done (helpText about))
  | some (.run o task) => runTask w o task

/-- A task that is for a store is done with the settings of the run, if it has any. -/
theorem run_of_parse {w : World} {o : Options} {args : List String} {task : Task}
    (hargs : parse args = some (.run o task)) (htask : ∀ output, task ≠ .config output) :
    run w args = match settingsOf w o with
      | .ok s => askStore w s task
      | .error e => .failure w [e.message w.wording.report] := by
  rw [run, hargs]
  cases task with
  | config output => exact absurd rfl (htask output)
  | _ => rfl

/-! ## What a run touches -/

/-- The settings files a run may read. -/
def filesRead (userDirectory : String) (args : List String) : List String :=
  match parse args with
  | some (.run _ (.config _)) => []
  | some (.run o _) =>
    match o.config with
    | some path => [path]
    | none => Settings.searchPath userDirectory
  | _ => []

/-- The file a run may write or add to. -/
def fileWritten (w : World) (args : List String) : Option String :=
  match parse args with
  | some (.run _ (.config output)) => output
  | some (.run o _) =>
    match settingsOf w o with
    | .ok s => s.log.file
    | .error _ => none
  | _ => none

end TypedSeries.CommandLine
