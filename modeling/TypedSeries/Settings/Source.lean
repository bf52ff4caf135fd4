import TypedSeries.Files
import TypedSeries.Number.Integer64
import TypedSeries.Settings.Basic
import TypedSeries.Toml.Document

/-!
# Where settings come from

1. A file says some of the settings (`Stated`); the others are standard.
2. Environment variables override what the file says.
3. Without a file named, the first place searched that holds a readable file counts.
-/

namespace TypedSeries

/-- What a settings file states, each setting or nothing. -/
structure Stated where
  host : Option String
  token : Option String
  organization : Option String
  timeoutMs : Option Nat
  level : Option String
  format : Option String
  file : Option String
deriving DecidableEq

/-- The variables of an environment. -/
abbrev Environment := NameMap String

/-- A settings file that does not decode: where it is, and its text. -/
structure RefusedFile where
  path : String
  text : String
deriving DecidableEq

/-- What went wrong with a settings file. -/
inductive SettingsError where
  | io (path : String) (e : FileError)
  | parse (file : RefusedFile)
deriving DecidableEq

/-- The message of an error. What is wrong with a text is for the decoder to report. -/
def SettingsError.message (report : String → String) : SettingsError → String
  | io path e => "Failed to read config file " ++ quote path ++ ": " ++ e.message
  | parse file => "Failed to parse config file " ++ quote file.path ++ ": " ++ report file.text

namespace Stated

/-! ## Decoding -/

/-- What stands for each of the fields of a structure: by name in a table, by place in an array;
a date or time has no field. -/
def fields (names : List String) : Toml → Option (List (Option Toml))
  | .table es => some (names.map fun name => es.lookup name)
  | .array items => some ((List.range names.length).map fun i => items[i]?)
  | .moment _ => some (names.map fun _ => none)
  | _ => none

/-- A text, if one is stated. -/
def text? : Option Toml → Option (Option String)
  | none => some none
  | some (.text s) => some (some s)
  | some _ => none

/-- A number of milliseconds, if one is stated. -/
def count? : Option Toml → Option (Option Nat)
  | none => some none
  | some (.integer i) => if 0 ≤ i.toInt then some (some i.toInt.toNat) else none
  | some _ => none

/-- The fields of a section, none of them stated if the section is not there. -/
def partFields? (names : List String) : Option Toml → Option (List (Option Toml))
  | none => some (names.map fun _ => none)
  | some v => fields names v

/-- What a table states. -/
def ofToml? (v : Toml) : Option Stated :=
  match fields ["connection", "logging"] v with
  | some [connection, logging] =>
    match partFields? ["host", "token", "org_id", "request_timeout_ms"] connection,
      partFields? ["level", "format", "file"] logging with
    | some [host, token, organization, timeoutMs], some [level, format, file] => do
      return ⟨← text? host, ← text? token, ← text? organization, ← count? timeoutMs,
        ← text? level, ← text? format, ← text? file⟩
    | _, _ => none
  | _ => none

/-- What the text of a settings file states. -/
def ofText? (s : String) : Option Stated := (Toml.parse? s).bind ofToml?

/-- The settings of what is stated, the others being standard. -/
def settings (s : Stated) : Settings :=
  let std := Settings.standard
  ⟨⟨s.host.getD std.connection.host, s.token.getD std.connection.token,
    s.organization.getD std.connection.organization,
    s.timeoutMs.getD std.connection.timeoutMs⟩,
   ⟨s.level.getD std.log.level, s.format.getD std.log.format, s.file⟩⟩

end Stated

namespace Settings

/-! ## Files -/

/-- The settings of a file. -/
def load (files : Files) (path : String) : Except SettingsError Settings :=
  match files.read path with
  | .error e => .error (.io path e)
  | .ok text =>
    match Stated.ofText? text with
    | some s => .ok s.settings
    | none => .error (.parse ⟨path, text⟩)

/-! ## The environment -/

/-- A number below `2 ^ 64`, with or without a plus sign. -/
def timeoutOf? (s : String) : Option Nat :=
  let ds := match s.toList with | '+' :: ds => ds | ds => ds
  (readDigits ds).bind fun n => if n < word64Bound then some n else none

/-- Settings with those overridden that the environment sets; a time limit that is no number does
not count. -/
def override (env : Environment) (s : Settings) : Settings :=
  let or (name value : String) : String := (env.get? name).getD value
  ⟨⟨or "ALUMINUM_HOST" s.connection.host, or "ALUMINUM_TOKEN" s.connection.token,
    or "ALUMINUM_ORG_ID" s.connection.organization,
    ((env.get? "ALUMINUM_TIMEOUT_MS").bind timeoutOf?).getD s.connection.timeoutMs⟩,
   ⟨or "ALUMINUM_LOG_LEVEL" s.log.level, or "ALUMINUM_LOG_FORMAT" s.log.format, s.log.file⟩⟩

/-- The settings of an environment alone. -/
def ofEnvironment (env : Environment) : Settings := standard.override env

/-- The settings of a file and an environment. -/
def loadWith (files : Files) (env : Environment) (path : String) : Except SettingsError Settings :=
  (load files path).map (override env)

/-! ## Searching -/

/-- Where settings files are searched, first the user's directory. -/
def searchPath (userDirectory : String) : List String :=
  [userDirectory ++ "/aluminum/config.toml", "/etc/aluminum/config.toml", "./config.toml"]

/-- The settings of the first file on a path of places that is there and can be read, or else of
the environment alone. -/
def search (files : Files) (env : Environment) : List String → Settings
  | [] => ofEnvironment env
  | path :: rest =>
    if files.isThere path then
      match loadWith files env path with
      | .ok s => s
      | .error _ => search files env rest
    else search files env rest

end Settings

end TypedSeries
