import TypedSeries.CommandLine.Run
import TypedSeries.Proofs.PipelineGrammar

/-!
# Which source a setting comes from

Options, the environment and one settings file may each tell a setting, and what none of them tells
is standard. Each setting comes from the first of these that tells it, whatever the others come
from.

1. A variable tells a time limit if it is a number of 64 bits (`Settings.timeoutOf?_eq_some_iff`).
2. The file that counts is the first on a path that can be read and decoded
   (`Stated.first?_eq_some_iff`); nothing of the others is used (`Settings.search_eq`).
3. Each source in its turn tells a setting or lets it be (`Setting.of_settings`,
   `Setting.of_override`, `Setting.of_options`), and what is told determines the settings
   (`Settings.Told.unique`).

**Main.** `CommandLine.run_told`.
-/

namespace TypedSeries

open CommandLine (Options)

/-! ## What the sources tell -/

/-- The settings that more than one source may tell. -/
inductive Setting where
  | host
  | token
  | organization
  | timeoutMs
  | level
  | format
deriving DecidableEq

namespace Setting

/-- What a setting is: a number for the time limit, a text for all others. -/
def Value : Setting → Type
  | timeoutMs => Nat
  | host | token | organization | level | format => String

instance : (k : Setting) → DecidableEq k.Value
  | timeoutMs => inferInstanceAs (DecidableEq Nat)
  | host | token | organization | level | format => inferInstanceAs (DecidableEq String)

def of : (k : Setting) → Settings → k.Value
  | host, s => s.connection.host
  | token, s => s.connection.token
  | organization, s => s.connection.organization
  | timeoutMs, s => s.connection.timeoutMs
  | level, s => s.log.level
  | format, s => s.log.format

/-- What options tell. There is none for the time limit and the log. -/
def given : (k : Setting) → Options → Option k.Value
  | host, o => o.host
  | token, o => o.token
  | organization, o => o.organization
  | timeoutMs, _ => (none : Option Nat)
  | level, _ => (none : Option String)
  | format, _ => (none : Option String)

/-- What variables tell; the time limit only if the variable is a number of 64 bits. -/
def set : (k : Setting) → Environment → Option k.Value
  | host, env => env.get? "ALUMINUM_HOST"
  | token, env => env.get? "ALUMINUM_TOKEN"
  | organization, env => env.get? "ALUMINUM_ORG_ID"
  | timeoutMs, env => (env.get? "ALUMINUM_TIMEOUT_MS").bind Settings.timeoutOf?
  | level, env => env.get? "ALUMINUM_LOG_LEVEL"
  | format, env => env.get? "ALUMINUM_LOG_FORMAT"

/-- What a settings file tells. -/
def stated : (k : Setting) → Stated → Option k.Value
  | host, file => file.host
  | token, file => file.token
  | organization, file => file.organization
  | timeoutMs, file => file.timeoutMs
  | level, file => file.level
  | format, file => file.format

/-- What a setting is after all sources: as the options have it, or else the environment, or else
the file, if there is one, or else as it is by default. -/
def told (k : Setting) (o : Options) (env : Environment) (file : Option Stated) : k.Value :=
  (((k.given o).or (k.set env)).or (file.bind k.stated)).getD (k.of .standard)

theorem of_settings (k : Setting) (file : Stated) :
    k.of file.settings = (k.stated file).getD (k.of .standard) := by
  cases k <;> rfl

theorem of_override (k : Setting) (env : Environment) (s : Settings) :
    k.of (s.override env) = (k.set env).getD (k.of s) := by
  cases k <;> rfl

theorem of_options (k : Setting) (o : Options) (s : Settings) :
    k.of (o.override s) = (k.given o).getD (k.of s) := by
  cases k <;> rfl

end Setting

/-- The texts that are a number of 64 bits: digits, which a plus sign may precede. -/
theorem Settings.timeoutOf?_eq_some_iff {s : String} {n : Nat} :
    timeoutOf? s = some n ↔ ∃ ds, (s.toList = ds ∨ s.toList = '+' :: ds) ∧ ds ≠ [] ∧
      (∀ c ∈ ds, c.isDigit = true) ∧ digitsValue ds = n ∧ n < 2 ^ 64 := by
  constructor
  · intro h
    obtain ⟨m, hread, hbound⟩ := Option.bind_eq_some_iff.1 h
    split_ifs at hbound with hlt
    obtain rfl := Option.some.inj hbound
    obtain ⟨hne, hdigits, hvalue⟩ := Grammar.readDigits_eq_some_iff.1 hread
    refine ⟨_, ?_, hne, hdigits, hvalue, hlt⟩
    split
    next ds hs => exact .inr hs
    next => exact .inl rfl
  · rintro ⟨ds, hs, hne, hdigits, rfl, hlt⟩
    -- Digits do not begin with a sign, so a sign that is left out is not theirs.
    have hrest : timeoutOf? s =
        (readDigits ds).bind fun n => if n < word64Bound then some n else none := by
      unfold timeoutOf?
      rcases hs with hs | hs
      · rw [hs]
        split
        next => exact absurd (hdigits '+' List.mem_cons_self) (by decide)
        next => rfl
      · rw [hs]
        rfl
    rw [hrest, Grammar.readDigits_eq_some_iff.2 ⟨hne, hdigits, rfl⟩]
    exact if_pos hlt

/-! ## The file that counts -/

namespace Stated

variable {files : Files} {path : String} {paths : List String} {file : Stated}

/-- What a settings file tells, if it can be read and decoded. -/
def ofFile? (files : Files) (path : String) : Option Stated :=
  (files.read path).toOption.bind ofText?

/-- What the first file on a path tells that can be read and decoded. -/
def first? (files : Files) (paths : List String) : Option Stated :=
  paths.findSome? (ofFile? files)

theorem ofFile?_eq_some_iff : ofFile? files path = some file ↔
    ∃ text, files.read path = .ok text ∧ ofText? text = some file := by
  unfold ofFile?
  cases files.read path <;> simp [Except.toOption]

theorem ofFile?_eq_none_iff : ofFile? files path = none ↔
    ∀ text, files.read path = .ok text → ofText? text = none := by
  unfold ofFile?
  cases files.read path <;> simp [Except.toOption]

theorem first?_eq_some_iff : first? files paths = some file ↔
    ∃ before path after, paths = before ++ path :: after ∧ ofFile? files path = some file ∧
      ∀ other ∈ before, ofFile? files other = none :=
  List.findSome?_eq_some_iff

end Stated

/-- A file that can be read is there. -/
theorem Files.isThere_of_read {files : Files} {path text : String}
    (h : files.read path = .ok text) : files.isThere path = true := by
  unfold read at h
  unfold isThere
  split at h
  next hplace => rw [hplace]
  all_goals cases h

namespace Settings

open Stated (ofFile? first?)

variable {files : Files} {path : String} {file : Stated}

theorem load_of_ofFile? (h : ofFile? files path = some file) :
    load files path = .ok file.settings := by
  obtain ⟨text, hread, htext⟩ := Stated.ofFile?_eq_some_iff.1 h
  rw [load, hread]
  dsimp only
  rw [htext]

theorem load_of_read_error {e : FileError} (hread : files.read path = .error e) :
    load files path = .error (.io path e) := by
  rw [load, hread]

theorem load_of_ofText?_none {text : String} (hread : files.read path = .ok text)
    (htext : Stated.ofText? text = none) : load files path = .error (.parse ⟨path, text⟩) := by
  rw [load, hread]
  dsimp only
  rw [htext]

theorem load_of_ofFile?_none (h : ofFile? files path = none) : ∃ e, load files path = .error e := by
  cases hread : files.read path with
  | error e => exact ⟨_, load_of_read_error hread⟩
  | ok text => exact ⟨_, load_of_ofText?_none hread (Stated.ofFile?_eq_none_iff.1 h text hread)⟩

/-- The settings of the first file that tells any, or else the standard ones, overridden by the
environment. -/
theorem search_eq (files : Files) (env : Environment) (paths : List String) :
    search files env paths =
      (((first? files paths).map Stated.settings).getD standard).override env := by
  induction paths with
  | nil => rfl
  | cons path rest ih =>
    unfold search first?
    rw [List.findSome?_cons, loadWith]
    cases hfile : ofFile? files path with
    | some file =>
      obtain ⟨text, hread, -⟩ := Stated.ofFile?_eq_some_iff.1 hfile
      rw [if_pos (Files.isThere_of_read hread), load_of_ofFile? hfile]
      rfl
    | none =>
      obtain ⟨e, hload⟩ := load_of_ofFile?_none hfile
      rw [hload]
      exact (ite_self _).trans ih

/-- Settings that are told by options, an environment and, if there is one, a settings file. Where
to keep the log is for the file alone to tell. -/
structure Told (s : Settings) (o : Options) (env : Environment) (file : Option Stated) : Prop where
  each : ∀ k : Setting, k.of s = k.told o env file
  logFile : s.log.file = file.bind Stated.file

/-- The settings of a file, if there is one, overridden by an environment and then by options. -/
def layered (o : Options) (env : Environment) (file : Option Stated) : Settings :=
  o.override (((file.map Stated.settings).getD standard).override env)

theorem told_layered (o : Options) (env : Environment) (file : Option Stated) :
    (layered o env file).Told o env file where
  each k := by
    rw [layered, Setting.of_options, Setting.of_override, Setting.told, Option.getD_or,
      Option.getD_or]
    cases file with
    | none => rfl
    | some file =>
      rw [Option.map_some, Option.getD_some, Setting.of_settings]
      rfl
  logFile := by cases file <;> rfl

theorem ext_of {s s' : Settings} (h : ∀ k : Setting, k.of s = k.of s')
    (hfile : s.log.file = s'.log.file) : s = s' := by
  obtain ⟨⟨host, token, organization, timeoutMs⟩, ⟨level, format, file⟩⟩ := s
  obtain ⟨⟨host', token', organization', timeoutMs'⟩, ⟨level', format', file'⟩⟩ := s'
  obtain rfl : host = host' := h .host
  obtain rfl : token = token' := h .token
  obtain rfl : organization = organization' := h .organization
  obtain rfl : timeoutMs = timeoutMs' := h .timeoutMs
  obtain rfl : level = level' := h .level
  obtain rfl : format = format' := h .format
  obtain rfl : file = file' := hfile
  rfl

/-- What is told is all there is to settings. -/
theorem Told.unique {s s' : Settings} {o : Options} {env : Environment} {file : Option Stated}
    (h : s.Told o env file) (h' : s'.Told o env file) : s = s' :=
  ext_of (fun k => (h.each k).trans (h'.each k).symm) (h.logFile.trans h'.logFile.symm)

end Settings

namespace CommandLine

open Stated (ofFile? first?)

variable {w : World} {o : Options} {path : String}

theorem settingsOf_of_config_none (h : o.config = none) : settingsOf w o =
    .ok (.layered o w.environment (first? w.files (Settings.searchPath w.userDirectory))) := by
  rw [settingsOf, h]
  dsimp only
  rw [Settings.search_eq]
  rfl

theorem settingsOf_of_config_some (h : o.config = some path) : settingsOf w o =
    (Settings.load w.files path).map fun s => o.override (s.override w.environment) := by
  rw [settingsOf, h]
  dsimp only
  rw [Settings.loadWith]
  cases Settings.load w.files path <;> rfl

/-- **The sources of settings.** Let a run be asked to do something with a store. If no settings
file is named, the store is asked with settings of which each is as told by the options, the
environment, the first file on the search path that can be read and decoded, and the default, in
this order; nothing else in the files is of any account. If a file is named, it is that one which
counts, and one that cannot be read, or not be decoded, is the error with which the run fails. -/
theorem run_told {args : List String} {task : Task} (hargs : parse args = some (.run o task))
    (htask : ∀ output, task ≠ .config output) :
    (o.config = none →
      let found (files : Files) := first? files (Settings.searchPath w.userDirectory)
      ∃ s : Settings, settingsOf w o = .ok s ∧ run w args = askStore w s task ∧
        s.Told o w.environment (found w.files) ∧
        ∀ files, found files = found w.files → settingsOf { w with files } o = .ok s) ∧
    ∀ path, o.config = some path →
      (∀ file, ofFile? w.files path = some file → ∃ s : Settings, settingsOf w o = .ok s ∧
        run w args = askStore w s task ∧ s.Told o w.environment (some file)) ∧
      (∀ e, w.files.read path = .error e →
        run w args = .failure w [(SettingsError.io path e).message w.wording.report]) ∧
      (∀ text, w.files.read path = .ok text → Stated.ofText? text = none →
        run w args =
          .failure w [(SettingsError.parse ⟨path, text⟩).message w.wording.report]) := by
  have hrun : run w args = _ := run_of_parse hargs htask
  refine ⟨fun hconfig => ?_, fun path hconfig => ?_⟩
  · have hs := settingsOf_of_config_none (w := w) hconfig
    rw [hs] at hrun
    refine ⟨_, hs, hrun, Settings.told_layered .., fun files hfiles => ?_⟩
    rw [settingsOf_of_config_none hconfig]
    exact congrArg (fun file => Except.ok (Settings.layered o w.environment file)) hfiles
  · have hs := settingsOf_of_config_some (w := w) hconfig
    refine ⟨fun file hfile => ?_, fun e hread => ?_, fun text hread htext => ?_⟩
    · rw [Settings.load_of_ofFile? hfile] at hs
      rw [hs] at hrun
      exact ⟨_, hs, hrun, Settings.told_layered o w.environment (some file)⟩
    · rw [Settings.load_of_read_error hread] at hs
      rw [hs] at hrun
      exact hrun
    · rw [Settings.load_of_ofText?_none hread htext] at hs
      rw [hs] at hrun
      exact hrun

/-! ## Settings of mixed origin -/

/-- A broken file, one that tells some settings, and one that would tell others. -/
def mixedFiles : Files :=
  .ofTexts (.ofList [("user/aluminum/config.toml", "[connection\n"),
    ("/etc/aluminum/config.toml", "[connection]\nhost = \"http://file\"\norg_id = \"file\"\n" ++
      "request_timeout_ms = 900\n"),
    ("config.toml", "[connection]\ntoken = \"late\"\n[logging]\nlevel = \"trace\"\n")])

/-- Surroundings with these files, an organization and a time limit that is no number. -/
def mixedWorld : World :=
  ⟨.ofList [("ALUMINUM_ORG_ID", "variable"), ("ALUMINUM_TIMEOUT_MS", "soon")], mixedFiles,
    .unreachable "refused", "user"⟩

theorem first?_mixedFiles : first? mixedFiles (Settings.searchPath "user") =
    some ⟨some "http://file", none, some "file", some 900, none, none, none⟩ := by
  decide +kernel

theorem run_told_mixed :
    run mixedWorld ["--host", "http://option", "health"] = askStore mixedWorld
      ⟨⟨"http://option", "", "variable", 900⟩, ⟨"info", "pretty", none⟩⟩ .health ∧
    run mixedWorld ["--config", "user/aluminum/config.toml", "health"] =
      .failure mixedWorld [(SettingsError.parse ⟨"user/aluminum/config.toml",
        "[connection\n"⟩).message mixedWorld.wording.report] := by
  have hargs : parse ["--host", "http://option", "health"] =
      some (.run ⟨none, some "http://option", none, none⟩ .health) := by decide +kernel
  have hnamed : parse ["--config", "user/aluminum/config.toml", "health"] =
      some (.run ⟨some "user/aluminum/config.toml", none, none, none⟩ .health) := by decide +kernel
  have hbroken : mixedFiles.read "user/aluminum/config.toml" = .ok "[connection\n" := by
    decide +kernel
  obtain ⟨s, -, hrun, htold, -⟩ := (run_told (w := mixedWorld) hargs nofun).1 rfl
  refine ⟨?_, ((run_told hnamed nofun).2 _ rfl).2.2 _ hbroken (by decide +kernel)⟩
  have hmixed : Settings.Told ⟨⟨"http://option", "", "variable", 900⟩, ⟨"info", "pretty", none⟩⟩
      ⟨none, some "http://option", none, none⟩ mixedWorld.environment
      (first? mixedFiles (Settings.searchPath "user")) := by
    rw [first?_mixedFiles]
    refine ⟨fun k => ?_, rfl⟩
    cases k <;> decide +kernel
  rw [hrun, htold.unique hmixed]

end CommandLine

end TypedSeries
