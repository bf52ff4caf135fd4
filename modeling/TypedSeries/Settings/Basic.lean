import TypedSeries.Engine

/-!
# Settings

How to reach the store and what to log.
-/

namespace TypedSeries

/-- How to reach the store. -/
structure ConnectionSettings where
  host : String
  token : String
  organization : String
  timeoutMs : Nat
deriving DecidableEq

/-- What to log, in which form, and into which file if not to the terminal. -/
structure LogSettings where
  level : String
  format : String
  file : Option String
deriving DecidableEq

structure Settings where
  connection : ConnectionSettings
  log : LogSettings
deriving DecidableEq

namespace Settings

/-- The settings where nothing else is said. -/
def standard : Settings :=
  ⟨⟨"http://localhost:8086", "", "", 5000⟩, ⟨"info", "pretty", none⟩⟩

/-- The engine of settings. -/
def engine (s : Settings) : Engine :=
  ⟨s.connection.host, s.connection.token, s.connection.organization, s.connection.timeoutMs⟩

/-- What may be shown of an optional text. -/
def optionText : Option String → String
  | some s => "Some(" ++ quote s ++ ")"
  | none => "None"

/-- What may be shown of settings: all but the token. -/
def describe (s : Settings) : String :=
  "Config \x7b connection: ConnectionConfig \x7b host: " ++ quote s.connection.host ++
    ", token: \"<redacted>\", org_id: " ++ quote s.connection.organization ++
    ", request_timeout_ms: " ++ s.connection.timeoutMs.repr ++
    " \x7d, logging: LoggingConfig \x7b level: " ++ quote s.log.level ++
    ", format: " ++ quote s.log.format ++ ", file: " ++ optionText s.log.file ++ " \x7d \x7d"

/-- A settings file that says what the standard settings say. -/
def template : String :=
  "\n".intercalate [
    "# Aluminum Configuration",
    "#",
    "# Environment variables override these settings:",
    "# - ALUMINUM_HOST",
    "# - ALUMINUM_TOKEN",
    "# - ALUMINUM_ORG_ID",
    "# - ALUMINUM_TIMEOUT_MS",
    "# - ALUMINUM_LOG_LEVEL",
    "# - ALUMINUM_LOG_FORMAT",
    "",
    "[connection]",
    "# Store base URL",
    "host = \"http://localhost:8086\"",
    "",
    "# API token",
    "token = \"\"",
    "",
    "# Organization ID",
    "org_id = \"\"",
    "",
    "# Per-request timeout (ms)",
    "request_timeout_ms = 5000",
    "",
    "[logging]",
    "# Log level: trace, debug, info, warn, error",
    "level = \"info\"",
    "",
    "# Log format: pretty (for development) or json (for production)",
    "format = \"pretty\"",
    "",
    "# Optional log file path",
    "# file = \"/var/log/aluminum/aluminum.log\"",
    ""]

end Settings

end TypedSeries
