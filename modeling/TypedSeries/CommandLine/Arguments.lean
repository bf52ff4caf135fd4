/-!
# Command-line arguments

1. `scan` reads the arguments of one level, the program's own or a command's: options with their
   values, and what else is given. Two dashes end the options.
2. `parse` reads both levels. An option may be given once at each, and the command's counts.
-/

namespace TypedSeries.CommandLine

/-! ## What can be given -/

/-- An option that takes a value. -/
inductive Flag where
  | config
  | host
  | token
  | organization
  | output
deriving DecidableEq, Repr

namespace Flag

def long : Flag → String
  | config => "config"
  | host => "host"
  | token => "token"
  | organization => "org"
  | output => "output"

def short? : Flag → Option Char
  | config => some 'c'
  | output => some 'o'
  | _ => none

/-- Whether the value is a path, which is never empty. -/
def isPath : Flag → Bool
  | config | output => true
  | _ => false

def about : Flag → String
  | config => "Config file (default: search the standard locations)"
  | host => "Store URL"
  | token => "API token"
  | organization => "Organization ID"
  | output => "Output path (default: stdout)"

/-- The options every command takes. -/
def everywhere : List Flag := [config, host, token, organization]

end Flag

/-- The commands. -/
inductive Verb where
  | health
  | buckets
  | query
  | delete
  | config
deriving DecidableEq, Repr

namespace Verb

def all : List Verb := [health, buckets, query, delete, config]

def name : Verb → String
  | health => "health"
  | buckets => "buckets"
  | query => "query"
  | delete => "delete"
  | config => "config"

def ofName? (s : String) : Option Verb := all.find? (·.name = s)

def about : Verb → String
  | health => "Check that the store is reachable and accepts the credentials"
  | buckets => "List bucket descriptions"
  | query => "Run a raw pipeline query and print the rows as JSON"
  | delete => "Delete a bucket"
  | config => "Generate default config file"

/-- The arguments a command needs, and what they are. -/
def operands : Verb → List (String × String)
  | query => [("BUCKET", "Bucket name"),
      ("QUERY", "Query text, e.g. 'from(bucket: \"cpu\") |> range(start: -1h)'")]
  | delete => [("BUCKET", "Bucket name")]
  | _ => []

/-- The options a command takes. -/
def flags : Verb → List Flag
  | config => Flag.output :: Flag.everywhere
  | _ => Flag.everywhere

end Verb

/-! ## One level -/

/-- What the arguments of a level are read against. -/
structure Level where
  flags : List Flag
  hasVersion : Bool
  hasVerbs : Bool
  operands : Nat

/-- The program's own level. -/
def Level.top : Level := ⟨Flag.everywhere, true, true, 0⟩

/-- The level of a command. -/
def Level.ofVerb (v : Verb) : Level := ⟨v.flags, false, false, v.operands.length⟩

/-- The options and other arguments given so far. -/
structure Given where
  values : List (Flag × String)
  operands : List String

namespace Given

def empty : Given := ⟨[], []⟩

def value? (g : Given) (f : Flag) : Option String := g.values.lookup f

/-- The value of an option, which is given once and, if it is a path, not empty. -/
def giveValue (g : Given) (f : Flag) (v : String) : Option Given :=
  if (g.value? f).isSome ∨ (f.isPath ∧ v = "") then none
  else some { g with values := (f, v) :: g.values }

/-- One more argument, if the level has a place for it. -/
def giveOperand (g : Given) (level : Level) (a : String) : Option Given :=
  if g.operands.length < level.operands then some { g with operands := g.operands ++ [a] } else none

end Given

/-- How the arguments of a level end: wrongly, in a request for help or for the version, with all
of them read, or at the name of a command. -/
inductive Scan where
  | wrong
  | help
  | version
  | complete (given : Given)
  | verb (name : String) (given : Given) (rest : List String)

/-- What one argument that starts with a dash asks for. -/
inductive Dashed where
  | wrong
  | help
  | version
  | value (f : Flag) (v : String)
  | awaits (f : Flag)

/-- A long option, as in `--host=v` or `--host`. -/
def longOption (level : Level) (cs : List Char) : Dashed :=
  let name := String.ofList (cs.takeWhile (· ≠ '='))
  match level.flags.find? (·.long = name), cs.dropWhile (· ≠ '=') with
  | some f, _ :: v => .value f (String.ofList v)
  | some f, [] => .awaits f
  | none, [] =>
    if name = "help" then .help
    else if name = "version" ∧ level.hasVersion then .version
    else .wrong
  | none, _ => .wrong

/-- A short option, as in `-cv`, `-c=v` or `-c`. -/
def shortOption (level : Level) (c : Char) (cs : List Char) : Dashed :=
  match level.flags.find? (·.short? = some c), cs with
  | some f, [] => .awaits f
  | some f, '=' :: v => .value f (String.ofList v)
  | some f, v => .value f (String.ofList v)
  | none, _ =>
    if c = 'h' then .help else if c = 'V' ∧ level.hasVersion then .version else .wrong

/-- Whether an argument starts with a dash and is not a dash alone. -/
def isDashed (a : String) : Bool :=
  match a.toList with
  | '-' :: _ :: _ => true
  | _ => false

def dashed (level : Level) (a : String) : Dashed :=
  match a.toList with
  | '-' :: '-' :: cs => longOption level cs
  | '-' :: c :: cs => shortOption level c cs
  | _ => .wrong

/-- Read arguments after two dashes: options and commands are no longer known. -/
def scanOperands (level : Level) (g : Given) : List String → Scan
  | [] => .complete g
  | a :: rest =>
    match g.giveOperand level a with
    | some g => scanOperands level g rest
    | none => .wrong

/-- Read the arguments of a level, given the option that awaits its value. -/
def scan (level : Level) (g : Given) : Option Flag → List String → Scan
  | none, [] => .complete g
  | some _, [] => .wrong
  | some f, a :: rest =>
    if isDashed a then .wrong
    else match g.giveValue f a with
      | some g => scan level g none rest
      | none => .wrong
  | none, a :: rest =>
    if level.hasVerbs ∧ (a = "help" ∨ (Verb.ofName? a).isSome) then .verb a g rest
    else if a = "--" then scanOperands level g rest
    else if isDashed a then
      match dashed level a with
      | .wrong => .wrong
      | .help => .help
      | .version => .version
      | .awaits f => scan level g (some f) rest
      | .value f v =>
        match g.giveValue f v with
        | some g => scan level g none rest
        | none => .wrong
    else match g.giveOperand level a with
      | some g => scan level g none rest
      | none => .wrong

/-! ## Both levels -/

/-- The options that say how to reach the store. -/
structure Options where
  config : Option String
  host : Option String
  token : Option String
  organization : Option String
deriving DecidableEq, Repr

/-- What is to be done. -/
inductive Task where
  | health
  | buckets
  | query (bucket query : String)
  | delete (bucket : String)
  | config (output : Option String)
deriving DecidableEq, Repr

/-- What the arguments ask for. -/
inductive Invocation where
  | run (options : Options) (task : Task)
  | version
  | help (about : Option Verb)
deriving DecidableEq, Repr

/-- The options of both levels, the command's before the program's own. -/
def optionsOf (outer inner : Given) : Options :=
  let either (f : Flag) : Option String := (inner.value? f).or (outer.value? f)
  ⟨either .config, either .host, either .token, either .organization⟩

/-- What a command with its arguments is to do. -/
def taskOf (v : Verb) (g : Given) : Option Task :=
  match v, g.operands with
  | .health, [] => some .health
  | .buckets, [] => some .buckets
  | .query, [bucket, query] => some (.query bucket query)
  | .delete, [bucket] => some (.delete bucket)
  | .config, [] => some (.config (g.value? .output))
  | _, _ => none

/-- What the arguments of the command `help` ask for. -/
def helpOf : List String → Option Invocation
  | [] => some (.help none)
  | [name] =>
    if name = "help" then some (.help none)
    else (Verb.ofName? name).map fun v => .help (some v)
  | _ => none

/-- What a command and its arguments ask for. -/
def parseVerb (outer : Given) (v : Verb) (args : List String) : Option Invocation :=
  match scan (.ofVerb v) .empty none args with
  | .help => some (.help (some v))
  | .complete g => (taskOf v g).map (.run (optionsOf outer g))
  | .wrong | .version | .verb .. => none

/-- What arguments ask for, if they are right. -/
def parse (args : List String) : Option Invocation :=
  match scan .top .empty none args with
  | .help => some (.help none)
  | .version => some .version
  | .wrong | .complete _ => none
  | .verb name g rest =>
    match Verb.ofName? name with
    | some v => parseVerb g v rest
    | none => helpOf rest

/-! ## Help -/

/-- Lines of two columns, the second starting two spaces after the longest first. -/
def twoColumns (rows : List (String × String)) : List String :=
  let width := (rows.map fun r => r.1.length).foldl max 0
  rows.map fun r =>
    "  " ++ r.1 ++ String.ofList (List.replicate (width + 2 - r.1.length) ' ') ++ r.2

def Flag.usage (f : Flag) : String :=
  (match f.short? with | some c => "-" ++ c.toString ++ ", " | none => "    ") ++
    "--" ++ f.long ++ " <" ++ f.long.toUpper ++ ">"

def optionLines (level : Level) : List String :=
  "Options:" :: twoColumns ((level.flags.map fun f => (f.usage, f.about)) ++
    [("-h, --help", "Print help")] ++
    (if level.hasVersion then [("-V, --version", "Print version")] else []))

/-- What is said about the program or one of its commands. -/
def helpText (about : Option Verb) : String :=
  "\n".intercalate (match about with
    | none =>
      ["Typed buckets and queries for InfluxDB-style time-series stores", "",
        "Usage: aluminum [OPTIONS] <COMMAND>", "", "Commands:"] ++
      twoColumns (Verb.all.map (fun v => (v.name, v.about)) ++
        [("help", "Print this message or the help of the given subcommand(s)")]) ++
      [""] ++ optionLines .top ++ [""]
    | some v =>
      [v.about, "", "Usage: aluminum " ++ v.name ++ " [OPTIONS]" ++
        String.join (v.operands.map fun o => " <" ++ o.1 ++ ">"), ""] ++
      (if v.operands = [] then [] else
        "Arguments:" :: twoColumns (v.operands.map fun o => ("<" ++ o.1 ++ ">", o.2)) ++ [""]) ++
      optionLines (.ofVerb v) ++ [""])

/-- The program's name and version. -/
def versionText : String := "aluminum 0.1.0\n"

end TypedSeries.CommandLine
