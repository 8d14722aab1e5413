import LogPipeline.Settings.Basic

/-!
# The command line

Options with a value, flags, and nothing else. An option is complete only with the next argument
that is no option or flag, so what is wrong with it shows when the next one begins.
-/

namespace LogPipeline

inductive CliOption where
  | config
  | logLevel
  | logFormat
  deriving DecidableEq, Repr

inductive CliFlag where
  | validate
  | help
  | version
  deriving DecidableEq, Repr

structure CommandLine where
  configPath : String
  logLevel : Option String
  logFormat : Option String
  validateOnly : Bool
  deriving DecidableEq, Repr, Inhabited

inductive CliStop where
  | unknownArgument
  /-- A value is missing, or it is an empty path. -/
  | invalidValue
  | argumentConflict
  | tooManyValues
  | help (long : Bool)
  | version
  deriving DecidableEq, Repr

def CliStop.kind : CliStop → String
  | .unknownArgument => "UnknownArgument"
  | .invalidValue => "InvalidValue"
  | .argumentConflict => "ArgumentConflict"
  | .tooManyValues => "TooManyValues"
  | .help _ => "DisplayHelp"
  | .version => "DisplayVersion"

namespace CommandLine

def defaultPath : String := "/etc/intake/intake.toml"

inductive Argument where
  | option (o : CliOption)
  | flag (f : CliFlag)

def longNames : List (String × Argument) :=
  [("config", .option .config), ("log-level", .option .logLevel),
    ("log-format", .option .logFormat), ("validate", .flag .validate), ("help", .flag .help),
    ("version", .flag .version)]

def shortNames : List (Char × Argument) :=
  [('c', .option .config), ('h', .flag .help), ('V', .flag .version)]

structure Scan where
  path : Option String
  logLevel : Option String
  logFormat : Option String
  validate : Bool
  /-- The option that was read last, with its value once it is read. -/
  pending : Option (CliOption × Option String)

namespace Scan

def start : Scan := ⟨none, none, none, false, none⟩

def give (s : Scan) (o : CliOption) (value : String) : Except CliStop Scan :=
  match o with
  | .config =>
    if s.path.isSome then .error .argumentConflict
    else if value.isEmpty then .error .invalidValue
    else .ok { s with path := some value }
  | .logLevel =>
    if s.logLevel.isSome then .error .argumentConflict
    else .ok { s with logLevel := some value }
  | .logFormat =>
    if s.logFormat.isSome then .error .argumentConflict
    else .ok { s with logFormat := some value }

def complete (s : Scan) : Except CliStop Scan :=
  match s.pending with
  | none => .ok s
  | some (_, none) => .error .invalidValue
  | some (o, some value) => { s with pending := none }.give o value

def raise (s : Scan) (f : CliFlag) (long : Bool) : Except CliStop Scan := do
  let s ← s.complete
  match f with
  | .validate => if s.validate then throw .argumentConflict else return { s with validate := true }
  | .help => throw (.help long)
  | .version => throw .version

def begin (s : Scan) (o : CliOption) (value : Option String) : Except CliStop Scan := do
  let s ← s.complete
  match value with
  | some value => s.give o value
  | none => return { s with pending := some (o, none) }

end Scan

def splitValue (cs : List Char) : List Char × Option String :=
  match cs.dropWhile (· ≠ '=') with
  | '=' :: value => (cs.takeWhile (· ≠ '='), some (String.ofList value))
  | _ => (cs, none)

def readLong (s : Scan) (cs : List Char) : Except CliStop Scan :=
  let (name, value) := splitValue cs
  match longNames.lookup (String.ofList name), value with
  | some (.option o), value => s.begin o value
  | some (.flag _), some _ => .error .tooManyValues
  | some (.flag f), none => s.raise f true
  | none, _ => .error .unknownArgument

def readShort (s : Scan) : List Char → Except CliStop Scan
  | [] => .ok s
  | c :: rest =>
    match shortNames.lookup c with
    | some (.flag f) => do readShort (← s.raise f false) rest
    | some (.option o) =>
      match rest with
      | [] => s.begin o none
      | '=' :: value => s.begin o (some (String.ofList value))
      | value => s.begin o (some (String.ofList value))
    | none => .error .unknownArgument

def readValue (s : Scan) (arg : String) : Except CliStop Scan :=
  match s.pending with
  | some (o, none) => .ok { s with pending := some (o, some arg) }
  | _ => .error .unknownArgument

def readAll (s : Scan) : List String → Except CliStop Scan
  | [] => s.complete
  | arg :: rest =>
    match arg.toList with
    | ['-', '-'] => if rest.isEmpty then s.complete else .error .unknownArgument
    | '-' :: '-' :: cs => do readAll (← readLong s cs) rest
    | '-' :: c :: cs => do readAll (← readShort s (c :: cs)) rest
    | _ => do readAll (← readValue s arg) rest

def parse (args : List String) : Except CliStop CommandLine := do
  let s ← readAll .start args
  return { configPath := s.path.getD defaultPath
           logLevel := s.logLevel
           logFormat := s.logFormat
           validateOnly := s.validate }

def override (c : CommandLine) (s : Settings) : Settings :=
  let level := c.logLevel.getD s.general.logLevel
  let format := c.logFormat.getD s.general.logFormat
  { s with general := ⟨level, format⟩ }

/-! ## Texts -/

def programName : String := "intake-daemon"

def versionText : String := programName ++ " 0.1.0\n"

def about : String := "Intake daemon -- log reception pipeline bootstrap and lifecycle"

structure HelpEntry where
  usage : String
  summary : String
  note : String
  paragraphs : List String

def helpEntries (long : Bool) : List HelpEntry :=
  let precedence := "Takes precedence over the config file and environment variables."
  let path := "[default: " ++ defaultPath ++ "]"
  let level := "Override log level (trace, debug, info, warn, error)"
  let format := "Override log format (json, pretty)"
  let validate := "Validate configuration file and exit without starting the daemon"
  let more := if long then "Print help (see a summary with '-h')"
    else "Print help (see more with '--help')"
  [⟨"  -c, --config <CONFIG>", "Path to intake.toml configuration file", " " ++ path,
      ["Path to intake.toml configuration file", path]⟩,
    ⟨"      --log-level <LOG_LEVEL>", level, "", [level ++ ".", precedence]⟩,
    ⟨"      --log-format <LOG_FORMAT>", format, "", [format ++ ".", precedence]⟩,
    ⟨"      --validate", validate, "", [validate]⟩,
    ⟨"  -h, --help", more, "", [more]⟩,
    ⟨"  -V, --version", "Print version", "", ["Print version"]⟩]

def fill (width : Nat) (text : String) : String :=
  text ++ String.ofList (List.replicate (width - text.length) ' ')

def HelpEntry.shortText (e : HelpEntry) : String :=
  fill 33 e.usage ++ e.summary ++ e.note ++ "\n"

def HelpEntry.longText (e : HelpEntry) : String :=
  let indent := fill 10 ""
  e.usage ++ "\n" ++ ("\n" ++ indent ++ "\n").intercalate (e.paragraphs.map (indent ++ ·)) ++ "\n"

def helpText (long : Bool) : String :=
  let entries := helpEntries long
  about ++ "\n\nUsage: " ++ programName ++ " [OPTIONS]\n\nOptions:\n" ++
    if long then "\n".intercalate (entries.map HelpEntry.longText)
    else String.join (entries.map HelpEntry.shortText)

end CommandLine

end LogPipeline
