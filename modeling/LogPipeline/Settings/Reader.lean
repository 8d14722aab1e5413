import LogPipeline.Failure
import LogPipeline.Number.Digits
import LogPipeline.Settings.Basic
import LogPipeline.Toml.Reader

/-!
# Reading settings

Settings come from a file and are then overridden by variables of the environment. What a file
leaves out keeps its default, and what it has besides is passed over. A variable that cannot be
read is passed over as well.
-/

namespace LogPipeline

namespace SettingKind

def ofToml? : (kind : SettingKind) → Toml.Value → Option kind.Value
  | .text, .str s => some s
  | .flag, .bool b => some b
  | .word16, .int n => if 0 ≤ n ∧ n < UInt16.size then some (.ofNat n.toNat) else none
  | .word32, .int n => if 0 ≤ n ∧ n < UInt32.size then some (.ofNat n.toNat) else none
  | .word64, .int n => if 0 ≤ n ∧ n < UInt64.size then some (.ofNat n.toNat) else none
  | _, _ => none

def ofText? : (kind : SettingKind) → String → Option kind.Value
  | .text, s => some s
  | .flag, s => if s = "true" then some true else if s = "false" then some false else none
  | .word16, s => (Number.readBelow? UInt16.size s).map UInt16.ofNat
  | .word32, s => (Number.readBelow? UInt32.size s).map UInt32.ofNat
  | .word64, s => (Number.readBelow? UInt64.size s).map UInt64.ofNat

end SettingKind

abbrev Environment := String → Option String

inductive FileRead where
  | missing
  | failed (reason : String)
  | content (bytes : ByteArray)

namespace Settings

/-! ## Files -/

def readSetting (x : Setting) (value : Option Toml.Value) (s : Settings) : Option Settings :=
  match value with
  | none => some s
  | some v => (x.kind.ofToml? v).map fun v => x.set v s

/-- Takes the settings of a group from a table with their names, or from an array in their
order. A point in time stands for a table without any of them. -/
def readGroup (xs : List Setting) (value : Option Toml.Value) (s : Settings) : Option Settings :=
  match value with
  | none => some s
  | some (.table entries) => xs.foldlM (fun s x => readSetting x (entries.lookup x.name) s) s
  | some (.arr items) => (xs.zip items).foldlM (fun s (x, v) => readSetting x (some v) s) s
  | some (.moment _) => some s
  | some _ => none

def parse (text : String) : Except SettingsError Settings :=
  match Toml.parse? text with
  | none => .error .unparsable
  | some entries =>
    match Setting.groups.foldlM (fun s g => readGroup g.2 (entries.lookup g.1) s) defaults with
    | none => .error .unparsable
    | some s => .ok s

/-! ## Environment -/

def overrideSetting (env : Environment) (x : Setting) (s : Settings) : Settings :=
  match (env x.variableName).bind x.kind.ofText? with
  | some v => x.set v s
  | none => s

def override (env : Environment) (s : Settings) : Settings :=
  (Setting.all.filter (·.overridable)).foldl (fun s x => overrideSetting env x s) s

/-! ## Limits -/

def logLevels : List String := ["trace", "debug", "info", "warn", "error"]

def logFormats : List String := ["json", "pretty"]

def positive (s : Settings) : List (String × UInt64) :=
  [("buffer.threshold", s.buffer.threshold),
    ("buffer.max_buffer_time_ms", s.buffer.maxAgeMs),
    ("buffer.flush_interval_ms", s.buffer.flushIntervalMs),
    ("processing.retry_interval_ms", s.processing.retryIntervalMs),
    ("auth.timestamp_validity_ms", s.auth.validityMs),
    ("auth.cache_ttl_secs", s.auth.cacheTtlSecs),
    ("rate_limit.refill_interval_ms", s.rateLimit.refillIntervalMs)]

def validate (s : Settings) : Except SettingsError Unit := do
  if ! logLevels.contains s.general.logLevel then
    throw (.invalidValue "general.log_level" ("must be one of: " ++ ", ".intercalate logLevels))
  if ! logFormats.contains s.general.logFormat then
    throw (.invalidValue "general.log_format" ("must be one of: " ++ ", ".intercalate logFormats))
  if s.metrics.enabled && ! s.metrics.endpoint.startsWith "/" then
    throw (.invalidValue "metrics.endpoint" "must start with '/'")
  s.positive.forM fun (field, value) => do
    if value = 0 then throw (.invalidValue field "must be greater than 0")
  if s.cleanup.enabled && s.cleanup.intervalMinutes = 0 then
    throw (.invalidValue "cleanup.interval_minutes"
      "must be greater than 0 when cleanup is enabled")

/-! ## Loading -/

def fileText (path : String) : FileRead → Except ServiceError String
  | .missing => .error (.settings (.fileNotFound path))
  | .failed reason => .error (.io reason)
  | .content bytes =>
    match String.fromUTF8? bytes with
    | some text => .ok text
    | none => .error (.io "stream did not contain valid UTF-8")

def fromFile (path : String) (file : FileRead) : Except ServiceError Settings := do
  let text ← fileText path file
  let s ← (parse text).mapError .settings
  (validate s).mapError .settings
  return s

/-- Settings from a file, overridden by the environment. They have to be within their limits
before and after. -/
def load (path : String) (file : FileRead) (env : Environment) : Except ServiceError Settings := do
  let s := override env (← fromFile path file)
  (validate s).mapError .settings
  return s

end Settings

end LogPipeline
