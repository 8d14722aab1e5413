import LogPipeline.Batch.Basic
import LogPipeline.Failure
import LogPipeline.Json.Reader
import LogPipeline.Json.Writer
import LogPipeline.Log.Flatten
import LogPipeline.Log.Instant
import LogPipeline.Pattern.Matching
import LogPipeline.Pattern.Reader
import LogPipeline.Text.Lowercase

/-!
# Structuring logs

Takes the fields out of the content of a log: the members of a JSON object, or the pairs of keys
and values in a text. Fields that name an instant or a level are also written, in one common form,
into the metadata. A log whose content does not have the form of its format is not validated.
-/

namespace LogPipeline

def timestampKey : String := "timestamp"

def levelKey : String := "level"

def timestampFields : List String := ["timestamp", "@timestamp", "time", "ts"]

def levelFields : List String := ["level", "severity", "lvl"]

structure Preprocessor where
  maxDepth : Nat
  /-- Finds keys (group 1) and values (group 2 or 3) in texts. -/
  keyValue : Pattern
  /-- What the reader of JSON says of a text that it cannot read. The wording is left open. -/
  complaint : String → String := fun _ => ""
  deriving Inhabited

namespace Preprocessor

def defaultMaxDepth : Nat := 16

def atLeast (least : Nat) (s : CharClass) : Pattern :=
  .loop ⟨least, none, true⟩ (.one s)

def keyStart : CharClass :=
  .anyOf [.range 'A' 'Z', .range 'a' 'z', .range '_' '_']

def keyRest : CharClass :=
  .anyOf [.word, .range '.' '.', .range '-' '-']

def defaultKeyValue : Pattern :=
  .seq
    (.seq (.group 1 (.seq (.one keyStart) (atLeast 0 keyRest))) (.one (.range '=' '=')))
    (.alt
      (.seq
        (.seq (.one (.range '"' '"'))
          (.group 2 (atLeast 0 (.except (.anyOf [.range '"' '"'])))))
        (.one (.range '"' '"')))
      (.group 3 (atLeast 1 (.except .blank))))

def defaults : Preprocessor :=
  { maxDepth := defaultMaxDepth, keyValue := defaultKeyValue }

def withPattern (text : String) : Except Failure Preprocessor :=
  match Pattern.ofText? text with
  | some keyValue => .ok { defaults with keyValue }
  | none => .error (.config "key_value_pattern" "invalid regex")

def scalarText : Json → Option String
  | .str s => some s
  | .int n => some (Json.text (.int n))
  | .real x => some (Json.text (.real x))
  | _ => none

def firstField (fields : Dict Json) (names : List String) : Option String :=
  names.findSome? fun name => (fields.get? name).bind scalarText

def addFields (log : ProcessedLog) (fields : List (String × Json)) : ProcessedLog :=
  { log with fields := fields.foldl (fun d f => d.insert f.1 f.2) log.fields }

def normalizeTimestamp (log : ProcessedLog) : ProcessedLog :=
  match (firstField log.fields timestampFields).bind readInstant? with
  | some t => { log.withMetadata timestampKey (instantText t) with logTime := t }
  | none => log

@[simp] theorem fields_normalizeTimestamp (log : ProcessedLog) : (normalizeTimestamp log).fields = log.fields := by
  unfold normalizeTimestamp
  split <;> rfl

@[simp] theorem validated_normalizeTimestamp (log : ProcessedLog) :
    (normalizeTimestamp log).validated = log.validated := by
  unfold normalizeTimestamp
  split <;> rfl

def normalizeLevel (log : ProcessedLog) : ProcessedLog :=
  match firstField log.fields levelFields with
  | some level => log.withMetadata levelKey (Text.lowercase level)
  | none => log

@[simp] theorem fields_normalizeLevel (log : ProcessedLog) : (normalizeLevel log).fields = log.fields := by
  unfold normalizeLevel
  split <;> rfl

@[simp] theorem validated_normalizeLevel (log : ProcessedLog) :
    (normalizeLevel log).validated = log.validated := by
  unfold normalizeLevel
  split <;> rfl

def structureJson (p : Preprocessor) (log : ProcessedLog) : ProcessedLog :=
  match Json.parse? log.content with
  | none => log.reject ("invalid JSON: " ++ p.complaint log.content)
  | some (.obj members) =>
    normalizeLevel (normalizeTimestamp (addFields log (flattenMembers p.maxDepth "" members)))
  | some _ => log.reject "expected JSON object at top level"

def pairOf (found : Captures) : Option (String × Json) := do
  let key ← found.group? 1
  let value ← (found.group? 2).or (found.group? 3)
  return (key.text, .str value.text)

def structureText (p : Preprocessor) (log : ProcessedLog) : ProcessedLog :=
  if Text.isBlankText log.content then log.reject "empty text log"
  else
    normalizeTimestamp (normalizeLevel
      (addFields log ((p.keyValue.allMatches log.content).filterMap pairOf)))

def preprocess (p : Preprocessor) (key : Key) (now : Timestamp) (raw : RawLog) : ProcessedLog :=
  let log := ProcessedLog.ofRaw raw key now
  match raw.format with
  | .json => p.structureJson log
  | .text => p.structureText log
  | .xml | .binary | .custom => log

def preprocessBatch (p : Preprocessor) (batch : Batch) (now : Timestamp) : List ProcessedLog :=
  batch.logs.map (p.preprocess batch.key now)

end Preprocessor

end LogPipeline
