import LogPipeline.Collections.Dict
import LogPipeline.Identity
import LogPipeline.Json.Basic
import LogPipeline.Time.Timestamp

namespace LogPipeline

inductive LogFormat where
  | json
  | text
  | xml
  | binary
  | custom
  deriving DecidableEq, Repr, Inhabited

namespace LogFormat

def name : LogFormat → String
  | .json => "JSON"
  | .text => "TEXT"
  | .xml => "XML"
  | .binary => "BINARY"
  | .custom => "CUSTOM"

def all : List LogFormat := [.json, .text, .xml, .binary, .custom]

def named : List (String × LogFormat) := all.map fun f => (f.name, f)

def capital (c : Char) : Char :=
  if 'a' ≤ c ∧ c ≤ 'z' then Char.ofNat (c.toNat - 32) else c

def ofText (text : String) : Except String LogFormat :=
  let capitals := text.map capital
  match named.lookup capitals with
  | some f => .ok f
  | none => .error capitals

def unknownMessage (name : String) : String :=
  "unknown log format: " ++ name

end LogFormat

structure RawLog where
  content : String
  source : String
  format : LogFormat
  timestamp : Timestamp
  metadata : Dict String
  deriving DecidableEq, Inhabited

namespace RawLog

def clientIpKey : String := "clientIp"

def new (content : String) (format : LogFormat) (now : Timestamp) : RawLog :=
  { content, source := "", format, timestamp := now, metadata := .empty }

def withMetadata (log : RawLog) (key value : String) : RawLog :=
  { log with metadata := log.metadata.insert key value }

def withClientIp (log : RawLog) (ip : String) : RawLog :=
  log.withMetadata clientIpKey ip

def clientIp (log : RawLog) : String :=
  (log.metadata.get? clientIpKey).getD ""

def size (log : RawLog) : Nat :=
  log.content.utf8ByteSize

end RawLog

structure ProcessedLog where
  content : String
  format : LogFormat
  metadata : Dict String
  app : AppId
  endpoint : EndpointId
  source : String
  logTime : Timestamp
  processTime : Timestamp
  validated : Bool
  validationError : Option String
  fields : Dict Json
  deriving Inhabited

namespace ProcessedLog

def ofRaw (raw : RawLog) (key : Key) (now : Timestamp) : ProcessedLog :=
  { content := raw.content
    format := raw.format
    metadata := raw.metadata
    app := key.app
    endpoint := key.endpoint
    source := raw.source
    logTime := raw.timestamp
    processTime := now
    validated := true
    validationError := none
    fields := .empty }

def reject (log : ProcessedLog) (reason : String) : ProcessedLog :=
  { log with validated := false, validationError := some reason }

def withMetadata (log : ProcessedLog) (key value : String) : ProcessedLog :=
  { log with metadata := log.metadata.insert key value }

end ProcessedLog

end LogPipeline
