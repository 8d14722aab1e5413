import LogPipeline.Json.Record
import LogPipeline.Log.Basic
import LogPipeline.Time.Rfc3339

namespace LogPipeline

open Json

namespace Json

def ofTime (t : Timestamp) : Json := .str (Rfc3339.write "Z" t)

def time? (j : Json) : Option Timestamp := do
  Rfc3339.readLenient? (← j.text?)

def ofTexts (d : Dict String) : Json :=
  .obj (d.entries.map fun e => (e.1, .str e.2))

end Json

namespace LogFormat

def toJson (f : LogFormat) : Json := .str f.name

def ofJson? : Json → Option LogFormat := choice? named

end LogFormat

namespace AppId

def toJson (id : AppId) : Json := .str id.text

def ofJson? (j : Json) : Option AppId := j.text?.map AppId.mk

end AppId

namespace EndpointId

def toJson (id : EndpointId) : Json := .str id.text

def ofJson? (j : Json) : Option EndpointId := j.text?.map EndpointId.mk

end EndpointId

namespace BatchId

def toJson (id : BatchId) : Json := .str id.text

def ofJson? (j : Json) : Option BatchId := j.text?.map BatchId.mk

end BatchId

namespace RawLog

def fieldNames : List String := ["content", "source_id", "format", "timestamp", "metadata"]

def toJson (log : RawLog) : Json :=
  .obj
    [("content", .str log.content),
      ("source_id", .str log.source),
      ("format", log.format.toJson),
      ("timestamp", ofTime log.timestamp),
      ("metadata", ofTexts log.metadata)]

def ofJson? (j : Json) : Option RawLog := do
  let [content, source, format, timestamp, metadata] ← j.fields? fieldNames | none
  return {
    content := ← required text? content
    source := ← required text? source
    format := ← required LogFormat.ofJson? format
    timestamp := ← required time? timestamp
    metadata := ← required (dict? text?) metadata }

end RawLog

namespace ProcessedLog

def fieldNames : List String :=
  ["content", "format", "metadata", "app_id", "endpoint_id", "source_id", "log_time",
    "process_time", "validated", "validation_error", "structured_fields"]

/-- The deepest nesting of a field: the record and its object of fields are two levels. -/
def fieldDepthLimit : Nat := depthLimit - 2

def toJson (log : ProcessedLog) : Json :=
  .obj
    [("content", .str log.content),
      ("format", log.format.toJson),
      ("metadata", ofTexts log.metadata),
      ("app_id", log.app.toJson),
      ("endpoint_id", log.endpoint.toJson),
      ("source_id", .str log.source),
      ("log_time", ofTime log.logTime),
      ("process_time", ofTime log.processTime),
      ("validated", .bool log.validated),
      ("validation_error", ofOption .str log.validationError),
      ("structured_fields", .obj log.fields.entries)]

def ofJson? (j : Json) : Option ProcessedLog := do
  let [content, format, metadata, app, endpoint, source, logTime, processTime, validated,
    validationError, fields] ← j.fields? fieldNames | none
  return {
    content := ← required text? content
    format := ← required LogFormat.ofJson? format
    metadata := ← required (dict? text?) metadata
    app := ← required AppId.ofJson? app
    endpoint := ← required EndpointId.ofJson? endpoint
    source := ← required text? source
    logTime := ← required time? logTime
    processTime := ← required time? processTime
    validated := ← required bool? validated
    validationError := ← optional text? validationError
    fields := ← required (dict? (strict? fieldDepthLimit)) fields }

end ProcessedLog

end LogPipeline
