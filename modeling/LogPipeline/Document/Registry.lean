import LogPipeline.Document.Log
import LogPipeline.Registry.App
import LogPipeline.Registry.Endpoint

namespace LogPipeline

open Json

namespace AppStatus

def toJson (s : AppStatus) : Json := .str s.name

def ofJson? : Json → Option AppStatus := choice? named

end AppStatus

namespace EndpointStatus

def toJson (s : EndpointStatus) : Json := .str s.name

def ofJson? : Json → Option EndpointStatus := choice? named

end EndpointStatus

namespace App

def fieldNames : List String :=
  ["app_id", "access_key", "secret_key", "status", "expiry_time", "ip_whitelist",
    "allowed_endpoints", "rate_limit", "burst_capacity"]

def toJson (app : App) : Json :=
  .obj
    [("app_id", app.id.toJson),
      ("access_key", .str app.accessKey),
      ("secret_key", .str app.secretKey),
      ("status", app.status.toJson),
      ("expiry_time", ofOption ofTime app.expiry),
      ("ip_whitelist", ofNames app.allowedIps),
      ("allowed_endpoints", ofNames app.allowedEndpoints),
      ("rate_limit", ofUInt32 app.rateLimit),
      ("burst_capacity", ofUInt32 app.burstCapacity)]

def ofJson? (j : Json) : Option App := do
  let [id, accessKey, secretKey, status, expiry, allowedIps, allowedEndpoints, rateLimit,
    burstCapacity] ← j.fields? fieldNames | none
  return {
    id := ← required AppId.ofJson? id
    accessKey := ← required text? accessKey
    secretKey := ← required text? secretKey
    status := ← required AppStatus.ofJson? status
    expiry := ← optional time? expiry
    allowedIps := ← required names? allowedIps
    allowedEndpoints := ← required names? allowedEndpoints
    rateLimit := ← required uint32? rateLimit
    burstCapacity := ← required uint32? burstCapacity }

end App

namespace Endpoint

def fieldNames : List String :=
  ["endpoint_id", "name", "format", "max_payload_size", "max_batch_count", "status",
    "buffering_enabled", "buffering_time_ms", "buffering_size", "allowed_app_ids"]

def toJson (e : Endpoint) : Json :=
  .obj
    [("endpoint_id", e.id.toJson),
      ("name", .str e.name),
      ("format", e.format.toJson),
      ("max_payload_size", ofUInt64 e.maxPayload),
      ("max_batch_count", ofUInt64 e.maxBatch),
      ("status", e.status.toJson),
      ("buffering_enabled", .bool e.bufferingEnabled),
      ("buffering_time_ms", ofUInt64 e.bufferingTimeMs),
      ("buffering_size", ofUInt64 e.bufferingSize),
      ("allowed_app_ids", ofNames e.allowedApps)]

def ofJson? (j : Json) : Option Endpoint := do
  let [id, name, format, maxPayload, maxBatch, status, bufferingEnabled, bufferingTimeMs,
    bufferingSize, allowedApps] ← j.fields? fieldNames | none
  return {
    id := ← required EndpointId.ofJson? id
    name := ← required text? name
    format := ← required LogFormat.ofJson? format
    maxPayload := ← required uint64? maxPayload
    maxBatch := ← required uint64? maxBatch
    status := ← required EndpointStatus.ofJson? status
    bufferingEnabled := ← required bool? bufferingEnabled
    bufferingTimeMs := ← required uint64? bufferingTimeMs
    bufferingSize := ← required uint64? bufferingSize
    allowedApps := ← required names? allowedApps }

end Endpoint

end LogPipeline
