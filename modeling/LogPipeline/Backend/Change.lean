import LogPipeline.Backend.Basic

namespace LogPipeline

inductive Change where
  | putApp (app : App)
  | removeApp (id : AppId)
  | putEndpoint (endpoint : Endpoint)
  | removeEndpoint (id : EndpointId)
  | putBatch (made : Timestamp → Batch)
  | dropBatch (id : BatchId)
  | failWrites (on : Bool)
  | refuseNext (count : Nat)
  | unavailable (on : Bool)
  | markStored (id : BatchId)
  | script (answers : List ScriptedAnswer)
  | faults (entries : List (Port × Fault))

def Change.apply (c : Change) (now : Timestamp) (b : Backend) : Backend :=
  match c with
  | .putApp app => { b with apps := b.apps.put app }
  | .removeApp id => { b with apps := b.apps.erase id }
  | .putEndpoint e => { b with endpoints := b.endpoints.put e }
  | .removeEndpoint id => { b with endpoints := b.endpoints.erase id }
  | .putBatch made => { b with batches := b.batches.put (made now) }
  | .dropBatch id => { b with batches := b.batches.erase id }
  | .failWrites on => { b with batches := { b.batches with failWrites := on } }
  | .refuseNext count => { b with storage := { b.storage with refuseNext := count } }
  | .unavailable on => { b with storage := { b.storage with unavailable := on } }
  | .markStored id => { b with storage := b.storage.markStored id }
  | .script answers => { b with script := b.script ++ answers }
  | .faults entries =>
    { b with faults := entries.foldl (fun plan e => Table.insert plan e.1 e.2) b.faults }

end LogPipeline
