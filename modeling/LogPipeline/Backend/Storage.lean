import LogPipeline.Collections.Table
import LogPipeline.Failure
import LogPipeline.Log.Basic

namespace LogPipeline

inductive StoreAnswer where
  | stored (trace : Option String)
  | refused (reason : Option String)
  deriving DecidableEq, Repr, Inhabited

structure Storage where
  held : Table BatchId (List ProcessedLog)
  calls : Nat
  refuseNext : Nat
  unavailable : Bool

namespace Storage

def empty : Storage := ⟨.empty, 0, 0, false⟩

instance : Inhabited Storage := ⟨empty⟩

def outage : Failure := .gateway "storage" "storage unavailable"

def traceOf (id : BatchId) : String := "trace-" ++ id.text

def store (s : Storage) (id : BatchId) (logs : List ProcessedLog) :
    Except Failure StoreAnswer × Storage :=
  let s := { s with calls := s.calls + 1 }
  if s.unavailable then (.error outage, s)
  else if 0 < s.refuseNext then
    (.ok (.refused (some "rejected by storage")), { s with refuseNext := s.refuseNext - 1 })
  else (.ok (.stored (some (traceOf id))), { s with held := s.held.insert id logs })

def holds (s : Storage) (id : BatchId) : Except Failure Bool :=
  if s.unavailable then .error outage else .ok (s.held.contains id)

def markStored (s : Storage) (id : BatchId) : Storage :=
  { s with held := s.held.insert id [] }

end Storage

end LogPipeline
