import LogPipeline.Collections.Table
import LogPipeline.Failure

/-!
# Planned faults

The pipeline is written against ports: stores of apps, endpoints and batches, a preprocessor, a
storage. The backend has the adapters that keep everything in memory, and these fail only when
writes or the storage are switched off. Fault plans and scripted answers are no part of them. They
stand for other adapters of the same ports, whose calls may fail at any time: for each kind of call,
so many pass, then so many fail, then all pass again. `Backend.Plain` says that there are none.
-/

namespace LogPipeline

/-- The kinds of calls that can be made to fail. The last two do not fail but go astray: a batch is
not found although it is there, and a batch disappears right before it is deleted. -/
inductive Port where
  | findAppByKey
  | findApp
  | findEndpoint
  | saveBatch
  | findBatch
  | updateStatus
  | updateAttempt
  | updateFailed
  | updateProcessTime
  | updateProcessed
  | findProcessedBefore
  | findLastProcessBefore
  | deleteBatch
  | countByStatus
  | preprocess
  | store
  | isStored
  | loseBatch
  | deleteRace
  deriving DecidableEq, Repr

namespace Port

def name : Port → String
  | .findAppByKey => "find_app_by_access_key"
  | .findApp => "find_app_by_id"
  | .findEndpoint => "find_endpoint_by_id"
  | .saveBatch => "save"
  | .findBatch => "find_by_id"
  | .updateStatus => "update_status"
  | .updateAttempt => "update_status_and_retry_count"
  | .updateFailed => "update_failed_status"
  | .updateProcessTime => "update_status_and_process_time"
  | .updateProcessed => "update_processed_status"
  | .findProcessedBefore => "find_by_status_and_processed_time_before"
  | .findLastProcessBefore => "find_by_status_and_last_process_time_before"
  | .deleteBatch => "delete"
  | .countByStatus => "count_by_status"
  | .preprocess => "preprocess_batch"
  | .store => "store_batch"
  | .isStored => "is_batch_stored"
  | .loseBatch => "find_by_id_none"
  | .deleteRace => "delete_race"

def all : List Port :=
  [.findAppByKey, .findApp, .findEndpoint, .saveBatch, .findBatch, .updateStatus, .updateAttempt,
    .updateFailed, .updateProcessTime, .updateProcessed, .findProcessedBefore,
    .findLastProcessBefore, .deleteBatch, .countByStatus, .preprocess, .store, .isStored,
    .loseBatch, .deleteRace]

def named : List (String × Port) := all.map fun p => (p.name, p)

def failure (p : Port) : Failure :=
  match p with
  | .preprocess => .gateway "preprocess" "injected"
  | .store | .isStored => .gateway "storage" "injected"
  | p => .repository p.name "injected"

end Port

/-- How many calls pass, and how many fail after that. -/
structure Fault where
  pass : Nat
  fail : Nat
  deriving DecidableEq, Repr

abbrev FaultPlan := Table Port Fault

def FaultPlan.take (plan : FaultPlan) (p : Port) : Bool × FaultPlan :=
  match Table.get? plan p with
  | some ⟨pass + 1, fail⟩ => (false, Table.insert plan p ⟨pass, fail⟩)
  | some ⟨0, fail + 1⟩ => (true, Table.insert plan p ⟨0, fail⟩)
  | _ => (false, plan)

inductive ScriptedAnswer where
  | refuse
  | refuseSilently
  | storeWithoutTrace
  | storeThenFail
  | asUsual
  deriving DecidableEq, Repr

def ScriptedAnswer.named : List (String × ScriptedAnswer) :=
  [("reject", .refuse), ("reject_silent", .refuseSilently), ("ok_no_trace", .storeWithoutTrace),
    ("stored_then_error", .storeThenFail)]

end LogPipeline
