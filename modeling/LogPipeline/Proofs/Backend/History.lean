import LogPipeline.Proofs.Backend.Outage
import LogPipeline.Proofs.Delivery.Requests
import LogPipeline.Proofs.Retention

/-!
# Histories of a backend

A backend changes by attempts, new batches, cleanups, counts, and changes from outside. Along any
history of them, whatever their order, the storage keeps what it has, and it is handed a batch only
while it does not have it. So it takes no batch twice.
-/

namespace LogPipeline

namespace Backend

abbrev Record := Timestamp × Request

inductive Move : Backend → List Record → Backend → Prop where
  | attempt (policy : RetryPolicy) (now : Timestamp) (id : BatchId) (retry : Nat) (b : Backend) :
      Move b ((Observed.tryOnce policy now id retry b).requests.map fun r => (now, r))
        (Observed.tryOnce policy now id retry b).after
  | make (key : Key) (logs : List RawLog) (now : Timestamp) (b : Backend) :
      Move b [] ((saveBatch (.new b.ids.fresh key logs now)).on { b with ids := b.ids.advance }).2
  | cleanUp (policy : RetentionPolicy) (now : Timestamp) (b : Backend) :
      Move b [] (LogPipeline.cleanUp policy now b).2
  | count (telemetry : Telemetry) (b : Backend) : Move b [] { b with telemetry }
  | change {c : Change} (plain : c.IsPlain) (now : Timestamp) (b : Backend) :
      Move b [] (c.apply now b)

inductive History : Backend → List Record → Backend → Prop where
  | still (b : Backend) : History b [] b
  | move {a b c : Backend} {first rest : List Record} (now : Move a first b)
      (later : History b rest c) : History a (first ++ rest) c

variable {a b c : Backend} {records first rest : List Record}

theorem Move.history (move : Move a records b) : History a records b := by
  have once := History.move move (.still b)
  rwa [List.append_nil] at once

theorem History.trans (one : History a first b) (other : History b rest c) :
    History a (first ++ rest) c := by
  induction one with
  | still => exact other
  | move now _ ih =>
      rw [List.append_assoc]
      exact .move now (ih other)

/-! ## What stays along a history -/

structure Quiet (a b : Backend) : Prop where
  storage : b.storage = a.storage
  faults : b.faults = a.faults
  script : b.script = a.script

theorem Quiet.plain (quiet : Quiet a b) (plain : a.Plain) : b.Plain :=
  ⟨quiet.faults.trans plain.faults, quiet.script.trans plain.script⟩

theorem quiet_make (plain : b.Plain) (key : Key) (logs : List RawLog) (now : Timestamp) :
    Quiet b ((saveBatch (.new b.ids.fresh key logs now)).on { b with ids := b.ids.advance }).2 := by
  obtain ⟨batches, saved⟩ := onlyBatches_saveBatch (b := { b with ids := b.ids.advance })
    ⟨plain.faults, plain.script⟩ (.new b.ids.fresh key logs now)
  rw [saved]
  exact ⟨rfl, rfl, rfl⟩

theorem quiet_cleanUp (plain : b.Plain) (policy : RetentionPolicy) (now : Timestamp) :
    Quiet b (LogPipeline.cleanUp policy now b).2 := by
  obtain ⟨batches, telemetry, -, cleaned⟩ := cleanUp_writes plain policy now
  rw [cleaned]
  exact ⟨rfl, rfl, rfl⟩

theorem plain_change {change : Change} (spares : change.IsPlain) (plain : b.Plain)
    (now : Timestamp) : (change.apply now b).Plain := by
  cases change with
  | script answers => exact spares.elim
  | faults entries => exact spares.elim
  | _ => exact ⟨plain.faults, plain.script⟩

theorem ids_change (change : Change) (now : Timestamp) (b : Backend) :
    (change.apply now b).ids = b.ids := by
  cases change <;> rfl

theorem Move.plain (move : Move a records b) (plain : a.Plain) : b.Plain := by
  cases move with
  | attempt policy now id retry =>
      exact (concluded_tryOnce plain policy now id retry).plain_after plain
  | make key logs now => exact (quiet_make plain key logs now).plain plain
  | cleanUp policy now => exact (quiet_cleanUp plain policy now).plain plain
  | count telemetry => exact ⟨plain.faults, plain.script⟩
  | change spares now => exact plain_change spares plain now

theorem History.plain (history : History a records b) (plain : a.Plain) : b.Plain := by
  induction history with
  | still => exact plain
  | move now _ ih => exact ih (now.plain plain)

/-! ## What the storage is handed and keeps -/

theorem Move.stores_le (move : Move a records b) (plain : a.Plain) (id : BatchId) :
    records.countP (fun r => r.2.stores id) + a.copies id ≤ b.copies id := by
  cases move with
  | attempt policy now attempted retry =>
      have took := (concluded_tryOnce plain policy now attempted retry).stores_le id
      rwa [List.countP_map]
  | make key logs now =>
      rw [copies, copies, (quiet_make plain key logs now).storage]
      exact Nat.le_of_eq (Nat.zero_add _)
  | cleanUp policy now =>
      rw [copies, copies, (quiet_cleanUp plain policy now).storage]
      exact Nat.le_of_eq (Nat.zero_add _)
  | count telemetry => exact Nat.le_of_eq (Nat.zero_add _)
  | @change change spares now =>
      cases change with
      | markStored marked =>
          simp only [List.countP_nil, Nat.zero_add, copies, Change.apply, Storage.markStored,
            Table.contains_insert]
          cases a.storage.held.contains id <;> simp
      | _ => exact Nat.le_of_eq (Nat.zero_add _)

theorem History.stores_le (history : History a records b) (plain : a.Plain) (id : BatchId) :
    records.countP (fun r => r.2.stores id) + a.copies id ≤ b.copies id := by
  -- The entry of the storage is the potential: taking a batch uses it up.
  induction history with
  | still => simp
  | @move a b c first rest now _ ih =>
      have early := now.stores_le plain id
      have late := ih (now.plain plain)
      rw [List.countP_append]
      omega

theorem History.stores_le_one (history : History a records b) (plain : a.Plain) (id : BatchId) :
    records.countP (fun r => r.2.stores id) ≤ 1 := by
  have potential := history.stores_le plain id
  have bound := copies_le_one b id
  omega

theorem Move.calls_eq (move : Move a records b) (plain : a.Plain) :
    b.storage.calls = a.storage.calls + records.countP fun r => r.2.isStore := by
  cases move with
  | attempt policy now id retry =>
      have asked := (concluded_tryOnce plain policy now id retry).calls_eq
      rwa [List.countP_map]
  | make key logs now =>
      rw [(quiet_make plain key logs now).storage]
      rfl
  | cleanUp policy now =>
      rw [(quiet_cleanUp plain policy now).storage]
      rfl
  | count telemetry => rfl
  | @change change spares now => cases change <;> rfl

theorem History.calls_eq (history : History a records b) (plain : a.Plain) :
    b.storage.calls = a.storage.calls + records.countP fun r => r.2.isStore := by
  induction history with
  | still => rfl
  | move now _ ih =>
      rw [ih (now.plain plain), now.calls_eq plain, List.countP_append, Nat.add_assoc]

theorem Move.handedOver (move : Move a records b) (plain : a.Plain) {now : Timestamp}
    {id : BatchId} {logs : List ProcessedLog} {found : Backend}
    {answer : Except Failure StoreAnswer} (member : (now, .store id logs found answer) ∈ records) :
    HandedOver now id logs found := by
  cases move with
  | attempt policy instant attempted retry =>
      obtain ⟨request, asked, same⟩ := List.mem_map.mp member
      cases same
      have handed := (concluded_tryOnce plain policy now attempted retry).handedOver asked
      exact handed.1 ▸ handed.2
  | _ => cases member

theorem History.handedOver (history : History a records b) (plain : a.Plain) {now : Timestamp}
    {id : BatchId} {logs : List ProcessedLog} {found : Backend}
    {answer : Except Failure StoreAnswer} (member : (now, .store id logs found answer) ∈ records) :
    HandedOver now id logs found := by
  induction history with
  | still => cases member
  | move first _ ih =>
      rcases List.mem_append.mp member with early | late
      · exact first.handedOver plain early
      · exact ih (first.plain plain) late

end Backend

end LogPipeline
