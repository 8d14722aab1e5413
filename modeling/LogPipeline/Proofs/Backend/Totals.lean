import Mathlib.Algebra.Ring.Nat
import LogPipeline.Proofs.Backend.Ledger

namespace LogPipeline

open Backend

/-! ## What happens to logs -/

inductive LogEvent where
  | buffered (key : Key) (log : RawLog)
  | accepted (made : Made)
  | flushed (made : Made)
  | dropped (made : Made)

def Made.logsOf (made : Made) (key : Key) : Nat :=
  if made.key = key then made.logs.length else 0

namespace LogEvent

def saved? : LogEvent → Option Made
  | .accepted made | .flushed made => some made
  | .buffered .. | .dropped _ => none

def receivedBatches (key : Key) : LogEvent → Nat
  | .accepted made => if made.key = key then 1 else 0
  | .buffered .. | .flushed _ | .dropped _ => 0

def receivedLogs (key : Key) : LogEvent → Nat
  | .buffered k _ => if k = key then 1 else 0
  | .accepted made => made.logsOf key
  | .flushed _ | .dropped _ => 0

def savedLogs (key : Key) : LogEvent → Nat
  | .accepted made | .flushed made => made.logsOf key
  | .buffered .. | .dropped _ => 0

def droppedLogs (key : Key) : LogEvent → Nat
  | .dropped made => made.logsOf key
  | .buffered .. | .accepted _ | .flushed _ => 0

def total (count : LogEvent → Nat) (events : List LogEvent) : Nat :=
  (events.map count).sum

@[simp] theorem total_nil (count : LogEvent → Nat) : total count [] = 0 := rfl

@[simp] theorem total_append (count : LogEvent → Nat) (events more : List LogEvent) :
    total count (events ++ more) = total count events + total count more := by
  simp [total]

@[simp] theorem total_singleton (count : LogEvent → Nat) (event : LogEvent) :
    total count [event] = count event := by
  simp [total]

def keyOf (events : List LogEvent) (id : BatchId) : Option Key :=
  ((events.filterMap saved?).find? fun made => made.id = id).map Made.key

theorem keyOf_append (events more : List LogEvent) (id : BatchId) :
    keyOf (events ++ more) id = (keyOf events id).or (keyOf more id) := by
  rw [keyOf, List.filterMap_append, List.find?_append, Option.map_or]
  rfl

theorem keyOf_append_of_known {events : List LogEvent} {id : BatchId}
    (known : (keyOf events id).isSome) (more : List LogEvent) :
    keyOf (events ++ more) id = keyOf events id := by
  rw [keyOf_append, Option.or_of_isSome known]

end LogEvent

open LogEvent

/-! ## Totals -/

structure Totals where
  receivedBatches : UInt64
  receivedLogs : UInt64
  successLogs : UInt64
  timeCount : UInt64
  failures : UInt64

def Counters.totals (c : Counters) : Totals :=
  { receivedBatches := c.receivedBatches
    receivedLogs := c.receivedLogs
    successLogs := c.successLogs
    timeCount := c.timeCount
    failures := c.failures }

def Backend.heldOf (b : Backend) (events : List LogEvent) (key : Key) :
    List (BatchId × List ProcessedLog) :=
  b.storage.held.rows.filter fun row => keyOf events row.1 = some key

def Backend.noticesOf (b : Backend) (events : List LogEvent) (key : Key) :
    List (BatchId × String) :=
  b.notices.filter fun notice => keyOf events notice.1 = some key

def Backend.totals (b : Backend) (events : List LogEvent) (key : Key) : Totals :=
  { receivedBatches := .ofNat (total (receivedBatches key) events)
    receivedLogs := .ofNat (total (receivedLogs key) events)
    successLogs := .ofNat ((b.heldOf events key).map fun row => row.2.length).sum
    timeCount := .ofNat (b.heldOf events key).length
    failures := .ofNat (b.noticesOf events key).length }

/-- The counters agree with what has happened. Whatever is recorded, held or told is so of a batch
that was saved. -/
structure Booked (events : List LogEvent) (b : Backend) : Prop where
  distinct : ((events.filterMap saved?).map Made.id).Nodup
  spent : ∀ made ∈ events.filterMap saved?, b.ids.Spent made.id
  recorded : ∀ id batch, b.batches.get? id = some batch → keyOf events id = some batch.key
  held : ∀ row ∈ b.storage.held.rows, (keyOf events row.1).isSome
  told : ∀ notice ∈ b.notices, (keyOf events notice.1).isSome
  counted : ∀ key, (b.telemetry.counters key).totals = b.totals events key

variable {events : List LogEvent} {b after : Backend}

def KeepsKeys (b after : Backend) : Prop :=
  ∀ id kept, after.batches.get? id = some kept →
    ∃ batch, b.batches.get? id = some batch ∧ batch.key = kept.key

theorem KeepsKeys.of_same (same : after.batches = b.batches) : KeepsKeys b after :=
  fun _ kept found => ⟨kept, same ▸ found, rfl⟩

theorem KeepsKeys.trans {last : Backend} (first : KeepsKeys b after)
    (later : KeepsKeys after last) : KeepsKeys b last := by
  intro id kept found
  obtain ⟨between, foundBetween, same⟩ := later id kept found
  obtain ⟨batch, foundBefore, before⟩ := first id between foundBetween
  exact ⟨batch, foundBefore, before.trans same⟩

theorem Booked.recorded_of_keepsKeys (booked : Booked events b) (keys : KeepsKeys b after)
    (id : BatchId) (kept : Batch) (found : after.batches.get? id = some kept) :
    keyOf events id = some kept.key := by
  obtain ⟨batch, foundBefore, same⟩ := keys id kept found
  exact (booked.recorded id batch foundBefore).trans (congrArg some same)

theorem totals_of_same (held : after.storage.held = b.storage.held)
    (notices : after.notices = b.notices) (events : List LogEvent) (key : Key) :
    after.totals events key = b.totals events key := by
  rw [totals, totals, heldOf, heldOf, noticesOf, noticesOf, held, notices]

theorem Booked.of_same (booked : Booked events b) (ids : after.ids = b.ids)
    (keys : KeepsKeys b after) (held : after.storage.held = b.storage.held)
    (notices : after.notices = b.notices)
    (counted : ∀ key, (after.telemetry.counters key).totals = (b.telemetry.counters key).totals) :
    Booked events after where
  distinct := booked.distinct
  spent := ids ▸ booked.spent
  recorded := booked.recorded_of_keepsKeys keys
  held := held ▸ booked.held
  told := notices ▸ booked.told
  counted key := by rw [counted, booked.counted, totals_of_same held notices]

/-! ## What comes in -/

theorem Booked.keyOf_fresh (booked : Booked events b) : keyOf events b.ids.fresh = none := by
  rw [keyOf, Option.map_eq_none_iff, List.find?_eq_none]
  intro made member
  simpa using (booked.spent made member).ne_fresh

theorem Booked.totals_append (booked : Booked events b) (more : List LogEvent) (key : Key) :
    b.totals (events ++ more) key = { b.totals events key with
      receivedBatches := (b.totals events key).receivedBatches +
        .ofNat (total (receivedBatches key) more)
      receivedLogs := (b.totals events key).receivedLogs +
        .ofNat (total (receivedLogs key) more) } := by
  have held : b.heldOf (events ++ more) key = b.heldOf events key :=
    List.filter_congr fun row member => by rw [keyOf_append_of_known (booked.held row member)]
  have notices : b.noticesOf (events ++ more) key = b.noticesOf events key :=
    List.filter_congr fun notice member => by
      rw [keyOf_append_of_known (booked.told notice member)]
  simp only [totals, held, notices, total_append, UInt64.ofNat_add]

def Receives (c after : Counters) (key : Key) (more : List LogEvent) : Prop :=
  after.totals = { c.totals with
    receivedBatches := c.receivedBatches + .ofNat (total (receivedBatches key) more)
    receivedLogs := c.receivedLogs + .ofNat (total (receivedLogs key) more) }

theorem Booked.counted_append (booked : Booked events b) {more : List LogEvent}
    (held : after.storage.held = b.storage.held) (notices : after.notices = b.notices) {key : Key}
    (receives : Receives (b.telemetry.counters key) (after.telemetry.counters key) key more) :
    (after.telemetry.counters key).totals = after.totals (events ++ more) key := by
  rw [receives, totals_of_same held notices, booked.totals_append, ← booked.counted]
  rfl

theorem Booked.append (booked : Booked events b) {more : List LogEvent}
    (unsaved : ∀ event ∈ more, saved? event = none)
    (ids : ∀ id, b.ids.Spent id → after.ids.Spent id) (keys : KeepsKeys b after)
    (held : after.storage.held = b.storage.held) (notices : after.notices = b.notices)
    (receives : ∀ key,
      Receives (b.telemetry.counters key) (after.telemetry.counters key) key more) :
    Booked (events ++ more) after := by
  have same : (events ++ more).filterMap saved? = events.filterMap saved? := by
    rw [List.filterMap_append, List.filterMap_eq_nil_iff.mpr unsaved, List.append_nil]
  have keyed : ∀ id, keyOf (events ++ more) id = keyOf events id :=
    fun id => by rw [keyOf, same, keyOf]
  exact
    { distinct := same ▸ booked.distinct
      spent := fun made member => ids _ (booked.spent made (same ▸ member))
      recorded := fun id kept found =>
        (keyed id).trans (booked.recorded_of_keepsKeys keys id kept found)
      held := fun row member => keyed row.1 ▸ booked.held row (held ▸ member)
      told := fun notice member => keyed notice.1 ▸ booked.told notice (notices ▸ member)
      counted := fun key => booked.counted_append held notices (receives key) }

theorem Booked.save (booked : Booked events b) {event : LogEvent} {made : Made} {batch : Batch}
    (saves : saved? event = some made) (named : made.id = b.ids.fresh)
    (sameId : batch.id = made.id) (sameKey : batch.key = made.key)
    (ids : after.ids = b.ids.advance) (batches : after.batches = b.batches.put batch)
    (held : after.storage.held = b.storage.held) (notices : after.notices = b.notices)
    (receives : ∀ key,
      Receives (b.telemetry.counters key) (after.telemetry.counters key) key [event]) :
    Booked (events ++ [event]) after := by
  have more : (events ++ [event]).filterMap saved? = events.filterMap saved? ++ [made] := by
    rw [List.filterMap_append, List.filterMap_cons, saves, List.filterMap_nil]
  have apart : ∀ other ∈ events.filterMap saved?, other.id ≠ made.id :=
    fun other member => named ▸ (booked.spent other member).ne_fresh
  have keyed : keyOf (events ++ [event]) made.id = some made.key := by
    have absent := booked.keyOf_fresh
    rw [← named] at absent
    rw [keyOf_append, absent, Option.none_or, keyOf, List.filterMap_cons, saves]
    simp
  exact
    { distinct := by
        rw [more, List.map_append, List.map_singleton]
        refine List.nodup_append.mpr ⟨booked.distinct, by simp, ?_⟩
        refine List.forall_mem_map.mpr fun other member => List.forall_mem_singleton.mpr ?_
        exact apart other member
      spent := by
        rw [more, ids]
        exact forall_mem_append_singleton (fun other member => (booked.spent other member).advance)
          (named ▸ b.ids.spent_fresh)
      recorded := fun id found shown => by
        rw [batches, BatchStore.get?_put] at shown
        split at shown
        · next here =>
            cases shown
            rw [← here, sameId, keyed, sameKey]
        · have before := booked.recorded id found shown
          rw [keyOf_append_of_known (by rw [before]; rfl), before]
      held := fun row member => by
        have before := booked.held row (held ▸ member)
        rw [keyOf_append_of_known before]
        exact before
      told := fun notice member => by
        have before := booked.told notice (notices ▸ member)
        rw [keyOf_append_of_known before]
        exact before
      counted := fun key => booked.counted_append held notices (receives key) }

/-! ## Deliveries -/

theorem keepsKeys_keep {id : BatchId} {batch : Batch} (found : b.batches.get? id = some batch)
    (u : BatchUpdate) : KeepsKeys b (b.keep (u.apply batch)) := by
  intro other kept shown
  have named := BatchStore.id_of_get? found
  change (b.batches.put (u.apply batch)).get? other = some kept at shown
  rw [BatchStore.get?_put, BatchUpdate.id_apply, named] at shown
  split at shown
  · next here =>
      cases shown
      exact ⟨batch, here ▸ found, (BatchUpdate.key_apply u batch).symm⟩
  · exact ⟨kept, shown, rfl⟩

theorem totals_retried (t : Telemetry) (key other : Key) :
    ((t.retried key).counters other).totals = (t.counters other).totals := by
  rw [Telemetry.counters_retried]
  split
  · next same =>
      rw [same]
      rfl
  · rfl

theorem Booked.store (booked : Booked events b) {id : BatchId} {key : Key}
    (known : keyOf events id = some key) (absent : b.storage.held.get? id = none)
    {logs : List ProcessedLog} {elapsed : UInt64} (ids : after.ids = b.ids)
    (keys : KeepsKeys b after) (held : after.storage.held = b.storage.held.insert id logs)
    (notices : after.notices = b.notices)
    (counted : after.telemetry = b.telemetry.batchProcessed key (.ofNat logs.length) elapsed) :
    Booked events after := by
  have rows : after.storage.held.rows = b.storage.held.rows ++ [(id, logs)] := by
    rw [held, Table.rows_insert_of_absent absent]
  have counted : ∀ other,
      (after.telemetry.counters other).totals = after.totals events other := by
    intro other
    have before := booked.counted other
    rw [counted, Telemetry.counters_batchProcessed]
    by_cases same : key = other
    · subst same
      have more : after.heldOf events key = b.heldOf events key ++ [(id, logs)] := by
        simp [heldOf, rows, known]
      rw [if_pos rfl]
      simp only [Counters.totals, Counters.addSuccess, totals, more, noticesOf, notices,
        Totals.mk.injEq, List.map_append, List.sum_append, List.length_append, UInt64.ofNat_add,
        List.map_singleton, List.sum_singleton, List.length_singleton] at before ⊢
      obtain ⟨batches, received, success, timed, failures⟩ := before
      exact ⟨batches, received, by rw [success], by rw [timed]; rfl, failures⟩
    · have none : after.heldOf events other = b.heldOf events other := by
        simp [heldOf, rows, known, same]
      rw [if_neg same, before, totals, totals, none, noticesOf, noticesOf, notices]
  exact
    { distinct := booked.distinct
      spent := ids ▸ booked.spent
      recorded := booked.recorded_of_keepsKeys keys
      held := by
        rw [rows]
        exact forall_mem_append_singleton booked.held (by rw [known]; rfl)
      told := notices ▸ booked.told
      counted }

theorem Booked.tell (booked : Booked events b) {id : BatchId} {key : Key}
    (known : keyOf events id = some key) {message : String} (ids : after.ids = b.ids)
    (keys : KeepsKeys b after) (held : after.storage.held = b.storage.held)
    (notices : after.notices = b.notices ++ [(id, message)])
    (counted : after.telemetry = b.telemetry.batchFailed key) : Booked events after := by
  have counted : ∀ other,
      (after.telemetry.counters other).totals = after.totals events other := by
    intro other
    have before := booked.counted other
    rw [counted, Telemetry.counters_batchFailed]
    by_cases same : key = other
    · subst same
      have more : after.noticesOf events key = b.noticesOf events key ++ [(id, message)] := by
        simp [noticesOf, notices, known]
      rw [if_pos rfl]
      simp only [Counters.totals, totals, more, heldOf, held, Totals.mk.injEq, List.length_append,
        UInt64.ofNat_add, List.length_singleton] at before ⊢
      obtain ⟨batches, received, success, timed, failures⟩ := before
      exact ⟨batches, received, success, timed, by rw [failures]; rfl⟩
    · have none : after.noticesOf events other = b.noticesOf events other := by
        simp [noticesOf, notices, known, same]
      rw [if_neg same, before, totals, totals, none, heldOf, heldOf, held]
  exact
    { distinct := booked.distinct
      spent := ids ▸ booked.spent
      recorded := booked.recorded_of_keepsKeys keys
      held := held ▸ booked.held
      told := by
        rw [notices]
        exact forall_mem_append_singleton booked.told (by rw [known]; rfl)
      counted }

variable {policy : RetryPolicy} {now : Timestamp} {id : BatchId} {retry : Nat}
  {requests : List Request} {result : Except Failure Outcome}

theorem Booked.attempted (booked : Booked events b)
    (attempted : Attempted policy now id retry b requests result after) : Booked events after := by
  cases attempted with
  | settled | outage | heldUnrecorded | unmarked => exact booked
  | held undecided =>
      exact booked.of_same rfl (keepsKeys_keep undecided.found _) rfl rfl fun _ => rfl
  | empty due _ mark =>
      subst mark
      have marked := BatchStore.get?_put_apply due.found (startChange retry now)
      refine booked.of_same rfl ?_ rfl rfl fun _ => rfl
      exact (keepsKeys_keep due.found _).trans (keepsKeys_keep marked (emptyChange now))
  | refused due _ mark _ refusing =>
      subst mark
      rw [Storage.store_of_refusing due.available refusing]
      exact booked.of_same rfl (keepsKeys_keep due.found _) rfl rfl fun _ => rfl
  | @stored batch marked logs trace elapsed due _ mark _ _ accepting =>
      subst mark
      have marked := BatchStore.get?_put_apply due.found (startChange retry now)
      have keys := (keepsKeys_keep due.found (startChange retry now)).trans
        (keepsKeys_keep marked (storedChange trace now))
      have absent : b.storage.held.get? id = none := by
        have absent := due.absent
        rwa [Table.contains, Option.isSome_eq_false_iff, Option.isNone_iff_eq_none] at absent
      have taken := Storage.store_of_accepting due.available accepting id logs
      exact booked.store (booked.recorded id batch due.found) absent rfl keys
        (congrArg (fun answered => answered.2.held) taken) rfl rfl

theorem Booked.concluded (booked : Booked events b) {tried : Observed.Tried}
    (concluded : Concluded policy now id retry b tried) : Booked events tried.after := by
  cases concluded with
  | ended attempted => exact booked.attempted attempted
  | retried attempted =>
      exact (booked.attempted attempted).of_same rfl (.of_same rfl) rfl rfl fun key =>
        totals_retried _ _ key
  | unrecorded attempted => exact booked.attempted attempted
  | failed attempted _ _ found =>
      have before := booked.attempted attempted
      exact before.tell (before.recorded _ _ found) rfl (keepsKeys_keep found _) rfl rfl rfl

theorem Booked.tryOnce (booked : Booked events b) (plain : b.Plain) (policy : RetryPolicy)
    (now : Timestamp) (id : BatchId) (retry : Nat) :
    Booked events (tryOnce policy now id retry b).2 := by
  rw [Observed.tryOnce_shows]
  exact booked.concluded (concluded_tryOnce plain policy now id retry)

/-! ## Cleanups -/

theorem RetentionPolicy.key_of_leaves {policy : RetentionPolicy} {batch kept : Batch}
    (left : policy.leaves now batch = some kept) : batch.key = kept.key := by
  unfold leaves at left
  split at left
  · cases left
    rfl
  · split at left <;> cases left <;> rfl
  · split at left <;> cases left
    rfl
  · split at left <;> cases left
    rfl

theorem Booked.cleanUp (booked : Booked events b) (plain : b.Plain) (policy : RetentionPolicy)
    (now : Timestamp) : Booked events (cleanUp policy now b).2 := by
  have keys : KeepsKeys b (LogPipeline.cleanUp policy now b).2 := by
    intro id kept found
    rw [get?_cleanUp plain] at found
    obtain ⟨batch, foundBefore, left⟩ := Option.bind_eq_some_iff.mp found
    refine ⟨batch, foundBefore, ?_⟩
    split at left
    · cases left
      rfl
    · exact RetentionPolicy.key_of_leaves left
  obtain ⟨batches, telemetry, counted, cleaned⟩ := cleanUp_writes plain policy now
  rw [cleaned] at keys ⊢
  exact booked.of_same rfl keys rfl rfl fun key =>
    congrArg Counters.totals (Telemetry.counters_of_perKey counted key)

end LogPipeline
