import LogPipeline.Collections.Table
import LogPipeline.Log.Basic
import LogPipeline.Time.Duration

namespace LogPipeline

structure PendingBuffer where
  logs : List RawLog
  /-- When the first of the logs came in, in milliseconds. -/
  since : Nat

def PendingBuffer.push (b : PendingBuffer) (log : RawLog) (clock : Nat) : PendingBuffer :=
  ⟨b.logs ++ [log], if b.logs.isEmpty then clock else b.since⟩

/-- The buffers of all keys. The number of their logs is kept in a counter, which goes up log by
log and down batch by batch, and so is their sum. -/
structure Buffers where
  threshold : Nat
  maxAge : Nanos
  pending : Table Key PendingBuffer
  count : Nat
  counts : count = Number.total (pending.values.map (·.logs.length))

namespace Buffers

def empty (threshold : Nat) (maxAge : Nanos) : Buffers :=
  ⟨max threshold 1, maxAge, .empty, 0, rfl⟩

def bufferFor (b : Buffers) (key : Key) (clock : Nat) : PendingBuffer :=
  (b.pending.get? key).getD ⟨[], clock⟩

theorem total_insert (b : Buffers) (key : Key) (clock : Nat) (buffer : PendingBuffer) :
    Number.total ((b.pending.insert key buffer).values.map (·.logs.length)) +
      (b.bufferFor key clock).logs.length = b.count + buffer.logs.length := by
  have totals := b.pending.total_insert key buffer (·.logs.length)
  have before : ((b.pending.get? key).map (·.logs.length)).getD 0 =
      (b.bufferFor key clock).logs.length := by
    rw [bufferFor]
    cases b.pending.get? key <;> rfl
  rw [before, ← b.counts] at totals
  exact totals

def push (b : Buffers) (key : Key) (log : RawLog) (clock : Nat) : Buffers :=
  { b with
    pending := b.pending.insert key ((b.bufferFor key clock).push log clock)
    count := b.count + 1
    counts := by
      have totals := b.total_insert key clock ((b.bufferFor key clock).push log clock)
      simp only [PendingBuffer.push, List.length_append, List.length_singleton] at totals ⊢
      omega }

def take (b : Buffers) (key : Key) (clock : Nat) : Buffers :=
  { b with
    pending := b.pending.insert key { b.bufferFor key clock with logs := [] }
    count := b.count - (b.bufferFor key clock).logs.length
    counts := by
      have totals := b.total_insert key clock { b.bufferFor key clock with logs := [] }
      simp only [List.length_nil] at totals ⊢
      omega }

def logsOf (b : Buffers) (key : Key) : List RawLog :=
  ((b.pending.get? key).map (·.logs)).getD []

def keysInUse (b : Buffers) : List Key :=
  (b.pending.rows.filter fun r => ! r.2.logs.isEmpty).map (·.1)

def groups (b : Buffers) : List (Key × List RawLog) :=
  (b.pending.rows.filter fun r => ! r.2.logs.isEmpty).map fun r => (r.1, r.2.logs)

theorem total_groups (b : Buffers) : Number.total (b.groups.map (·.2.length)) = b.count := by
  rw [b.counts, Table.values, groups]
  induction b.pending.rows with
  | nil => rfl
  | cons row rest ih =>
      rw [List.map_cons, List.map_cons, Number.total_cons, ← ih, List.filter_cons]
      cases empty : row.2.logs.isEmpty with
      | true => simp [List.isEmpty_iff.mp empty]
      | false => simp

theorem foldl_release (groups : List (Key × List RawLog)) (count : Nat) :
    groups.foldl (fun count group => count - group.2.length) count =
      count - Number.total (groups.map (·.2.length)) := by
  induction groups generalizing count with
  | nil => rfl
  | cons group rest ih => 
      rw [List.foldl_cons, ih, List.map_cons, Number.total_cons, Nat.sub_sub]

def cleared (b : Buffers) : Buffers :=
  { b with
    pending := b.pending.map fun buffer => { buffer with logs := [] }
    count := b.groups.foldl (fun count group => count - group.2.length) b.count
    counts := by
      rw [foldl_release, total_groups, Nat.sub_self]
      dsimp only [Table.values, Table.map]
      induction b.pending.rows with
      | nil => rfl
      | cons row rest ih => exact ih.trans (Nat.zero_add _).symm }

end Buffers

end LogPipeline
