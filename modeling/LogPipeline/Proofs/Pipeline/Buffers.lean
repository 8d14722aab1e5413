import LogPipeline.Pipeline.Buffers
import LogPipeline.Proofs.Collections

namespace LogPipeline.Buffers

theorem logs_bufferFor (b : Buffers) (key : Key) (clock : Nat) :
    (b.bufferFor key clock).logs = b.logsOf key := by
  rw [bufferFor, logsOf]
  cases b.pending.get? key <;> rfl

theorem bufferFor_push (b : Buffers) (key : Key) (log : RawLog) (clock : Nat) :
    (b.push key log clock).bufferFor key clock = (b.bufferFor key clock).push log clock := by
  rw [bufferFor, push, Table.get?_insert, if_pos rfl]
  rfl

theorem logsOf_push (b : Buffers) (key : Key) (log : RawLog) (clock : Nat) (other : Key) :
    (b.push key log clock).logsOf other =
      if key = other then b.logsOf key ++ [log] else b.logsOf other := by
  rw [logsOf, push, Table.get?_insert]
  split
  · rw [← logs_bufferFor b key clock]
    rfl
  · rfl

theorem logsOf_take (b : Buffers) (key : Key) (clock : Nat) (other : Key) :
    (b.take key clock).logsOf other = if key = other then [] else b.logsOf other := by
  rw [logsOf, take, Table.get?_insert]
  split <;> rfl

theorem logsOf_take_push (b : Buffers) (key : Key) (log : RawLog) (clock : Nat) (other : Key) :
    ((b.push key log clock).take key clock).logsOf other =
      if key = other then [] else b.logsOf other := by
  rw [logsOf_take, logsOf_push]
  split <;> rfl

/-- When the first log of a buffer came in, or the last one that was when it was emptied. -/
def since? (b : Buffers) (key : Key) : Option Nat :=
  (b.pending.get? key).map (·.since)

theorem since?_push (b : Buffers) (key : Key) (log : RawLog) (clock : Nat) (other : Key) :
    (b.push key log clock).since? other =
      if key = other then
        some (if (b.logsOf key).isEmpty then clock else (b.bufferFor key clock).since)
      else b.since? other := by
  rw [since?, push, Table.get?_insert]
  split
  · rw [← logs_bufferFor b key clock]
    rfl
  · rfl

theorem since?_take (b : Buffers) {key other : Key} (clock : Nat) (differs : key ≠ other) :
    (b.take key clock).since? other = b.since? other := by
  rw [since?, take, Table.get?_insert, if_neg differs]
  rfl

theorem logsOf_cleared (b : Buffers) (key : Key) : b.cleared.logsOf key = [] := by
  simp only [logsOf, cleared, Table.get?_map]
  cases b.pending.get? key <;> rfl

theorem keysInUse_cleared (b : Buffers) : b.cleared.keysInUse = [] := by
  rw [keysInUse, List.map_eq_nil_iff, List.filter_eq_nil_iff]
  intro row member
  obtain ⟨old, _, rfl⟩ := List.mem_map.mp member
  simp

theorem length_groups (b : Buffers) : b.groups.length = b.keysInUse.length := by
  simp only [groups, keysInUse, List.length_map]

theorem filter_groups_of_absent {rows : List (Key × PendingBuffer)} {key : Key}
    (absent : key ∉ rows.map Prod.fst) :
    ((rows.filter fun r => ! r.2.logs.isEmpty).map fun r => (r.1, r.2.logs)).filter
      (fun g => g.1 = key) = [] := by
  rw [List.filter_eq_nil_iff]
  intro group member same
  obtain ⟨row, among, rfl⟩ := List.mem_map.mp member
  have named : row.1 = key := by simpa using same
  exact absent (named ▸ List.mem_map_of_mem (List.mem_filter.mp among).1)

theorem flatMap_groups (b : Buffers) (key : Key) :
    (b.groups.filter fun g => g.1 = key).flatMap (·.2) = b.logsOf key := by
  obtain ⟨threshold, maxAge, ⟨rows, distinct⟩, count, counts⟩ := b
  simp only [groups, logsOf, Table.get?]
  clear threshold maxAge counts
  -- The keys are distinct, so the first row of a key is the only one.
  induction rows with
  | nil => rfl
  | cons row rest ih =>
      obtain ⟨fresh, tail⟩ := List.nodup_cons.mp distinct
      by_cases same : row.1 = key
      · have others := filter_groups_of_absent (same ▸ fresh)
        cases empty : row.2.logs.isEmpty with
        | true =>
            have nothing : row.2.logs = [] := List.isEmpty_iff.mp empty
            simp [same, others, nothing]
        | false => simp [empty, same, others]
      · cases empty : row.2.logs.isEmpty with
        | true => simpa [empty, same] using ih tail
        | false => simpa [empty, same] using ih tail

/-! ## Counts -/

theorem logsOf_of_mem {b : Buffers} {row : Key × PendingBuffer} (member : row ∈ b.pending.rows) :
    b.logsOf row.1 = row.2.logs := by
  rw [logsOf, Table.get?_eq_some_iff.mpr member]
  rfl

theorem nodup_keysInUse (b : Buffers) : b.keysInUse.Nodup :=
  b.pending.distinct.sublist (List.filter_sublist.map _)

theorem mem_keysInUse {b : Buffers} {key : Key} : key ∈ b.keysInUse ↔ b.logsOf key ≠ [] := by
  simp only [keysInUse, List.mem_map, List.mem_filter]
  constructor
  · rintro ⟨row, ⟨member, some⟩, rfl⟩
    rw [logsOf_of_mem member]
    simpa using some
  · intro some
    cases found : b.pending.get? key with
    | none => simp [logsOf, found] at some
    | some pending =>
        refine ⟨(key, pending), ⟨Table.get?_eq_some_iff.mp found, ?_⟩, rfl⟩
        simpa [logsOf, found] using some

theorem groups_eq_map (b : Buffers) :
    b.groups = b.keysInUse.map fun key => (key, b.logsOf key) := by
  rw [groups, keysInUse, List.map_map]
  apply List.map_congr_left
  intro row member
  rw [Function.comp_apply, logsOf_of_mem (List.mem_filter.mp member).1]

theorem count_eq_sum (b : Buffers) :
    b.count = (b.keysInUse.map fun key => (b.logsOf key).length).sum := by
  rw [← total_groups, groups_eq_map, List.map_map]
  rfl

theorem count_cleared (b : Buffers) : b.cleared.count = 0 := by
  rw [count_eq_sum, keysInUse_cleared]
  rfl

theorem length_le_count (b : Buffers) (key : Key) : (b.logsOf key).length ≤ b.count := by
  have totals := b.total_insert key 0 ⟨[], 0⟩
  rw [logs_bufferFor, List.length_nil, Nat.add_zero] at totals
  exact Nat.le.intro ((Nat.add_comm _ _).trans totals)

theorem count_push (b : Buffers) (key : Key) (log : RawLog) (clock : Nat) :
    (b.push key log clock).count = b.count + 1 := rfl

theorem count_take (b : Buffers) (key : Key) (clock : Nat) :
    b.count = (b.logsOf key).length + (b.take key clock).count := by
  have enough := b.length_le_count key
  rw [← logs_bufferFor b key clock] at enough ⊢
  exact (Nat.add_sub_cancel' enough).symm

end LogPipeline.Buffers
