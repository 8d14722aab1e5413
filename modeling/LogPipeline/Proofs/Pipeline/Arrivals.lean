import Mathlib.Data.List.DropRight
import LogPipeline.Proofs.Pipeline.Intake

/-!
# The logs that a buffer holds

A buffer has the last logs that came in for its key. So each of them came in at a known instant,
the oldest one first, and the age of a buffer is the age of its oldest log.
-/

namespace LogPipeline

structure Arrival where
  key : Key
  log : RawLog
  instant : Nat

def arriving (key : Key) (instant : Nat) (logs : List RawLog) : List Arrival :=
  logs.map fun log => ⟨key, log, instant⟩

theorem map_log_arriving (key : Key) (instant : Nat) (logs : List RawLog) :
    (arriving key instant logs).map (·.log) = logs := by
  rw [arriving, List.map_map]
  exact List.map_id logs

theorem filter_arriving (key : Key) (instant : Nat) (logs : List RawLog) (other : Key) :
    (arriving key instant logs).filter (fun a => a.key = other) =
      if key = other then arriving key instant logs else [] := by
  rw [arriving, List.filter_map]
  by_cases same : key = other <;> simp [Function.comp_def, same]

namespace Buffers

/-- The arrivals in a buffer: as many of the last ones for its key as it has logs. -/
def held (b : Buffers) (arrivals : List Arrival) (key : Key) : List Arrival :=
  (arrivals.filter fun a => a.key = key).rtake (b.logsOf key).length

def Traced (b : Buffers) (arrivals : List Arrival) : Prop :=
  ∀ key, (b.held arrivals key).map (·.log) = b.logsOf key

variable {b c : Buffers} {arrivals : List Arrival} {key : Key}

theorem held_of_nil (empty : b.logsOf key = []) : b.held arrivals key = [] := by
  rw [held, empty]
  exact List.rtake_zero _

theorem held_of_same (same : c.logsOf key = b.logsOf key) :
    c.held arrivals key = b.held arrivals key := by
  rw [held, held, same]

theorem held_sublist (b : Buffers) (arrivals : List Arrival) (key : Key) :
    (b.held arrivals key).Sublist arrivals :=
  (List.drop_sublist _ _).trans List.filter_sublist

theorem held_concat_self (latest : Arrival)
    (joined : c.logsOf latest.key = b.logsOf latest.key ++ [latest.log]) :
    c.held (arrivals ++ [latest]) latest.key = b.held arrivals latest.key ++ [latest] := by
  rw [held, held, joined, List.filter_append, List.length_append]
  simp only [decide_true, List.filter_cons_of_pos, List.filter_nil, List.length_singleton]
  exact List.rtake_concat_succ _ _ _

theorem held_concat_other (latest : Arrival) (differs : latest.key ≠ key)
    (same : c.logsOf key = b.logsOf key) :
    c.held (arrivals ++ [latest]) key = b.held arrivals key := by
  rw [held, held, same, List.filter_append]
  simp [differs]

theorem traced_of_nil (empty : ∀ key, b.logsOf key = []) : b.Traced arrivals := by
  intro key
  rw [held_of_nil (empty key), empty]
  rfl

theorem Traced.eq_nil_iff (traced : b.Traced arrivals) (key : Key) :
    b.held arrivals key = [] ↔ b.logsOf key = [] := by
  rw [← traced key, List.map_eq_nil_iff]

theorem Traced.length (traced : b.Traced arrivals) (key : Key) :
    (b.held arrivals key).length = (b.logsOf key).length := by
  rw [← traced key, List.length_map]

theorem Traced.suffix (traced : b.Traced arrivals) {more : List Arrival}
    (left : c.logsOf key <:+ b.logsOf key ++ (more.filter fun a => a.key = key).map (·.log)) :
    c.held (arrivals ++ more) key <:+
        b.held arrivals key ++ more.filter (fun a => a.key = key) ∧
      (c.held (arrivals ++ more) key).map (·.log) = c.logsOf key := by
  have whole : c.held (arrivals ++ more) key <:+
      arrivals.filter (fun a => a.key = key) ++ more.filter fun a => a.key = key := by
    rw [held, List.filter_append]
    exact List.drop_suffix _ _
  have last : b.held arrivals key ++ (more.filter fun a => a.key = key) <:+
      arrivals.filter (fun a => a.key = key) ++ more.filter fun a => a.key = key := by
    refine ⟨(arrivals.filter fun a => a.key = key).rdrop (b.logsOf key).length, ?_⟩
    rw [← List.append_assoc]
    exact congrArg (· ++ _) (List.take_append_drop _ _)
  have logs : (b.held arrivals key ++ more.filter fun a => a.key = key).map (·.log) =
      b.logsOf key ++ (more.filter fun a => a.key = key).map (·.log) := by
    rw [List.map_append, traced key]
  have fewer := left.length_le
  rw [← logs, List.length_map] at fewer
  have length : (c.held (arrivals ++ more) key).length = (c.logsOf key).length := by
    have all := last.length_le
    simp only [held, List.rtake, List.length_drop, List.filter_append] at all fewer ⊢
    omega
  have inside := List.suffix_of_suffix_length_le whole last (length ▸ fewer)
  have same : (c.held (arrivals ++ more) key).map (·.log) <:+
      b.logsOf key ++ (more.filter fun a => a.key = key).map (·.log) :=
    logs ▸ inside.map _
  refine ⟨inside, List.IsSuffix.eq_of_length ?_ (by rw [List.length_map, length])⟩
  exact List.suffix_of_suffix_length_le same left (by rw [List.length_map, length])

end Buffers

namespace Pipeline

variable {α : Type} {arrivals : List Arrival} {p q : Pipeline α}

/-! ## One more log -/

theorem logsOf_addLog (key : Key) (log : RawLog) (p : Pipeline α) (other : Key) :
    (addLog key log p).2.buffers.logsOf other =
      if key = other then
        if p.ripens key then [] else p.buffers.logsOf key ++ [log]
      else p.buffers.logsOf other := by
  rw [addLog_apply]
  cases p.ripens key with
  | true => exact p.buffers.logsOf_take_push key log p.clock other
  | false => exact p.buffers.logsOf_push key log p.clock other

theorem held_addLog (arrivals : List Arrival) (key : Key) (log : RawLog) (p : Pipeline α)
    (other : Key) :
    (addLog key log p).2.buffers.held (arrivals ++ [⟨key, log, p.clock⟩]) other =
      if key = other then
        if p.ripens key then [] else p.buffers.held arrivals key ++ [⟨key, log, p.clock⟩]
      else p.buffers.held arrivals other := by
  have after := logsOf_addLog key log p other
  by_cases same : key = other
  · subst same
    rw [if_pos rfl] at after ⊢
    cases ripe : p.ripens key with
    | true =>
        rw [ripe] at after
        exact Buffers.held_of_nil after
    | false =>
        rw [ripe] at after
        exact Buffers.held_concat_self ⟨key, log, p.clock⟩ after
  · rw [if_neg same] at after ⊢
    exact Buffers.held_concat_other ⟨key, log, p.clock⟩ same after

theorem traced_addLog (traced : p.buffers.Traced arrivals) (key : Key) (log : RawLog) :
    (addLog key log p).2.buffers.Traced (arrivals ++ [⟨key, log, p.clock⟩]) := by
  intro other
  rw [held_addLog, logsOf_addLog]
  split
  · split
    · rfl
    · rw [List.map_append, traced key]
      rfl
  · exact traced other

/-! ## Age -/

/-- Every log that is buffered came in at a known instant, and a buffer has the instant of its
oldest log written down. -/
structure Dated (arrivals : List Arrival) (p : Pipeline α) : Prop where
  traced : p.buffers.Traced arrivals
  since : ∀ key oldest, (p.buffers.held arrivals key).head? = some oldest →
    p.buffers.since? key = some oldest.instant
  sorted : arrivals.Pairwise fun a b => a.instant ≤ b.instant
  past : ∀ arrival ∈ arrivals, arrival.instant ≤ p.clock

theorem Dated.of_same (dated : Dated arrivals p) (buffers : q.buffers = p.buffers)
    (later : p.clock ≤ q.clock) : Dated arrivals q := by
  obtain ⟨traced, since, sorted, past⟩ := dated
  refine ⟨?_, ?_, sorted, fun arrival member => Nat.le_trans (past arrival member) later⟩
  · rw [buffers]
    exact traced
  · rw [buffers]
    exact since

theorem Dated.of_nil (dated : Dated arrivals p) (empty : ∀ key, q.buffers.logsOf key = [])
    (clock : q.clock = p.clock) : Dated arrivals q := by
  refine ⟨Buffers.traced_of_nil empty, ?_, dated.sorted, ?_⟩
  · intro key oldest first
    rw [Buffers.held_of_nil (empty key)] at first
    cases first
  · rw [clock]
    exact dated.past

theorem Dated.head?_concat (dated : Dated arrivals p) (key : Key) (log : RawLog) :
    ∃ oldest rest, p.buffers.held arrivals key ++ [⟨key, log, p.clock⟩] = oldest :: rest ∧
      oldest.instant = p.bufferedSince key := by
  have empty := dated.traced.eq_nil_iff key
  rw [bufferedSince]
  cases inside : p.buffers.held arrivals key with
  | nil =>
      rw [empty.mp inside]
      exact ⟨_, _, rfl, rfl⟩
  | cons oldest rest =>
      have some : p.buffers.logsOf key ≠ [] := by
        intro none
        rw [empty.mpr none] at inside
        cases inside
      have known := dated.since key oldest (by rw [inside]; rfl)
      obtain ⟨pending, found, instant⟩ := Option.map_eq_some_iff.mp known
      refine ⟨oldest, _, rfl, ?_⟩
      rw [if_neg (by simpa using some), Buffers.bufferFor, found]
      exact instant.symm

theorem Dated.sorted_concat (dated : Dated arrivals p) (key : Key) (log : RawLog) :
    List.Pairwise (fun a b : Arrival => a.instant ≤ b.instant)
      (p.buffers.held arrivals key ++ [⟨key, log, p.clock⟩]) := by
  have inside := p.buffers.held_sublist arrivals key
  rw [List.pairwise_append]
  refine ⟨dated.sorted.sublist inside, List.pairwise_singleton _ _, ?_⟩
  intro arrival member latest among
  rw [List.mem_singleton.mp among]
  exact dated.past arrival (inside.subset member)

theorem Dated.ripens_iff (dated : Dated arrivals p) (key : Key) (log : RawLog) :
    let inside := p.buffers.held arrivals key ++ [⟨key, log, p.clock⟩]
    p.ripens key = true ↔ p.buffers.threshold ≤ inside.length ∨
      ∃ arrival ∈ inside, p.buffers.maxAge ≤ Nanos.ofMillis (p.clock - arrival.instant) := by
  intro inside
  have length : inside.length = (p.buffers.logsOf key).length + 1 := by
    rw [List.length_append, dated.traced.length]
    rfl
  obtain ⟨oldest, rest, shape, instant⟩ := dated.head?_concat key log
  have ordered := dated.sorted_concat key log
  have age : p.buffers.maxAge ≤ Nanos.ofMillis (p.clock - p.bufferedSince key) ↔
      ∃ arrival ∈ inside, p.buffers.maxAge ≤ Nanos.ofMillis (p.clock - arrival.instant) := by
    rw [← instant]
    constructor
    · intro old
      exact ⟨oldest, by simp only [inside, shape, List.mem_cons_self], old⟩
    · rintro ⟨arrival, member, old⟩
      -- No log in the buffer is older than the first one.
      have first : oldest.instant ≤ arrival.instant := by
        simp only [inside, shape] at member
        rw [shape, List.pairwise_cons] at ordered
        rcases List.mem_cons.mp member with rfl | later
        · exact Nat.le_refl _
        · exact ordered.1 arrival later
      exact Nat.le_trans old (Nat.mul_le_mul_right _ (Nat.sub_le_sub_left first _))
  rw [ripens, Bool.or_eq_true, decide_eq_true_eq, decide_eq_true_eq, length, age]

theorem Dated.addLog (dated : Dated arrivals p) (key : Key) (log : RawLog) :
    Dated (arrivals ++ [⟨key, log, p.clock⟩]) (addLog key log p).2 := by
  have clock : (Pipeline.addLog key log p).2.clock = p.clock := by
    rw [addLog_apply]
    cases p.ripens key <;> rfl
  refine ⟨traced_addLog dated.traced key log, ?_, ?_, ?_⟩
  · intro other oldest first
    obtain ⟨head, rest, shape, instant⟩ := dated.head?_concat key log
    rw [held_addLog] at first
    rw [addLog_apply]
    by_cases same : key = other
    · rw [if_pos same] at first
      cases ripe : p.ripens key with
      | true =>
          rw [ripe] at first
          cases first
      | false =>
          rw [ripe, if_neg Bool.false_ne_true, shape] at first
          cases first
          rw [if_neg Bool.false_ne_true, buffers_withBuffers, Buffers.since?_push, if_pos same,
            instant, bufferedSince]
    · have kept := dated.since other oldest
      rw [if_neg same] at first
      have joined : (p.buffers.push key log p.clock).since? other = p.buffers.since? other := by
        rw [Buffers.since?_push, if_neg same]
      cases p.ripens key with
      | true => exact ((Buffers.since?_take _ p.clock same).trans joined).trans (kept first)
      | false => exact joined.trans (kept first)
  · rw [List.pairwise_append]
    refine ⟨dated.sorted, List.pairwise_singleton _ _, ?_⟩
    intro arrival member latest among
    rw [List.mem_singleton.mp among]
    exact dated.past arrival member
  · rw [clock]
    exact forall_mem_append_singleton dated.past (Nat.le_refl _)

end Pipeline

end LogPipeline
