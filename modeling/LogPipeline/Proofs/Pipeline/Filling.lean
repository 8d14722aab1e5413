import LogPipeline.Proofs.Pipeline.Conservation

namespace LogPipeline

open Backend

/-! ## The count -/

namespace BufferEvent

/-- The count of buffered logs after an event. There is none when more logs would be taken than
were counted. -/
def tally? (count : Nat) : BufferEvent → Option Nat
  | .added _ _ => some (count + 1)
  | .took group =>
    if group.2.length ≤ count then some (count - group.2.length) else none
  | _ => some count

def counted? (events : List BufferEvent) : Option Nat :=
  events.foldlM tally? 0

theorem counted?_append {events : List BufferEvent} {count : Nat}
    (before : counted? events = some count) (more : List BufferEvent) :
    counted? (events ++ more) = more.foldlM tally? count := by
  rw [counted?, List.foldlM_append, ← counted?, before]
  rfl

theorem tally?_took {key : Key} {logs : List RawLog} {count left : Nat}
    (sum : count = logs.length + left) : tally? count (.took (key, logs)) = some left := by
  rw [tally?, if_pos (by rw [sum]; exact Nat.le_add_right _ _), sum, Nat.add_sub_cancel_left]

theorem foldlM_took (groups : List Group) (left : Nat) :
    (groups.map took).foldlM tally? ((groups.map fun g => g.2.length).sum + left) =
      some left := by
  induction groups with
  | nil => simp
  | cons group rest ih =>
      simp only [List.map_cons, List.sum_cons, List.foldlM_cons]
      rw [tally?_took (Nat.add_assoc _ _ _)]
      exact ih

end BufferEvent

open BufferEvent

namespace Pipeline

variable {α : Type} {events : List BufferEvent} {p : Pipeline α}

theorem counted?_addLog (counted : counted? events = some p.buffers.count) (key : Key)
    (log : RawLog) :
    counted? (events ++ addEvents key log p) = some (addLog key log p).2.buffers.count := by
  rw [addLog_apply, addEvents_apply, counted?_append counted]
  cases p.ripens key with
  | true =>
      have taken := (p.buffers.push key log p.clock).count_take key p.clock
      rw [Buffers.count_push, Buffers.logsOf_push, if_pos rfl] at taken
      show (tally? (p.buffers.count + 1) (.took (key, _))).bind some = _
      rw [tally?_took taken]
      rfl
  | false => rfl

/-! ## The size of batches -/

def Sized (limit : Nat) (logs : List RawLog) : Prop :=
  1 ≤ logs.length ∧ logs.length ≤ limit

structure Filling (limit : Nat) (maxAge : Nanos) (first : BatchStore) (events : List BufferEvent)
    (arrivals : List Arrival) (p : Pipeline α) : Prop where
  handler : p.handler = .announce
  flushes : ∀ task ∈ p.ready, task.isFlush = true
  timers : p.timers = []
  threshold : p.buffers.threshold = limit
  age : p.buffers.maxAge = maxAge
  short : ∀ key, (p.buffers.logsOf key).length < limit
  counted : counted? events = some p.buffers.count
  waiting : ∀ group ∈ p.ready.filterMap Task.group?, Sized limit group.2
  made : ∀ group ∈ events.filterMap settled?, Sized limit group.2
  stored : ∀ id batch, p.backend.batches.get? id = some batch →
    first.get? id = some batch ∨ Sized limit batch.logs
  dated : Dated arrivals p

variable {limit : Nat} {maxAge : Nanos} {first : BatchStore} {arrivals : List Arrival}

theorem Filling.addLog (filling : Filling limit maxAge first events arrivals p) (key : Key)
    (log : RawLog) :
    Filling limit maxAge first (events ++ addEvents key log p)
      (arrivals ++ [⟨key, log, p.clock⟩]) (addLog key log p).2 := by
  have dated := filling.dated.addLog key log
  have counted := counted?_addLog filling.counted key log
  have lengths := logsOf_addLog key log p
  have before := filling.short key
  obtain ⟨handler, flushes, timers, threshold, age, short, -, waiting, made, stored, -⟩ := filling
  have unsettled : (events ++ addEvents key log p).filterMap settled? =
      events.filterMap settled? := by
    rw [List.filterMap_append, addEvents_apply]
    cases p.ripens key <;> exact List.append_nil _
  have below : ∀ other, ((Pipeline.addLog key log p).2.buffers.logsOf other).length < limit := by
    intro other
    rw [lengths]
    split
    · split
      · exact Nat.zero_lt_of_lt before
      · rename_i unripe
        simp only [ripens, threshold, Bool.or_eq_true, decide_eq_true_eq, not_or, not_le] at unripe
        rw [List.length_append]
        exact unripe.1
    · exact short other
  rw [addLog_apply] at dated counted below ⊢
  cases ripe : p.ripens key with
  | true =>
      rw [ripe] at dated counted below
      refine ⟨handler, forall_mem_append_singleton flushes rfl, timers, threshold, age, below,
        counted, ?_, ?_, stored, dated⟩
      · rw [if_pos rfl, setReady_apply, List.filterMap_append]
        refine forall_mem_append_singleton waiting ⟨?_, ?_⟩
        · exact List.length_append ▸ Nat.le_add_left _ _
        · rw [List.length_append]
          exact before
      · rw [unsettled]
        exact made
  | false =>
      rw [ripe] at dated counted below
      refine ⟨handler, flushes, timers, threshold, age, below, counted, waiting, ?_, stored, dated⟩
      rw [unsettled]
      exact made

theorem Filling.makeBatch (filling : Filling limit maxAge first events arrivals p) (key : Key)
    {logs : List RawLog} (sized : Sized limit logs) :
    Filling limit maxAge first (events ++ makeEvents key logs p) arrivals
      (makeBatch key logs p).2 := by
  obtain ⟨handler, flushes, timers, threshold, age, short, counted, waiting, made, stored, dated⟩ :=
    filling
  obtain ⟨faults, ⟨after, happened⟩ | ⟨after, happened⟩⟩ := makeBatch_cases handler key logs
  · rw [after, happened]
    refine ⟨handler, flushes, timers, threshold, age, short, ?_, waiting, ?_, stored,
      dated.of_same rfl (Nat.le_refl _)⟩
    · exact counted?_append counted _
    · rw [List.filterMap_append]
      exact forall_mem_append_singleton made sized
  · rw [after, happened]
    refine ⟨handler, flushes, timers, threshold, age, short, ?_, waiting, ?_, ?_,
      dated.of_same rfl (Nat.le_refl _)⟩
    · exact counted?_append counted _
    · rw [List.filterMap_append]
      exact forall_mem_append_singleton made sized
    · intro id batch found
      rw [get?_savedAndTold] at found
      split at found
      · cases found
        exact .inr sized
      · exact stored id batch found

theorem Filling.makeBatches {groups : List Group}
    (filling : Filling limit maxAge first events arrivals p)
    (sized : ∀ group ∈ groups, Sized limit group.2) :
    Filling limit maxAge first (events ++ groupEvents groups p) arrivals
      (makeBatches groups p).2 := by
  induction groups generalizing events p with
  | nil => exact (List.append_nil events).symm ▸ filling
  | cons group rest ih =>
      obtain ⟨key, logs⟩ := group
      obtain ⟨here, others⟩ := List.forall_mem_cons.mp sized
      have later := ih (filling.makeBatch key here) others
      rw [List.append_assoc] at later
      exact later

theorem Filling.cleared (filling : Filling limit maxAge first events arrivals p) :
    Filling limit maxAge first (events ++ p.buffers.groups.map .took) arrivals
      (showBuffered { p with buffers := p.buffers.cleared }).2 := by
  have sum := foldlM_took p.buffers.groups 0
  obtain ⟨handler, flushes, timers, threshold, age, short, counted, waiting, made, stored, dated⟩ :=
    filling
  refine ⟨handler, flushes, timers, threshold, age, ?_, ?_, waiting, ?_, stored,
    dated.of_nil (Buffers.logsOf_cleared p.buffers) rfl⟩
  · intro key
    have empty := Buffers.logsOf_cleared p.buffers key
    exact (congrArg List.length empty).trans_lt (Nat.zero_lt_of_lt (short key))
  · rw [← Number.total_eq_sum, Buffers.total_groups] at sum
    rw [counted?_append counted]
    exact sum.trans (congrArg some p.buffers.count_cleared.symm)
  · rw [filterMap_append_silent]
    · exact made
    · rintro event member
      obtain ⟨_, _, rfl⟩ := List.mem_map.mp member
      rfl

theorem Filling.sized_groups (filling : Filling limit maxAge first events arrivals p) :
    ∀ group ∈ p.buffers.groups, Sized limit group.2 := by
  rw [Buffers.groups_eq_map]
  intro group member
  obtain ⟨key, used, rfl⟩ := List.mem_map.mp member
  exact ⟨List.length_pos_of_ne_nil (Buffers.mem_keysInUse.mp used),
    Nat.le_of_lt (filling.short key)⟩

theorem Filling.drainBuffers (filling : Filling limit maxAge first events arrivals p) :
    Filling limit maxAge first (events ++ drainEvents p) arrivals (drainBuffers p).2 := by
  have made := filling.cleared.makeBatches filling.sized_groups
  rw [List.append_assoc] at made
  rw [drainBuffers_apply]
  split
  · rename_i nothing
    rw [drainEvents, List.isEmpty_iff.mp nothing]
    exact (List.append_nil events).symm ▸ filling
  · exact made

theorem Filling.take {key : Key} {logs : List RawLog} {rest : List Task}
    (filling : Filling limit maxAge first events arrivals p)
    (among : p.ready.Perm (.flush key logs :: rest)) :
    Filling limit maxAge first (events ++ makeEvents key logs { p with ready := rest }) arrivals
      (Pipeline.makeBatch key logs { p with ready := rest }).2 := by
  obtain ⟨handler, flushes, timers, threshold, age, short, counted, waiting, made, stored, dated⟩ :=
    filling
  have groups : ∀ group, group ∈ (.flush key logs :: rest).filterMap Task.group? →
      Sized limit group.2 :=
    fun group member => waiting group ((among.filterMap Task.group?).mem_iff.mpr member)
  have others : ∀ task ∈ rest, task.isFlush = true := fun task member =>
    flushes task (among.mem_iff.mpr (List.mem_cons_of_mem _ member))
  obtain ⟨sized, left⟩ := List.forall_mem_cons.mp groups
  have less : Filling limit maxAge first events arrivals { p with ready := rest } :=
    ⟨handler, others, timers, threshold, age, short, counted, left, made, stored,
      dated.of_same rfl (Nat.le_refl _)⟩
  exact less.makeBatch key sized

theorem Filling.failWrites (filling : Filling limit maxAge first events arrivals p) (on : Bool) :
    Filling limit maxAge first events arrivals (change (.failWrites on) p).2 := by
  obtain ⟨handler, flushes, timers, threshold, age, short, counted, waiting, made, stored, dated⟩ :=
    filling
  exact ⟨handler, flushes, timers, threshold, age, short, counted, waiting, made, stored,
    dated.of_same rfl (Nat.le_refl _)⟩

theorem Filling.moveTo (filling : Filling limit maxAge first events arrivals p) {instant : Nat}
    (later : p.clock ≤ instant) :
    Filling limit maxAge first events arrivals (moveTo instant p).2 := by
  obtain ⟨handler, flushes, timers, threshold, age, short, counted, waiting, made, stored, dated⟩ :=
    filling
  rw [moveTo_of_untimed timers]
  exact ⟨handler, flushes, timers, threshold, age, short, counted, waiting, made, stored,
    dated.of_same rfl later⟩

theorem kept_filling (limit : Nat) (maxAge : Nanos) (first : BatchStore) :
    KeptByActions (α := α) (Filling limit maxAge first) where
  handler := Filling.handler
  flushes := Filling.flushes
  timers := Filling.timers
  addLog := fun key log filling => filling.addLog key log
  drainBuffers := Filling.drainBuffers
  makeBatch := fun among filling => filling.take among
  failWrites := fun on filling => filling.failWrites on
  moveTo := fun _ later filling => filling.moveTo later

/-! ## Any run -/

theorem filling_collecting (threshold : Nat) (maxAge : Nanos) (backend : Backend) (epoch : Int) :
    Filling (max threshold 1) maxAge backend.batches [] []
      (collecting threshold maxAge backend epoch : Pipeline α) where
  handler := rfl
  flushes := List.forall_mem_nil _
  timers := rfl
  threshold := rfl
  age := rfl
  short := fun _ => Nat.lt_of_lt_of_le Nat.zero_lt_one (Nat.le_max_right _ _)
  counted := rfl
  waiting := List.forall_mem_nil _
  made := List.forall_mem_nil _
  stored := fun _ _ found => .inl found
  dated :=
    { traced := Buffers.traced_of_nil fun _ => rfl
      since := fun _ _ first => nomatch first
      sorted := .nil
      past := List.forall_mem_nil _ }

/-- What buffers are at any moment: none is full, the counter has gone up and down with all that
happened and is their sum, the keys in use are those of the buffers with logs, and no batch is empty
or too large. -/
structure Kept (limit : Nat) (first : BatchStore) (events : List BufferEvent) (p : Pipeline α) :
    Prop where
  short : ∀ key, (p.buffers.logsOf key).length < limit
  counted : counted? events = some p.buffers.count
  count : p.buffers.count =
    (p.buffers.keysInUse.map fun key => (p.buffers.logsOf key).length).sum
  distinct : p.buffers.keysInUse.Nodup
  inUse : ∀ key, key ∈ p.buffers.keysInUse ↔ p.buffers.logsOf key ≠ []
  made : ∀ group ∈ events.filterMap settled?, Sized limit group.2
  stored : ∀ id batch, p.backend.batches.get? id = some batch →
    first.get? id = some batch ∨ Sized limit batch.logs

/-- What one more log does, told by the logs that its buffer holds with it, and by when each of
them came in. A buffer that was emptied holds nothing of what came in before. -/
structure Triggered (limit : Nat) (maxAge : Nanos) (arrivals : List Arrival) (p : Pipeline α)
    (key : Key) (log : RawLog) : Prop where
  holds : (p.buffers.held arrivals key).map (·.log) = p.buffers.logsOf key
  answer : let inside := p.buffers.held arrivals key ++ [⟨key, log, p.clock⟩]
    (addLog key log p).1 = true ↔ limit ≤ inside.length ∨
      ∃ arrival ∈ inside, maxAge ≤ Nanos.ofMillis (p.clock - arrival.instant)
  after : (addLog key log p).2.buffers.logsOf key =
    if (addLog key log p).1 then [] else p.buffers.logsOf key ++ [log]
  heldAfter : (addLog key log p).2.buffers.held (arrivals ++ [⟨key, log, p.clock⟩]) key =
    if (addLog key log p).1 then [] else p.buffers.held arrivals key ++ [⟨key, log, p.clock⟩]
  others : ∀ other, other ≠ key →
    (addLog key log p).2.buffers.held (arrivals ++ [⟨key, log, p.clock⟩]) other =
      p.buffers.held arrivals other

theorem Filling.kept (filling : Filling limit maxAge first events arrivals p) :
    Kept limit first events p where
  short := filling.short
  counted := filling.counted
  count := p.buffers.count_eq_sum
  distinct := p.buffers.nodup_keysInUse
  inUse := fun _ => Buffers.mem_keysInUse
  made := filling.made
  stored := filling.stored

theorem Filling.triggered (filling : Filling limit maxAge first events arrivals p) (key : Key)
    (log : RawLog) : Triggered limit maxAge arrivals p key log := by
  have answer : (Pipeline.addLog key log p).1 = p.ripens key := by
    rw [addLog_apply]
    cases p.ripens key <;> rfl
  have ripens := filling.dated.ripens_iff key log
  rw [filling.threshold, filling.age, ← answer] at ripens
  refine ⟨filling.dated.traced key, ripens, ?_, ?_, ?_⟩
  · rw [logsOf_addLog, if_pos rfl, answer]
  · rw [held_addLog, if_pos rfl, answer]
  · intro other differs
    rw [held_addLog, if_neg differs.symm]

/-- Whatever is done with buffers in whatever order, however much time passes, and whatever writes
fail: the buffers are kept so, and the next log of any key has that effect. -/
theorem buffers_fill [Quantity α] (threshold : Nat) (maxAge : Nanos) (backend : Backend)
    (epoch : Int) (actions : List BufferAction) :
    let start : Pipeline α := collecting threshold maxAge backend epoch
    let run := start.actAll actions
    Kept (max threshold 1) backend.batches run.1 run.2 ∧
      ∀ key log, Triggered (max threshold 1) maxAge (start.arrivals actions) run.2 key log := by
  intro start run
  have filling := (kept_filling _ _ _).actAll
    (filling_collecting (α := α) threshold maxAge backend epoch) actions
  exact ⟨filling.kept, filling.triggered⟩

example :
    let key : Key := ⟨⟨"app"⟩, ⟨"one"⟩⟩
    let log : RawLog := .new "text" .custom ⟨0, 0⟩
    let start : Pipeline Rat := collecting 10 (.ofMillis 1000) (.empty ⟨"", 1⟩ .defaults) 0
    let run := start.actAll [.add key log, .lapse 999, .add key log, .lapse 1]
    (addLog key log run.2).1 = true ∧ (addLog key log run.2).2.buffers.count = 0 := by
  decide +kernel

end Pipeline

end LogPipeline
