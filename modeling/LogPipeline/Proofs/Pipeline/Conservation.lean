import Mathlib.Data.List.Nodup
import Mathlib.Data.List.Perm.Basic
import LogPipeline.Proofs.Backend.Failing
import LogPipeline.Proofs.Pipeline.Arrivals

/-!
# Buffers lose nothing

A pipeline that only buffers logs and makes batches of them, whose writes fail or not as they
like. What happens to the logs is written down in the order in which it happens; the record then
tells where every log is, whoever takes turns in whatever order.
-/

namespace LogPipeline

open Backend

inductive BufferEvent where
  | added (key : Key) (log : RawLog)
  | took (group : Group)
  | saved (made : Made)
  | dropped (made : Made)
  | told (id : BatchId)

namespace BufferEvent

def added? (key : Key) : BufferEvent → Option RawLog
  | .added k log => if k = key then some log else none
  | _ => none

def took? : BufferEvent → Option Group
  | .took group => some group
  | _ => none

def saved? : BufferEvent → Option Made
  | .saved made => some made
  | _ => none

def dropped? : BufferEvent → Option Made
  | .dropped made => some made
  | _ => none

def settled? : BufferEvent → Option Group
  | .saved made | .dropped made => some made.group
  | _ => none

def told? : BufferEvent → Option BatchId
  | .told id => some id
  | _ => none

def ToldOfSaved (events : List BufferEvent) : Prop :=
  events.filterMap told? <+: (events.filterMap saved?).map Made.id

end BufferEvent

open BufferEvent

namespace Pipeline

variable {α β : Type}

/-! ## What happens in a step -/

def tellings (p q : Pipeline α) : List BufferEvent :=
  (q.announced.drop p.announced.length).map .told

def makeEvents (key : Key) (logs : List RawLog) (p : Pipeline α) : List BufferEvent :=
  let made : Made := ⟨p.backend.ids.fresh, key, logs⟩
  match (saveBatch (.new p.backend.ids.fresh key logs p.now)).on
      { p.backend with ids := p.backend.ids.advance } with
  | (.error _, backend) => .dropped made :: tellings { p with backend } (makeBatch key logs p).2
  | (.ok (), backend) => .saved made :: tellings { p with backend } (makeBatch key logs p).2

def groupEvents : List Group → Pipeline α → List BufferEvent
  | [], _ => []
  | (key, logs) :: rest, p => makeEvents key logs p ++ groupEvents rest (makeBatch key logs p).2

def drainEvents (p : Pipeline α) : List BufferEvent :=
  p.buffers.groups.map .took ++
    groupEvents p.buffers.groups (showBuffered { p with buffers := p.buffers.cleared }).2

def addEvents (key : Key) (log : RawLog) (p : Pipeline α) : List BufferEvent :=
  let begun := (addLog key log p).2.ready.drop p.ready.length
  .added key log :: (begun.filterMap Task.group?).map .took

def taskEvents : Task → Pipeline α → List BufferEvent
  | .flush key logs, p => makeEvents key logs p
  | _, _ => []

def turnEvents (place : Nat) (p : Pipeline α) : List BufferEvent :=
  match p.ready[place]? with
  | none => []
  | some task => taskEvents task { p with ready := p.ready.eraseIdx place }

/-- Where every log is. The groups in hand were taken out of their buffers, and nothing has become
of them yet. -/
structure Conserved (first : BatchStore) (events : List BufferEvent) (hand : List Group)
    (p : Pipeline α) : Prop where
  logs : ∀ key, events.filterMap (added? key) =
    ((events.filterMap took?).filter fun g => g.1 = key).flatMap (·.2) ++ p.buffers.logsOf key
  groups : (events.filterMap took?).Perm
    (p.ready.filterMap Task.group? ++ hand ++ (events.filterMap saved?).map Made.group ++
      (events.filterMap dropped?).map Made.group)
  saved : ∀ made ∈ events.filterMap saved?, ∃ batch, p.backend.batches.get? made.id = some batch ∧
    batch.status = .pending ∧ batch.key = made.key ∧ batch.logs = made.logs
  dropped : ∀ made ∈ events.filterMap dropped?,
    p.backend.batches.get? made.id = none ∧ made.id ∉ events.filterMap told?
  others : ∀ id ∉ (events.filterMap saved?).map Made.id,
    p.backend.batches.get? id = first.get? id
  distinct : ((events.filterMap saved?).map Made.id).Nodup
  told : events.filterMap told? = (events.filterMap saved?).map Made.id
  announced : p.announced = events.filterMap told?
  afterwards : ∀ earlier, earlier <+: events → ToldOfSaved earlier

structure Fresh (events : List BufferEvent) (b : Backend) : Prop where
  saved : ∀ made ∈ events.filterMap saved?, b.ids.Spent made.id
  dropped : ∀ made ∈ events.filterMap dropped?, b.ids.Spent made.id
  unused : ∀ serial, b.ids.next ≤ serial → b.batches.get? (b.ids.id serial) = none

structure Buffering (first : BatchStore) (events : List BufferEvent) (hand : List Group)
    (p : Pipeline α) : Prop where
  handler : p.handler = .announce
  ready : ∀ task ∈ p.ready, task.isFlush = true
  timers : p.timers = []
  fresh : Fresh events p.backend
  conserved : Conserved first events hand p

variable {first : BatchStore} {events : List BufferEvent} {hand : List Group} {p q : Pipeline α}

theorem Buffering.nothing (buffering : Buffering first events hand p) :
    Buffering first (events ++ []) hand p :=
  (List.append_nil events).symm ▸ buffering

/-! ## Making batches -/

def refused (faults : FaultPlan) (p : Pipeline α) : Pipeline α :=
  { p with backend := { p.backend with ids := p.backend.ids.advance, faults } }

def savedAndTold (key : Key) (logs : List RawLog) (faults : FaultPlan) (p : Pipeline α) :
    Pipeline α :=
  { p with
    backend := { p.backend with
      ids := p.backend.ids.advance
      batches := p.backend.batches.put (.new p.backend.ids.fresh key logs p.now)
      faults }
    announced := p.announced ++ [p.backend.ids.fresh] }

theorem makeBatch_cases (announces : p.handler = .announce) (key : Key) (logs : List RawLog) :
    ∃ faults, ((makeBatch key logs p).2 = p.refused faults ∧
        makeEvents key logs p = [.dropped ⟨p.backend.ids.fresh, key, logs⟩]) ∨
      ((makeBatch key logs p).2 = p.savedAndTold key logs faults ∧
        makeEvents key logs p =
          [.saved ⟨p.backend.ids.fresh, key, logs⟩, .told p.backend.ids.fresh]) := by
  have made := makeBatch_apply key logs p
  obtain ⟨_, ⟨faults, rfl, -⟩, ⟨e, failed, -⟩ | ⟨saved, -⟩⟩ := on_saveBatch_cases
    { p.backend with ids := p.backend.ids.advance } (.new p.backend.ids.fresh key logs p.now)
  · rw [failed] at made
    refine ⟨faults, .inl ⟨by rw [made]; rfl, ?_⟩⟩
    simp only [makeEvents, failed, made, tellings, List.drop_length, List.map_nil]
  · rw [saved] at made
    simp only [announce_apply, announces] at made
    refine ⟨faults, .inr ⟨by rw [made, savedAndTold, announces], ?_⟩⟩
    simp only [makeEvents, saved, made, tellings, List.drop_left, List.map_cons, List.map_nil]

theorem get?_savedAndTold (key : Key) (logs : List RawLog) (faults : FaultPlan) (p : Pipeline α)
    (id : BatchId) :
    (p.savedAndTold key logs faults).backend.batches.get? id =
      if p.backend.ids.fresh = id then some (.new p.backend.ids.fresh key logs p.now)
      else p.backend.batches.get? id :=
  BatchStore.get?_put _ _ _

theorem Fresh.not_mem_told {b : Backend} (fresh : Fresh events b)
    (told : events.filterMap told? = (events.filterMap saved?).map Made.id) :
    b.ids.fresh ∉ events.filterMap told? := by
  rw [told]
  intro member
  obtain ⟨made, among, same⟩ := List.mem_map.mp member
  exact (fresh.saved made among).ne_fresh same

theorem Buffering.refused {key : Key} {logs : List RawLog}
    (buffering : Buffering first events ((key, logs) :: hand) p) (faults : FaultPlan) :
    Buffering first (events ++ [.dropped ⟨p.backend.ids.fresh, key, logs⟩]) hand
      (p.refused faults) where
  handler := buffering.handler
  ready := buffering.ready
  timers := buffering.timers
  fresh := by
    obtain ⟨saved, dropped, unused⟩ := buffering.fresh
    refine ⟨?_, ?_, fun serial later => unused serial (Nat.le_of_succ_le later)⟩
    · simp only [List.filterMap_append, List.filterMap_cons, List.filterMap_nil, saved?,
        List.append_nil]
      exact fun made member => (saved made member).advance
    · simp only [List.filterMap_append]
      exact forall_mem_append_singleton (fun made member => (dropped made member).advance)
        (IdSource.spent_fresh _)
  conserved := by
    have untold := buffering.fresh.not_mem_told buffering.conserved.told
    have unused := buffering.fresh.unused _ (Nat.le_refl _)
    obtain ⟨accounts, groups, saved, dropped, others, distinct, told, announced, afterwards⟩ :=
      buffering.conserved
    have order := forall_prefix_concat (.dropped ⟨p.backend.ids.fresh, key, logs⟩) afterwards
    refine ⟨?_, ?_, ?_, ?_, ?_, ?_, ?_, ?_, order ?_⟩
    all_goals simp only [ToldOfSaved, List.filterMap_append, List.filterMap_cons,
      List.filterMap_nil, added?, took?, saved?, dropped?, told?, List.append_nil]
    · exact accounts
    · refine groups.trans ?_
      rw [List.perm_iff_count]
      intro group
      simp only [Pipeline.refused, List.map_append, List.count_append, List.count_cons,
        List.map_cons, List.map_nil, List.count_nil, Made.group]
      omega
    · exact saved
    · exact forall_mem_append_singleton dropped ⟨unused, untold⟩
    · exact others
    · exact distinct
    · exact told
    · exact announced
    · exact told ▸ List.prefix_rfl

theorem Buffering.savedAndTold {key : Key} {logs : List RawLog}
    (buffering : Buffering first events ((key, logs) :: hand) p) (faults : FaultPlan) :
    Buffering first
      (events ++ [.saved ⟨p.backend.ids.fresh, key, logs⟩] ++ [.told p.backend.ids.fresh]) hand
      (p.savedAndTold key logs faults) where
  handler := buffering.handler
  ready := buffering.ready
  timers := buffering.timers
  fresh := by
    obtain ⟨saved, dropped, unused⟩ := buffering.fresh
    refine ⟨?_, ?_, fun serial later => ?_⟩
    · simp only [List.filterMap_append, List.filterMap_cons, List.filterMap_nil, saved?,
        List.append_nil]
      exact forall_mem_append_singleton (fun made member => (saved made member).advance)
        (IdSource.spent_fresh _)
    · simp only [List.filterMap_append, List.filterMap_cons, List.filterMap_nil, dropped?,
        List.append_nil]
      exact fun made member => (dropped made member).advance
    · have other : p.backend.ids.fresh ≠ p.backend.ids.id serial := fun same =>
        Nat.ne_of_lt later (p.backend.ids.id_injective same)
      rw [get?_savedAndTold, if_neg]
      · exact unused serial (Nat.le_of_succ_le later)
      · exact other
  conserved := by
    have fresh := buffering.fresh
    have untold := fresh.not_mem_told buffering.conserved.told
    obtain ⟨accounts, groups, saved, dropped, others, distinct, told, announced, afterwards⟩ :=
      buffering.conserved
    have order := forall_prefix_concat (.saved ⟨p.backend.ids.fresh, key, logs⟩) afterwards
    refine ⟨?_, ?_, ?_, ?_, ?_, ?_, ?_, ?_, forall_prefix_concat _ (order ?_) ?_⟩
    all_goals simp only [ToldOfSaved, List.filterMap_append, List.filterMap_cons,
      List.filterMap_nil, added?, took?, saved?, dropped?, told?, List.append_nil,
      List.map_append, List.map_cons, List.map_nil]
    · exact accounts
    · refine groups.trans ?_
      rw [List.perm_iff_count]
      intro group
      simp only [Pipeline.savedAndTold, List.count_append, List.count_cons,
        List.count_nil, Made.group]
      omega
    · refine forall_mem_append_singleton ?_ ⟨.new p.backend.ids.fresh key logs p.now, ?_, rfl,
        rfl, rfl⟩
      · intro made member
        rw [get?_savedAndTold, if_neg (fresh.saved made member).ne_fresh.symm]
        exact saved made member
      · rw [get?_savedAndTold, if_pos rfl]
    · intro made member
      have other := (fresh.dropped made member).ne_fresh
      obtain ⟨absent, silent⟩ := dropped made member
      rw [get?_savedAndTold, if_neg other.symm]
      refine ⟨absent, ?_⟩
      simp [silent, other]
    · intro id unsaved
      rw [List.mem_append, List.mem_singleton, not_or] at unsaved
      rw [get?_savedAndTold, if_neg (Ne.symm unsaved.2)]
      exact others id unsaved.1
    · exact distinct.append (List.nodup_singleton _) (List.disjoint_singleton.mpr (told ▸ untold))
    · rw [told]
    · exact congrArg (· ++ [p.backend.ids.fresh]) announced
    · rw [told]
      exact List.prefix_append _ _
    · exact told ▸ List.prefix_rfl

theorem Buffering.makeBatch {key : Key} {logs : List RawLog}
    (buffering : Buffering first events ((key, logs) :: hand) p) :
    Buffering first (events ++ makeEvents key logs p) hand (makeBatch key logs p).2 := by
  obtain ⟨faults, ⟨made, happened⟩ | ⟨made, happened⟩⟩ :=
    makeBatch_cases buffering.handler key logs
  · rw [made, happened]
    exact buffering.refused faults
  · rw [made, happened]
    have told := buffering.savedAndTold faults
    rw [List.append_assoc] at told
    exact told

theorem Buffering.makeBatches {groups : List Group}
    (buffering : Buffering first events (groups ++ hand) p) :
    Buffering first (events ++ groupEvents groups p) hand (makeBatches groups p).2 := by
  -- Each batch takes its group out of the hand, and spends the identity that the next one has not.
  induction groups generalizing events p with
  | nil => exact buffering.nothing
  | cons group rest ih =>
      have later := ih (Buffering.makeBatch buffering)
      rw [List.append_assoc] at later
      exact later

/-! ## Taking logs in and out -/

def Silent (event : BufferEvent) : Prop :=
  saved? event = none ∧ dropped? event = none ∧ told? event = none

theorem filterMap_append_silent {pick : BufferEvent → Option β} {more : List BufferEvent}
    (blind : ∀ event ∈ more, pick event = none) (events : List BufferEvent) :
    (events ++ more).filterMap pick = events.filterMap pick := by
  rw [List.filterMap_append, List.filterMap_eq_nil_iff.mpr blind, List.append_nil]

theorem Conserved.afterwards_append (conserved : Conserved first events hand p)
    {more : List BufferEvent} (silent : ∀ event ∈ more, Silent event) :
    ∀ earlier, earlier <+: events ++ more → ToldOfSaved earlier := by
  intro earlier before
  rcases List.prefix_or_prefix_of_prefix before (List.prefix_append events more) with short | long
  · exact conserved.afterwards earlier short
  · obtain ⟨front, rfl⟩ := long
    have part : ∀ event ∈ front, Silent event := fun event member =>
      silent event (((List.prefix_append_right_inj events).mp before).subset member)
    rw [ToldOfSaved, filterMap_append_silent fun event member => (part event member).2.2,
      filterMap_append_silent fun event member => (part event member).1]
    exact conserved.afterwards events List.prefix_rfl

theorem Buffering.move {more : List BufferEvent} {hands : List Group}
    (buffering : Buffering first events hand p) (silent : ∀ event ∈ more, Silent event)
    (handler : q.handler = p.handler) (timers : q.timers = p.timers)
    (announced : q.announced = p.announced) (ids : q.backend.ids = p.backend.ids)
    (batches : ∀ id, q.backend.batches.get? id = p.backend.batches.get? id)
    (ready : ∀ task ∈ q.ready, task.isFlush = true)
    (logs : ∀ key, (events ++ more).filterMap (added? key) =
      (((events ++ more).filterMap took?).filter fun g => g.1 = key).flatMap (·.2) ++
        q.buffers.logsOf key)
    (groups : ((events ++ more).filterMap took?).Perm
      (q.ready.filterMap Task.group? ++ hands ++ (events.filterMap saved?).map Made.group ++
        (events.filterMap dropped?).map Made.group)) :
    Buffering first (events ++ more) hands q := by
  have savedSame := filterMap_append_silent (fun event member => (silent event member).1) events
  have droppedSame :=
    filterMap_append_silent (fun event member => (silent event member).2.1) events
  have toldSame := filterMap_append_silent (fun event member => (silent event member).2.2) events
  obtain ⟨announces, _, none, ⟨savedSpent, droppedSpent, unused⟩, conserved⟩ := buffering
  refine ⟨handler.trans announces, ready, timers.trans none, ⟨?_, ?_, ?_⟩,
    ⟨logs, ?_, ?_, ?_, ?_, ?_, ?_, ?_, conserved.afterwards_append silent⟩⟩
  · rw [savedSame, ids]
    exact savedSpent
  · rw [droppedSame, ids]
    exact droppedSpent
  · simp only [ids, batches]
    exact unused
  · rw [savedSame, droppedSame]
    exact groups
  · simp only [savedSame, batches]
    exact conserved.saved
  · simp only [droppedSame, toldSame, batches]
    exact conserved.dropped
  · simp only [savedSame, batches]
    exact conserved.others
  · rw [savedSame]
    exact conserved.distinct
  · rw [toldSame, savedSame]
    exact conserved.told
  · rw [toldSame, announced]
    exact conserved.announced

theorem silent_took {groups : List Group} :
    ∀ event ∈ groups.map BufferEvent.took, Silent event := by
  intro event member
  obtain ⟨group, _, rfl⟩ := List.mem_map.mp member
  exact ⟨rfl, rfl, rfl⟩

theorem filterMap_took_map (groups : List Group) :
    (groups.map BufferEvent.took).filterMap took? = groups := by
  rw [List.filterMap_map]
  exact List.filterMap_some

theorem filterMap_added_map (groups : List Group) (key : Key) :
    (groups.map BufferEvent.took).filterMap (added? key) = [] := by
  rw [List.filterMap_map, List.filterMap_eq_nil_iff]
  exact fun _ _ => rfl

theorem Buffering.cleared (buffering : Buffering first events hand p) :
    Buffering first (events ++ p.buffers.groups.map .took) (p.buffers.groups ++ hand)
      (showBuffered { p with buffers := p.buffers.cleared }).2 := by
  obtain ⟨accounts, groups⟩ := And.intro buffering.conserved.logs buffering.conserved.groups
  refine buffering.move silent_took rfl rfl rfl rfl (fun _ => rfl) buffering.ready ?_ ?_
  · intro key
    rw [List.filterMap_append, List.filterMap_append, filterMap_added_map, filterMap_took_map,
      List.append_nil, accounts, List.filter_append, List.flatMap_append, Buffers.flatMap_groups]
    exact (congrArg _ (Buffers.logsOf_cleared p.buffers key)).trans (List.append_nil _) |>.symm
  · rw [List.filterMap_append, filterMap_took_map]
    refine (groups.append_right p.buffers.groups).trans ?_
    rw [List.perm_iff_count]
    intro group
    simp only [showBuffered_apply, record_apply, List.count_append]
    omega

theorem Buffering.drainBuffers (buffering : Buffering first events [] p) :
    Buffering first (events ++ drainEvents p) [] (drainBuffers p).2 := by
  have made := Buffering.makeBatches buffering.cleared
  rw [List.append_assoc] at made
  rw [drainBuffers_apply]
  split
  · rename_i nothing
    have none : drainEvents p = [] := by
      rw [drainEvents, List.isEmpty_iff.mp nothing]
      rfl
    rw [none, List.append_nil]
    exact buffering
  · exact made

theorem addEvents_apply (key : Key) (log : RawLog) (p : Pipeline α) :
    addEvents key log p =
      if p.ripens key then [.added key log, .took (key, p.buffers.logsOf key ++ [log])]
      else [.added key log] := by
  have none : (p.withBuffers (p.buffers.push key log p.clock)).ready =
      p.ready := rfl
  have one : (setReady (.flush key (p.buffers.logsOf key ++ [log]))
      (p.withBuffers ((p.buffers.push key log p.clock).take key p.clock))).2.ready =
        p.ready ++ [.flush key (p.buffers.logsOf key ++ [log])] := rfl
  rw [addEvents, addLog_apply]
  cases p.ripens key with
  | true =>
      simp only [if_true, one, List.drop_left, List.filterMap_cons, List.filterMap_nil,
        Task.group?, List.map_cons, List.map_nil]
  | false =>
      simp only [Bool.false_eq_true, if_false, none, List.drop_length, List.filterMap_nil,
        List.map_nil]

theorem addEvents_cases (key : Key) (log : RawLog) (p : Pipeline α) :
    ((addLog key log p).2 = p.withBuffers (p.buffers.push key log p.clock) ∧
        addEvents key log p = [.added key log]) ∨
      ((addLog key log p).2 =
          (setReady (.flush key (p.buffers.logsOf key ++ [log]))
            (p.withBuffers ((p.buffers.push key log p.clock).take key p.clock))).2 ∧
        addEvents key log p = [.added key log, .took (key, p.buffers.logsOf key ++ [log])]) := by
  rw [addLog_apply, addEvents_apply]
  cases p.ripens key with
  | true => exact .inr ⟨rfl, rfl⟩
  | false => exact .inl ⟨rfl, rfl⟩

theorem Buffering.addLog (buffering : Buffering first events hand p) (key : Key) (log : RawLog) :
    Buffering first (events ++ addEvents key log p) hand (addLog key log p).2 := by
  obtain ⟨accounts, groups⟩ := And.intro buffering.conserved.logs buffering.conserved.groups
  -- The log is the last one of its key, in the buffer or in the group that leaves it.
  obtain ⟨after, happened⟩ | ⟨after, happened⟩ := addEvents_cases key log p
  · rw [after, happened]
    refine buffering.move ?_ rfl rfl rfl rfl (fun _ => rfl) buffering.ready ?_ ?_
    · exact List.forall_mem_singleton.mpr ⟨rfl, rfl, rfl⟩
    · intro other
      rw [List.filterMap_append, List.filterMap_append, accounts, buffers_withBuffers,
        Buffers.logsOf_push]
      by_cases same : key = other <;> simp [added?, took?, same]
    · rw [List.filterMap_append]
      exact (List.append_nil _).symm ▸ groups
  · rw [after, happened]
    refine buffering.move ?_ rfl rfl rfl rfl (fun _ => rfl) ?_ ?_ ?_
    · rintro event (_ | ⟨_, _ | ⟨_, ⟨⟩⟩⟩) <;> exact ⟨rfl, rfl, rfl⟩
    · exact forall_mem_append_singleton buffering.ready rfl
    · intro other
      rw [List.filterMap_append, List.filterMap_append, accounts, setReady_apply,
        buffers_withBuffers, Buffers.logsOf_take_push]
      by_cases same : key = other <;> simp [List.filterMap_cons, added?, took?, same]
    · rw [List.filterMap_append]
      refine (groups.append_right [(key, p.buffers.logsOf key ++ [log])]).trans ?_
      rw [List.perm_iff_count]
      intro group
      simp only [withBuffers, setReady_apply, showBuffered_apply, record_apply,
        List.filterMap_append, List.count_append, List.filterMap_cons, List.filterMap_nil,
        Task.group?]
      omega

/-! ## Taking turns -/

variable [Quantity α]

def runEvents : Nat → Pipeline α → List BufferEvent
  | 0, _ => []
  | n + 1, p =>
    match p.ready with
    | [] => []
    | task :: ready =>
      taskEvents task { p with ready } ++ runEvents n (runTask task { p with ready }).2

def waitEvents (p : Pipeline α) : List BufferEvent :=
  if p.ready.any Task.isFlush then runEvents p.load p else []

omit [Quantity α] in
theorem Buffering.take {key : Key} {logs : List RawLog} {rest : List Task}
    (buffering : Buffering first events [] p) (among : p.ready.Perm (.flush key logs :: rest)) :
    Buffering first (events ++ makeEvents key logs { p with ready := rest }) []
      (Pipeline.makeBatch key logs { p with ready := rest }).2 := by
  have others : ∀ task ∈ rest, task.isFlush = true := fun task member =>
    buffering.ready task (among.mem_iff.mpr (List.mem_cons_of_mem _ member))
  have taken : Buffering first (events ++ []) [(key, logs)] { p with ready := rest } := by
    refine buffering.move (List.forall_mem_nil _) rfl rfl rfl rfl (fun _ => rfl) others ?_ ?_
    · rw [List.append_nil]
      exact buffering.conserved.logs
    · have tasks := among.filterMap Task.group?
      rw [List.append_nil]
      refine buffering.conserved.groups.trans ?_
      rw [List.perm_iff_count] at tasks ⊢
      intro group
      have counted := tasks group
      simp only [List.filterMap_cons, Task.group?, List.count_append, List.count_cons,
        List.count_nil] at counted ⊢
      omega
  rw [List.append_nil] at taken
  exact Buffering.makeBatch taken

omit [Quantity α] in
theorem Buffering.moveTo (buffering : Buffering first events [] p) (instant : Nat) :
    Buffering first events [] (moveTo instant p).2 := by
  obtain ⟨handler, ready, none, fresh, ⟨logs, groups, saved, dropped, others, distinct, told,
    announced, afterwards⟩⟩ := buffering
  rw [moveTo_of_untimed none]
  exact ⟨handler, ready, none, fresh, ⟨logs, groups, saved, dropped, others, distinct, told,
    announced, afterwards⟩⟩

omit [Quantity α] in
theorem Buffering.failWrites (buffering : Buffering first events [] p) (on : Bool) :
    Buffering first events [] (change (.failWrites on) p).2 := by
  obtain ⟨handler, ready, timers, ⟨savedSpent, droppedSpent, unused⟩, ⟨logs, groups, saved,
    dropped, others, distinct, told, announced, afterwards⟩⟩ := buffering
  exact ⟨handler, ready, timers, ⟨savedSpent, droppedSpent, unused⟩, ⟨logs, groups, saved,
    dropped, others, distinct, told, announced, afterwards⟩⟩

end Pipeline

/-! ## The count of a flush -/

namespace Pipeline

variable {α β : Type}

theorem filterMap_tellings {pick : BufferEvent → Option β} (blind : ∀ id, pick (.told id) = none)
    (p q : Pipeline α) : (tellings p q).filterMap pick = [] := by
  rw [tellings, List.filterMap_map, List.filterMap_eq_nil_iff]
  exact fun id _ => blind id

theorem makeEvents_counts (key : Key) (logs : List RawLog) (p : Pipeline α) :
    (makeEvents key logs p).filterMap took? = [] ∧
      (makeEvents key logs p).filterMap settled? = [(key, logs)] ∧
      ((makeEvents key logs p).filterMap saved?).length =
        if (makeBatch key logs p).1 then 1 else 0 := by
  have answer := congrArg Prod.fst (makeBatch_apply key logs p)
  have took : ∀ q r : Pipeline α, (tellings q r).filterMap took? = [] :=
    filterMap_tellings fun _ => rfl
  have settled : ∀ q r : Pipeline α, (tellings q r).filterMap settled? = [] :=
    filterMap_tellings fun _ => rfl
  have saved : ∀ q r : Pipeline α, (tellings q r).filterMap saved? = [] :=
    filterMap_tellings fun _ => rfl
  rw [answer, makeEvents]
  rcases (saveBatch (.new p.backend.ids.fresh key logs p.now)).on
    { p.backend with ids := p.backend.ids.advance } with ⟨_ | _, backend⟩ <;>
  simp only [List.filterMap_cons, took, settled, saved] <;>
  exact ⟨rfl, rfl, rfl⟩

theorem groupEvents_counts (groups : List Group) (p : Pipeline α) :
    (groupEvents groups p).filterMap took? = [] ∧
      (groupEvents groups p).filterMap settled? = groups ∧
      ((groupEvents groups p).filterMap saved?).length = (makeBatches groups p).1 := by
  induction groups generalizing p with
  | nil => exact ⟨rfl, rfl, rfl⟩
  | cons group rest ih =>
      obtain ⟨key, logs⟩ := group
      obtain ⟨took, settled, saved⟩ := makeEvents_counts key logs p
      obtain ⟨laterTook, laterSettled, laterSaved⟩ := ih (makeBatch key logs p).2
      have answer : (makeBatches ((key, logs) :: rest) p).1 =
          if (makeBatch key logs p).1 then (makeBatches rest (makeBatch key logs p).2).1 + 1
          else (makeBatches rest (makeBatch key logs p).2).1 := rfl
      simp only [groupEvents, List.filterMap_append, List.length_append]
      rw [took, settled, saved, laterTook, laterSettled, laterSaved, answer]
      refine ⟨rfl, rfl, ?_⟩
      split <;> omega

variable [Quantity α]

/-- A flush of all takes what is in the buffers and settles it in its order; it counts what it
could save itself. -/
structure Counted (p : Pipeline α) : Prop where
  took : (drainEvents p).filterMap took? = p.buffers.groups
  settled : (drainEvents p).filterMap settled? = p.buffers.groups
  count : (flushAll p).1 = ((drainEvents p).filterMap saved?).length

theorem counted (p : Pipeline α) : Counted p := by
  obtain ⟨took, settled, saved⟩ := groupEvents_counts p.buffers.groups
    (showBuffered { p with buffers := p.buffers.cleared }).2
  have blind : (p.buffers.groups.map BufferEvent.took).filterMap settled? = [] := by
    rw [List.filterMap_map, List.filterMap_eq_nil_iff]
    exact fun _ _ => rfl
  have unsaved : (p.buffers.groups.map BufferEvent.took).filterMap saved? = [] := by
    rw [List.filterMap_map, List.filterMap_eq_nil_iff]
    exact fun _ _ => rfl
  have answer : (flushAll p).1 = (drainBuffers p).1 := rfl
  refine ⟨?_, ?_, ?_⟩
  · rw [drainEvents, List.filterMap_append, filterMap_took_map, took, List.append_nil]
  · rw [drainEvents, List.filterMap_append, blind, settled, List.nil_append]
  · rw [drainEvents, List.filterMap_append, unsaved, List.nil_append, saved, answer]
    simp only [drainBuffers, get_bind_apply, ite_apply, pure_apply, modify_bind_apply]
    split
    · rename_i nothing
      rw [List.isEmpty_iff.mp nothing]
      rfl
    · rfl

end Pipeline

/-! ## Any run -/

inductive BufferAction where
  | add (key : Key) (log : RawLog)
  | turn (place : Nat)
  | drain
  | waitForFlushes
  | flushAll
  | failWrites (on : Bool)
  | advance (millis : Nat)
  | lapse (millis : Nat)

namespace Pipeline

variable {α : Type} [Quantity α]

def collecting (threshold : Nat) (maxAge : Nanos) (backend : Backend) (epoch : Int) : Pipeline α :=
  { (idle backend epoch : Pipeline α) with
    buffers := .empty threshold maxAge
    handler := .announce }

def act (p : Pipeline α) : BufferAction → Pipeline α
  | .add key log => (addLog key log p).2
  | .turn place => (turn place p).2
  | .drain => (drainBuffers p).2
  | .waitForFlushes => (waitForFlushes p).2
  | .flushAll => (flushAll p).2
  | .failWrites on => (change (.failWrites on) p).2
  | .advance millis => (advance millis p).2
  | .lapse millis => (moveTo (p.clock + millis) p).2

def actEvents (p : Pipeline α) : BufferAction → List BufferEvent
  | .add key log => addEvents key log p
  | .turn place => turnEvents place p
  | .drain => drainEvents p
  | .waitForFlushes => waitEvents p
  | .flushAll => drainEvents p ++ waitEvents (drainBuffers p).2
  | .advance millis => if millis = 0 then [] else runEvents p.load p
  | .failWrites _ | .lapse _ => []

def actAll (p : Pipeline α) : List BufferAction → List BufferEvent × Pipeline α
  | [] => ([], p)
  | action :: rest =>
    let (later, final) := (p.act action).actAll rest
    (p.actEvents action ++ later, final)

def actArrivals (p : Pipeline α) : BufferAction → List Arrival
  | .add key log => [⟨key, log, p.clock⟩]
  | _ => []

def arrivals (p : Pipeline α) : List BufferAction → List Arrival
  | [] => []
  | action :: rest => p.actArrivals action ++ (p.act action).arrivals rest

/-- What all actions keep, told with what has happened and what has come in. Only buffers that were
taken are ready, and nothing waits for its time. -/
structure KeptByActions (holds : List BufferEvent → List Arrival → Pipeline α → Prop) : Prop where
  handler : ∀ {events arrivals p}, holds events arrivals p → p.handler = .announce
  flushes : ∀ {events arrivals p}, holds events arrivals p → ∀ task ∈ p.ready, task.isFlush = true
  timers : ∀ {events arrivals p}, holds events arrivals p → p.timers = []
  addLog : ∀ {events arrivals p} key log, holds events arrivals p →
    holds (events ++ addEvents key log p) (arrivals ++ [⟨key, log, p.clock⟩]) (addLog key log p).2
  drainBuffers : ∀ {events arrivals p}, holds events arrivals p →
    holds (events ++ drainEvents p) arrivals (drainBuffers p).2
  makeBatch : ∀ {events arrivals p key logs rest}, p.ready.Perm (.flush key logs :: rest) →
    holds events arrivals p → holds (events ++ makeEvents key logs { p with ready := rest }) arrivals
      (makeBatch key logs { p with ready := rest }).2
  failWrites : ∀ {events arrivals p} on, holds events arrivals p →
    holds events arrivals (change (.failWrites on) p).2
  moveTo : ∀ {events arrivals p} instant, p.clock ≤ instant → holds events arrivals p →
    holds events arrivals (moveTo instant p).2

namespace KeptByActions

variable {holds : List BufferEvent → List Arrival → Pipeline α → Prop}
  {events : List BufferEvent} {arrived : List Arrival} {p : Pipeline α}

theorem take {task : Task} {rest : List Task} (kept : KeptByActions holds)
    (start : holds events arrived p) (among : p.ready.Perm (task :: rest)) :
    holds (events ++ taskEvents task { p with ready := rest }) arrived
        (runTask task { p with ready := rest }).2 ∧
      (runTask task { p with ready := rest }).2.clock = p.clock := by
  have flushes := kept.flushes start task (among.mem_iff.mpr List.mem_cons_self)
  have announces : p.handler = .announce := kept.handler start
  cases task with
  | flush key logs =>
      refine ⟨kept.makeBatch among start, ?_⟩
      show (Pipeline.makeBatch key logs { p with ready := rest }).2.clock = p.clock
      obtain ⟨_, ⟨made, -⟩ | ⟨made, -⟩⟩ :=
        makeBatch_cases (p := { p with ready := rest }) announces key logs
      · rw [made]
        rfl
      · rw [made]
        rfl
  | serve | resume | run | change => cases flushes

theorem turn (kept : KeptByActions holds) (start : holds events arrived p) (place : Nat) :
    holds (events ++ turnEvents place p) arrived (turn place p).2 := by
  rw [turnEvents]
  cases found : p.ready[place]? with
  | none =>
      rw [turn_none found, List.append_nil]
      exact start
  | some task =>
      rw [turn_some found]
      obtain ⟨within, rfl⟩ := List.getElem?_eq_some_iff.mp found
      exact (kept.take start (List.getElem_cons_eraseIdx_perm within).symm).1

theorem runTasks (kept : KeptByActions holds) (start : holds events arrived p) (n : Nat) :
    holds (events ++ runEvents n p) arrived (runTasks n p).2 ∧
      (Pipeline.runTasks n p).2.clock = p.clock := by
  induction n generalizing events p with
  | zero => exact ⟨(List.append_nil events).symm ▸ start, rfl⟩
  | succ n ih =>
      rw [runTasks_succ, runEvents]
      cases next : p.ready with
      | nil => exact ⟨(List.append_nil events).symm ▸ start, rfl⟩
      | cons task ready =>
          obtain ⟨done, same⟩ := kept.take start (.of_eq next)
          obtain ⟨later, clock⟩ := ih done
          rw [List.append_assoc] at later
          rw [List.isEmpty_cons, if_neg Bool.false_ne_true, runNext_cons next]
          exact ⟨later, clock.trans same⟩

theorem waitForFlushes (kept : KeptByActions holds) (start : holds events arrived p) :
    holds (events ++ waitEvents p) arrived (waitForFlushes p).2 := by
  rw [waitForFlushes_apply, waitEvents]
  split
  · exact (kept.runTasks start p.load).1
  · exact (List.append_nil events).symm ▸ start

theorem advance (kept : KeptByActions holds) (start : holds events arrived p) (millis : Nat) :
    holds (events ++ if millis = 0 then [] else runEvents p.load p) arrived
      (advance millis p).2 := by
  obtain ⟨settled, clock⟩ := kept.runTasks start p.load
  have never : nextDue? (settle p).2 = none := by
    rw [nextDue?, show (settle p).2.timers = [] from kept.timers settled]
    rfl
  simp only [Pipeline.advance, ne_eq, ite_apply, get_bind_apply, pure_apply, ite_not]
  split
  · exact (List.append_nil events).symm ▸ start
  · rw [passUntil_apply, passBefore_succ, never]
    exact kept.moveTo _ (clock.le.trans (Nat.le_add_right _ _)) settled

theorem act (kept : KeptByActions holds) (start : holds events arrived p) (action : BufferAction) :
    holds (events ++ p.actEvents action) (arrived ++ p.actArrivals action) (p.act action) := by
  cases action with
  | add key log => exact kept.addLog key log start
  | turn place => exact (List.append_nil arrived).symm ▸ kept.turn start place
  | drain => exact (List.append_nil arrived).symm ▸ kept.drainBuffers start
  | waitForFlushes => exact (List.append_nil arrived).symm ▸ kept.waitForFlushes start
  | flushAll =>
      have flushed := kept.waitForFlushes (kept.drainBuffers start)
      rw [List.append_assoc] at flushed
      exact (List.append_nil arrived).symm ▸ flushed
  | failWrites on =>
      show holds (events ++ []) (arrived ++ []) _
      rw [List.append_nil, List.append_nil]
      exact kept.failWrites on start
  | advance millis => exact (List.append_nil arrived).symm ▸ kept.advance start millis
  | lapse millis =>
      show holds (events ++ []) (arrived ++ []) _
      rw [List.append_nil, List.append_nil]
      exact kept.moveTo _ (Nat.le_add_right _ _) start

theorem actAll (kept : KeptByActions holds) (start : holds events arrived p)
    (actions : List BufferAction) :
    holds (events ++ (p.actAll actions).1) (arrived ++ p.arrivals actions)
      (p.actAll actions).2 := by
  induction actions generalizing events arrived p with
  | nil =>
      rw [Pipeline.actAll, arrivals, List.append_nil, List.append_nil]
      exact start
  | cons action rest ih =>
      have later := ih (kept.act start action)
      rw [List.append_assoc, List.append_assoc] at later
      exact later

end KeptByActions

variable {first : BatchStore} {events : List BufferEvent} {p : Pipeline α}

omit [Quantity α] in
theorem kept_buffering (first : BatchStore) :
    KeptByActions (α := α) fun events _ p => Buffering first events [] p where
  handler := Buffering.handler
  flushes := Buffering.ready
  timers := Buffering.timers
  addLog := fun key log buffering => buffering.addLog key log
  drainBuffers := Buffering.drainBuffers
  makeBatch := fun among buffering => buffering.take among
  failWrites := fun on buffering => buffering.failWrites on
  moveTo := fun instant _ buffering => buffering.moveTo instant

theorem Buffering.actAll (buffering : Buffering first events [] p) (actions : List BufferAction) :
    Buffering first (events ++ (p.actAll actions).1) [] (p.actAll actions).2 :=
  @KeptByActions.actAll α _ _ events [] p (kept_buffering first) buffering actions

omit [Quantity α] in
theorem buffering_collecting {backend : Backend}
    (unused : ∀ serial, backend.ids.next ≤ serial →
      backend.batches.get? (backend.ids.id serial) = none)
    (threshold : Nat) (maxAge : Nanos) (epoch : Int) :
    Buffering backend.batches [] []
      (collecting threshold maxAge backend epoch : Pipeline α) where
  handler := rfl
  ready := List.forall_mem_nil _
  timers := rfl
  fresh := ⟨List.forall_mem_nil _, List.forall_mem_nil _, unused⟩
  conserved :=
    { logs := fun _ => rfl
      groups := .refl _
      saved := List.forall_mem_nil _
      dropped := List.forall_mem_nil _
      others := fun _ _ => rfl
      distinct := .nil
      told := rfl
      announced := rfl
      afterwards := by
        intro earlier before
        rw [List.prefix_nil.mp before]
        exact List.prefix_rfl }

/-- Whatever is done with buffers in whatever order, and whatever writes fail: every log is where it
should be, and a flush of all counts its own batches. -/
theorem logs_conserved {backend : Backend}
    (unused : ∀ serial, backend.ids.next ≤ serial →
      backend.batches.get? (backend.ids.id serial) = none)
    (threshold : Nat) (maxAge : Nanos) (epoch : Int) (actions : List BufferAction) :
    let run := (collecting threshold maxAge backend epoch : Pipeline α).actAll actions
    Conserved backend.batches run.1 [] run.2 ∧ Counted run.2 :=
  ⟨((buffering_collecting unused threshold maxAge epoch).actAll actions).conserved, counted _⟩

/-- A full buffer is dropped while writes fail. Then two buffers are flushed by age and by a flush
of all, which saves its own batch before the one that was taken first. -/
theorem logs_conserved_when_dropped :
    let one : Key := ⟨⟨"app"⟩, ⟨"one"⟩⟩
    let other : Key := ⟨⟨"app"⟩, ⟨"other"⟩⟩
    let log : RawLog := .new "text" .custom ⟨0, 0⟩
    let backend : Backend := .empty ⟨"", 1⟩ .defaults
    let actions : List BufferAction :=
      [.add one log, .add other log, .add one log, .failWrites true, .turn 0, .failWrites false,
        .add one log, .lapse 1000, .add other log, .flushAll]
    let run := (collecting 2 (.ofMillis 1000) backend 0 : Pipeline Rat).actAll actions
    (∀ serial, backend.ids.next ≤ serial → backend.batches.get? (backend.ids.id serial) = none) ∧
      (run.1.filterMap took?).map (fun g => (g.1, g.2.length)) =
        [(one, 2), (other, 2), (one, 1)] ∧
      (run.1.filterMap dropped?).map (·.key) = [one] ∧
      (run.1.filterMap saved?).map (·.key) = [one, other] ∧
      Conserved backend.batches run.1 [] run.2 ∧ Counted run.2 := by
  intro one other log backend actions run
  have unused : ∀ serial, backend.ids.next ≤ serial →
      backend.batches.get? (backend.ids.id serial) = none := fun _ _ => rfl
  exact ⟨unused, by decide +kernel, by decide +kernel, by decide +kernel,
    logs_conserved unused 2 (.ofMillis 1000) 0 actions⟩

end Pipeline

end LogPipeline
