import LogPipeline.Proofs.Admission.Conditions
import LogPipeline.Proofs.Pipeline.Frames

namespace LogPipeline

open Backend

namespace Pipeline

variable {α : Type} {p q r : Pipeline α} {key : Key} {logs more : List RawLog}

/-- The logs have joined the buffer of the key, whose first logs may have left it in groups. -/
structure Buffered (key : Key) (logs : List RawLog) (p q : Pipeline α) : Prop where
  only : ∃ buffers ready telemetry, q = { p with
    buffers, ready, backend := { p.backend with telemetry } }
  joined : ∃ groups : List (List RawLog), q.ready = p.ready ++ groups.map (.flush key) ∧
    groups.flatten ++ q.buffers.logsOf key = p.buffers.logsOf key ++ logs
  others : ∀ other ≠ key, q.buffers.logsOf other = p.buffers.logsOf other

theorem Buffered.refl (key : Key) (p : Pipeline α) : Buffered key [] p p :=
  ⟨⟨p.buffers, p.ready, p.backend.telemetry, rfl⟩,
    ⟨[], (List.append_nil _).symm, (List.append_nil _).symm⟩, fun _ _ => rfl⟩

theorem Buffered.trans (first : Buffered key logs p q) (rest : Buffered key more q r) :
    Buffered key (logs ++ more) p r := by
  obtain ⟨⟨_, _, _, rfl⟩, ⟨early, readied, joined⟩, others⟩ := first
  obtain ⟨⟨buffers, ready, telemetry, rfl⟩, ⟨late, laterReadied, laterJoined⟩, laterOthers⟩ := rest
  refine ⟨⟨buffers, ready, telemetry, rfl⟩, ⟨early ++ late, ?_, ?_⟩, fun other differs =>
    (laterOthers other differs).trans (others other differs)⟩
  · rw [laterReadied, readied, List.map_append, List.append_assoc]
  · rw [List.flatten_append, List.append_assoc, laterJoined, ← List.append_assoc, joined,
      List.append_assoc]

theorem Buffered.record (buffered : Buffered key logs p q) (f : Telemetry → Telemetry) :
    Buffered key logs p (record f q).2 := by
  obtain ⟨⟨buffers, ready, _, rfl⟩, joined, others⟩ := buffered
  exact ⟨⟨buffers, ready, _, rfl⟩, joined, others⟩

theorem buffered_addLog (key : Key) (log : RawLog) (p : Pipeline α) :
    Buffered key [log] p (addLog key log p).2 := by
  obtain joined | left := addLog_cases key log p
  · rw [joined]
    refine ⟨⟨_, _, _, rfl⟩, ⟨[], (List.append_nil _).symm, ?_⟩, fun other differs => ?_⟩
    · rw [buffers_withBuffers, Buffers.logsOf_push, if_pos rfl]
      rfl
    · rw [buffers_withBuffers, Buffers.logsOf_push, if_neg differs.symm]
  · rw [left, setReady_apply]
    refine ⟨⟨_, _, _, rfl⟩, ⟨[p.buffers.logsOf key ++ [log]], rfl, ?_⟩, fun other differs => ?_⟩
    · rw [buffers_withBuffers, Buffers.logsOf_take_push, if_pos rfl]
      simp
    · rw [buffers_withBuffers, Buffers.logsOf_take_push, if_neg differs.symm]

theorem buffered_addLogs (key : Key) (logs : List RawLog) (p : Pipeline α) :
    Buffered key logs p (logs.forM (fun log => discard (addLog key log)) p).2 := by
  induction logs generalizing p with
  | nil => exact .refl key p
  | cons log rest ih => exact (buffered_addLog key log p).trans (ih (addLog key log p).2)

theorem perKey_addLogs (key : Key) (logs : List RawLog) (p : Pipeline α) :
    (logs.forM (fun log => discard (addLog key log)) p).2.backend.telemetry.perKey =
      p.backend.telemetry.perKey := by
  induction logs generalizing p with
  | nil => rfl
  | cons log rest ih =>
      refine (ih (addLog key log p).2).trans ?_
      obtain joined | left := addLog_cases key log p
      · rw [joined]
        rfl
      · rw [left]
        rfl

theorem announce_only (id : BatchId) (p : Pipeline α) :
    ∃ announced pool ready, ∀ backend (gateway : Gateway α),
      (announce id { p with backend, gateway }).2 =
        { p with backend, gateway, announced, pool, ready } := by
  obtain ⟨backend, gateway, buffers, ⟨policy, seats, seated, waiting, shutDown⟩, retention, handler,
    announced, ready, timers, clock, epoch⟩ := p
  cases handler with
  | announce =>
      exact ⟨announced ++ [id], ⟨policy, seats, seated, waiting, shutDown⟩, ready, fun _ _ => rfl⟩
  | deliver =>
      cases shutDown with
      | false =>
          exact ⟨announced, ⟨policy, seats, seated, waiting ++ [id], false⟩, ready ++ [.serve],
            fun _ _ => rfl⟩
      | true =>
          exact ⟨announced, ⟨policy, seats, seated, waiting, true⟩, ready, fun _ _ => rfl⟩

end Pipeline

namespace Admission

open Pipeline

variable {α : Type}

theorem buffered_intoBuffer (s : Submission) (found : Found) (p : Pipeline α) :
    ∃ q, intoBuffer s found p = (.halt .buffered, q) ∧ Buffered s.key found.valid p q ∧
      q.backend.telemetry.perKey =
        (p.backend.telemetry.logsReceived s.key (.ofNat found.valid.length)).perKey := by
  refine ⟨_, rfl, (buffered_addLogs s.key found.valid p).record
    fun t => t.logsReceived s.key (.ofNat found.valid.length), ?_⟩
  exact Telemetry.perKey_logsReceived (perKey_addLogs s.key found.valid p) s.key _

def accepted (key : Key) (logs : List RawLog) (faults : FaultPlan) (p : Pipeline α) : Pipeline α :=
  (announce p.backend.ids.fresh { p with backend := { p.backend with
    faults
    ids := p.backend.ids.advance
    batches := p.backend.batches.put (.new p.backend.ids.fresh key logs p.now)
    telemetry :=
      (p.backend.telemetry.batchReceived key).logsReceived key (.ofNat logs.length) } }).2

theorem gateway_accepted (key : Key) (logs : List RawLog) (faults : FaultPlan) (p : Pipeline α) :
    (accepted key logs faults p).gateway = p.gateway := by
  obtain ⟨_, _, _, told⟩ := announce_only p.backend.ids.fresh p
  rw [accepted, told]

theorem intoBatch_cases (s : Submission) (found : Found) (p : Pipeline α) :
    ∃ faults, (p.backend.faults = .empty → faults = .empty) ∧
      (p.backend.batches.failWrites = false ∧ intoBatch s found p =
          (.halt (.accepted p.backend.ids.fresh found.invalid),
            accepted s.key found.valid faults p) ∨
        (p.backend.faults ≠ .empty ∨ p.backend.batches.failWrites = true) ∧
          intoBatch s found p = reject (.internal "save") { p with
            backend := { p.backend with faults, ids := p.backend.ids.advance } }) := by
  obtain ⟨_, ⟨faults, rfl, spared⟩, ⟨e, failed, cause⟩ | ⟨saved, writable⟩⟩ := on_saveBatch_cases
    { p.backend with ids := p.backend.ids.advance }
    (.new p.backend.ids.fresh s.key found.valid p.now)
  · refine ⟨faults, spared, .inr ⟨cause, ?_⟩⟩
    simp only [intoBatch, get_bind_apply]
    rw [bind_apply, call_apply, on_newBatch]
    dsimp only
    rw [bind_apply, call_apply, failed]
  · refine ⟨faults, spared, .inl ⟨writable, ?_⟩⟩
    simp only [intoBatch, get_bind_apply]
    rw [bind_apply, call_apply, on_newBatch]
    dsimp only
    rw [bind_apply, call_apply, saved]
    rfl

inductive Ended [Quantity α] (s : Submission) (p : Pipeline α) : Reception × Pipeline α → Prop where
  | rejected {q : Pipeline α} {reason : Rejection} (asked : Asked s p (some reason) q)
    (explained : Explains p (conditions p s) reason) (spares : Spares p q) :
    Ended s p (turnedAway reason q)
  | buffered {q r : Pipeline α} (asked : Asked s p none q)
    (fine : firstFailing (conditions p s) = none) (kind : s.kind = .single)
    (joined : Buffered s.key (fitting p.backend s.key s.logs) q r)
    (counted : r.backend.telemetry.perKey = (q.backend.telemetry.logsReceived s.key
      (.ofNat (fitting p.backend s.key s.logs).length)).perKey) (spares : Spares p q) :
    Ended s p (.buffered, r)
  | accepted {q : Pipeline α} {faults : FaultPlan} (asked : Asked s p none q)
    (fine : firstFailing (conditions p s) = none) (kind : s.kind = .batch)
    (writable : p.backend.batches.failWrites = false)
    (spares : p.backend.faults = .empty → faults = .empty) :
    Ended s p
      (.accepted p.backend.ids.fresh (s.logs.length - (fitting p.backend s.key s.logs).length),
        accepted s.key (fitting p.backend s.key s.logs) faults q)
  | unsaved {q : Pipeline α} {faults : FaultPlan} (asked : Asked s p none q)
    (fine : firstFailing (conditions p s) = none) (kind : s.kind = .batch)
    (cause : p.backend.faults ≠ .empty ∨ p.backend.batches.failWrites = true)
    (spares : p.backend.faults = .empty → faults = .empty) :
    Ended s p (turnedAway (.internal "save") { q with
      backend := { q.backend with faults, ids := q.backend.ids.advance } })

theorem ended_submit [Quantity α] (s : Submission) (p : Pipeline α) : Ended s p (submit s p) := by
  obtain ⟨q, spares, ⟨asked, fine, ran⟩ | ⟨reason, asked, explained, ran⟩⟩ := submit_leads s p
  · rw [ran, runStages_cons, finalStage]
    obtain ⟨faults, cache, limiter, _, _, same⟩ := id asked
    cases kind : s.kind with
    | single =>
        obtain ⟨r, halted, joined, counted⟩ := buffered_intoBuffer s (foundFor s p) q
        simp only [halted]
        exact .buffered asked fine kind joined counted spares
    | batch =>
        obtain ⟨later, spared, ⟨writable, halted⟩ | ⟨cause, halted⟩⟩ :=
          intoBatch_cases s (foundFor s p) q
        · simp only [halted]
          have ids : q.backend.ids = p.backend.ids := by rw [same]; rfl
          have batches : q.backend.batches = p.backend.batches := by rw [same]; rfl
          rw [ids]
          exact .accepted asked fine kind (batches ▸ writable) (spared ∘ spares)
        · rw [reject_apply] at halted
          simp only [halted]
          have batches : q.backend.batches = p.backend.batches := by rw [same]; rfl
          exact .unsaved asked fine kind (cause.imp (· ∘ spares) fun failing => batches ▸ failing)
            (spared ∘ spares)
  · rw [ran]
    exact .rejected asked explained spares

end Admission

/-- What deliveries leave alone, a submission does too, but for the logs that it buffers. -/
theorem Pipeline.Frame.submit {α : Type} [Quantity α] {within : Pipeline α → Pipeline α → Prop}
    (frame : Frame within) (s : Submission) (p : Pipeline α)
    (quiet : ∀ faults cache limiter, within p (Admission.asked faults cache limiter p)) :
    (∃ q, within p q ∧ (Admission.submit s p).1 = .buffered ∧
        Buffered s.key (Admission.fitting p.backend s.key s.logs) q (Admission.submit s p).2) ∨
      (Admission.submit s p).1 ≠ .buffered ∧ within p (Admission.submit s p).2 := by
  have ended := Admission.ended_submit s p
  generalize Admission.submit s p = run at ended ⊢
  have turnedAway {q : Pipeline α} (still : within p q) (reason : Rejection) :
      within p (Admission.turnedAway reason q).2 := by
    rw [Admission.turnedAway_apply]
    exact frame.trans still (frame.backend q _)
  cases ended with
  | rejected asked =>
      obtain ⟨faults, cache, limiter, _, _, rfl⟩ := asked
      exact .inr ⟨nofun, turnedAway (quiet faults cache limiter) _⟩
  | buffered asked _ _ joined =>
      obtain ⟨faults, cache, limiter, _, _, rfl⟩ := asked
      exact .inl ⟨_, quiet faults cache limiter, rfl, joined⟩
  | accepted asked =>
      obtain ⟨faults, cache, limiter, _, _, rfl⟩ := asked
      refine .inr ⟨nofun, frame.trans (quiet faults cache limiter) ?_⟩
      exact frame.trans (frame.backend _ _) (frame.announce _ _)
  | unsaved asked =>
      obtain ⟨faults, cache, limiter, _, _, rfl⟩ := asked
      refine .inr ⟨nofun, turnedAway ?_ _⟩
      exact frame.trans (quiet faults cache limiter) (frame.backend _ _)

end LogPipeline
