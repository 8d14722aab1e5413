import LogPipeline.Proofs.Pipeline.Evolution

namespace LogPipeline

open Backend

structure Trial where
  /-- When it was made, in milliseconds since the beginning. -/
  clock : Nat
  result : Except Failure Outcome
  requests : List Request

def Trial.IsFailure (trial : Trial) : Prop :=
  ∃ error, trial.result = .error error

structure Processing (α : Type) where
  outcome : Outcome
  trials : List Trial
  after : Pipeline α

namespace Pipeline

variable {α : Type}

def tried (p : Pipeline α) (result : Observed.Tried) : Pipeline α :=
  { p with backend := result.after }

def trial (p : Pipeline α) (result : Observed.Tried) : Trial :=
  ⟨p.clock, result.result, result.requests⟩

variable [Quantity α]

def waited (span : Nanos) (p : Pipeline α) : Pipeline α :=
  if span = 0 then p else (passUntil (p.clock + span.waitMillis) p).2

def observeFrom (id : BatchId) (retry : Nat) : Nat → Pipeline α → Processing α
  | 0, p => ⟨.interrupted, [], p⟩
  | attempts + 1, p =>
    let result := Observed.tryOnce p.pool.policy p.now id retry p.backend
    match result.next with
    | .done outcome => ⟨outcome, [p.trial result], p.tried result⟩
    | .wait retry span =>
      if p.pool.shutDown then ⟨.interrupted, [p.trial result], p.tried result⟩
      else
        let rest := observeFrom id retry attempts ((p.tried result).waited span)
        { rest with trials := p.trial result :: rest.trials }

def observe (id : BatchId) (p : Pipeline α) : Processing α :=
  observeFrom id 0 p.mostAttempts p

theorem processFrom_shows (id : BatchId) (retry attempts : Nat) (p : Pipeline α) :
    processFrom id retry attempts p =
      ((observeFrom id retry attempts p).outcome, (observeFrom id retry attempts p).after) := by
  induction attempts generalizing retry p with
  | zero => rfl
  | succ attempts ih =>
      rw [processFrom_succ, observeFrom, Observed.tryOnce_shows]
      cases next : (Observed.tryOnce p.pool.policy p.now id retry p.backend).next with
      | done outcome => rfl
      | wait retry span =>
          dsimp only
          by_cases closed : p.pool.shutDown = true
          · simp only [closed, if_true]
            rfl
          · simp only [closed]
            exact ih retry _

theorem process_shows (id : BatchId) (p : Pipeline α) :
    process id p = ((observe id p).outcome, (observe id p).after) :=
  processFrom_shows id 0 p.mostAttempts p

/-! ## The shape of a delivery -/

inductive Delivers (id : BatchId) : Nat → Pipeline α → Processing α → Prop where
  | ended {retry : Nat} {p : Pipeline α} {result : Observed.Tried} {outcome : Outcome}
      (concluded : Concluded p.pool.policy p.now id retry p.backend result)
      (done : result.next = .done outcome) :
      Delivers id retry p ⟨outcome, [p.trial result], p.tried result⟩
  | cut {retry : Nat} {p : Pipeline α} {result : Observed.Tried}
      (concluded : Concluded p.pool.policy p.now id retry p.backend result)
      (shutDown : p.pool.shutDown = true) :
      Delivers id retry p ⟨.interrupted, [p.trial result], p.tried result⟩
  | again {retry : Nat} {p : Pipeline α} {result : Observed.Tried} {rest : Processing α}
      (concluded : Concluded p.pool.policy p.now id retry p.backend result)
      (more : result.next = .wait (retry + 1) (p.pool.policy.backoff (retry + 1)))
      (running : p.pool.shutDown = false)
      (later : Delivers id (retry + 1)
        ((p.tried result).waited (p.pool.policy.backoff (retry + 1))) rest) :
      Delivers id retry p { rest with trials := p.trial result :: rest.trials }

variable {p : Pipeline α}

theorem evolved_waited (tasks : p.PlainTasks) (span : Nanos) :
    ∃ records, Evolved p records (p.waited span) := by
  unfold waited
  split
  · exact ⟨_, .refl tasks⟩
  · exact evolved_passUntil tasks _

theorem delivers_observeFrom (plain : p.backend.Plain) (tasks : p.PlainTasks) (id : BatchId)
    (retry attempts : Nat) (enough : p.pool.policy.maxRetries.toNat < retry + attempts)
    (within : retry ≤ p.pool.policy.maxRetries.toNat) :
    Delivers id retry p (observeFrom id retry attempts p) := by
  -- There are more attempts left than retries, so the number never runs out.
  induction attempts generalizing p retry with
  | zero => omega
  | succ attempts ih =>
      have concluded := concluded_tryOnce plain p.pool.policy p.now id retry
      have went := evolved_tryOnce tasks id retry
      rw [observeFrom]
      generalize Observed.tryOnce p.pool.policy p.now id retry p.backend = result at concluded went
      cases concluded with
      | ended attempted => exact .ended (.ended attempted) rfl
      | unrecorded attempted last failing =>
          exact .ended (.unrecorded attempted last failing) rfl
      | failed attempted last writable found =>
          exact .ended (.failed attempted last writable found) rfl
      | retried attempted more found =>
          dsimp only
          by_cases closed : p.pool.shutDown = true
          · rw [if_pos closed]
            exact .cut (.retried attempted more found) closed
          · rw [if_neg closed]
            obtain ⟨_, waited⟩ := evolved_waited went.tasks (p.pool.policy.backoff (retry + 1))
            have next := went.trans waited
            refine .again (.retried attempted more found) rfl (by simpa using closed) ?_
            refine ih (next.plain plain) next.tasks (retry + 1) ?_ ?_
            · rw [next.policy]; omega
            · rw [next.policy]; omega

theorem delivers_observe (plain : p.backend.Plain) (tasks : p.PlainTasks) (id : BatchId) :
    Delivers id 0 p (observe id p) :=
  delivers_observeFrom plain tasks id 0 p.mostAttempts
    (by simp only [mostAttempts]; omega) (Nat.zero_le _)

end Pipeline

end LogPipeline
