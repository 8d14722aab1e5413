import Mathlib.Data.List.Induction
import LogPipeline.Proofs.Admission.LastStage
import LogPipeline.Proofs.Pipeline.Aloof

/-!
# Where remembered decisions come from

Clients submit logs, identify themselves, and ask what they may do, while apps and endpoints come
and go and time passes. Each decision that is remembered was made in the course of this, either by
an app that was registered then or by a context that had been issued before, and it ends a fixed
time later.
-/

namespace LogPipeline

open Backend Pipeline

variable {α : Type}

/-! ## What a question leaves -/

namespace Pipeline

theorem aloof_authenticateAt (request : AuthRequest) (now : Timestamp) (p : Pipeline α) :
    Aloof p (authenticateAt request now p).2 := by
  rw [authenticateAt, bind_apply]
  cases (call (findAppByKey request.accessKey) p).1 <;> exact ⟨rfl, rfl⟩

theorem authorize_apply (context : AuthContext) (permission : Permission) (p : Pipeline α) :
    authorize context permission p =
      let q : Question := ⟨context.app, permission, context.clientIp⟩
      match p.gateway.cache.get? p.instant q with
      | some allowed => (allowed, p)
      | none =>
        let allowed := context.may permission p.now
        (allowed, { p with gateway := { p.gateway with
          cache := p.gateway.cache.insert p.instant q allowed } }) := by
  simp only [authorize]
  rw [bind_apply]
  simp only [cached?, get_bind_apply, pure_apply]
  cases p.gateway.cache.get? p.instant ⟨context.app, permission, context.clientIp⟩ <;> rfl

theorem aloof_turnedAway (reason : Rejection) (p : Pipeline α) :
    Aloof p (Admission.turnedAway reason p).2 := by
  rw [Admission.turnedAway_apply]
  exact ⟨rfl, rfl⟩

end Pipeline

namespace Admission

variable [Quantity α] {s : Submission} {p q r : Pipeline α} {outcome : Option Rejection}

theorem Asked.remembers (asked : Asked s p outcome q) (aloof : Aloof q r) :
    Remembers s.key s.clientIp p r.gateway.cache ∧ r.clock = p.clock := by
  obtain ⟨_, cache, _, remembers, _, rfl⟩ := asked
  exact ⟨by rw [aloof.gateway]; exact remembers, aloof.clock⟩

theorem remembers_submit (s : Submission) (p : Pipeline α) :
    Remembers s.key s.clientIp p (submit s p).2.gateway.cache ∧
      (submit s p).2.clock = p.clock := by
  have ended := ended_submit s p
  generalize submit s p = run at ended ⊢
  cases ended with
  | rejected asked => exact asked.remembers (aloof_turnedAway _ _)
  | buffered asked _ _ joined =>
      obtain ⟨_, _, _, rfl⟩ := joined.only
      exact asked.remembers ⟨rfl, rfl⟩
  | @accepted between faults asked =>
      have told := frame_aloof.announce between.backend.ids.fresh { between with backend :=
        { between.backend with
          faults
          ids := between.backend.ids.advance
          batches := between.backend.batches.put (.new between.backend.ids.fresh s.key
            (fitting p.backend s.key s.logs) between.now)
          telemetry := (between.backend.telemetry.batchReceived s.key).logsReceived s.key
            (.ofNat (fitting p.backend s.key s.logs).length) } }
      exact asked.remembers ⟨told.gateway, told.clock⟩
  | @unsaved between faults asked =>
      have turned := aloof_turnedAway (.internal "save") { between with
        backend := { between.backend with faults, ids := between.backend.ids.advance } }
      exact asked.remembers ⟨turned.gateway, turned.clock⟩

end Admission

/-! ## Clients -/

/-- A pipeline, and the contexts that were issued, the latest last. -/
structure Clients (α : Type) where
  pipeline : Pipeline α
  contexts : List AuthContext

namespace Clients

inductive Event where
  | submit (s : Submission)
  | authenticate (request : AuthRequest) (now : Timestamp)
  | authorize (place : Nat) (permission : Permission)
  | authorizeEndpoint (key : Key) (clientIp : String)
  | change (c : Change)
  | advance (millis : Nat)
  | turn (place : Nat)
  | evict
  | clear

def Event.isAuthorize : Event → Bool
  | .authorize .. => true
  | _ => false

def issue (contexts : List AuthContext) :
    Except Failure (Except AuthRefusal AuthContext) → List AuthContext
  | .ok (.ok context) => contexts ++ [context]
  | _ => contexts

def forget (p : Pipeline α) : Pipeline α :=
  { p with gateway := { p.gateway with cache := p.gateway.cache.clear } }

def fresh (backend : Backend) (ttl : Nanos) (validityMs : UInt64) : Clients α :=
  ⟨{ (Pipeline.idle backend 0 : Pipeline α) with gateway := .new ttl validityMs }, []⟩

variable [Quantity α]

def step (c : Clients α) : Event → Clients α
  | .submit s => { c with pipeline := (Admission.submit s c.pipeline).2 }
  | .authenticate request now =>
    let (answer, pipeline) := authenticateAt request now c.pipeline
    ⟨pipeline, issue c.contexts answer⟩
  | .authorize place permission =>
    match c.contexts[place]? with
    | none => c
    | some context => { c with pipeline := (authorize context permission c.pipeline).2 }
  | .authorizeEndpoint key clientIp =>
    { c with pipeline := (authorizeEndpoint key clientIp c.pipeline).2 }
  | .change change => { c with pipeline := (Pipeline.change change c.pipeline).2 }
  | .advance millis => { c with pipeline := (advance millis c.pipeline).2 }
  | .turn place => { c with pipeline := (turn place c.pipeline).2 }
  | .evict => { c with pipeline := (evictDecisions c.pipeline).2 }
  | .clear => { c with pipeline := forget c.pipeline }

def after (c : Clients α) (events : List Event) : Clients α :=
  events.foldl step c

theorem after_append (c : Clients α) (early late : List Event) :
    c.after (early ++ late) = (c.after early).after late :=
  List.foldl_append

theorem after_concat (c : Clients α) (early : List Event) (event : Event) :
    c.after (early ++ [event]) = (c.after early).step event :=
  after_append c early [event]

/-! ## Decisions -/

/-- An event makes a decision: by an app that is registered now, or by a context that was issued
before. -/
inductive Decides (c : Clients α) : Event → Question → Bool → Prop where
  | byApp {event : Event} {key : Key} {clientIp : String} {app : App}
    (found : c.pipeline.backend.apps.get? key.app = some app) :
    Decides c event (key.question clientIp) (app.admitsUse key.endpoint clientIp c.pipeline.now)
  | byContext {place : Nat} {permission : Permission} {context : AuthContext}
    (issued : c.contexts[place]? = some context) :
    Decides c (.authorize place permission) ⟨context.app, permission, context.clientIp⟩
      (context.may permission c.pipeline.now)

structure Decided (c : Clients α) (event : Event) (q : Pipeline α) : Prop where
  ttl : q.gateway.cache.ttl = c.pipeline.gateway.cache.ttl
  clock : c.pipeline.clock ≤ q.clock
  decisions : ∀ question d, q.gateway.cache.decisions.get? question = some d →
    c.pipeline.gateway.cache.decisions.get? question = some d ∨
      Decides c event question d.allowed ∧
        d.expiresAt = c.pipeline.instant + c.pipeline.gateway.cache.ttl

variable {c : Clients α} {event : Event} {q : Pipeline α}

omit [Quantity α] in
theorem Decided.of_forgets (forgets : c.pipeline.gateway.cache.Forgets q.gateway.cache)
    (clock : c.pipeline.clock ≤ q.clock) : Decided c event q :=
  ⟨forgets.ttl, clock, fun question d found => .inl (forgets.decisions question d found)⟩

omit [Quantity α] in
theorem Decided.of_unasked (unasked : Unasked c.pipeline q) : Decided c event q :=
  .of_forgets unasked.cache (Nat.le_of_eq unasked.clock.symm)

omit [Quantity α] in
theorem Decided.of_insert {question : Question} {allowed : Bool}
    (decides : Decides c event question allowed) (clock : q.clock = c.pipeline.clock)
    (cache : q.gateway.cache =
      c.pipeline.gateway.cache.insert c.pipeline.instant question allowed) : Decided c event q where
  ttl := by rw [cache]; rfl
  clock := Nat.le_of_eq clock.symm
  decisions other d found := by
    rw [cache, DecisionCache.insert, Table.get?_insert] at found
    split at found
    · rename_i same
      cases found
      exact .inr ⟨same ▸ decides, rfl⟩
    · exact .inl found

omit [Quantity α] in
theorem Decided.of_remembers {key : Key} {clientIp : String}
    (remembers : Admission.Remembers key clientIp c.pipeline q.gateway.cache)
    (clock : q.clock = c.pipeline.clock) : Decided c event q := by
  rcases remembers with same | ⟨app, found, cache⟩
  · exact .of_forgets (same ▸ .refl _) (Nat.le_of_eq clock.symm)
  · exact .of_insert (.byApp found) clock cache

theorem decided_step (c : Clients α) (event : Event) : Decided c event (c.step event).pipeline := by
  cases event with
  | submit s =>
      obtain ⟨remembers, clock⟩ := Admission.remembers_submit s c.pipeline
      exact .of_remembers remembers clock
  | authenticate request now =>
      exact .of_unasked (aloof_authenticateAt request now c.pipeline).unasked
  | authorize place permission =>
      simp only [step]
      cases issued : c.contexts[place]? with
      | none => exact .of_forgets (.refl _) le_rfl
      | some context =>
          dsimp only
          rw [authorize_apply]
          dsimp only
          cases c.pipeline.gateway.cache.get? c.pipeline.instant
              ⟨context.app, permission, context.clientIp⟩ with
          | some allowed => exact .of_forgets (.refl _) le_rfl
          | none => exact .of_insert (.byContext issued) rfl rfl
  | authorizeEndpoint key clientIp =>
      obtain ⟨_, ⟨_, cache, remembers, rfl⟩, _, answer⟩ :=
        Admission.tells_authorizeEndpoint key clientIp c.pipeline
      simp only [step]
      rcases answer with answer | ⟨_, _, answer⟩
      · rw [answer]
        exact .of_remembers remembers rfl
      · rw [answer]
        exact .of_remembers remembers rfl
  | change => exact .of_forgets (.refl _) le_rfl
  | advance millis =>
      refine .of_forgets ((keptByTime_forgets _).advance (.refl _) millis) ?_
      simp only [step, clock_advance, Nat.le_add_right]
  | turn place => exact .of_unasked (unasked_turn place c.pipeline)
  | evict => exact .of_forgets (.evict _ _) le_rfl
  | clear => exact .of_forgets (.clear _) le_rfl

theorem ttl_after (c : Clients α) (events : List Event) :
    (c.after events).pipeline.gateway.cache.ttl = c.pipeline.gateway.cache.ttl := by
  induction events generalizing c with
  | nil => rfl
  | cons event rest ih => exact (ih (c.step event)).trans (decided_step c event).ttl

theorem clock_after (c : Clients α) (events : List Event) :
    c.pipeline.clock ≤ (c.after events).pipeline.clock := by
  induction events generalizing c with
  | nil => exact le_rfl
  | cons event rest ih => exact Nat.le_trans (decided_step c event).clock (ih (c.step event))

theorem decided_after (c : Clients α) (cold : c.pipeline.gateway.cache.decisions = .empty)
    (events : List Event) {question : Question} {d : Decision}
    (found : (c.after events).pipeline.gateway.cache.decisions.get? question = some d) :
    ∃ early event late, events = early ++ event :: late ∧
      Decides (c.after early) event question d.allowed ∧
      d.expiresAt = (c.after early).pipeline.instant + c.pipeline.gateway.cache.ttl := by
  -- The last event may have made the decision; otherwise it was remembered before that event.
  induction events using List.reverseRecOn with
  | nil =>
      rw [after, List.foldl_nil, cold] at found
      cases found
  | append_singleton events last ih =>
      rw [after_concat] at found
      rcases (decided_step _ last).decisions question d found with before | ⟨decides, ends⟩
      · obtain ⟨early, event, late, split, made⟩ := ih before
        exact ⟨early, event, late ++ [last], by rw [split]; simp, made⟩
      · exact ⟨events, last, [], rfl, decides, ttl_after c events ▸ ends⟩

end Clients

end LogPipeline
