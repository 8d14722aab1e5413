import Mathlib.Data.List.Infix
import LogPipeline.Proofs.Access.Authentication
import LogPipeline.Proofs.Access.Staleness

/-!
# When a revocation takes effect

Once an app is blocked or gone and the time to live has passed, no decision of the app itself is
remembered any more. What may still be remembered is what a context of the app was told, for such a
context goes on saying what the app said before. Contexts of that kind are older than the
revocation, since none is issued for an app that is not active.
-/

namespace LogPipeline

open Backend Pipeline Admission

variable {α : Type}

def Pipeline.Revoked (p : Pipeline α) (id : AppId) : Prop :=
  ∀ app, p.backend.apps.get? id = some app → app.status = .blocked

instance (p : Pipeline α) (id : AppId) : Decidable (p.Revoked id) :=
  decidable_of_iff ((p.backend.apps.get? id).all fun app => app.status = .blocked) (by
    simp [Pipeline.Revoked, Option.all_eq_true])

theorem Pipeline.Revoked.not_admitsUse {p : Pipeline α} {key : Key}
    (revoked : p.Revoked key.app) (clientIp : String) : ¬ p.AdmitsUse key clientIp := by
  rintro ⟨app, found, active, _⟩
  simp [App.isActive, revoked app found] at active

theorem Admission.mayUse_of_answer {key : Key} {clientIp : String} {p : Pipeline α}
    (allowed : (authorizeEndpoint key clientIp p).1 = .ok true) : mayUse key clientIp p = true := by
  obtain ⟨_, _, _, answer | ⟨_, _, failed⟩⟩ := tells_authorizeEndpoint key clientIp p
  · rw [answer] at allowed
    exact Except.ok.inj allowed
  · rw [failed] at allowed
    cases allowed

namespace Clients

theorem mem_issue {contexts : List AuthContext} {context : AuthContext}
    {answer : Except Failure (Except AuthRefusal AuthContext)}
    (issued : context ∈ issue contexts answer) :
    context ∈ contexts ∨ answer = .ok (.ok context) := by
  rcases answer with _ | _ | new
  · exact .inl issued
  · exact .inl issued
  · rcases List.mem_append.mp issued with before | last
    · exact .inl before
    · exact .inr (by rw [List.mem_singleton.mp last])

variable [Quantity α]

theorem mem_contexts_step (c : Clients α) (event : Event) {context : AuthContext}
    (issued : context ∈ (c.step event).contexts) : context ∈ c.contexts ∨
      ∃ app, c.pipeline.backend.apps.get? context.app = some app ∧ app.status = .active := by
  cases event with
  | authenticate => exact (mem_issue issued).imp_right active_of_authenticated
  | authorize place =>
      simp only [step] at issued
      split at issued <;> exact .inl issued
  | submit => exact .inl issued
  | authorizeEndpoint => exact .inl issued
  | change => exact .inl issued
  | advance => exact .inl issued
  | turn => exact .inl issued
  | evict => exact .inl issued
  | clear => exact .inl issued

theorem mem_contexts_of_revoked (c : Clients α) (events : List Event) {context : AuthContext}
    (revoked : ∀ mid, mid <+: events → (c.after mid).pipeline.Revoked context.app)
    (issued : context ∈ (c.after events).contexts) : context ∈ c.contexts := by
  induction events generalizing c with
  | nil => exact issued
  | cons event rest ih =>
      have later := ih (c.step event)
        (fun mid before => revoked (event :: mid) (List.cons_prefix_cons.mpr ⟨rfl, before⟩)) issued
      rcases mem_contexts_step c event later with before | ⟨app, found, active⟩
      · exact before
      · cases active.symm.trans (revoked [] List.nil_prefix app found)

/-- An app is blocked or removed at some instant and stays so. When the time to live has passed, it
is still admitted only if a context that was issued for it before has been used since, less than the
time to live ago. -/
theorem revoked_within_ttl (c : Clients α) (cold : c.pipeline.gateway.cache.decisions = .empty)
    (early late : List Event) (key : Key) (clientIp : String)
    (revoked : ∀ mid, mid <+: late → (c.after (early ++ mid)).pipeline.Revoked key.app)
    (elapsed : (c.after early).pipeline.instant + c.pipeline.gateway.cache.ttl ≤
      (c.after (early ++ late)).pipeline.instant)
    (allowed : (authorizeEndpoint key clientIp (c.after (early ++ late)).pipeline).1 = .ok true) :
    ∃ mid place context rest,
      late = mid ++ .authorize place (.endpoint key.endpoint) :: rest ∧
      (c.after (early ++ mid)).contexts[place]? = some context ∧
      context ∈ (c.after early).contexts ∧ context.app = key.app ∧ context.clientIp = clientIp ∧
      context.may (.endpoint key.endpoint) (c.after (early ++ mid)).pipeline.now = true ∧
      (c.after (early ++ late)).pipeline.instant <
        (c.after (early ++ mid)).pipeline.instant + c.pipeline.gateway.cache.ttl := by
  obtain ⟨whole, before, recent, grounds⟩ := mayUse_after c cold (early ++ late) key clientIp
  rw [mayUse_of_answer allowed] at grounds
  -- What the answer rests on is not older than the revocation.
  obtain ⟨mid, rfl, inside⟩ : ∃ mid, whole = early ++ mid ∧ mid <+: late := by
    rcases prefix_append_cases before with older | same
    · rcases recent with rfl | recent
      · exact ⟨late, rfl, List.prefix_rfl⟩
      · have ended := Nat.add_le_add_right (instant_mono c older) c.pipeline.gateway.cache.ttl
        exact absurd recent (Nat.not_lt.mpr (Nat.le_trans ended elapsed))
    · exact same
  cases grounds with
  | app verdict => exact absurd (verdict.mp rfl) ((revoked mid inside).not_admitsUse clientIp)
  | @context place rest context split issued ofApp fromIp verdict =>
      have used : late = mid ++ .authorize place (.endpoint key.endpoint) :: rest := by
        rwa [List.append_assoc, List.append_cancel_left_eq] at split
      have old : context ∈ (c.after early).contexts := by
        have mine := List.mem_of_getElem? issued
        rw [after_append] at mine
        refine mem_contexts_of_revoked (c.after early) mid (fun front before => ?_) mine
        rw [ofApp, ← after_append]
        exact revoked front (before.trans inside)
      refine ⟨mid, place, context, rest, used, issued, old, ofApp, fromIp, verdict, ?_⟩
      rcases recent with ended | recent
      · simp [used] at ended
      · exact recent

/-- An app is removed while a context of it is out, and the context is used once more. -/
theorem revoked_within_ttl_when_removed :
    let key : Key := ⟨⟨"app"⟩, ⟨"endpoint"⟩⟩
    let known := { Backend.empty ⟨"", 1⟩ .defaults with
      apps := .put .empty (.new key.app "key" "secret") }
    let c : Clients Rat := .fresh known (.ofMillis 5) 0
    let early : List Event :=
      [.authenticate ⟨"key", "", "0", "", .apiKey, ""⟩ ⟨0, 0⟩, .change (.removeApp key.app)]
    let late : List Event := [.advance 4, .authorize 0 (.endpoint key.endpoint), .advance 4]
    (∀ mid, mid <+: late → (c.after (early ++ mid)).pipeline.Revoked key.app) ∧
      (c.after early).pipeline.instant + c.pipeline.gateway.cache.ttl ≤
        (c.after (early ++ late)).pipeline.instant ∧
      (authorizeEndpoint key "" (c.after (early ++ late)).pipeline).1 = .ok true ∧
      ∃ mid place context rest,
        late = mid ++ .authorize place (.endpoint key.endpoint) :: rest ∧
        (c.after (early ++ mid)).contexts[place]? = some context ∧
        context ∈ (c.after early).contexts ∧ context.app = key.app ∧ context.clientIp = "" ∧
        context.may (.endpoint key.endpoint) (c.after (early ++ mid)).pipeline.now = true ∧
        (c.after (early ++ late)).pipeline.instant <
          (c.after (early ++ mid)).pipeline.instant + c.pipeline.gateway.cache.ttl := by
  intro key known c early late
  have each : ∀ mid ∈ late.inits, (c.after (early ++ mid)).pipeline.Revoked key.app := by
    decide +kernel
  have revoked : ∀ mid, mid <+: late → (c.after (early ++ mid)).pipeline.Revoked key.app :=
    fun mid before => each mid ((List.mem_inits mid late).mpr before)
  have elapsed : (c.after early).pipeline.instant + c.pipeline.gateway.cache.ttl ≤
      (c.after (early ++ late)).pipeline.instant := by decide +kernel
  have allowed : (authorizeEndpoint key "" (c.after (early ++ late)).pipeline).1 = .ok true := by
    decide +kernel
  exact ⟨revoked, elapsed, allowed,
    revoked_within_ttl c rfl early late key "" revoked elapsed allowed⟩

/-- A blocked app is admitted again when the time to live has long passed, because a context of it
was told what it could do before. -/
theorem readmitted_after_ttl :
    let key : Key := ⟨⟨"app"⟩, ⟨"endpoint"⟩⟩
    let app : App := .new key.app "key" "secret"
    let known := { Backend.empty ⟨"", 1⟩ .defaults with apps := .put .empty app }
    let c : Clients Rat := .fresh known (.ofMillis 5) 0
    let early : List Event :=
      [.authenticate ⟨"key", "", "0", "", .apiKey, ""⟩ ⟨0, 0⟩, .change (.putApp app.block)]
    let late : List Event := [.advance 1000, .authorize 0 (.endpoint key.endpoint)]
    (∀ mid, mid <+: late → (c.after (early ++ mid)).pipeline.Revoked key.app) ∧
      (c.after early).pipeline.instant + c.pipeline.gateway.cache.ttl ≤
        (c.after (early ++ late)).pipeline.instant ∧
      (authorizeEndpoint key "" (c.after (early ++ late)).pipeline).1 = .ok true := by
  intro key app known c early late
  have each : ∀ mid ∈ late.inits, (c.after (early ++ mid)).pipeline.Revoked key.app := by
    decide +kernel
  exact ⟨fun mid before => each mid ((List.mem_inits mid late).mpr before), by decide +kernel,
    by decide +kernel⟩

end Clients

end LogPipeline
