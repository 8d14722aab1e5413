import LogPipeline.Proofs.Access.Decisions

namespace LogPipeline

open Backend Pipeline Admission

variable {α : Type}

/-- The app that is registered is active and unexpired, and allows the endpoint and the address, if
there is one. -/
def Pipeline.AdmitsUse (p : Pipeline α) (key : Key) (clientIp : String) : Prop :=
  ∃ app, p.backend.apps.get? key.app = some app ∧ app.isActive = true ∧
    app.isExpiredAt p.now = false ∧ (clientIp = "" ∨ app.allowsIp clientIp = true) ∧
    app.allowsEndpoint key.endpoint = true

theorem App.admitsUse_iff (app : App) (endpoint : EndpointId) (clientIp : String)
    (now : Timestamp) : app.admitsUse endpoint clientIp now = true ↔
      app.isActive = true ∧ app.isExpiredAt now = false ∧
        (clientIp = "" ∨ app.allowsIp clientIp = true) ∧ app.allowsEndpoint endpoint = true := by
  simp only [App.admitsUse, Bool.and_eq_true, Bool.or_eq_true, Bool.not_eq_true',
    String.isEmpty_iff, and_assoc]

theorem Pipeline.admitsUse_of_found {p : Pipeline α} {key : Key} {clientIp : String} {app : App}
    (found : p.backend.apps.get? key.app = some app) :
    p.AdmitsUse key clientIp ↔ app.admitsUse key.endpoint clientIp p.now = true := by
  simp only [AdmitsUse, found, Option.some.injEq, exists_eq_left', App.admitsUse_iff]

theorem DecisionCache.get?_eq_some_iff {cache : DecisionCache} {now : Nanos} {q : Question}
    {allowed : Bool} : cache.get? now q = some allowed ↔
      ∃ d, cache.decisions.get? q = some d ∧ now < d.expiresAt ∧ d.allowed = allowed := by
  unfold DecisionCache.get?
  cases cache.decisions.get? q with
  | none => simp
  | some d => simp

namespace Admission

variable [Quantity α] {s : Submission} {p : Pipeline α}

theorem holds_of_success (success : (submit s p).1.isSuccess = true) :
    ∀ c ∈ conditions p s, c.1 = true := by
  have ended := ended_submit s p
  generalize submit s p = run at ended success
  cases ended with
  | rejected => cases success
  | buffered _ fine => exact (firstFailing_eq_none_iff _).mp fine
  | accepted _ fine => exact (firstFailing_eq_none_iff _).mp fine
  | unsaved => cases success

theorem fails_of_rejected {reason : Rejection} (rejected : (submit s p).1 = .rejected reason)
    (decided : ∀ operation, reason ≠ .internal operation) : (false, reason) ∈ conditions p s := by
  have ended := ended_submit s p
  generalize submit s p = run at ended rejected
  cases ended with
  | rejected _ explained =>
      cases rejected
      rcases explained with fails | ⟨_, operation, broke⟩
      · obtain ⟨early, late, split, _⟩ := (firstFailing_eq_some_iff _ _).mp fails
        exact split ▸ List.mem_append_right early List.mem_cons_self
      · exact absurd broke (decided operation)
  | buffered => cases rejected
  | accepted => cases rejected
  | unsaved =>
      cases rejected
      exact absurd rfl (decided _)

theorem mayUse_of_success (success : (submit s p).1.isSuccess = true) :
    mayUse s.key s.clientIp p = true :=
  holds_of_success success (isAuthorized p s, .unauthorized) (by
    simp [conditions, accessible, accessConditions])

theorem mayUse_of_unauthorized (rejected : (submit s p).1 = .rejected .unauthorized) :
    mayUse s.key s.clientIp p = false := by
  have fails := fails_of_rejected rejected nofun
  simpa [conditions, accessible, basicConditions, accessConditions, formatConditions,
    ← isAuthorized_eq] using fails

theorem endpoint_of_success (success : (submit s p).1.isSuccess = true) :
    ∃ endpoint, p.backend.endpoints.get? s.key.endpoint = some endpoint ∧
      endpoint.isActive = true ∧ endpoint.allowsApp s.key.app = true := by
  have holds := holds_of_success success
  have active := holds ((p.backend.endpoints.get? s.key.endpoint).any (·.isActive),
    .endpointInactive) (by simp [conditions, accessible, basicConditions])
  have allows := holds ((p.backend.endpoints.get? s.key.endpoint).any (·.allowsApp s.key.app),
    .appNotAllowed) (by simp [conditions, accessible, basicConditions])
  cases found : p.backend.endpoints.get? s.key.endpoint with
  | none =>
      rw [found] at active
      cases active
  | some endpoint =>
      rw [found] at active allows
      exact ⟨endpoint, rfl, active, allows⟩

theorem allowsIp_of_success (success : (submit s p).1.isSuccess = true)
    (named : s.clientIp ≠ "") :
    ∃ app, p.backend.apps.get? s.key.app = some app ∧ app.allowsIp s.clientIp = true := by
  have allowed := holds_of_success success (isFromAllowedIp p s, .ipNotAllowed)
    (by simp [conditions, accessible, accessConditions])
  have unnamed : s.clientIp.isEmpty = false :=
    Bool.eq_false_iff.mpr fun empty => named (String.isEmpty_iff.mp empty)
  simp only [isFromAllowedIp, unnamed, Bool.false_or] at allowed
  cases found : p.backend.apps.get? s.key.app with
  | none =>
      rw [found] at allowed
      cases allowed
  | some app =>
      rw [found] at allowed
      exact ⟨app, rfl, allowed⟩

end Admission

namespace Clients

variable [Quantity α]

/-- What an answer about the use of an endpoint rests on: the app that was registered after some of
the events, or a context that was used then. -/
inductive Grounds (c : Clients α) (events early : List Event) (key : Key) (clientIp : String)
    (allowed : Bool) : Prop where
  | app (verdict : allowed = true ↔ (c.after early).pipeline.AdmitsUse key clientIp)
  | context {place : Nat} {late : List Event} {context : AuthContext}
    (split : events = early ++ .authorize place (.endpoint key.endpoint) :: late)
    (issued : (c.after early).contexts[place]? = some context)
    (ofApp : context.app = key.app) (fromIp : context.clientIp = clientIp)
    (verdict : context.may (.endpoint key.endpoint) (c.after early).pipeline.now = allowed)

theorem Decides.grounds {c : Clients α} {early late : List Event} {event : Event} {key : Key}
    {clientIp : String} {allowed : Bool}
    (decides : Decides (c.after early) event (key.question clientIp) allowed) :
    Grounds c (early ++ event :: late) early key clientIp allowed := by
  obtain ⟨app, endpoint⟩ := key
  generalize asked : Key.question ⟨app, endpoint⟩ clientIp = question at decides
  cases decides with
  | @byApp _ key _ _ found =>
      obtain ⟨_, _⟩ := key
      cases asked
      exact .app (admitsUse_of_found found).symm
  | byContext issued =>
      cases asked
      exact .context rfl issued rfl rfl rfl

theorem mayUse_after (c : Clients α) (cold : c.pipeline.gateway.cache.decisions = .empty)
    (events : List Event) (key : Key) (clientIp : String) :
    ∃ early, early <+: events ∧
      (early = events ∨ (c.after events).pipeline.instant <
        (c.after early).pipeline.instant + c.pipeline.gateway.cache.ttl) ∧
      Grounds c events early key clientIp (mayUse key clientIp (c.after events).pipeline) := by
  unfold mayUse
  cases known : (c.after events).pipeline.gateway.cache.get? (c.after events).pipeline.instant
      (key.question clientIp) with
  | none =>
      refine ⟨events, List.prefix_rfl, .inl rfl, .app ?_⟩
      cases found : (c.after events).pipeline.backend.apps.get? key.app with
      | none => simp [AdmitsUse, found]
      | some app => exact (admitsUse_of_found found).symm
  | some allowed =>
      obtain ⟨d, remembered, live, rfl⟩ := DecisionCache.get?_eq_some_iff.mp known
      obtain ⟨early, event, late, rfl, decides, ends⟩ := decided_after c cold events remembered
      exact ⟨early, List.prefix_append _ _, .inr (ends ▸ live), decides.grounds⟩

def Recently (c : Clients α) (events : List Event) (holds : Pipeline α → Prop) : Prop :=
  ∃ early, early <+: events ∧ holds (c.after early).pipeline ∧
    (c.after early).pipeline.instant ≤ (c.after events).pipeline.instant ∧
    (c.after events).pipeline.instant <
      (c.after early).pipeline.instant + c.pipeline.gateway.cache.ttl

theorem instant_mono (c : Clients α) {early events : List Event} (before : early <+: events) :
    (c.after early).pipeline.instant ≤ (c.after events).pipeline.instant := by
  obtain ⟨late, rfl⟩ := before
  rw [after_append]
  exact Nat.mul_le_mul_right _ (clock_after _ late)

theorem recently_judged (c : Clients α) (cold : c.pipeline.gateway.cache.decisions = .empty)
    (positive : 0 < c.pipeline.gateway.cache.ttl) {events : List Event}
    (indirect : ∀ event ∈ events, event.isAuthorize = false) (key : Key) (clientIp : String) :
    c.Recently events fun q =>
      mayUse key clientIp (c.after events).pipeline = true ↔ q.AdmitsUse key clientIp := by
  obtain ⟨early, before, recent, grounds⟩ := mayUse_after c cold events key clientIp
  cases grounds with
  | app verdict =>
      refine ⟨early, before, verdict, instant_mono c before, ?_⟩
      rcases recent with rfl | recent
      · exact Nat.lt_add_of_pos_right positive
      · exact recent
  | context split =>
      have used := indirect _ (split ▸ List.mem_append_right early List.mem_cons_self)
      cases used

/-- What is admitted is admitted by the endpoint as it is, by the addresses of the app as they are,
and by the app as it was less than the time to live ago; and what is rejected as unauthorized was
not admitted by the app then. -/
theorem submit_judged_within_ttl (c : Clients α)
    (cold : c.pipeline.gateway.cache.decisions = .empty)
    (positive : 0 < c.pipeline.gateway.cache.ttl) (events : List Event)
    (indirect : ∀ event ∈ events, event.isAuthorize = false) (s : Submission) :
    let p := (c.after events).pipeline
    ((submit s p).1.isSuccess = true →
      (∃ endpoint, p.backend.endpoints.get? s.key.endpoint = some endpoint ∧
        endpoint.isActive = true ∧ endpoint.allowsApp s.key.app = true) ∧
      (s.clientIp ≠ "" →
        ∃ app, p.backend.apps.get? s.key.app = some app ∧ app.allowsIp s.clientIp = true) ∧
      c.Recently events fun q => q.AdmitsUse s.key s.clientIp) ∧
    ((submit s p).1 = .rejected .unauthorized →
      c.Recently events fun q => ¬ q.AdmitsUse s.key s.clientIp) := by
  intro p
  obtain ⟨early, before, judged, recent⟩ :=
    recently_judged c cold positive indirect s.key s.clientIp
  refine ⟨fun success => ⟨endpoint_of_success success, allowsIp_of_success success, ?_⟩,
    fun rejected => ?_⟩
  · exact ⟨early, before, judged.mp (mayUse_of_success success), recent⟩
  · refine ⟨early, before, fun admits => ?_, recent⟩
    have allowed := judged.mpr admits
    rw [mayUse_of_unauthorized rejected] at allowed
    cases allowed

/-- An app is blocked after its first submission. Until the time to live has passed it is admitted
all the same, and from then on it is not. -/
theorem submit_judged_within_ttl_when_blocked :
    let key : Key := ⟨⟨"app"⟩, ⟨"endpoint"⟩⟩
    let app : App := .new key.app "key" "secret"
    let known := { Backend.empty ⟨"", 1⟩ .defaults with
      apps := .put .empty app, endpoints := .put .empty (.new key.endpoint .custom) }
    let c : Clients Rat := .fresh known (.ofMillis 5) 0
    let s : Submission := ⟨key, [.new "text" .custom ⟨0, 0⟩], .batch⟩
    let early : List Event := [.submit s, .change (.putApp app.block), .advance 4]
    let late := early ++ [.advance 1]
    c.pipeline.gateway.cache.decisions = .empty ∧ 0 < c.pipeline.gateway.cache.ttl ∧
      (∀ event ∈ late, event.isAuthorize = false) ∧
      (submit s (c.after early).pipeline).1.isSuccess = true ∧
      c.Recently early (fun q => q.AdmitsUse key s.clientIp) ∧
      (submit s (c.after late).pipeline).1 = .rejected .unauthorized ∧
      c.Recently late (fun q => ¬ q.AdmitsUse key s.clientIp) := by
  intro key app known c s early late
  have cold : c.pipeline.gateway.cache.decisions = .empty := rfl
  have positive : 0 < c.pipeline.gateway.cache.ttl := by decide +kernel
  have indirect : ∀ event ∈ late, event.isAuthorize = false := by
    simp [late, early, Event.isAuthorize]
  have admitted : (submit s (c.after early).pipeline).1.isSuccess = true := by decide +kernel
  have rejected : (submit s (c.after late).pipeline).1 = .rejected .unauthorized := by
    decide +kernel
  have judged := submit_judged_within_ttl c cold positive early
    (fun event member => indirect event (List.mem_append_left _ member)) s
  have judgedLater := submit_judged_within_ttl c cold positive late indirect s
  exact ⟨cold, positive, indirect, admitted, (judged.1 admitted).2.2, rejected,
    judgedLater.2 rejected⟩

end Clients

end LogPipeline
