import LogPipeline.Proofs.Access.Staleness

namespace LogPipeline

open Backend Pipeline

variable {α : Type} {p : Pipeline α} {key : Key}

theorem call_findApp (plain : p.backend.Plain) (id : AppId) :
    call (findApp id) p = (.ok (p.backend.apps.get? id), p) := by
  rw [call_apply, on_findApp plain]

namespace Admission

theorem isOk_checkAccess (plain : p.backend.Plain) (app : key.app.isBlank = false)
    (endpoint : key.endpoint.isBlank = false) (clientIp : String) :
    (checkAccess key clientIp p).1.isOk =
      (p.backend.apps.get? key.app).any (·.admitsUse key.endpoint clientIp p.now) := by
  simp only [checkAccess, app, endpoint, Bool.or_self, Bool.false_eq_true, if_false]
  rw [bind_apply, call_findApp plain]
  cases p.backend.apps.get? key.app with
  | none => rfl
  | some app =>
      simp only [get_bind_apply, pure_apply, Option.any_some, App.admitsUse]
      -- The first of the checks that fails throws.
      cases app.isActive with
      | false => rfl
      | true =>
          cases app.isExpiredAt p.now with
          | true => rfl
          | false =>
              cases clientIp.isEmpty <;> cases app.allowsIp clientIp <;>
                cases app.allowsEndpoint key.endpoint <;> rfl

end Admission

namespace Pipeline

def Unremembered (p : Pipeline α) (key : Key) (clientIp : String) : Prop :=
  p.gateway.cache.get? p.instant (key.question clientIp) = none

theorem unremembered_of_empty (cold : p.gateway.cache.decisions = .empty) (clientIp : String) :
    p.Unremembered key clientIp := by
  rw [Unremembered, DecisionCache.get?, cold]
  rfl

theorem authorizeEndpoint_of_unremembered (plain : p.backend.Plain) {clientIp : String}
    (cold : p.Unremembered key clientIp) :
    (authorizeEndpoint key clientIp p).1 =
      .ok ((p.backend.apps.get? key.app).any (·.admitsUse key.endpoint clientIp p.now)) := by
  rw [Admission.authorizeEndpoint_apply, cold, call_findApp plain]
  cases p.backend.apps.get? key.app <;> rfl

theorem authorize_of_unremembered {app : App} (found : p.backend.apps.get? key.app = some app)
    {clientIp : String} (cold : p.Unremembered key clientIp) (method : AuthMethod)
    (issued : Timestamp) :
    (authorize (.ofApp app clientIp method issued) (.endpoint key.endpoint) p).1 =
      app.admitsUse key.endpoint clientIp p.now := by
  have asked : (⟨(AuthContext.ofApp app clientIp method issued).app, .endpoint key.endpoint,
      (AuthContext.ofApp app clientIp method issued).clientIp⟩ : Question) =
        key.question clientIp := by
    have named : app.id = key.app := Catalogue.keyOf_of_get? found
    simp only [AuthContext.ofApp, named, Key.question]
  rw [authorize_apply, asked]
  dsimp only
  rw [cold]
  exact may_ofApp app clientIp key.endpoint p.now

/-- While no decision is remembered, an access check, a client that names the app and a client with
a context of the app are told the same: what the registered app says. -/
theorem access_paths_agree (plain : p.backend.Plain) (app : key.app.isBlank = false)
    (endpoint : key.endpoint.isBlank = false) {clientIp : String}
    (cold : p.Unremembered key clientIp) (method : AuthMethod) (issued : Timestamp) :
    let allowed := (Admission.checkAccess key clientIp p).1.isOk
    (authorizeEndpoint key clientIp p).1 = .ok allowed ∧
      ((p.backend.apps.get? key.app).any fun app =>
        (authorize (.ofApp app clientIp method issued) (.endpoint key.endpoint) p).1) = allowed ∧
      (allowed = true ↔ p.AdmitsUse key clientIp) := by
  intro allowed
  have checked : allowed = _ := Admission.isOk_checkAccess plain app endpoint clientIp
  rw [checked]
  refine ⟨authorizeEndpoint_of_unremembered plain cold, ?_, ?_⟩
  · cases found : p.backend.apps.get? key.app with
    | none => rfl
    | some app => exact authorize_of_unremembered found cold method issued
  · cases found : p.backend.apps.get? key.app with
    | none => simp [AdmitsUse, found]
    | some app => exact (admitsUse_of_found found).symm

/-- An app may use one endpoint from one address, for one more second. -/
theorem access_paths_agree_when_restricted :
    let app : App := { App.new ⟨"app"⟩ "key" "secret" with
      expiry := some ⟨1, 0⟩
      allowedIps := .ofList ["10.0.0.1"]
      allowedEndpoints := .ofList ["endpoint"] }
    let key : Key := ⟨app.id, ⟨"endpoint"⟩⟩
    let p : Pipeline Rat :=
      idle { Backend.empty ⟨"", 1⟩ .defaults with apps := .put .empty app } 0
    (Admission.checkAccess key "10.0.0.1" p).1.isOk = true ∧
      (authorizeEndpoint key "10.0.0.1" p).1 = .ok true ∧ p.AdmitsUse key "10.0.0.1" := by
  intro app key p
  have plain : p.backend.Plain := ⟨rfl, rfl⟩
  have cold : p.Unremembered key "10.0.0.1" := unremembered_of_empty rfl "10.0.0.1"
  have allowed : (Admission.checkAccess key "10.0.0.1" p).1.isOk = true := by decide
  obtain ⟨named, -, admitted⟩ :=
    access_paths_agree plain (by decide) (by decide) cold .signature ⟨0, 0⟩
  rw [allowed] at named
  exact ⟨allowed, named, admitted.mp allowed⟩

end Pipeline

end LogPipeline
