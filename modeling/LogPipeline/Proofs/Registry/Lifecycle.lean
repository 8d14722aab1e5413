import LogPipeline.Json.Reader
import LogPipeline.Proofs.Document.ReadBack

namespace LogPipeline.App

def Ordered (app : App) : Prop :=
  app.rateLimit ≤ app.burstCapacity

inductive Made : App → Prop
  | new (id : AppId) (accessKey secretKey : String) : Made (App.new id accessKey secretKey)
  | expiry {app : App} (made : Made app) (expiry : Timestamp) : Made (app.withExpiry expiry)
  | allowedIps {app : App} (made : Made app) (ips : List String) : Made (app.withAllowedIps ips)
  | allowedEndpoints {app : App} (made : Made app) (endpoints : List EndpointId) :
      Made (app.withAllowedEndpoints endpoints)
  | status {app : App} (made : Made app) (status : AppStatus) : Made (app.withStatus status)
  | rateLimit {app limited : App} (made : Made app) {rateLimit burstCapacity : UInt32}
      (taken : app.withRateLimit rateLimit burstCapacity = .ok limited) : Made limited

/-! ## One call -/

theorem edited_moveTo (app : App) (target : AppStatus) :
    app.edited (moveTo target) =
      if app.status = .blocked then
        (.error (.invalidState
          ("app " ++ app.id.text ++ " is blocked and cannot become " ++ target.label)), app)
      else (.ok (), app.withStatus target) := by
  -- Nothing is set before the status is looked at.
  change (if app.status = .blocked then _ else _ : Edit PUnit).run.run app = _
  split <;> rfl

theorem edited_setLimits (app : App) (rateLimit burstCapacity : UInt32) :
    app.edited (setLimits rateLimit burstCapacity) =
      if burstCapacity < rateLimit then
        (.error (.invalidState
          ("burst capacity " ++ toString burstCapacity ++ " is below rate limit " ++
            toString rateLimit)), app)
      else (.ok (), { app with rateLimit, burstCapacity }) := by
  change (if burstCapacity < rateLimit then _ else _ : Edit PUnit).run.run app = _
  split <;> rfl

namespace Call

def IsRefused (app : App) : Call → Prop
  | .activate => app.status = .blocked
  | .deactivate => app.status = .blocked
  | .block => False
  | .markExpired => False
  | .setLimits rateLimit burstCapacity => burstCapacity < rateLimit

def effect (app : App) : Call → App
  | .activate => app.withStatus .active
  | .deactivate => app.withStatus .inactive
  | .block => app.block
  | .markExpired => app.markExpired
  | .setLimits rateLimit burstCapacity => { app with rateLimit, burstCapacity }

end Call

theorem edited_call (app : App) (call : Call) :
    (call.IsRefused app ∧ ∃ failure, app.edited call.edit = (.error failure, app)) ∨
      (¬ call.IsRefused app ∧ app.edited call.edit = (.ok (), call.effect app)) := by
  have moved (target : AppStatus) :
      (app.status = .blocked ∧ ∃ failure, app.edited (moveTo target) = (.error failure, app)) ∨
        (¬ app.status = .blocked ∧
          app.edited (moveTo target) = (.ok (), app.withStatus target)) := by
    rw [edited_moveTo]
    split
    · exact .inl ⟨‹_›, _, rfl⟩
    · exact .inr ⟨‹_›, rfl⟩
  cases call with
  | activate => exact moved .active
  | deactivate => exact moved .inactive
  | block => exact .inr ⟨not_false, rfl⟩
  | markExpired => exact .inr ⟨not_false, rfl⟩
  | setLimits rateLimit burstCapacity =>
      rw [Call.edit, edited_setLimits]
      split
      · exact .inl ⟨‹_›, _, rfl⟩
      · exact .inr ⟨‹_›, rfl⟩

theorem markExpired_of_blocked {app : App} (blocked : app.status = .blocked) :
    app.markExpired = app :=
  if_pos blocked

theorem ordered_markExpired_iff {app : App} : app.markExpired.Ordered ↔ app.Ordered := by
  rw [markExpired]
  split <;> rfl

theorem refused_of_error {app : App} {call : Call} {failure : Failure}
    (failed : (app.edited call.edit).1 = .error failure) :
    call.IsRefused app ∧ (app.edited call.edit).2 = app := by
  rcases edited_call app call with ⟨refused, _, edited⟩ | ⟨-, edited⟩
  · exact ⟨refused, congrArg Prod.snd edited⟩
  · rw [edited] at failed
    cases failed

theorem ordered_edited_iff {app : App} {call : Call} :
    (app.edited call.edit).2.Ordered ↔
      app.Ordered ∨ ∃ rateLimit burstCapacity, call = .setLimits rateLimit burstCapacity ∧
        rateLimit ≤ burstCapacity := by
  rcases edited_call app call with ⟨refused, _, edited⟩ | ⟨taken, edited⟩
  · rw [edited, or_iff_left]
    rintro ⟨rateLimit, burstCapacity, rfl, order⟩
    exact absurd refused (UInt32.not_lt.mpr order)
  · rw [edited]
    cases call with
    | setLimits rateLimit burstCapacity =>
        have order : rateLimit ≤ burstCapacity := UInt32.not_lt.mp taken
        exact iff_of_true order (.inr ⟨_, _, rfl, order⟩)
    | markExpired => exact ordered_markExpired_iff.trans (or_iff_left nofun).symm
    | activate => exact (or_iff_left nofun).symm
    | deactivate => exact (or_iff_left nofun).symm
    | block => exact (or_iff_left nofun).symm

theorem blocked_edited {app : App} (call : Call) (blocked : app.status = .blocked) :
    (app.edited call.edit).2.status = .blocked := by
  rcases edited_call app call with ⟨-, _, edited⟩ | ⟨taken, edited⟩
  · rw [edited]
    exact blocked
  · rw [edited]
    cases call with
    | activate => exact absurd blocked taken
    | deactivate => exact absurd blocked taken
    | block => rfl
    | markExpired => rw [Call.effect, markExpired_of_blocked blocked, blocked]
    | setLimits => exact blocked

/-! ## All calls -/

def after (app : App) (calls : List Call) : App :=
  calls.foldl (fun app call => (app.edited call.edit).2) app

theorem ordered_after_iff {app : App} {calls : List Call} :
    (app.after calls).Ordered ↔
      app.Ordered ∨ ∃ rateLimit burstCapacity, .setLimits rateLimit burstCapacity ∈ calls ∧
        rateLimit ≤ burstCapacity := by
  induction calls generalizing app with
  | nil => exact (or_iff_left fun ⟨_, _, called, _⟩ => List.not_mem_nil called).symm
  | cons call calls ih =>
      have later : (app.after (call :: calls)).Ordered ↔ _ := ih
      rw [later, ordered_edited_iff, or_assoc]
      refine or_congr_right ?_
      simp only [List.mem_cons, eq_comm, or_and_right, exists_or]

theorem blocked_after {app : App} (calls : List Call) (blocked : app.status = .blocked) :
    (app.after calls).status = .blocked := by
  induction calls generalizing app with
  | nil => exact blocked
  | cons call calls ih => exact ih (blocked_edited call blocked)

theorem ordered_of_withRateLimit {app limited : App} {rateLimit burstCapacity : UInt32}
    (taken : app.withRateLimit rateLimit burstCapacity = .ok limited) : limited.Ordered := by
  by_cases disorder : burstCapacity < rateLimit
  · rw [withRateLimit, edited_setLimits, if_pos disorder] at taken
    cases taken
  · rw [withRateLimit, edited_setLimits, if_neg disorder] at taken
    cases taken
    exact UInt32.not_lt.mp disorder

theorem Made.ordered {app : App} (made : Made app) : app.Ordered := by
  induction made with
  | new => exact (by decide : defaultRateLimit ≤ defaultBurstCapacity)
  | expiry _ _ ih => exact ih
  | allowedIps _ _ ih => exact ih
  | allowedEndpoints _ _ ih => exact ih
  | status _ _ ih => exact ih
  | rateLimit _ taken _ => exact ordered_of_withRateLimit taken

theorem exists_read_with_limits (rateLimit burstCapacity : UInt32) :
    ∃ j app, ofJson? j = some app ∧ app.rateLimit = rateLimit ∧
      app.burstCapacity = burstCapacity := by
  have told : ∀ t ∈ (none : Option Timestamp), t.IsTold := nofun
  have written := writes_toJson { new ⟨""⟩ "" "" with rateLimit, burstCapacity }
  have read := (ofJson?_of_writes told written).trans (if_pos fun _ _ => List.not_mem_nil)
  exact ⟨_, _, read, rfl, rfl⟩

/-- The limits of an app that is made without a document are always in order. Those of another app
are in order if they were so at first or some call has put them in order, and documents give limits
in any order. Every app stays blocked, and is left as it is by the calls that it refuses. -/
theorem life_kept (app : App) (calls : List Call) :
    (Made app → (app.after calls).Ordered) ∧
    ((app.after calls).Ordered ↔
      app.Ordered ∨ ∃ rateLimit burstCapacity, .setLimits rateLimit burstCapacity ∈ calls ∧
        rateLimit ≤ burstCapacity) ∧
    (∀ rateLimit burstCapacity, ∃ j read, ofJson? j = some read ∧ read.rateLimit = rateLimit ∧
      read.burstCapacity = burstCapacity) ∧
    (app.status = .blocked → (app.after calls).status = .blocked) ∧
    ∀ (call : Call) (failure : Failure), (app.edited call.edit).1 = .error failure →
      call.IsRefused app ∧ (app.edited call.edit).2 = app :=
  ⟨fun made => ordered_after_iff.mpr (.inl made.ordered), ordered_after_iff,
    exists_read_with_limits, blocked_after calls, fun _ _ => refused_of_error⟩

/-- An app that is blocked when its limits have been set refuses to be active again. -/
theorem life_kept_when_blocked :
    let app := ((new ⟨"a1"⟩ "ak" "sk").withAllowedIps ["10.0.0.1"]).withStatus .blocked
    let calls := [.setLimits 7 7, .markExpired, .setLimits 9 8, .deactivate]
    (app.after calls).Ordered ∧ (app.after calls).status = .blocked ∧
      (app.edited activate).2 = app := by
  intro app calls
  have made : Made app := .status (.allowedIps (.new _ _ _) _) _
  obtain ⟨limits, -, -, blocks, failures⟩ := life_kept app calls
  exact ⟨limits made, blocks rfl, (failures .activate _ rfl).2⟩

/-- A document can give limits that no call would set. -/
theorem disordered_limits_read :
    let app := { new ⟨"a1"⟩ "ak" "sk" with rateLimit := 10, burstCapacity := 5 }
    (Json.read? ("\x7b\"app_id\": \"a1\", \"access_key\": \"ak\", \"secret_key\": \"sk\"" ++
      ", \"status\": \"ACTIVE\", \"ip_whitelist\": [], \"allowed_endpoints\": [], " ++
      "\"rate_limit\": 10, \"burst_capacity\": 5\x7d")).bind ofJson? = some app ∧
      ¬ app.Ordered := by
  refine ⟨by decide +kernel, ?_⟩
  exact (by decide : ¬ (10 : UInt32) ≤ 5)

end LogPipeline.App
