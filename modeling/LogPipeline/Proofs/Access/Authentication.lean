import LogPipeline.Proofs.Admission.Conditions
import LogPipeline.Proofs.Number.Decimal

namespace LogPipeline

open Backend Pipeline Admission Number

abbrev Requirement := Prop × AuthRefusal

def FailsFirst : List Requirement → AuthRefusal → Prop
  | [], _ => False
  | (holds, refusal) :: rest, reason => ¬ holds ∧ reason = refusal ∨ holds ∧ FailsFirst rest reason

namespace AuthRequest

def requirementsUnsigned (request : AuthRequest) (app : App) (validityMs : UInt64)
    (now : Timestamp) : List Requirement :=
  [(app.status = .active, .status app.status),
    ((∀ expiry ∈ app.expiry, now < expiry), .expired),
    ((∃ sent, StatesInt64 request.timestamp sent), .timestampFormat),
    ((∃ sent, StatesInt64 request.timestamp sent ∧
      (now.millis - sent).natAbs ≤ validityMs.toNat), .timestamp)]

def IsSigned (request : AuthRequest) (app : App) : Prop :=
  request.signature.toUTF8 = (Signature.sign app.secretKey request.accessKey request.timestamp
    request.body).toUTF8

def requirements (request : AuthRequest) (app : App) (validityMs : UInt64) (now : Timestamp) :
    List Requirement :=
  request.requirementsUnsigned app validityMs now ++
    [(request.method = .signature → request.IsSigned app, .signature)]

theorem holds_unsigned {request : AuthRequest} {app : App} {validityMs : UInt64} {now : Timestamp}
    {sent : Int} (active : app.status = .active) (unexpired : ∀ expiry ∈ app.expiry, now < expiry)
    (states : StatesInt64 request.timestamp sent)
    (close : (now.millis - sent).natAbs ≤ validityMs.toNat) :
    ∀ r ∈ request.requirementsUnsigned app validityMs now, r.1 := by
  simp only [requirementsUnsigned, List.forall_mem_cons]
  exact ⟨active, unexpired, ⟨sent, states⟩, ⟨sent, states, close⟩, nofun⟩

theorem holds_signed {request : AuthRequest} {app : App} {validityMs : UInt64} {now : Timestamp}
    (eligible : ∀ r ∈ request.requirementsUnsigned app validityMs now, r.1)
    (signed : request.IsSigned app) : ∀ r ∈ request.requirements app validityMs now, r.1 :=
  forall_mem_append_singleton eligible fun _ => signed

end AuthRequest

structure Describes (context : AuthContext) (app : App) (request : AuthRequest)
    (now : Timestamp) : Prop where
  id : context.app = app.id
  status : context.status = app.status
  expiry : context.expiry = app.expiry
  endpoints : context.allowedEndpoints = app.allowedEndpoints
  ips : context.allowedIps = app.allowedIps
  rateLimit : context.rateLimit = app.rateLimit
  burstCapacity : context.burstCapacity = app.burstCapacity
  clientIp : context.clientIp = request.clientIp
  method : context.method = request.method
  authenticatedAt : context.authenticatedAt = now

theorem describes_iff {context : AuthContext} {app : App} {request : AuthRequest}
    {now : Timestamp} : Describes context app request now ↔
      context = .ofApp app request.clientIp request.method now := by
  constructor
  · intro described
    cases context
    obtain ⟨rfl, rfl, rfl, rfl, rfl, rfl, rfl, rfl, rfl, rfl⟩ := described
    rfl
  · rintro rfl
    exact ⟨rfl, rfl, rfl, rfl, rfl, rfl, rfl, rfl, rfl, rfl⟩

/-! ## Requirements one after the other -/

section Requirements

variable {requirements rest : List Requirement} {reason other : AuthRefusal} {holds : Prop}
  {context : AuthContext} {verdict : Except AuthRefusal AuthContext}

theorem FailsFirst.not_all (fails : FailsFirst requirements reason) :
    ¬ ∀ r ∈ requirements, r.1 := by
  induction requirements with
  | nil => cases fails
  | cons first rest ih =>
      intro all
      obtain ⟨holds, later⟩ := List.forall_mem_cons.mp all
      rcases fails with ⟨broken, _⟩ | ⟨_, fails⟩
      · exact broken holds
      · exact ih fails later

theorem FailsFirst.before {early late : List Requirement}
    (fails : FailsFirst (early ++ late) reason) (differ : ∀ r ∈ early, r.2 ≠ reason) :
    ∀ r ∈ early, r.1 := by
  induction early with
  | nil => exact nofun
  | cons first early ih =>
      obtain ⟨differs, later⟩ := List.forall_mem_cons.mp differ
      rcases fails with ⟨_, rfl⟩ | ⟨holds, fails⟩
      · exact absurd rfl differs
      · exact List.forall_mem_cons.mpr ⟨holds, ih fails later⟩

theorem FailsFirst.unique (fails : FailsFirst requirements reason)
    (also : FailsFirst requirements other) : reason = other := by
  induction requirements with
  | nil => cases fails
  | cons first rest ih =>
      rcases fails with ⟨broken, rfl⟩ | ⟨holds, fails⟩
      · rcases also with ⟨_, rfl⟩ | ⟨holds, _⟩
        · rfl
        · exact absurd holds broken
      · rcases also with ⟨broken, _⟩ | ⟨_, also⟩
        · exact absurd holds broken
        · exact ih fails also

inductive Judged (requirements : List Requirement) (context : AuthContext) :
    Except AuthRefusal AuthContext → Prop where
  | accepted (all : ∀ r ∈ requirements, r.1) : Judged requirements context (.ok context)
  | refused {reason : AuthRefusal} (fails : FailsFirst requirements reason) :
    Judged requirements context (.error reason)

theorem Judged.next (fine : holds) (judged : Judged rest context verdict) :
    Judged ((holds, reason) :: rest) context verdict := by
  cases judged with
  | accepted all => exact .accepted (List.forall_mem_cons.mpr ⟨fine, all⟩)
  | refused fails => exact .refused (.inr ⟨fine, fails⟩)

theorem Judged.stop (broken : ¬ holds) :
    Judged ((holds, reason) :: rest) context (.error reason) :=
  .refused (.inl ⟨broken, rfl⟩)

theorem Judged.check {broken : Prop} [Decidable broken] (opposite : holds ↔ ¬ broken)
    (later : holds → Judged rest context verdict) :
    Judged ((holds, reason) :: rest) context
      (if broken then (do throw reason; verdict) else verdict) := by
  by_cases fails : broken
  · rw [if_pos fails]
    exact .stop fun fine => opposite.mp fine fails
  · rw [if_neg fails]
    have fine := opposite.mpr fails
    exact (later fine).next fine

theorem Judged.ok_iff (judged : Judged requirements context verdict) {issued : AuthContext} :
    verdict = .ok issued ↔ (∀ r ∈ requirements, r.1) ∧ issued = context := by
  cases judged with
  | accepted all =>
      rw [Except.ok.injEq]
      exact ⟨fun same => ⟨all, same.symm⟩, fun issues => issues.2.symm⟩
  | refused fails => exact ⟨nofun, fun issues => absurd issues.1 fails.not_all⟩

theorem Judged.error_iff (judged : Judged requirements context verdict) :
    verdict = .error reason ↔ FailsFirst requirements reason := by
  cases judged with
  | accepted all => exact ⟨nofun, fun fails => absurd all fails.not_all⟩
  | refused fails =>
      rw [Except.error.injEq]
      exact ⟨fun same => same ▸ fails, fun also => fails.unique also⟩

end Requirements

theorem App.isExpiredAt_eq_false_iff (app : App) (now : Timestamp) :
    app.isExpiredAt now = false ↔ ∀ expiry ∈ app.expiry, now < expiry := by
  cases found : app.expiry <;> simp [App.isExpiredAt, found]

theorem Signature.verify_iff {signature secret accessKey timestamp body : String} :
    Signature.verify signature secret accessKey timestamp body = true ↔
      signature.toUTF8 = (Signature.sign secret accessKey timestamp body).toUTF8 := by
  rw [Signature.verify, decide_eq_true_iff]
  exact String.toByteArray_inj.symm

theorem judged_authenticate (app : App) (request : AuthRequest) (validityMs : UInt64)
    (now : Timestamp) : Judged (request.requirements app validityMs now)
      (.ofApp app request.clientIp request.method now)
      (authenticate (some app) request validityMs now) := by
  simp only [authenticate, AuthRequest.requirements, AuthRequest.requirementsUnsigned,
    List.cons_append, List.nil_append]
  refine .check (by simp [App.isActive]) fun _ => ?_
  refine .check (by rw [← App.isExpiredAt_eq_false_iff, Bool.not_eq_true]) fun _ => ?_
  cases read : readInt64? (String.ofList (Text.trim request.timestamp.toList)) with
  | none =>
      refine .stop ?_
      rintro ⟨sent, states⟩
      cases read.symm.trans (readInt64?_trim_eq_some_iff.mpr states)
  | some sent =>
      have states := readInt64?_trim_eq_some_iff.mp read
      have only : ∀ other, StatesInt64 request.timestamp other → other = sent := fun other also =>
        Option.some.inj ((readInt64?_trim_eq_some_iff.mpr also).symm.trans read)
      refine .next ⟨sent, states⟩ ?_
      refine .check ?_ fun _ => .check ?_ fun _ => .accepted (List.forall_mem_nil _)
      · rw [Nat.not_lt]
        constructor
        · rintro ⟨other, also, close⟩
          exact only other also ▸ close
        · exact fun close => ⟨sent, states, close⟩
      · simp only [AuthRequest.IsSigned, ← Signature.verify_iff, Bool.not_eq_true', not_and,
          Bool.not_eq_false]

/-! ## Authentication -/

namespace Pipeline

variable {α : Type}

def Registers (p : Pipeline α) (accessKey : String) (app : App) : Prop :=
  app ∈ p.backend.apps.values ∧ app.accessKey = accessKey

theorem registers_of_find {p : Pipeline α} {accessKey : String} {app : App}
    (found : p.backend.apps.values.find? (fun app => app.accessKey = accessKey) = some app) :
    p.Registers accessKey app :=
  ⟨List.mem_of_find?_eq_some found, by simpa using List.find?_some found⟩

theorem find_of_registers {p : Pipeline α} {accessKey : String} {app : App}
    (distinct : (p.backend.apps.values.map App.accessKey).Nodup)
    (registers : p.Registers accessKey app) :
    p.backend.apps.values.find? (fun app => app.accessKey = accessKey) = some app := by
  obtain ⟨member, rfl⟩ := registers
  exact find?_eq_some_of_mem App.accessKey distinct member

theorem tells_authenticateAt (request : AuthRequest) (now : Timestamp) (p : Pipeline α) :
    Tells (fun q => ∃ faults, q = asked faults p.gateway.cache p.gateway.limiter p)
      (authenticate (p.backend.apps.values.find? fun app => app.accessKey = request.accessKey)
        request p.gateway.validityMs now) p (authenticateAt request now) := by
  obtain ⟨_, ⟨faults, rfl⟩, spared, found | ⟨planned, e, failed⟩⟩ :=
    tells_call (answers_findAppByKey p.backend request.accessKey)
  · refine ⟨_, ⟨faults, rfl⟩, spared, .inl ?_⟩
    rw [authenticateAt, bind_apply, found]
    rfl
  · refine ⟨_, ⟨faults, rfl⟩, spared, .inr ⟨planned, e, ?_⟩⟩
    rw [authenticateAt, bind_apply, failed]
    rfl

theorem authenticateAt_calm {p : Pipeline α} (calm : p.backend.faults = .empty)
    (request : AuthRequest) (now : Timestamp) :
    ∃ verdict, authenticateAt request now p = (.ok verdict, p) := by
  obtain ⟨_, ⟨faults, rfl⟩, spared, answer | ⟨planned, _⟩⟩ := tells_authenticateAt request now p
  · have same : asked faults p.gateway.cache p.gateway.limiter p = p := by
      rw [show faults = p.backend.faults from (spared calm).trans calm.symm]
      rfl
    exact ⟨_, same ▸ answer⟩
  · exact absurd calm planned

theorem judged_of_answered {p : Pipeline α} {request : AuthRequest} {now : Timestamp}
    {verdict : Except AuthRefusal AuthContext}
    (answered : (authenticateAt request now p).1 = .ok verdict) :
    (p.backend.apps.values.find? (fun app => app.accessKey = request.accessKey) = none ∧
        verdict = .error .accessKey) ∨
      ∃ app, p.backend.apps.values.find? (fun app => app.accessKey = request.accessKey) =
          some app ∧
        Judged (request.requirements app p.gateway.validityMs now)
          (.ofApp app request.clientIp request.method now) verdict := by
  obtain ⟨q, -, -, told | ⟨-, e, failed⟩⟩ := tells_authenticateAt request now p
  · rw [told] at answered
    cases answered
    cases p.backend.apps.values.find? fun app => app.accessKey = request.accessKey with
    | none => exact .inl ⟨rfl, rfl⟩
    | some app => exact .inr ⟨app, rfl, judged_authenticate app request _ now⟩
  · rw [failed] at answered
    cases answered

theorem authenticated_of_signed {p : Pipeline α} (calm : p.backend.faults = .empty)
    {request : AuthRequest} {now : Timestamp} {app : App}
    (found : p.backend.apps.values.find? (fun app => app.accessKey = request.accessKey) = some app)
    (eligible : ∀ r ∈ request.requirementsUnsigned app p.gateway.validityMs now, r.1)
    (signed : request.IsSigned app) :
    ∃ context, (authenticateAt request now p).1 = .ok (.ok context) := by
  obtain ⟨verdict, answer⟩ := authenticateAt_calm calm request now
  have answered : (authenticateAt request now p).1 = .ok verdict := by rw [answer]
  rcases judged_of_answered answered with ⟨unknown, _⟩ | ⟨other, also, judged⟩
  · cases unknown.symm.trans found
  · cases also.symm.trans found
    obtain rfl := judged.ok_iff.mpr ⟨AuthRequest.holds_signed eligible signed, rfl⟩
    exact ⟨_, answered⟩

theorem active_of_authenticated {p : Pipeline α} {request : AuthRequest} {now : Timestamp}
    {context : AuthContext} (answered : (authenticateAt request now p).1 = .ok (.ok context)) :
    ∃ app, p.backend.apps.get? context.app = some app ∧ app.status = .active := by
  rcases judged_of_answered answered with ⟨_, refused⟩ | ⟨app, found, judged⟩
  · cases refused
  · obtain ⟨all, rfl⟩ := judged.ok_iff.mp rfl
    exact ⟨app, Catalogue.get?_eq_some_iff.mpr ⟨List.mem_of_find?_eq_some found, rfl⟩,
      all _ List.mem_cons_self⟩

theorem verdict_cases {p : Pipeline α}
    (distinct : (p.backend.apps.values.map App.accessKey).Nodup) {request : AuthRequest}
    {now : Timestamp} {verdict : Except AuthRefusal AuthContext}
    (answered : (authenticateAt request now p).1 = .ok verdict) :
    ((∀ app, ¬ p.Registers request.accessKey app) ∧ verdict = .error .accessKey) ∨
      ∃ app, p.Registers request.accessKey app ∧
        (∀ other, p.Registers request.accessKey other → other = app) ∧
        Judged (request.requirements app p.gateway.validityMs now)
          (.ofApp app request.clientIp request.method now) verdict := by
  have looks : ∀ other, p.Registers request.accessKey other →
      p.backend.apps.values.find? (fun app => app.accessKey = request.accessKey) = some other :=
    fun _ => find_of_registers distinct
  rcases judged_of_answered answered with ⟨unknown, refused⟩ | ⟨app, found, judged⟩
  · refine .inl ⟨fun other registers => ?_, refused⟩
    cases unknown.symm.trans (looks other registers)
  · exact .inr ⟨app, registers_of_find found,
      fun other registers => Option.some.inj ((looks other registers).symm.trans found), judged⟩

/-- A request gets an answer if no call fails. It is authenticated if and only if the app with its
access key satisfies all requirements, with a context that describes the two, and otherwise it is
refused for the first requirement that fails. So who signs for such an app is always authenticated.
-/
theorem authenticateAt_decides (p : Pipeline α)
    (distinct : (p.backend.apps.values.map App.accessKey).Nodup) (request : AuthRequest)
    (now : Timestamp) :
    (p.backend.faults = .empty → ∃ verdict, authenticateAt request now p = (.ok verdict, p)) ∧
    ∀ verdict, (authenticateAt request now p).1 = .ok verdict →
      (∀ context, verdict = .ok context ↔ ∃ app, p.Registers request.accessKey app ∧
        (∀ r ∈ request.requirements app p.gateway.validityMs now, r.1) ∧
        Describes context app request now) ∧
      (∀ reason, verdict = .error reason ↔
        (∀ app, ¬ p.Registers request.accessKey app) ∧ reason = .accessKey ∨
        ∃ app, p.Registers request.accessKey app ∧
          FailsFirst (request.requirements app p.gateway.validityMs now) reason) ∧
      (∀ app, p.Registers request.accessKey app →
        (∀ r ∈ request.requirementsUnsigned app p.gateway.validityMs now, r.1) →
        request.signature = Signature.sign app.secretKey request.accessKey request.timestamp
          request.body →
        ∃ context, verdict = .ok context ∧ Describes context app request now) := by
  refine ⟨fun calm => authenticateAt_calm calm request now, fun verdict answered => ?_⟩
  rcases verdict_cases distinct answered with ⟨unknown, rfl⟩ | ⟨app, registers, only, judged⟩
  · refine ⟨fun context => ⟨nofun, ?_⟩, fun reason => ?_, fun app registers => ?_⟩
    · rintro ⟨app, registers, _⟩
      exact absurd registers (unknown app)
    · constructor
      · rintro ⟨⟩
        exact .inl ⟨unknown, rfl⟩
      · rintro (⟨_, rfl⟩ | ⟨app, registers, _⟩)
        · rfl
        · exact absurd registers (unknown app)
    · exact absurd registers (unknown app)
  · refine ⟨fun context => ?_, fun reason => ?_, fun other also eligible signed => ?_⟩
    · rw [judged.ok_iff, ← describes_iff]
      constructor
      · exact fun issued => ⟨app, registers, issued⟩
      · rintro ⟨other, also, issued⟩
        exact only other also ▸ issued
    · rw [judged.error_iff]
      constructor
      · exact fun fails => .inr ⟨app, registers, fails⟩
      · rintro (⟨unknown, _⟩ | ⟨other, also, fails⟩)
        · exact absurd registers (unknown app)
        · exact only other also ▸ fails
    · obtain rfl := only other also
      have all := AuthRequest.holds_signed eligible (congrArg String.toUTF8 signed)
      exact ⟨_, judged.ok_iff.mpr ⟨all, rfl⟩, describes_iff.mpr rfl⟩

/-- The timestamp is as far away as it may be and has a sign and white space. When the access of the
app ends, that is the reason to refuse the same request. -/
theorem authenticateAt_decides_at_the_edge :
    let app : App := { App.new ⟨"app"⟩ "key" "secret" with expiry := some ⟨1, 0⟩ }
    let known := { Backend.empty ⟨"", 1⟩ .defaults with apps := .put .empty app }
    let idle : Pipeline Rat := .idle known 0
    let p : Pipeline Rat := { idle with gateway := .new 0 5 }
    let request : AuthRequest :=
      ⟨"key", Signature.sign "secret" "key" " +5 " "body", " +5 ", "address", .signature, "body"⟩
    (p.backend.apps.values.map App.accessKey).Nodup ∧
      (∃ context, authenticateAt request ⟨0, 0⟩ p = (.ok (.ok context), p) ∧
        Describes context app request ⟨0, 0⟩) ∧
      authenticateAt request ⟨1, 0⟩ p = (.ok (.error .expired), p) := by
  intro app known idle p request
  have distinct : (p.backend.apps.values.map App.accessKey).Nodup := by decide +kernel
  have registers : p.Registers request.accessKey app := ⟨List.mem_singleton_self app, rfl⟩
  have states : StatesInt64 request.timestamp 5 :=
    ⟨⟨[' '], ['+', '5'], [' '], by decide +kernel, List.forall_mem_singleton.mpr rfl,
      List.forall_mem_singleton.mpr rfl, .plus ⟨by decide, List.all_eq_true.mp rfl⟩⟩, by decide⟩
  have eligible : ∀ r ∈ request.requirementsUnsigned app p.gateway.validityMs ⟨0, 0⟩, r.1 :=
    AuthRequest.holds_unsigned rfl (by decide) states (by decide)
  refine ⟨distinct, ?_, ?_⟩
  · obtain ⟨verdict, answer⟩ := (authenticateAt_decides p distinct request ⟨0, 0⟩).1 rfl
    have decides := (authenticateAt_decides p distinct request ⟨0, 0⟩).2 verdict (by rw [answer])
    obtain ⟨context, rfl, described⟩ := decides.2.2 app registers eligible rfl
    exact ⟨context, answer, described⟩
  · obtain ⟨verdict, answer⟩ := (authenticateAt_decides p distinct request ⟨1, 0⟩).1 rfl
    have decides := (authenticateAt_decides p distinct request ⟨1, 0⟩).2 verdict (by rw [answer])
    have fails : FailsFirst (request.requirements app p.gateway.validityMs ⟨1, 0⟩) .expired :=
      .inr ⟨rfl, .inl ⟨by decide, rfl⟩⟩
    rw [answer, (decides.2.1 .expired).mpr (.inr ⟨app, registers, fails⟩)]

end Pipeline

end LogPipeline
