import LogPipeline.Proofs.Access.Decisions

/-!
# Evictions are not noticed

A decision that has ended answers no question, whether or not it has been evicted. So two gateways
whose caches give the same answers from now on stay so whatever they are asked, and evictions in one
of them change nothing that can be heard.
-/

namespace LogPipeline

namespace DecisionCache

structure AgreesFrom (now : Nanos) (c d : DecisionCache) : Prop where
  ttl : d.ttl = c.ttl
  get? : ∀ later, now ≤ later → ∀ q, d.get? later q = c.get? later q

variable {c d e cache : DecisionCache} {now next : Nanos}

namespace AgreesFrom

theorem refl (now : Nanos) (c : DecisionCache) : c.AgreesFrom now c :=
  ⟨rfl, fun _ _ _ => rfl⟩

theorem symm (agrees : c.AgreesFrom now d) : d.AgreesFrom now c :=
  ⟨agrees.ttl.symm, fun later after q => (agrees.get? later after q).symm⟩

theorem trans (one : c.AgreesFrom now d) (other : d.AgreesFrom now e) : c.AgreesFrom now e :=
  ⟨other.ttl.trans one.ttl, fun later after q =>
    (other.get? later after q).trans (one.get? later after q)⟩

theorem later (agrees : c.AgreesFrom now d) (after : now ≤ next) : c.AgreesFrom next d :=
  ⟨agrees.ttl, fun instant follows q => agrees.get? instant (Nat.le_trans after follows) q⟩

end AgreesFrom

theorem get?_insert (cache : DecisionCache) (now later : Nanos) (q other : Question)
    (allowed : Bool) : (cache.insert now q allowed).get? later other =
      if q = other then (if later < now + cache.ttl then some allowed else none)
      else cache.get? later other := by
  simp only [DecisionCache.get?, insert, Table.get?_insert]
  by_cases same : q = other <;> simp [same]

theorem AgreesFrom.insert (agrees : c.AgreesFrom now d) (q : Question) (allowed : Bool) :
    (c.insert now q allowed).AgreesFrom now (d.insert now q allowed) where
  ttl := agrees.ttl
  get? later after other := by
    rw [get?_insert, get?_insert, agrees.ttl, agrees.get? later after other]

theorem get?_evict (after : now ≤ next) (q : Question) :
    (cache.evict now).2.get? next q = cache.get? next q := by
  simp only [DecisionCache.get?, evict, Table.get?_filter]
  cases cache.decisions.get? q with
  | none => rfl
  | some d =>
      by_cases live : now < d.expiresAt
      · simp [Option.filter_some, live]
      · have ended : ¬ next < d.expiresAt :=
          fun still => live (Nat.lt_of_le_of_lt after still)
        simp [Option.filter_some, live, ended]

theorem agreesFrom_evict (now : Nanos) (cache : DecisionCache) :
    cache.AgreesFrom now (cache.evict now).2 :=
  ⟨rfl, fun _ after q => get?_evict after q⟩

theorem get?_of_mem {row : Question × Decision} (member : row ∈ cache.decisions.rows)
    (now : Nanos) : cache.get? now row.1 =
      if now < row.2.expiresAt then some row.2.allowed else none := by
  have found : cache.decisions.get? row.1 = some row.2 := Table.get?_eq_some_iff.mpr member
  rw [DecisionCache.get?, found]

theorem rows_evict (cache : DecisionCache) (now : Nanos) :
    (cache.evict now).2.decisions.rows =
      cache.decisions.rows.filter fun row => (cache.get? now row.1).isSome := by
  refine List.filter_congr fun row member => ?_
  rw [get?_of_mem member]
  by_cases live : now < row.2.expiresAt <;> simp [live]

theorem get?_of_mem_evict {row : Question × Decision}
    (member : row ∈ (cache.evict now).2.decisions.rows) :
    (cache.evict now).2.get? now row.1 = some row.2.allowed := by
  have live : now < row.2.expiresAt := of_decide_eq_true (List.mem_filter.mp member).2
  rw [get?_of_mem member, if_pos live]

theorem count_evict (cache : DecisionCache) (now : Nanos) :
    (cache.evict now).1 =
      cache.decisions.rows.countP fun row => (cache.get? now row.1).isNone := by
  have counted := List.length_eq_countP_add_countP (fun row => (cache.get? now row.1).isSome)
    (l := cache.decisions.rows)
  simp only [Bool.not_eq_true, Option.isSome_eq_false_iff, Bool.decide_eq_true] at counted
  have kept : (cache.evict now).1 = cache.decisions.rows.length -
      (cache.evict now).2.decisions.rows.length := rfl
  rw [kept, rows_evict, ← List.countP_eq_length_filter, counted]
  exact Nat.add_sub_cancel_left _ _

end DecisionCache

namespace Pipeline

open Backend

variable {α β γ : Type} {p q r : Pipeline α}

def withCache (cache : DecisionCache) (p : Pipeline α) : Pipeline α :=
  { p with gateway := { p.gateway with cache } }

def Alike (p q : Pipeline α) : Prop :=
  ∃ cache, q = p.withCache cache ∧ p.gateway.cache.AgreesFrom p.instant cache

namespace Alike

theorem refl (p : Pipeline α) : Alike p p :=
  ⟨p.gateway.cache, rfl, .refl _ _⟩

theorem symm (alike : Alike p q) : Alike q p := by
  obtain ⟨cache, rfl, agrees⟩ := alike
  exact ⟨p.gateway.cache, rfl, agrees.symm⟩

theorem trans (one : Alike p q) (other : Alike q r) : Alike p r := by
  obtain ⟨cache, rfl, agrees⟩ := one
  obtain ⟨last, rfl, later⟩ := other
  exact ⟨last, rfl, agrees.trans later⟩

end Alike

/-! ## Steps that do not notice -/

def Respects (step : Step α β) : Prop :=
  ∀ p q, Alike p q → (step p).1 = (step q).1 ∧ Alike (step p).2 (step q).2

namespace Respects

variable {step : Step α β} {next : β → Step α γ}

theorem pure (answer : β) : Respects (Pure.pure answer : Step α β) :=
  fun _ _ alike => ⟨rfl, alike⟩

theorem bind (first : Respects step) (rest : ∀ answer, Respects (next answer)) :
    Respects (step >>= next) := by
  intro p q alike
  obtain ⟨same, still⟩ := first p q alike
  rw [bind_apply, bind_apply, ← same]
  exact rest _ _ _ still

theorem read {rest : Pipeline α → Step α γ}
    (blind : ∀ (p : Pipeline α) (cache : DecisionCache), rest (p.withCache cache) = rest p)
    (each : ∀ p, Respects (rest p)) : Respects (get >>= rest) := by
  rintro p _ ⟨cache, rfl, agrees⟩
  rw [get_bind_apply, get_bind_apply, blind]
  exact each p _ _ ⟨cache, rfl, agrees⟩

theorem call (c : Call β) : Respects (Pipeline.call c : Step α (Except Failure β)) := by
  rintro p _ ⟨cache, rfl, agrees⟩
  exact ⟨rfl, cache, rfl, agrees⟩

theorem onLimiter (f : Limiter α → β × Limiter α) : Respects (Pipeline.onLimiter f) := by
  rintro p _ ⟨cache, rfl, agrees⟩
  exact ⟨rfl, cache, rfl, agrees⟩

theorem cached? (question : Question) :
    Respects (Pipeline.cached? question : Step α (Option Bool)) := by
  rintro p _ ⟨cache, rfl, agrees⟩
  exact ⟨(agrees.get? p.instant le_rfl question).symm, cache, rfl, agrees⟩

theorem remember (question : Question) (allowed : Bool) :
    Respects (Pipeline.remember question allowed : Step α Unit) := by
  rintro p _ ⟨cache, rfl, agrees⟩
  exact ⟨rfl, cache.insert p.instant question allowed, rfl, agrees.insert question allowed⟩

theorem authenticateAt (request : AuthRequest) (now : Timestamp) :
    Respects (Pipeline.authenticateAt request now : Step α _) := by
  refine .bind (.call _) fun found => ?_
  cases found with
  | error e => exact .pure _
  | ok app? =>
      exact .read (fun _ _ => rfl) fun _ => .pure _

theorem authorize (context : AuthContext) (permission : Permission) :
    Respects (Pipeline.authorize context permission : Step α Bool) := by
  refine .bind (.cached? _) fun known => ?_
  cases known with
  | some allowed => exact .pure _
  | none =>
      exact .read (fun _ _ => rfl) fun _ =>
        .bind (.remember _ _) fun _ => .pure _

theorem authorizeEndpoint (key : Key) (clientIp : String) :
    Respects (Pipeline.authorizeEndpoint key clientIp : Step α _) := by
  refine .bind (.cached? _) fun known => ?_
  cases known with
  | some allowed => exact .pure _
  | none =>
      refine .bind (.call _) fun found => ?_
      rcases found with e | _ | app
      · exact .pure _
      · exact .pure _
      · exact .read (fun _ _ => rfl) fun _ =>
          .bind (.remember _ _) fun _ => .pure _

theorem allowsIp (app : AppId) (clientIp : String) :
    Respects (Pipeline.allowsIp app clientIp : Step α _) := by
  unfold Pipeline.allowsIp
  split
  · exact .pure _
  · refine .bind (.call _) fun found => ?_
    rcases found with e | _ | app <;> exact .pure _

theorem isRateLimited [Quantity α] (key : Key) (tokens : UInt32) :
    Respects (Pipeline.isRateLimited key tokens : Step α _) := by
  refine .bind (.call _) fun found => ?_
  rcases found with e | _ | app
  · exact .pure _
  · exact .bind (.onLimiter _) fun _ => .pure _
  · exact .read (fun _ _ => rfl) fun _ =>
      .bind (.onLimiter _) fun _ => .bind (.onLimiter _) fun _ => .pure _

end Respects

/-! ## Runs -/

inductive GatewayCall (α : Type) where
  | authenticate (request : AuthRequest) (now : Timestamp)
  | authorize (context : AuthContext) (permission : Permission)
  | authorizeEndpoint (key : Key) (clientIp : String)
  | allowsIp (app : AppId) (clientIp : String)
  | isRateLimited (key : Key) (tokens : UInt32)
  | lookUp (question : Question)
  | remember (question : Question) (allowed : Bool)
  | clear
  | size
  | evict
  | meanwhile (backend : Backend) (limiter : Limiter α) (epoch : Int) (millis : Nat)

inductive Reply where
  | context (answer : Except Failure (Except AuthRefusal AuthContext))
  | verdict (answer : Except Failure Bool)
  | decision (answer : Option Bool)
  | count (decisions : Nat)
  | nothing
  deriving DecidableEq

def Reply.isCount : Reply → Bool
  | .count _ => true
  | _ => false

namespace GatewayCall

def isEvict : GatewayCall α → Bool
  | .evict => true
  | _ => false

theorem eq_evict {call : GatewayCall α} (evicts : call.isEvict = true) : call = .evict := by
  cases call with
  | evict => rfl
  | _ => cases evicts

variable [Quantity α]

def perform : GatewayCall α → Step α Reply
  | .authenticate request now => return .context (← authenticateAt request now)
  | .authorize context permission => return .verdict (.ok (← Pipeline.authorize context permission))
  | .authorizeEndpoint key clientIp => return .verdict (← Pipeline.authorizeEndpoint key clientIp)
  | .allowsIp app clientIp => return .verdict (← Pipeline.allowsIp app clientIp)
  | .isRateLimited key tokens => return .verdict (← Pipeline.isRateLimited key tokens)
  | .lookUp question => return .decision (← cached? question)
  | .remember question allowed => do
    Pipeline.remember question allowed
    return .nothing
  | .clear => do
    modify fun p => p.withCache p.gateway.cache.clear
    return .nothing
  | .size => return .count (← get).gateway.cache.size
  | .evict => return .count (← evictDecisions)
  | .meanwhile backend limiter epoch millis => do
    modify fun p => { p with
      backend, epoch
      gateway := { p.gateway with limiter }
      clock := p.clock + millis }
    return .nothing

theorem alike_evict (p : Pipeline α) : Alike p (evict.perform p).2 :=
  ⟨(p.gateway.cache.evict p.instant).2, rfl, DecisionCache.agreesFrom_evict _ _⟩

theorem alike_perform (call : GatewayCall α) (alike : Alike p q) :
    Alike (call.perform p).2 (call.perform q).2 ∧
      ((call.perform p).1 = (call.perform q).1 ∨
        (call.perform p).1.isCount = true ∧ (call.perform q).1.isCount = true) := by
  have respected {β : Type} {step : Step α β} (reply : β → Reply) (respects : Respects step) :
      let told := (do return reply (← step) : Step α Reply)
      Alike (told p).2 (told q).2 ∧ ((told p).1 = (told q).1 ∨
        (told p).1.isCount = true ∧ (told q).1.isCount = true) := by
    obtain ⟨same, still⟩ := (respects.bind fun _ => .pure _) p q alike
    exact ⟨still, .inl same⟩
  cases call with
  | authenticate request now => exact respected .context (.authenticateAt request now)
  | authorize context permission => exact respected (.verdict <| .ok ·) (.authorize context permission)
  | authorizeEndpoint key clientIp => exact respected .verdict (.authorizeEndpoint key clientIp)
  | allowsIp app clientIp => exact respected .verdict (.allowsIp app clientIp)
  | isRateLimited key tokens => exact respected .verdict (.isRateLimited key tokens)
  | lookUp question => exact respected .decision (.cached? question)
  | remember question allowed => exact respected (fun _ => .nothing) (.remember question allowed)
  | clear =>
      obtain ⟨cache, rfl, agrees⟩ := alike
      exact ⟨⟨cache.clear, rfl, agrees.ttl, fun _ _ _ => rfl⟩, .inl rfl⟩
  | size => exact ⟨alike, .inr ⟨rfl, rfl⟩⟩
  | evict =>
      exact ⟨(alike_evict p).symm.trans (alike.trans (alike_evict q)), .inr ⟨rfl, rfl⟩⟩
  | meanwhile backend limiter epoch millis =>
      obtain ⟨cache, rfl, agrees⟩ := alike
      exact ⟨⟨cache, rfl, agrees.later (Nat.mul_le_mul_right _ (Nat.le_add_right _ _))⟩, .inl rfl⟩

end GatewayCall

variable [Quantity α]

def heard : List (GatewayCall α) → Pipeline α → List Reply
  | [], _ => []
  | call :: rest, p =>
    let told := call.perform p
    if told.1.isCount then heard rest told.2 else told.1 :: heard rest told.2

theorem heard_filter (calls : List (GatewayCall α)) (alike : Alike p q) :
    heard calls p = heard (calls.filter (! ·.isEvict)) q := by
  induction calls generalizing p q with
  | nil => rfl
  | cons call rest ih =>
      obtain ⟨still, told⟩ := call.alike_perform alike
      cases evicts : call.isEvict with
      | true =>
          obtain rfl := GatewayCall.eq_evict evicts
          exact ih ((GatewayCall.alike_evict p).symm.trans alike)
      | false =>
          rw [List.filter_cons_of_pos (by simp [evicts]), heard, heard, ih still]
          rcases told with same | ⟨counted, counts⟩
          · rw [same]
          · rw [if_pos counted, if_pos counts]

/-- Evictions can be left out of a run or put into it anywhere, and nothing else that is told
changes. Each one drops the decisions that no longer answer, and tells how many. -/
theorem evictions_unheard {calls others : List (GatewayCall α)}
    (same : (calls.filter fun call => ! call.isEvict) = others.filter fun call => ! call.isEvict)
    (p : Pipeline α) :
    heard calls p = heard others p ∧
      let answers (p : Pipeline α) (row : Question × Decision) :=
        p.gateway.cache.get? p.instant row.1
      let rows := p.gateway.cache.decisions.rows
      let (count, after) := evictDecisions p
      count = rows.countP (fun row => (answers p row).isNone) ∧
      after.gateway.cache.decisions.rows = rows.filter (fun row => (answers p row).isSome) ∧
      ∀ row ∈ after.gateway.cache.decisions.rows, answers after row = some row.2.allowed := by
  refine ⟨?_, DecisionCache.count_evict _ _, DecisionCache.rows_evict _ _, fun row member => ?_⟩
  · rw [heard_filter calls (.refl p), same, ← heard_filter others (.refl p)]
  · exact DecisionCache.get?_of_mem_evict member

/-- An app is blocked while a decision about it is remembered. Evictions before and after the
decision ends change nothing that the client hears. -/
theorem evictions_unheard_of_blocked :
    let key : Key := ⟨⟨"app"⟩, ⟨"endpoint"⟩⟩
    let app : App := .new key.app "key" "secret"
    let known := { Backend.empty ⟨"", 1⟩ .defaults with apps := .put .empty app }
    let blocked := { known with apps := .put .empty app.block }
    let p : Pipeline Rat :=
      { (idle known 0 : Pipeline Rat) with gateway := .new (.ofMillis 5) 0 }
    let ask : GatewayCall Rat := .authorizeEndpoint key ""
    let wait (millis : Nat) : GatewayCall Rat := .meanwhile blocked .empty 0 millis
    let calls := [ask, wait 4, ask, wait 1, ask]
    let others := [ask, wait 4, .evict, ask, wait 1, .evict, .evict, ask]
    heard others p = heard calls p ∧ heard calls p = [.verdict (.ok true), .nothing,
      .verdict (.ok true), .nothing, .verdict (.ok false)] := by
  intro key app known blocked p ask wait calls others
  have same : (others.filter fun call => ! call.isEvict) =
      calls.filter fun call => ! call.isEvict := rfl
  exact ⟨(evictions_unheard same p).1, by decide +kernel⟩

end Pipeline

end LogPipeline
