import Mathlib.Algebra.Order.Field.Rat
import LogPipeline.Proofs.Pipeline.Steps
import LogPipeline.Proofs.Rate.Limiter

namespace LogPipeline

open Backend Quantity

variable {α : Type}

namespace Pipeline

def bucket? (p : Pipeline α) (key : Key) : Option (TokenBucket α) :=
  p.gateway.limiter.buckets.get? key

def withLimiter (limiter : Limiter α) (p : Pipeline α) : Pipeline α :=
  { p with gateway := { p.gateway with limiter } }

structure Idling (p : Pipeline α) : Prop where
  plain : p.backend.Plain
  ready : p.ready = []
  timers : p.timers = []

theorem Idling.withLimiter {p : Pipeline α} (idling : p.Idling) (limiter : Limiter α) :
    (p.withLimiter limiter).Idling :=
  ⟨idling.plain, idling.ready, idling.timers⟩

end Pipeline

variable [Quantity α]

namespace TokenBucket

def broughtInLine (app? : Option App) (now : Nanos) (b? : Option (TokenBucket α)) :
    Option (TokenBucket α) :=
  match app? with
  | none => b?
  | some app =>
    if app.rateLimit = 0 ∨ app.burstCapacity = 0 then none
    else some (inLine b? app.rateLimit app.burstCapacity now)

def IsConfigured (b : TokenBucket α) : Prop :=
  ∃ rate capacity : UInt32, b.config = (ofNat rate.toNat, ofNat capacity.toNat)

variable {b : TokenBucket α}

theorem IsConfigured.of_config {c : TokenBucket α} (configured : b.IsConfigured)
    (same : c.config = b.config) : c.IsConfigured := by
  obtain ⟨rate, capacity, limits⟩ := configured
  exact ⟨rate, capacity, same.trans limits⟩

/-- Numbers that compare as the same are the same. -/
def TellsApart (α : Type) [Quantity α] : Prop :=
  ∀ m n : UInt32, same (ofNat m.toNat : α) (ofNat n.toNat) = true → m = n

theorem tellsApart_rat : TellsApart Rat := by
  intro m n alike
  rw [same, Bool.and_eq_true] at alike
  have equal := le_antisymm (of_decide_eq_true alike.1) (of_decide_eq_true alike.2)
  exact UInt32.toNat_inj.mp (Nat.cast_injective equal)

theorem config_inLine (apart : TellsApart α) {b? : Option (TokenBucket α)}
    (configured : ∀ b, b? = some b → b.IsConfigured) (rate capacity : UInt32) (now : Nanos) :
    (inLine b? rate capacity now).config = (ofNat rate.toNat, ofNat capacity.toNat) := by
  cases b? with
  | none => exact config_full rate capacity now
  | some b =>
      obtain ⟨oldRate, oldCapacity, limits⟩ := configured b rfl
      simp only [inLine]
      split
      · rename_i unchanged
        obtain ⟨rates, capacities⟩ := Prod.mk.inj limits
        rw [hasLimits, rates, capacities, Bool.and_eq_true] at unchanged
        rw [limits, apart _ _ unchanged.1, apart _ _ unchanged.2]
      · exact config_reconfigure b rate capacity now

end TokenBucket

namespace Limits

open Pipeline TokenBucket

variable {p q : Pipeline α} {key other : Key}

/-! ## Questions -/

def lined (key : Key) (p : Pipeline α) : Limiter α :=
  match p.backend.apps.get? key.app with
  | none => p.gateway.limiter
  | some app => (p.gateway.limiter.sync key app.rateLimit app.burstCapacity p.instant).2

def linedBucket? (key : Key) (p : Pipeline α) : Option (TokenBucket α) :=
  broughtInLine (p.backend.apps.get? key.app) p.instant (p.bucket? key)

theorem get?_lined (key other : Key) (p : Pipeline α) :
    (lined key p).buckets.get? other =
      if key = other then linedBucket? key p else p.bucket? other := by
  unfold lined linedBucket?
  cases p.backend.apps.get? key.app with
  | none =>
      by_cases same : key = other
      · rw [if_pos same, ← same]
        rfl
      · rw [if_neg same]
        rfl
  | some app =>
      simp only [broughtInLine]
      by_cases zero : app.rateLimit = 0 ∨ app.burstCapacity = 0
      · rw [if_pos zero]
        exact Limiter.get?_sync_of_zero _ key other zero _
      · rw [if_neg zero]
        exact Limiter.get?_sync_of_ne_zero _ key other zero _

theorem isRateLimited_apply (plain : p.backend.Plain) (key : Key) (tokens : UInt32) :
    isRateLimited key tokens p =
      (.ok (! (linedBucket? key p).all fun b => (b.tryTake tokens).1),
        p.withLimiter ((lined key p).tryAcquire key tokens).2) := by
  have own : (lined key p).buckets.get? key = linedBucket? key p := by rw [get?_lined, if_pos rfl]
  rw [← own, ← Limiter.tryAcquire_fst, isRateLimited, bind_apply, call_apply, on_findApp plain,
    lined]
  cases p.backend.apps.get? key.app <;> rfl

theorem bucket?_isRateLimited (plain : p.backend.Plain) (key other : Key) (tokens : UInt32) :
    (isRateLimited key tokens p).2.bucket? other =
      if key = other then (linedBucket? key p).map fun b => (b.tryTake tokens).2
      else p.bucket? other := by
  rw [isRateLimited_apply plain]
  change ((lined key p).tryAcquire key tokens).2.buckets.get? other = _
  rw [Limiter.get?_tryAcquire, get?_lined, get?_lined, if_pos rfl]
  split <;> rfl

/-! ## Runs -/

inductive Event where
  | putApp (app : App)
  | removeApp (id : AppId)
  | ask (key : Key) (tokens : UInt32)
  | refill
  | advance (millis : Nat)

def Event.asks (key : Key) : Event → Bool
  | .ask asking _ => asking = key
  | _ => false

def Event.perform : Event → Step α (Option (Except Failure Bool))
  | .putApp app => do
    change (.putApp app)
    return none
  | .removeApp id => do
    change (.removeApp id)
    return none
  | .ask key tokens => return some (← isRateLimited key tokens)
  | .refill => do
    refillLimiter
    return none
  | .advance millis => do
    Pipeline.advance millis
    return none

def after (events : List Event) (p : Pipeline α) : Pipeline α :=
  events.foldl (fun p event => (event.perform p).2) p

def answers (key : Key) : List Event → Pipeline α → List (Except Failure Bool)
  | [], _ => []
  | event :: rest, p =>
    let told := event.perform p
    (if event.asks key then told.1.toList else []) ++ answers key rest told.2

theorem advance_apply_of_idling (idling : p.Idling) (millis : Nat) :
    ((Event.advance millis).perform p).2 = { p with clock := p.clock + millis } :=
  advance_of_idle idling.ready idling.timers millis

theorem idling_perform (idling : p.Idling) (event : Event) : (event.perform p).2.Idling := by
  cases event with
  | putApp app => exact ⟨⟨idling.plain.faults, idling.plain.script⟩, idling.ready, idling.timers⟩
  | removeApp id => exact ⟨⟨idling.plain.faults, idling.plain.script⟩, idling.ready, idling.timers⟩
  | ask key tokens =>
      have asked := isRateLimited_apply idling.plain key tokens
      change (isRateLimited key tokens p).2.Idling
      rw [asked]
      exact idling.withLimiter _
  | refill => exact idling.withLimiter _
  | advance millis =>
      rw [advance_apply_of_idling idling]
      exact ⟨idling.plain, idling.ready, idling.timers⟩

/-! ## Limits that an app may have -/

def Configured (p : Pipeline α) : Prop :=
  ∀ key b, p.bucket? key = some b → b.IsConfigured

theorem linedBucket?_configured (apart : TellsApart α) (configured : Configured p) (key : Key) :
    ∀ b, linedBucket? key p = some b → b.IsConfigured := by
  intro b found
  unfold linedBucket? broughtInLine at found
  split at found
  · exact configured key b found
  · rename_i app _
    split at found
    · cases found
    · cases found
      exact ⟨_, _, config_inLine apart (configured key) _ _ _⟩

theorem Configured.perform (apart : TellsApart α) (idling : p.Idling) (configured : Configured p)
    (event : Event) : Configured (event.perform p).2 := by
  cases event with
  | putApp app => exact configured
  | removeApp id => exact configured
  | ask asking tokens =>
      intro key b found
      change (isRateLimited asking tokens p).2.bucket? key = some b at found
      rw [bucket?_isRateLimited idling.plain] at found
      split at found
      · obtain ⟨before, lined, rfl⟩ := Option.map_eq_some_iff.mp found
        exact (linedBucket?_configured apart configured asking before lined).of_config
          (config_tryTake before tokens)
      · exact configured key b found
  | refill =>
      intro key b found
      obtain ⟨before, known, rfl⟩ := Option.map_eq_some_iff.mp
        ((Table.get?_map _ _ key).symm.trans found)
      exact (configured key before known).of_config (config_refill before _)
  | advance millis =>
      rw [advance_apply_of_idling idling]
      exact configured

/-! ## What other keys are told -/

def SameFor (key : Key) (p q : Pipeline α) : Prop :=
  ∃ limiter, q = p.withLimiter limiter ∧ limiter.buckets.get? key = p.bucket? key

theorem SameFor.perform (idling : p.Idling) (same : SameFor key p q) (event : Event) :
    SameFor key (event.perform p).2 (event.perform q).2 ∧
      (event.asks key = true → (event.perform q).1 = (event.perform p).1) := by
  obtain ⟨limiter, rfl, own⟩ := same
  cases event with
  | putApp app => exact ⟨⟨limiter, rfl, own⟩, fun _ => rfl⟩
  | removeApp id => exact ⟨⟨limiter, rfl, own⟩, fun _ => rfl⟩
  | ask asking tokens =>
      have there := idling.withLimiter limiter
      have lined : linedBucket? key (p.withLimiter limiter) = linedBucket? key p :=
        congrArg (broughtInLine _ _) own
      have bucket : (isRateLimited asking tokens (p.withLimiter limiter)).2.bucket? key =
          (isRateLimited asking tokens p).2.bucket? key := by
        rw [bucket?_isRateLimited idling.plain, bucket?_isRateLimited there.plain]
        split <;> rename_i mine
        · rw [mine, lined]
        · exact own
      refine ⟨⟨_, ?_, bucket⟩, fun asks => ?_⟩
      · change (isRateLimited asking tokens (p.withLimiter limiter)).2 =
          (isRateLimited asking tokens p).2.withLimiter _
        rw [isRateLimited_apply idling.plain, isRateLimited_apply there.plain]
        rfl
      · obtain rfl : asking = key := of_decide_eq_true asks
        change some (isRateLimited asking tokens (p.withLimiter limiter)).1 =
          some (isRateLimited asking tokens p).1
        rw [isRateLimited_apply idling.plain, isRateLimited_apply there.plain, lined]
  | refill =>
      refine ⟨⟨_, rfl, ?_⟩, fun _ => rfl⟩
      exact (Table.get?_map _ _ key).trans ((congrArg _ own).trans (Table.get?_map _ _ key).symm)
  | advance millis =>
      rw [advance_apply_of_idling idling, advance_apply_of_idling (idling.withLimiter limiter)]
      exact ⟨⟨limiter, rfl, own⟩, nofun⟩

theorem answers_of_sameFor (idling : p.Idling) (same : SameFor key p q) (events : List Event) :
    answers key events q = answers key events p := by
  induction events generalizing p q with
  | nil => rfl
  | cons event rest ih =>
      obtain ⟨still, told⟩ := same.perform idling event
      have later := ih (idling_perform idling event) still
      rw [answers, answers, later]
      cases asks : event.asks key with
      | true => rw [told asks]
      | false => rfl

/-! ## Every run -/

theorem idling_after (idling : p.Idling) (events : List Event) : (after events p).Idling := by
  induction events generalizing p with
  | nil => exact idling
  | cons event rest ih => exact ih (idling_perform idling event)

theorem configured_after (apart : TellsApart α) (idling : p.Idling) (configured : Configured p)
    (events : List Event) : Configured (after events p) := by
  induction events generalizing p with
  | nil => exact configured
  | cons event rest ih =>
      exact ih (idling_perform idling event) (configured.perform apart idling event)

/-- Right after a question of a key whose app is registered, the bucket has the limits of the app,
or there is none if one of them is zero, and then the key is not limited. If the app is not
registered, a bucket that is there keeps its limits and still limits, and without one the key is not
limited. No question changes the bucket of another key or anything that the other key is told
later. -/
theorem limits_followed (apart : TellsApart α) (idling : p.Idling)
    (configured : Configured p) (events : List Event) (key : Key) (tokens : UInt32) :
    let before := after events p
    let answer := (isRateLimited key tokens before).1
    let q := (isRateLimited key tokens before).2
    let lacks (b : TokenBucket α) : Bool := ! atMost (ofNat tokens.toNat) b.tokens
    (∀ app, before.backend.apps.get? key.app = some app →
      if app.rateLimit = 0 ∨ app.burstCapacity = 0 then
        q.bucket? key = none ∧ answer = .ok false
      else
        (q.bucket? key).map config =
            some (ofNat app.rateLimit.toNat, ofNat app.burstCapacity.toNat) ∧
          answer = .ok (lacks
            (inLine (before.bucket? key) app.rateLimit app.burstCapacity before.instant))) ∧
    (before.backend.apps.get? key.app = none →
      (q.bucket? key).map config = (before.bucket? key).map config ∧
        answer = .ok ((before.bucket? key).any lacks)) ∧
    ∀ other ≠ key, q.bucket? other = before.bucket? other ∧
      ∀ later, answers other later q = answers other later before := by
  intro before answer q lacks
  have rests : before.Idling := idling_after idling events
  have configured : Configured before := configured_after apart idling configured events
  have answered := isRateLimited_apply rests.plain key tokens
  have left (other : Key) := bucket?_isRateLimited rests.plain key other tokens
  have own := left key
  rw [if_pos rfl] at own
  simp only [answer, q, lacks]
  rw [answered] at left own ⊢
  simp only [TokenBucket.tryTake_fst]
  refine ⟨fun app known => ?_, fun unknown => ?_, fun other differs => ?_⟩
  · split <;> rename_i zero
    · have lined : linedBucket? key before = none := by
        rw [linedBucket?, known, broughtInLine, if_pos zero]
      rw [lined] at own ⊢
      exact ⟨own, rfl⟩
    · have lined : linedBucket? key before = some
          (inLine (before.bucket? key) app.rateLimit app.burstCapacity before.instant) := by
        rw [linedBucket?, known, broughtInLine, if_neg zero]
      rw [lined] at own ⊢
      refine ⟨?_, rfl⟩
      rw [own, ← config_inLine apart (configured key) _ _ before.instant]
      exact congrArg some (config_tryTake _ tokens)
  · have lined : linedBucket? key before = before.bucket? key := by
      rw [linedBucket?, unknown]
      rfl
    rw [lined] at own ⊢
    rw [own]
    cases before.bucket? key with
    | none => exact ⟨rfl, rfl⟩
    | some b => exact ⟨congrArg some (config_tryTake b tokens), rfl⟩
  · have same := (left other).trans (if_neg differs.symm)
    exact ⟨same, answers_of_sameFor rests ⟨_, rfl, same⟩⟩

/-- The limits of an app are widened while the buckets of two of its keys are being refilled. The
next question of the one key widens its bucket. The other key's stays narrow, also when the app has
gone. -/
theorem limits_followed_when_widened :
    let app (rate capacity : UInt32) : App :=
      { App.new ⟨"app"⟩ "key" "secret" with rateLimit := rate, burstCapacity := capacity }
    let key : Key := ⟨⟨"app"⟩, ⟨"endpoint"⟩⟩
    let other : Key := ⟨⟨"app"⟩, ⟨"other"⟩⟩
    let p : Pipeline Rat := idle (.empty ⟨"", 1⟩ .defaults) 0
    let events := [.putApp (app 1 1), .ask key 1, .ask other 1, .advance 500, .refill,
      .putApp (app 100 200)]
    let before := after events p
    let answer := (isRateLimited key 1 before).1
    let q := (isRateLimited key 1 before).2
    TellsApart Rat ∧ p.Idling ∧ Configured p ∧
      (before.bucket? key).map config = some (1, 1) ∧
      (q.bucket? key).map config = some (100, 200) ∧ answer = .ok false ∧
      q.bucket? other = before.bucket? other ∧
      answers other [.removeApp ⟨"app"⟩, .ask other 1] q = [.ok true] := by
  intro app key other p events before answer q
  have idling : p.Idling := ⟨⟨rfl, rfl⟩, rfl, rfl⟩
  have configured : Configured p := nofun
  obtain ⟨registered, -, apart⟩ := limits_followed tellsApart_rat idling configured events key 1
  obtain ⟨limits, told⟩ := registered (app 100 200) (by decide +kernel)
  obtain ⟨same, later⟩ := apart other (by decide)
  exact ⟨tellsApart_rat, idling, configured, by decide +kernel, limits,
    told.trans (by decide +kernel), same, (later _).trans (by decide +kernel)⟩

end Limits

end LogPipeline
