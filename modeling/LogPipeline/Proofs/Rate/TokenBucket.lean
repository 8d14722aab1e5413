import LogPipeline.Rate.TokenBucket
import Mathlib.Algebra.Order.Field.Rat
import Mathlib.Tactic.Ring
import Mathlib.Tactic.Linarith
import Mathlib.Tactic.Positivity
import Mathlib.Tactic.GCongr

/-!
# What a token bucket grants

The amounts are exact fractions here. A bucket never owes tokens and never holds more than its
capacity. While its limits stay as they are, what it grants and what it still holds comes to no
more than what it held before and what has come in at its rate since.
-/

namespace LogPipeline

namespace Quantity

theorem least_eq_min (x y : Rat) : least x y = min x y := by
  simp [least, atMost, min_def]

theorem greatest_eq_max (x y : Rat) : greatest x y = max x y := by
  simp [greatest, atMost, max_def]

theorem millis_eq (d : Nanos) : (millis d : Rat) = d / 1000000 := by
  have whole : ((1000000000 * (d / 1000000000) + d % 1000000000 : Nat) : Rat) = (d : Nat) :=
    congrArg Nat.cast (Nat.div_add_mod d 1000000000)
  rw [← whole]
  push_cast
  change (((d / 1000000000 : Nat) : Rat) + ((d % 1000000000 : Nat) : Rat) / (1000000000 : Nat)) *
    (1000 : Nat) = _
  push_cast
  ring

end Quantity

namespace TokenBucket

/-! ## Calls -/

inductive Call where
  | refill (now : Nanos)
  | tryTake (count : UInt32)
  | reconfigure (rate capacity : UInt32) (now : Nanos)

namespace Call

def instant? : Call → Option Nanos
  | .refill now => some now
  | .tryTake _ => none
  | .reconfigure _ _ now => some now

def limits : UInt32 × UInt32 → Call → UInt32 × UInt32
  | _, .reconfigure rate capacity _ => (rate, capacity)
  | before, _ => before

def IsSteady : Call → Prop
  | .reconfigure .. => False
  | _ => True

instance : DecidablePred IsSteady
  | .refill _ | .tryTake _ => .isTrue trivial
  | .reconfigure .. => .isFalse id

end Call

def Chronological (start : Nanos) (calls : List Call) : Prop :=
  (start :: calls.filterMap Call.instant?).IsChain (· ≤ ·)

instance (start : Nanos) (calls : List Call) : Decidable (Chronological start calls) :=
  inferInstanceAs (Decidable (List.IsChain _ _))

def lastInstant (start : Nanos) (calls : List Call) : Nanos :=
  (calls.filterMap Call.instant?).getLastD start

section

variable {α : Type} [Quantity α]

def apply (b : TokenBucket α) : Call → TokenBucket α
  | .refill now => b.refill now
  | .tryTake count => (b.tryTake count).2
  | .reconfigure rate capacity now => b.reconfigure rate capacity now

def after (b : TokenBucket α) (calls : List Call) : TokenBucket α :=
  calls.foldl apply b

def grant (b : TokenBucket α) : Call → Nat
  | .tryTake count => if (b.tryTake count).1 then count.toNat else 0
  | _ => 0

def granted (b : TokenBucket α) : List Call → Nat
  | [] => 0
  | call :: rest => b.grant call + (b.apply call).granted rest

end

/-! ## Single calls -/

section

variable (b : TokenBucket Rat) (count : UInt32)

theorem refill_tokens (now : Nanos) :
    (b.refill now).tokens = min (b.tokens +
      b.ratePerSecond * (((now - b.lastRefill : Nat) : Rat) / 1000000) / 1000) b.capacity := by
  have amount : (b.refill now).tokens = min (b.tokens +
      Quantity.millis (now - b.lastRefill) * (b.ratePerSecond / (1000 : Nat))) b.capacity :=
    Quantity.least_eq_min _ _
  rw [amount, Quantity.millis_eq]
  push_cast
  ring_nf

theorem reconfigure_tokens (rate capacity : UInt32) (now : Nanos) :
    (b.reconfigure rate capacity now).tokens = min ((b.refill now).tokens +
      max ((capacity.toNat : Rat) - b.capacity) 0) capacity.toNat :=
  (Quantity.least_eq_min _ _).trans
    (congrArg (fun added => min ((b.refill now).tokens + added) _) (Quantity.greatest_eq_max _ _))

theorem tryTake_of_le (enough : (count.toNat : Rat) ≤ b.tokens) :
    b.tryTake count = (true, { b with tokens := b.tokens - count.toNat }) :=
  if_pos (decide_eq_true enough)

theorem tryTake_of_lt (short : b.tokens < (count.toNat : Rat)) : b.tryTake count = (false, b) :=
  if_neg (by simpa [Quantity.atMost, Quantity.ofNat] using short)

theorem tryTake_spec :
    ((b.tryTake count).1 = true ↔ (count.toNat : Rat) ≤ b.tokens) ∧
      ((b.tryTake count).1 = false → (b.tryTake count).2 = b) := by
  rcases le_or_gt (count.toNat : Rat) b.tokens with enough | short
  · rw [tryTake_of_le b count enough]
    exact ⟨⟨fun _ => enough, fun _ => rfl⟩, nofun⟩
  · rw [tryTake_of_lt b count short]
    exact ⟨⟨nofun, fun enough => absurd enough short.not_ge⟩, fun _ => rfl⟩

end

/-! ## Every sequence of calls -/

structure Sound (b : TokenBucket Rat) : Prop where
  rate : 0 ≤ b.ratePerSecond
  tokens : 0 ≤ b.tokens
  capped : b.tokens ≤ b.capacity

theorem Sound.full (rate capacity : UInt32) (now : Nanos) :
    (full rate capacity now : TokenBucket Rat).Sound :=
  ⟨Nat.cast_nonneg rate.toNat, Nat.cast_nonneg capacity.toNat, le_refl _⟩

variable {b : TokenBucket Rat}

theorem Sound.refill (sound : b.Sound) (now : Nanos) : (b.refill now).Sound := by
  have income : 0 ≤ b.ratePerSecond * (((now - b.lastRefill : Nat) : Rat) / 1000000) / 1000 := by
    have := sound.rate
    positivity
  refine ⟨sound.rate, ?_, ?_⟩
  · rw [refill_tokens]
    exact le_min (add_nonneg sound.tokens income) (sound.tokens.trans sound.capped)
  · rw [refill_tokens]
    exact min_le_right _ _

theorem Sound.reconfigure (sound : b.Sound) (rate capacity : UInt32) (now : Nanos) :
    (b.reconfigure rate capacity now).Sound := by
  refine ⟨Nat.cast_nonneg rate.toNat, ?_, ?_⟩
  · rw [reconfigure_tokens]
    exact le_min (add_nonneg (sound.refill now).tokens (le_max_right _ _)) (Nat.cast_nonneg _)
  · rw [reconfigure_tokens]
    exact min_le_right _ _

theorem Sound.tryTake (sound : b.Sound) (count : UInt32) : (b.tryTake count).2.Sound := by
  rcases le_or_gt (count.toNat : Rat) b.tokens with enough | short
  · rw [tryTake_of_le b count enough]
    have some : (0 : Rat) ≤ count.toNat := Nat.cast_nonneg _
    exact ⟨sound.rate, sub_nonneg.mpr enough, (sub_le_self _ some).trans sound.capped⟩
  · rw [tryTake_of_lt b count short]
    exact sound

theorem Sound.apply (sound : b.Sound) (call : Call) : (b.apply call).Sound := by
  cases call with
  | refill now => exact sound.refill now
  | tryTake count => exact sound.tryTake count
  | reconfigure rate capacity now => exact sound.reconfigure rate capacity now

theorem Sound.after (sound : b.Sound) (calls : List Call) : (b.after calls).Sound := by
  induction calls generalizing b with
  | nil => exact sound
  | cons call rest ih => exact ih (sound.apply call)

/-! ## What is granted between two instants -/

def income (rate : Rat) (span : Nanos) : Rat :=
  rate * (span / 1000000) / 1000

theorem income_split (rate : Rat) {first second third : Nat} (early : first ≤ second)
    (late : second ≤ third) :
    income rate (third - first) = income rate (second - first) + income rate (third - second) := by
  have spans : third - first = (second - first) + (third - second) := by omega
  simp only [income, spans, Nat.cast_add]
  ring

theorem income_nonneg {rate : Rat} (sign : 0 ≤ rate) (span : Nanos) : 0 ≤ income rate span := by
  unfold income
  positivity

theorem lastInstant_cons (start : Nanos) (call : Call) (rest : List Call) :
    lastInstant start (call :: rest) = lastInstant (call.instant?.getD start) rest := by
  cases call with
  | refill now => exact List.getLastD_cons
  | tryTake count => rfl
  | reconfigure rate capacity now => exact List.getLastD_cons

theorem lastInstant_append (start : Nanos) (first second : List Call) :
    lastInstant start (first ++ second) = lastInstant (lastInstant start first) second := by
  induction first generalizing start with
  | nil => rfl
  | cons call rest ih => rw [List.cons_append, lastInstant_cons, lastInstant_cons, ih]

theorem chronological_cons {start : Nanos} {call : Call} {rest : List Call} :
    Chronological start (call :: rest) ↔
      start ≤ call.instant?.getD start ∧ Chronological (call.instant?.getD start) rest := by
  cases call with
  | refill now => exact List.isChain_cons_cons
  | tryTake count => exact ⟨fun later => ⟨le_refl start, later⟩, And.right⟩
  | reconfigure rate capacity now => exact List.isChain_cons_cons

theorem Chronological.le_lastInstant {start : Nanos} {calls : List Call}
    (chronological : Chronological start calls) : start ≤ lastInstant start calls := by
  induction calls generalizing start with
  | nil => exact le_refl start
  | cons call rest ih =>
      obtain ⟨ahead, later⟩ := chronological_cons.mp chronological
      rw [lastInstant_cons]
      exact ahead.trans (ih later)

theorem Chronological.of_append {start : Nanos} {first second : List Call}
    (chronological : Chronological start (first ++ second)) :
    Chronological (lastInstant start first) second := by
  induction first generalizing start with
  | nil => exact chronological
  | cons call rest ih =>
      rw [lastInstant_cons]
      exact ih (chronological_cons.mp chronological).2

section

variable {α : Type} [Quantity α] (b : TokenBucket α)

theorem tryTake_eq (count : UInt32) :
    (b.tryTake count).2 = { b with tokens := (b.tryTake count).2.tokens } := by
  unfold tryTake
  dsimp only
  split <;> rfl

theorem lastRefill_apply (call : Call) :
    (b.apply call).lastRefill = call.instant?.getD b.lastRefill := by
  cases call with
  | refill now => rfl
  | tryTake count =>
      rw [apply, tryTake_eq]
      rfl
  | reconfigure rate capacity now => rfl

theorem lastRefill_after (calls : List Call) :
    (b.after calls).lastRefill = lastInstant b.lastRefill calls := by
  induction calls generalizing b with
  | nil => rfl
  | cons call rest ih =>
      rw [lastInstant_cons, ← lastRefill_apply]
      exact ih (b.apply call)

end

def Limited (b : TokenBucket Rat) (limits : UInt32 × UInt32) : Prop :=
  b.ratePerSecond = limits.1.toNat ∧ b.capacity = limits.2.toNat

theorem Limited.apply {b : TokenBucket Rat} {limits : UInt32 × UInt32} (limited : b.Limited limits)
    (call : Call) : (b.apply call).Limited (call.limits limits) := by
  cases call with
  | refill now => exact limited
  | tryTake count =>
      change Limited (b.tryTake count).2 limits
      rw [tryTake_eq]
      exact limited
  | reconfigure rate capacity now => exact ⟨rfl, rfl⟩

theorem Limited.after {b : TokenBucket Rat} {limits : UInt32 × UInt32} (limited : b.Limited limits)
    (calls : List Call) : (b.after calls).Limited (calls.foldl Call.limits limits) := by
  induction calls generalizing b limits with
  | nil => exact limited
  | cons call rest ih => exact ih (limited.apply call)

theorem ratePerSecond_apply (b : TokenBucket Rat) {call : Call} (steady : call.IsSteady) :
    (b.apply call).ratePerSecond = b.ratePerSecond := by
  cases call with
  | refill now => rfl
  | tryTake count => rw [apply, tryTake_eq]
  | reconfigure rate capacity now => cases steady

/-- What a steady call grants and what is left afterwards comes to no more than what there was and
what has come in. -/
theorem grant_add_tokens_le (b : TokenBucket Rat) (call : Call) (steady : call.IsSteady) :
    (b.grant call : Rat) + (b.apply call).tokens ≤
      b.tokens + income b.ratePerSecond (call.instant?.getD b.lastRefill - b.lastRefill) := by
  cases call with
  | refill now =>
      have capped : (b.refill now).tokens ≤
          b.tokens + income b.ratePerSecond (now - b.lastRefill) := by
        rw [refill_tokens]
        exact min_le_left _ _
      have nothing : (b.grant (.refill now) : Rat) = 0 := Nat.cast_zero
      rw [nothing, zero_add]
      exact capped
  | tryTake count =>
      have idle : income b.ratePerSecond (b.lastRefill - b.lastRefill) = 0 := by
        simp [income]
      change (b.grant (.tryTake count) : Rat) + (b.tryTake count).2.tokens ≤
        b.tokens + income b.ratePerSecond (b.lastRefill - b.lastRefill)
      rw [idle, add_zero]
      rcases le_or_gt (count.toNat : Rat) b.tokens with enough | short
      · simp [grant, tryTake_of_le b count enough]
      · simp [grant, tryTake_of_lt b count short]
  | reconfigure rate capacity now => cases steady

theorem granted_add_tokens_le (b : TokenBucket Rat) (calls : List Call)
    (chronological : Chronological b.lastRefill calls) (steady : ∀ call ∈ calls, call.IsSteady) :
    (b.granted calls : Rat) + (b.after calls).tokens ≤
      b.tokens + income b.ratePerSecond (lastInstant b.lastRefill calls - b.lastRefill) := by
  induction calls generalizing b with
  | nil => simp [granted, after, lastInstant, income]
  | cons call rest ih =>
      obtain ⟨first, others⟩ := List.forall_mem_cons.mp steady
      obtain ⟨ahead, later⟩ := chronological_cons.mp chronological
      have step := grant_add_tokens_le b call first
      have run := ih (b.apply call) (by rwa [lastRefill_apply]) others
      rw [ratePerSecond_apply b first, lastRefill_apply] at run
      have total : (b.granted (call :: rest) : Rat) =
          b.grant call + (b.apply call).granted rest := Nat.cast_add _ _
      rw [total, lastInstant_cons, income_split _ ahead later.le_lastInstant]
      change _ + ((b.apply call).after rest).tokens ≤ _
      linarith

/-! ## Refilling in several steps -/

theorem refill_refill (sound : b.Sound) {between now : Nanos} (first : b.lastRefill ≤ between)
    (second : between ≤ now) : (b.refill between).refill now = b.refill now := by
  have more : 0 ≤ income b.ratePerSecond (now - between) := income_nonneg sound.rate _
  have same : ((b.refill between).refill now).tokens = (b.refill now).tokens := by
    rw [refill_tokens, refill_tokens, refill_tokens]
    change min (min (b.tokens + income _ (between - b.lastRefill)) b.capacity +
      income b.ratePerSecond (now - between)) b.capacity =
        min (b.tokens + income _ (now - b.lastRefill)) b.capacity
    rw [income_split _ first second, min_add, min_assoc, add_assoc,
      min_eq_right (le_add_of_nonneg_right more)]
  change { b.refill now with tokens := ((b.refill between).refill now).tokens } = b.refill now
  rw [same]

theorem after_refills (sound : b.Sound) (instants : List Nanos) (now : Nanos)
    (chronological : Chronological b.lastRefill ((instants ++ [now]).map .refill)) :
    b.after ((instants ++ [now]).map .refill) = b.refill now := by
  induction instants generalizing b with
  | nil => rfl
  | cons first rest ih =>
      obtain ⟨ahead, later⟩ := chronological_cons.mp chronological
      have last : first ≤ now := by
        have reached := later.le_lastInstant
        simpa [lastInstant, Call.instant?] using reached
      exact (ih (sound.refill first) later).trans (refill_refill sound ahead last)

/-- However a bucket is used, it never owes tokens nor holds more than its capacity, and hands out
tokens exactly if it has them. As long as its limits stay, it grants no more than what it held and
what came in at its rate since, and it does not matter in how many steps that came in. -/
theorem granted_le (rate capacity : UInt32) (start : Nanos) (early segment : List Call)
    (chronological : Chronological start (early ++ segment))
    (steady : ∀ call ∈ segment, call.IsSteady) :
    let b := (full rate capacity start : TokenBucket Rat).after early
    let limits := early.foldl Call.limits (rate, capacity)
    let span := lastInstant start (early ++ segment) - lastInstant start early
    (b.ratePerSecond = limits.1.toNat ∧ b.capacity = limits.2.toNat) ∧
      (0 ≤ b.tokens ∧ b.tokens ≤ b.capacity) ∧
      (∀ count, ((b.tryTake count).1 = true ↔ (count.toNat : Rat) ≤ b.tokens) ∧
        ((b.tryTake count).1 = false → (b.tryTake count).2 = b)) ∧
      (b.granted segment : Rat) ≤ b.tokens + b.ratePerSecond * (span / 1000000) / 1000 ∧
      (b.granted segment : Rat) ≤ b.capacity + b.ratePerSecond * (span / 1000000) / 1000 ∧
      ∀ instants now, Chronological b.lastRefill ((instants ++ [now]).map .refill) →
        b.after ((instants ++ [now]).map .refill) = b.refill now := by
  intro b limits span
  have sound : b.Sound := (Sound.full rate capacity start).after early
  have fresh : (full rate capacity start : TokenBucket Rat).Limited (rate, capacity) := ⟨rfl, rfl⟩
  have limited : b.Limited limits := fresh.after early
  have reached : b.lastRefill = lastInstant start early := lastRefill_after _ early
  have bound : (b.granted segment : Rat) ≤ b.tokens + income b.ratePerSecond span := by
    have run := granted_add_tokens_le b segment (reached ▸ chronological.of_append) steady
    rw [reached, ← lastInstant_append] at run
    exact (le_add_of_nonneg_right (sound.after segment).tokens).trans run
  refine ⟨limited, ⟨sound.tokens, sound.capped⟩, tryTake_spec b, bound, ?_, ?_⟩
  · exact bound.trans (add_le_add_left sound.capped _)
  · exact fun instants now => after_refills sound instants now

/-- A bucket that was emptied and then widened grants exactly as much as it can. -/
theorem granted_le_attained :
    let early : List Call := [.tryTake 5, .reconfigure 20 8 (.ofMillis 200)]
    let segment : List Call := [.tryTake 4, .refill (.ofMillis 400), .tryTake 5, .tryTake 1]
    let b := (full 10 5 0 : TokenBucket Rat).after early
    let span := lastInstant 0 (early ++ segment) - lastInstant 0 early
    Chronological 0 (early ++ segment) ∧ (∀ call ∈ segment, call.IsSteady) ∧
      b.granted segment = 9 ∧ b.tokens = 5 ∧ b.ratePerSecond * (span / 1000000) / 1000 = 4 ∧
      (b.granted segment : Rat) ≤ b.tokens + b.ratePerSecond * (span / 1000000) / 1000 := by
  intro early segment b span
  have chronological : Chronological 0 (early ++ segment) := by decide +kernel
  have steady : ∀ call ∈ segment, call.IsSteady := by decide +kernel
  obtain ⟨-, -, -, bound, -⟩ := granted_le 10 5 0 early segment chronological steady
  exact ⟨chronological, steady, by decide +kernel, by decide +kernel, by decide +kernel, bound⟩

end TokenBucket

end LogPipeline
