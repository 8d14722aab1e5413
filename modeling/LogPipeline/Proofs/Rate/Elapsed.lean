import LogPipeline.Proofs.Rate.TokenBucket

/-!
# The time that is credited

A bucket credits the time from its last refill to the instant of a call. The next call counts from
that instant, also when it is an earlier one. So the last refill is at the latest instant only as
long as instants do not go back, and what lies between an earlier instant and the latest one is
credited once more when the instants rise again.
-/

namespace LogPipeline.TokenBucket

variable {α : Type} [Quantity α]

def elapsed (b : TokenBucket α) (call : Call) : Nanos :=
  call.instant?.getD b.lastRefill - b.lastRefill

def credited (b : TokenBucket α) : List Call → Nanos
  | [] => 0
  | call :: rest => b.elapsed call + (b.apply call).credited rest

def latest (start : Nanos) (calls : List Call) : Nanos :=
  (calls.filterMap Call.instant?).foldl max start

/-- The time that calls pass over which was passed before: each call the part of its way from the
last instant that lies before the latest one. -/
def repeated (last latest : Nanos) : List Call → Nanos
  | [] => 0
  | call :: rest =>
    let now := call.instant?.getD last
    (min now latest - last) + repeated now (max latest now) rest

theorem latest_cons {last top : Nanos} (reached : last ≤ top) (call : Call) (rest : List Call) :
    latest top (call :: rest) = latest (max top (call.instant?.getD last)) rest := by
  cases call with
  | refill now => rfl
  | tryTake count =>
      change latest top rest = latest (max top last) rest
      rw [Nat.max_eq_left reached]
  | reconfigure rate capacity now => rfl

theorem lastInstant_eq_latest_iff (start : Nanos) (calls : List Call) :
    (∀ early, early <+: calls → lastInstant start early = latest start early) ↔
      Chronological start calls := by
  induction calls generalizing start with
  | nil =>
      refine ⟨fun _ => List.isChain_singleton start, fun _ early before => ?_⟩
      rw [List.prefix_nil.mp before]
      rfl
  | cons call rest ih =>
      rw [chronological_cons, ← ih]
      constructor
      · intro agree
        have ahead : start ≤ call.instant?.getD start := by
          have first := agree [call] (List.prefix_append [call] rest)
          rw [lastInstant_cons, latest_cons le_rfl] at first
          exact (Nat.le_max_left start _).trans (Nat.le_of_eq first.symm)
        refine ⟨ahead, fun early before => ?_⟩
        have next := agree (call :: early) ((List.prefix_cons_inj call).mpr before)
        rwa [lastInstant_cons, latest_cons le_rfl, Nat.max_eq_right ahead] at next
      · rintro ⟨ahead, later⟩ early before
        rcases List.prefix_cons_iff.mp before with rfl | ⟨others, rfl, shorter⟩
        · rfl
        · rw [lastInstant_cons, latest_cons le_rfl, Nat.max_eq_right ahead]
          exact later others shorter

theorem span_split {last top now : Nat} (reached : last ≤ top) :
    (now - last) + top = (min now top - last) + max top now := by
  omega

/-- The induction keeps a bound `top` of the instants so far beside the last one. -/
theorem credited_add_top (b : TokenBucket α) (calls : List Call) {top : Nanos}
    (reached : b.lastRefill ≤ top) :
    b.credited calls + top = latest top calls + repeated b.lastRefill top calls := by
  induction calls generalizing b top with
  | nil => exact Nat.add_comm _ _
  | cons call rest ih =>
      let now := call.instant?.getD b.lastRefill
      have bound : (b.apply call).lastRefill ≤ max top now := by
        rw [lastRefill_apply]
        exact Nat.le_max_right _ _
      have run := ih (b.apply call) bound
      rw [lastRefill_apply] at run
      calc b.credited (call :: rest) + top
          = ((now - b.lastRefill) + top) + (b.apply call).credited rest := Nat.add_right_comm _ _ _
        _ = (min now top - b.lastRefill) + ((b.apply call).credited rest + max top now) := by
          rw [span_split reached, Nat.add_assoc, Nat.add_comm (max top now)]
        _ = latest (max top now) rest +
            ((min now top - b.lastRefill) + repeated now (max top now) rest) := by
          rw [run, Nat.add_left_comm]
        _ = latest top (call :: rest) + repeated b.lastRefill top (call :: rest) := by
          rw [latest_cons reached, repeated]

theorem repeated_of_chronological {start : Nanos} {calls : List Call}
    (chronological : Chronological start calls) : repeated start start calls = 0 := by
  induction calls generalizing start with
  | nil => rfl
  | cons call rest ih =>
      obtain ⟨ahead, later⟩ := chronological_cons.mp chronological
      rw [repeated, Nat.max_eq_right ahead, ih later, Nat.min_eq_right ahead, Nat.sub_self]

/-- The last refill is at the instant that was given last. That is the latest one throughout
exactly if no instant goes back. The elapsed time that is credited is the time up to the latest
instant, and beyond that exactly what was passed over again; without an instant that goes back that
is nothing. -/
theorem credited_eq (rate capacity : UInt32) (start : Nanos) (calls : List Call) :
    let fresh : TokenBucket α := full rate capacity start
    let b := fresh.after calls
    b.lastRefill = lastInstant start calls ∧
      ((∀ early, early <+: calls → (fresh.after early).lastRefill = latest start early) ↔
        Chronological start calls) ∧
      fresh.credited calls + start = latest start calls + repeated start start calls ∧
      (Chronological start calls → repeated start start calls = 0) ∧
      ∀ now, (b.refill now).tokens = Quantity.least
        (b.tokens + Quantity.millis (b.elapsed (.refill now)) * b.tokensPerMilli) b.capacity := by
  intro fresh b
  have reached (early : List Call) : (fresh.after early).lastRefill = lastInstant start early :=
    lastRefill_after fresh early
  refine ⟨reached calls, ?_, credited_add_top fresh calls le_rfl, repeated_of_chronological,
    fun now => rfl⟩
  simp only [reached]
  exact lastInstant_eq_latest_iff start calls

/-- Buckets are refilled by an instant that was read before the limits changed. The next refill
credits the time since that instant for the second time. -/
theorem late_refill_credited_twice :
    let b : TokenBucket Rat := full 10 20 0
    let calls : List Call :=
      [.tryTake 20, .reconfigure 20 20 (.ofMillis 100), .refill (.ofMillis 50)]
    let further := calls ++ [.refill (.ofMillis 100)]
    (b.after calls).lastRefill = .ofMillis 50 ∧ latest 0 calls = .ofMillis 100 ∧
      b.credited further = .ofMillis 150 ∧ latest 0 further = .ofMillis 100 ∧
      (b.after calls).tokens = 1 ∧ (b.after further).tokens = 2 := by
  decide +kernel

end LogPipeline.TokenBucket
