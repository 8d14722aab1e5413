import LogPipeline.Backend.Change

namespace LogPipeline

def Change.IsPlain : Change → Prop
  | .script _ | .faults _ => False
  | _ => True

inductive Outage where
  | unavailable (on : Bool)
  | refuseNext (count : Nat)
  | failWrites (on : Bool)
  deriving DecidableEq, Repr

def Outage.change : Outage → Change
  | .unavailable on => .unavailable on
  | .refuseNext count => .refuseNext count
  | .failWrites on => .failWrites on

theorem Outage.isPlain_change (outage : Outage) : outage.change.IsPlain := by
  cases outage <;> trivial

namespace Backend

def Weathered (a b : Backend) : Prop :=
  ∃ failWrites refuseNext unavailable, b = { a with
    batches := { a.batches with failWrites }
    storage := { a.storage with refuseNext, unavailable } }

variable {a b c : Backend}

theorem Weathered.refl (a : Backend) : Weathered a a :=
  ⟨a.batches.failWrites, a.storage.refuseNext, a.storage.unavailable, rfl⟩

theorem Weathered.trans (one : Weathered a b) (other : Weathered b c) : Weathered a c := by
  obtain ⟨_, _, _, rfl⟩ := one
  obtain ⟨failWrites, refuseNext, unavailable, rfl⟩ := other
  exact ⟨failWrites, refuseNext, unavailable, rfl⟩

theorem weathered_change (outage : Outage) (now : Timestamp) (b : Backend) :
    Weathered b (outage.change.apply now b) := by
  cases outage with
  | unavailable on => exact ⟨b.batches.failWrites, b.storage.refuseNext, on, rfl⟩
  | refuseNext count => exact ⟨b.batches.failWrites, count, b.storage.unavailable, rfl⟩
  | failWrites on => exact ⟨on, b.storage.refuseNext, b.storage.unavailable, rfl⟩

theorem Weathered.get?_batches (weathered : Weathered a b) (id : BatchId) :
    b.batches.get? id = a.batches.get? id := by
  obtain ⟨_, _, _, rfl⟩ := weathered
  rfl

theorem Weathered.telemetry (weathered : Weathered a b) : b.telemetry = a.telemetry := by
  obtain ⟨_, _, _, rfl⟩ := weathered
  rfl

theorem Weathered.notices (weathered : Weathered a b) : b.notices = a.notices := by
  obtain ⟨_, _, _, rfl⟩ := weathered
  rfl

theorem Weathered.calls (weathered : Weathered a b) : b.storage.calls = a.storage.calls := by
  obtain ⟨_, _, _, rfl⟩ := weathered
  rfl

end Backend

end LogPipeline
