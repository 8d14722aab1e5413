import Mathlib.Data.List.Basic

namespace LogPipeline

variable {ε α β : Type}

theorem bind_eq_ok_iff {x : Except ε α} {f : α → Except ε β} {b : β} :
    x >>= f = .ok b ↔ ∃ a, x = .ok a ∧ f a = .ok b := by
  cases x with
  | error e => exact ⟨nofun, nofun⟩
  | ok a => exact ⟨fun done => ⟨a, rfl, done⟩, fun ⟨_, rfl, done⟩ => done⟩

theorem mapError_eq_ok_iff {ε' : Type} {x : Except ε α} {f : ε → ε'} {a : α} :
    x.mapError f = .ok a ↔ x = .ok a := by
  cases x <;> simp [Except.mapError]

theorem check_eq_ok_iff {wrong : Prop} [Decidable wrong] {e : ε} {rest : Unit → Except ε α}
    {a : α} :
    (if wrong then throw e >>= rest else rest ()) = .ok a ↔ ¬wrong ∧ rest () = .ok a := by
  split
  · next holds => exact ⟨nofun, fun ⟨fine, _⟩ => absurd holds fine⟩
  · next fails => exact ⟨fun done => ⟨fails, done⟩, fun ⟨_, done⟩ => done⟩

theorem lastCheck_eq_ok_iff {wrong : Prop} [Decidable wrong] {e : ε} {done : Unit} :
    (if wrong then throw e else pure () : Except ε Unit) = .ok done ↔ ¬wrong := by
  split
  · next holds => exact ⟨nofun, fun fine => absurd holds fine⟩
  · next fails => exact ⟨fun _ => fails, fun _ => rfl⟩

theorem forM_eq_ok_iff {check : β → Except ε Unit} {entries : List β} {done : Unit} :
    entries.forM check = .ok done ↔ ∀ entry ∈ entries, check entry = .ok () := by
  induction entries with
  | nil => exact ⟨fun _ => List.forall_mem_nil _, fun _ => rfl⟩
  | cons entry rest ih =>
      rw [List.forall_mem_cons, ← ih]
      exact bind_eq_ok_iff.trans ⟨fun ⟨_, first, others⟩ => ⟨first, others⟩,
        fun ⟨first, others⟩ => ⟨_, first, others⟩⟩

end LogPipeline
