import LogPipeline.Identity

namespace LogPipeline

def hexValue (digits : List Char) : Nat :=
  digits.foldl (fun n c => n * 16 + if c.isDigit then c.toNat - 48 else c.toNat - 87) 0

theorem hexValue_concat (digits : List Char) {d : Nat} (small : d < 16) :
    hexValue (digits ++ [d.digitChar]) = hexValue digits * 16 + d := by
  have digit : ∀ d : Fin 16, (if d.val.digitChar.isDigit then d.val.digitChar.toNat - 48
      else d.val.digitChar.toNat - 87) = d.val := by decide
  simp only [hexValue, List.foldl_append, List.foldl_cons, List.foldl_nil, digit ⟨d, small⟩]

theorem hexValue_toDigits (n : Nat) : hexValue (Nat.toDigits 16 n) = n := by
  induction n using Nat.strongRecOn with
  | ind n ih =>
      by_cases small : n < 16
      · rw [Nat.toDigits_of_lt_base small]
        exact (hexValue_concat [] small).trans (Nat.zero_add n)
      · have base := Nat.toDigits_of_base_le (b := 16) (n := n) (by omega) (by omega)
        rw [base, hexValue_concat _ (Nat.mod_lt n (by omega)), ih (n / 16) (by omega)]
        omega

theorem hexValue_zeros (count : Nat) (digits : List Char) :
    hexValue (List.replicate count '0' ++ digits) = hexValue digits := by
  induction count with
  | zero => rfl
  | succ count ih => exact ih

theorem BatchId.hexText_injective {width m n : Nat}
    (same : BatchId.hexText width m = BatchId.hexText width n) : m = n := by
  have digits := congrArg (fun text => hexValue text.toList) same
  simpa only [hexText, String.toList_ofList, hexValue_zeros, hexValue_toDigits] using digits

namespace IdSource

theorem id_injective (s : IdSource) {m n : Nat} (same : s.id m = s.id n) : m = n := by
  have text : s.stem ++ BatchId.hexText 12 m = s.stem ++ BatchId.hexText 12 n :=
    congrArg BatchId.text same
  have lists := congrArg String.toList text
  rw [String.toList_append, String.toList_append] at lists
  exact BatchId.hexText_injective (String.toList_inj.mp (List.append_cancel_left lists))

def Spent (s : IdSource) (id : BatchId) : Prop :=
  ∃ serial < s.next, id = s.id serial

variable {s : IdSource} {id : BatchId}

theorem Spent.ne_fresh (spent : s.Spent id) : id ≠ s.fresh := by
  obtain ⟨serial, before, rfl⟩ := spent
  intro same
  exact Nat.ne_of_lt before (s.id_injective same)

theorem Spent.advance (spent : s.Spent id) : s.advance.Spent id := by
  obtain ⟨serial, before, rfl⟩ := spent
  exact ⟨serial, Nat.lt_succ_of_lt before, rfl⟩

theorem spent_fresh (s : IdSource) : s.advance.Spent s.fresh :=
  ⟨s.next, Nat.lt_succ_self _, rfl⟩

end IdSource

end LogPipeline
