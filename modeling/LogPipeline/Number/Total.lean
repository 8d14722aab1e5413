namespace LogPipeline.Number

def total (numbers : List Nat) : Nat :=
  numbers.foldr (fun n rest => n + rest) 0

@[simp] theorem total_nil : total [] = 0 := rfl

@[simp] theorem total_cons (n : Nat) (rest : List Nat) : total (n :: rest) = n + total rest := rfl

end LogPipeline.Number
