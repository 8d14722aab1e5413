/-!
# Catalogues

Finite collections of values that name their own keys, one value for each key, in the order in
which the keys came in. A value that takes the place of another stands where that one stood.
-/

namespace LogPipeline

variable {κ α : Type}

theorem nodup_filter_keys (keyOf : α → κ) (keep : α → Bool) {values : List α}
    (h : (values.map keyOf).Nodup) : ((values.filter keep).map keyOf).Nodup :=
  h.sublist (List.filter_sublist.map keyOf)

variable [DecidableEq κ]

def putBy (keyOf : α → κ) (a : α) : List α → List α
  | [] => [a]
  | b :: rest => if keyOf b = keyOf a then a :: rest else b :: putBy keyOf a rest

theorem map_putBy (keyOf : α → κ) (a : α) (values : List α) :
    (putBy keyOf a values).map keyOf =
      if keyOf a ∈ values.map keyOf then values.map keyOf
      else values.map keyOf ++ [keyOf a] := by
  induction values with
  | nil => rfl
  | cons b rest ih =>
    by_cases h : keyOf b = keyOf a
    · simp [putBy, h]
    · have h' : keyOf a ≠ keyOf b := fun e => h e.symm
      simp only [putBy, h, if_false, List.map_cons, ih, List.mem_cons, h', false_or]
      split <;> rfl

theorem nodup_putBy (keyOf : α → κ) (a : α) {values : List α}
    (h : (values.map keyOf).Nodup) : ((putBy keyOf a values).map keyOf).Nodup := by
  rw [map_putBy]
  split
  · exact h
  · rename_i absent
    rw [List.nodup_append]
    refine ⟨h, by simp, ?_⟩
    intro k hk l hl same
    rw [List.mem_singleton] at hl
    exact absent (hl ▸ same ▸ hk)

structure Catalogue (keyOf : α → κ) where
  values : List α
  distinct : (values.map keyOf).Nodup

namespace Catalogue

variable {keyOf : α → κ}

def empty : Catalogue keyOf := ⟨[], List.nodup_nil⟩

instance : Inhabited (Catalogue keyOf) := ⟨empty⟩

def get? (c : Catalogue keyOf) (key : κ) : Option α :=
  c.values.find? fun a => keyOf a = key

def contains (c : Catalogue keyOf) (key : κ) : Bool :=
  (c.get? key).isSome

def put (c : Catalogue keyOf) (a : α) : Catalogue keyOf :=
  ⟨putBy keyOf a c.values, nodup_putBy keyOf a c.distinct⟩

def filter (c : Catalogue keyOf) (keep : α → Bool) : Catalogue keyOf :=
  ⟨c.values.filter keep, nodup_filter_keys keyOf keep c.distinct⟩

def erase (c : Catalogue keyOf) (key : κ) : Catalogue keyOf :=
  c.filter fun a => keyOf a ≠ key

def size (c : Catalogue keyOf) : Nat :=
  c.values.length

def isEmpty (c : Catalogue keyOf) : Bool :=
  c.values.isEmpty

theorem keyOf_of_get? {c : Catalogue keyOf} {key : κ} {a : α} (h : c.get? key = some a) :
    keyOf a = key := by
  simpa using List.find?_some h

end Catalogue

end LogPipeline
