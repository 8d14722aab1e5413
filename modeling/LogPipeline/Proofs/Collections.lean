import Mathlib.Algebra.Ring.Nat
import LogPipeline.Collections.Catalogue
import LogPipeline.Collections.Dict
import LogPipeline.Collections.Table

namespace LogPipeline

variable {κ α : Type}

theorem Number.total_eq_sum (numbers : List Nat) : total numbers = numbers.sum := rfl

theorem forall_mem_append_singleton {P : α → Prop} {members : List α} {last : α}
    (all : ∀ a ∈ members, P a) (also : P last) : ∀ a ∈ members ++ [last], P a :=
  List.forall_mem_append.mpr ⟨all, List.forall_mem_singleton.mpr also⟩

theorem forall_prefix_concat {P : List α → Prop} {members : List α} (last : α)
    (all : ∀ front, front <+: members → P front) (whole : P (members ++ [last])) :
    ∀ front, front <+: members ++ [last] → P front := by
  intro front before
  rcases List.prefix_concat_iff.mp before with rfl | shorter
  · exact whole
  · exact all front shorter

theorem prefix_append_cases {front early late : List α}
    (before : front <+: early ++ late) :
    front <+: early ∨ ∃ mid, front = early ++ mid ∧ mid <+: late := by
  rcases List.prefix_or_prefix_of_prefix before (List.prefix_append early late) with inside | beyond
  · exact .inl inside
  · obtain ⟨mid, rfl⟩ := beyond
    exact .inr ⟨mid, rfl, (List.prefix_append_right_inj early).mp before⟩

variable [DecidableEq κ]

theorem find?_putBy (keyOf : α → κ) (a : α) (values : List α) (key : κ) :
    (putBy keyOf a values).find? (fun b => keyOf b = key) =
      if keyOf a = key then some a else values.find? fun b => keyOf b = key := by
  induction values with
  | nil => by_cases same : keyOf a = key <;> simp [putBy, same]
  | cons b rest ih =>
      simp only [putBy]
      by_cases here : keyOf b = keyOf a
      · by_cases same : keyOf a = key <;> simp [here, same]
      · by_cases other : keyOf b = key
        · have differs : keyOf a ≠ key := fun same => here (other.trans same.symm)
          simp only [here, if_false, differs]
          simp [other]
        · simp only [here, if_false, List.find?_cons, other, decide_false, ih]

theorem putBy_of_absent {keyOf : α → κ} {a : α} {values : List α}
    (absent : ∀ b ∈ values, keyOf b ≠ keyOf a) : putBy keyOf a values = values ++ [a] := by
  induction values with
  | nil => rfl
  | cons b rest ih =>
      rw [putBy, if_neg (absent b List.mem_cons_self),
        ih fun c member => absent c (List.mem_cons_of_mem _ member)]
      rfl

theorem find?_eq_some_of_mem (keyOf : α → κ) {values : List α}
    (distinct : (values.map keyOf).Nodup) {a : α} (member : a ∈ values) :
    values.find? (fun b => keyOf b = keyOf a) = some a := by
  induction values with
  | nil => simp at member
  | cons b rest ih =>
      obtain ⟨fresh, tail⟩ := List.nodup_cons.mp distinct
      rcases List.mem_cons.mp member with rfl | later
      · simp
      · have differs : keyOf b ≠ keyOf a := fun same =>
          fresh (same ▸ List.mem_map_of_mem later)
        simp [differs, ih tail later]

namespace Catalogue

variable {keyOf : α → κ}

theorem get?_put (c : Catalogue keyOf) (a : α) (key : κ) :
    (c.put a).get? key = if keyOf a = key then some a else c.get? key :=
  find?_putBy keyOf a c.values key

theorem values_put_of_absent {c : Catalogue keyOf} {a : α} (absent : c.get? (keyOf a) = none) :
    (c.put a).values = c.values ++ [a] :=
  putBy_of_absent (by simpa [get?, List.find?_eq_none] using absent)

theorem get?_eq_some_iff {c : Catalogue keyOf} {key : κ} {a : α} :
    c.get? key = some a ↔ a ∈ c.values ∧ keyOf a = key := by
  constructor
  · intro found
    exact ⟨List.mem_of_find?_eq_some found, keyOf_of_get? found⟩
  · rintro ⟨member, rfl⟩
    exact find?_eq_some_of_mem keyOf c.distinct member

theorem get?_filter (c : Catalogue keyOf) (keep : α → Bool) (key : κ) :
    (c.filter keep).get? key = (c.get? key).filter keep := by
  ext a
  rw [get?_eq_some_iff, Option.filter_eq_some_iff, get?_eq_some_iff]
  simp only [filter, List.mem_filter]
  exact and_right_comm

theorem get?_erase (c : Catalogue keyOf) (gone key : κ) :
    (c.erase gone).get? key = if gone = key then none else c.get? key := by
  rw [erase, get?_filter]
  cases found : c.get? key with
  | none => simp
  | some a =>
      have named := keyOf_of_get? found
      by_cases same : gone = key
      · simp [same, named]
      · simp [named, same, Ne.symm same]

end Catalogue

namespace Table

theorem get?_insert (t : Table κ α) (key : κ) (value : α) (other : κ) :
    (t.insert key value).get? other = if key = other then some value else t.get? other := by
  simp only [get?, insert, find?_putBy]
  by_cases same : key = other <;> simp [same]

theorem contains_insert (t : Table κ α) (key : κ) (value : α) (other : κ) :
    (t.insert key value).contains other = (decide (key = other) || t.contains other) := by
  simp only [contains, get?_insert]
  by_cases same : key = other <;> simp [same]

theorem rows_insert_of_absent {t : Table κ α} {key : κ} (absent : t.get? key = none) (value : α) :
    (t.insert key value).rows = t.rows ++ [(key, value)] :=
  putBy_of_absent (by simpa [get?, List.find?_eq_none] using absent)

theorem get?_erase (t : Table κ α) (gone key : κ) :
    (t.erase gone).get? key = if gone = key then none else t.get? key := by
  simp only [get?, erase, List.find?_filter]
  by_cases same : gone = key
  · rw [if_pos same, Option.map_eq_none_iff, List.find?_eq_none]
    simp [same]
  · rw [if_neg same]
    congr 2
    funext row
    by_cases named : row.1 = key <;> simp [named, Ne.symm same]

theorem get?_eq_some_iff {t : Table κ α} {key : κ} {value : α} :
    t.get? key = some value ↔ (key, value) ∈ t.rows := by
  simp only [get?, Option.map_eq_some_iff]
  constructor
  · rintro ⟨row, found, rfl⟩
    have named : row.1 = key := by simpa using List.find?_some found
    exact named ▸ List.mem_of_find?_eq_some found
  · intro member
    exact ⟨_, find?_eq_some_of_mem Prod.fst t.distinct member, rfl⟩

theorem get?_filter (t : Table κ α) (keep : α → Bool) (key : κ) :
    (t.filter keep).get? key = (t.get? key).filter keep := by
  ext value
  rw [get?_eq_some_iff, Option.filter_eq_some_iff, get?_eq_some_iff]
  exact List.mem_filter

theorem get?_map {β : Type} (t : Table κ α) (f : α → β) (key : κ) :
    (t.map f).get? key = (t.get? key).map f := by
  simp only [get?, map, List.find?_map, Option.map_map]
  rfl

end Table

theorem lookup_cons_eq_ite {α : Type} (entry : String × α) (rest : List (String × α))
    (name : String) :
    (entry :: rest).lookup name = if name = entry.1 then some entry.2 else rest.lookup name := by
  by_cases here : name = entry.1
  · rw [if_pos here, here, List.lookup_cons_self]
  · rw [if_neg here, List.lookup_cons, beq_false_of_ne here]

theorem lookup_insertSorted {α : Type} (key : String) (value : α) (entries : List (String × α))
    (name : String) : (insertSorted key value entries).lookup name =
      if name = key then some value else entries.lookup name := by
  induction entries with
  | nil => exact lookup_cons_eq_ite _ _ name
  | cons entry rest ih =>
      obtain ⟨k, v⟩ := entry
      rw [insertSorted]
      split
      · rename_i same
        rw [lookup_cons_eq_ite, lookup_cons_eq_ite, ← same]
        split <;> rfl
      · split
        · exact lookup_cons_eq_ite _ _ name
        · rename_i differs _
          rw [lookup_cons_eq_ite, lookup_cons_eq_ite, ih]
          by_cases there : name = k
          · rw [if_pos there, if_pos there, if_neg (there ▸ Ne.symm differs)]
          · rw [if_neg there, if_neg there]

theorem mem_entries_foldl_insert {α : Type} {entries : List (String × α)} {d : Dict α}
    {e : String × α} (member : e ∈ (entries.foldl (fun d f => d.insert f.1 f.2) d).entries) :
    e ∈ d.entries ∨ e ∈ entries := by
  induction entries generalizing d with
  | nil => exact .inl member
  | cons first rest ih =>
      rcases ih member with inserted | later
      · rcases mem_insertSorted inserted with rfl | before
        · exact .inr List.mem_cons_self
        · exact .inl before
      · exact .inr (List.mem_cons_of_mem _ later)

namespace Dict

variable {α : Type} (d : Dict α)

theorem get?_insert (key : String) (value : α) (name : String) :
    (d.insert key value).get? name = if name = key then some value else d.get? name :=
  lookup_insertSorted key value d.entries name

theorem get?_foldl_insert (entries : List (String × α)) (name : String) :
    (entries.foldl (fun d e => d.insert e.1 e.2) d).get? name =
      (entries.reverse.lookup name).or (d.get? name) := by
  induction entries generalizing d with
  | nil => rfl
  | cons entry rest ih =>
      rw [List.foldl_cons, ih, get?_insert, List.reverse_cons, List.lookup_append, Option.or_assoc,
        lookup_cons_eq_ite]
      split <;> rfl

theorem get?_foldl_insert_empty_eq_some_iff {entries : List (String × α)} {name : String}
    {value : α} (single : ∀ {a b : α}, (name, a) ∈ entries → (name, b) ∈ entries → a = b) :
    (entries.foldl (fun d e => d.insert e.1 e.2) empty).get? name = some value ↔
      (name, value) ∈ entries := by
  have stays {a : α} (found : entries.reverse.lookup name = some a) : (name, a) ∈ entries := by
    obtain ⟨before, after, same, -⟩ := List.lookup_eq_some_iff.mp found
    exact List.mem_reverse.mp (same ▸ List.mem_append_right _ List.mem_cons_self)
  have gone : (empty : Dict α).get? name = none := rfl
  rw [get?_foldl_insert, gone, Option.or_none]
  refine ⟨stays, fun member => ?_⟩
  cases found : entries.reverse.lookup name with
  | none =>
      have absent := List.lookup_eq_none_iff.mp found _ (List.mem_reverse.mpr member)
      exact absurd absent (by simp)
  | some a => rw [single (stays found) member]

theorem nodup_keys : d.keys.Nodup :=
  List.pairwise_map.mpr (d.increasing.imp fun {e f} (less : e.1 < f.1) (same : e.1 = f.1) =>
    String.lt_irrefl f.1 (same ▸ less))

end Dict

end LogPipeline
