import LogPipeline.Collections.Catalogue
import LogPipeline.Number.Total

namespace LogPipeline

structure Table (κ α : Type) where
  rows : List (κ × α)
  distinct : (rows.map Prod.fst).Nodup

namespace Table

variable {κ α : Type}

theorem map_fst_mapValues {β : Type} (rows : List (κ × α)) (f : α → β) :
    (rows.map fun r => (r.1, f r.2)).map Prod.fst = rows.map Prod.fst := by
  simp [Function.comp_def]

variable [DecidableEq κ]

def empty : Table κ α := ⟨[], List.nodup_nil⟩

instance : Inhabited (Table κ α) := ⟨empty⟩

def get? (t : Table κ α) (key : κ) : Option α :=
  (t.rows.find? fun r => r.1 = key).map (·.2)

def contains (t : Table κ α) (key : κ) : Bool :=
  (t.get? key).isSome

def insert (t : Table κ α) (key : κ) (value : α) : Table κ α :=
  ⟨putBy Prod.fst (key, value) t.rows, nodup_putBy Prod.fst (key, value) t.distinct⟩

def erase (t : Table κ α) (key : κ) : Table κ α :=
  ⟨t.rows.filter fun r => r.1 ≠ key, nodup_filter_keys Prod.fst _ t.distinct⟩

def map {β : Type} (t : Table κ α) (f : α → β) : Table κ β :=
  ⟨t.rows.map fun r => (r.1, f r.2), by rw [map_fst_mapValues]; exact t.distinct⟩

def filter (t : Table κ α) (keep : α → Bool) : Table κ α :=
  ⟨t.rows.filter fun r => keep r.2, nodup_filter_keys Prod.fst _ t.distinct⟩

def values (t : Table κ α) : List α :=
  t.rows.map (·.2)

theorem total_insert (t : Table κ α) (key : κ) (value : α) (size : α → Nat) :
    Number.total ((t.insert key value).values.map size) + ((t.get? key).map size).getD 0 =
      Number.total (t.values.map size) + size value := by
  obtain ⟨rows, distinct⟩ := t
  simp only [insert, values, get?]
  clear distinct
  induction rows with
  | nil => simp [putBy]
  | cons row rest ih =>
      by_cases same : row.1 = key
      · simp [putBy, same]
        omega
      · simp [putBy, same] at ih ⊢
        omega

def keys (t : Table κ α) : List κ :=
  t.rows.map (·.1)

def size (t : Table κ α) : Nat :=
  t.rows.length

def isEmpty (t : Table κ α) : Bool :=
  t.rows.isEmpty

end Table

end LogPipeline
