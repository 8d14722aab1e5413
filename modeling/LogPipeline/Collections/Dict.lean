/-!
# Dictionaries

Finite maps from texts, kept as a list of entries in the order of their keys, so that two
dictionaries with the same entries are equal. Sets of names are dictionaries without values.
-/

namespace LogPipeline

def insertSorted {α : Type} (key : String) (value : α) : List (String × α) → List (String × α)
  | [] => [(key, value)]
  | (k, v) :: rest =>
    if key = k then (key, value) :: rest
    else if key < k then (key, value) :: (k, v) :: rest
    else (k, v) :: insertSorted key value rest

abbrev Increasing {α : Type} (entries : List (String × α)) : Prop :=
  entries.Pairwise fun a b => a.1 < b.1

theorem mem_insertSorted {α : Type} {key : String} {value : α} {entries : List (String × α)}
    {e : String × α} (h : e ∈ insertSorted key value entries) : e = (key, value) ∨ e ∈ entries := by
  induction entries with
  | nil => exact .inl (by simpa [insertSorted] using h)
  | cons head rest ih =>
    simp only [insertSorted] at h
    split at h
    · rcases List.mem_cons.1 h with h | h
      · exact .inl h
      · exact .inr (List.mem_cons_of_mem _ h)
    · split at h
      · rcases List.mem_cons.1 h with h | h
        · exact .inl h
        · exact .inr h
      · rcases List.mem_cons.1 h with h | h
        · exact .inr (h ▸ List.mem_cons_self)
        · exact (ih h).imp id (List.mem_cons_of_mem _)

theorem increasing_insertSorted {α : Type} (key : String) (value : α) {entries : List (String × α)}
    (h : Increasing entries) : Increasing (insertSorted key value entries) := by
  induction entries with
  | nil => simp [insertSorted, Increasing]
  | cons head rest ih =>
    obtain ⟨k, v⟩ := head
    obtain ⟨first, later⟩ := List.pairwise_cons.1 h
    simp only [insertSorted]
    split
    · rename_i same
      subst same
      exact List.pairwise_cons.2 ⟨first, later⟩
    · split
      · rename_i less
        refine List.pairwise_cons.2 ⟨?_, h⟩
        intro e he
        rcases List.mem_cons.1 he with rfl | he
        · exact less
        · exact String.lt_trans less (first e he)
      · rename_i differs notLess
        refine List.pairwise_cons.2 ⟨?_, ih later⟩
        intro e he
        rcases mem_insertSorted he with rfl | he
        · apply Decidable.byContradiction
          intro notGreater
          exact differs (String.le_antisymm (String.not_lt.1 notGreater) (String.not_lt.1 notLess))
        · exact first e he

structure Dict (α : Type) where
  entries : List (String × α)
  increasing : Increasing entries
  deriving DecidableEq

namespace Dict

variable {α : Type}

def empty : Dict α := ⟨[], List.Pairwise.nil⟩

instance : Inhabited (Dict α) := ⟨empty⟩

def insert (d : Dict α) (key : String) (value : α) : Dict α :=
  ⟨insertSorted key value d.entries, increasing_insertSorted key value d.increasing⟩

def get? (d : Dict α) (key : String) : Option α :=
  d.entries.lookup key

def ofList (entries : List (String × α)) : Dict α :=
  entries.foldl (fun d e => d.insert e.1 e.2) empty

def keys (d : Dict α) : List String :=
  d.entries.map (·.1)

end Dict

structure NameSet where
  members : Dict Unit
  deriving DecidableEq

namespace NameSet

def empty : NameSet := ⟨.empty⟩

instance : Inhabited NameSet := ⟨empty⟩

def insert (s : NameSet) (name : String) : NameSet :=
  ⟨s.members.insert name ()⟩

def ofList (names : List String) : NameSet :=
  names.foldl insert empty

def names (s : NameSet) : List String :=
  s.members.keys

def contains (s : NameSet) (name : String) : Bool :=
  s.names.contains name

def isEmpty (s : NameSet) : Bool :=
  s.names.isEmpty

/-- A set that restricts nothing when it is empty, and otherwise admits its members. -/
def admits (s : NameSet) (name : String) : Bool :=
  s.isEmpty || s.contains name

end NameSet

end LogPipeline
