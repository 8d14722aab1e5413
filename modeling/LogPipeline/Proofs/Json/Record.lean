import Mathlib.Data.List.Forall2
import LogPipeline.Json.Record
import LogPipeline.Proofs.Collections

namespace LogPipeline

/-! ## Entries with distinct keys -/

theorem lookup_eq_some_iff_mem {α : Type} {entries : List (String × α)}
    (distinct : (entries.map (·.1)).Nodup) {name : String} {a : α} :
    entries.lookup name = some a ↔ (name, a) ∈ entries := by
  induction entries with
  | nil => exact ⟨nofun, nofun⟩
  | cons entry rest ih =>
      obtain ⟨fresh, later⟩ := List.nodup_cons.mp distinct
      rw [lookup_cons_eq_ite, List.mem_cons]
      split
      · rename_i here
        subst here
        refine ⟨fun same => .inl (Prod.ext rfl (Option.some.inj same).symm), ?_⟩
        rintro (same | further)
        · rw [← same]
        · exact absurd (List.mem_map_of_mem further) fresh
      · rename_i elsewhere
        rw [ih later]
        exact ⟨.inr, fun found => found.resolve_left fun same => elsewhere (congrArg Prod.fst same)⟩

theorem lookup_eq_none_iff_not_mem {α : Type} {entries : List (String × α)} {name : String} :
    entries.lookup name = none ↔ name ∉ entries.map (·.1) := by
  rw [List.lookup_eq_none_iff, List.mem_map]
  constructor
  · rintro other ⟨entry, listed, rfl⟩
    exact absurd (other entry listed) (by simp)
  · intro missing entry listed
    exact bne_iff_ne.mpr fun same => missing ⟨entry, listed, same.symm⟩

theorem insertSorted_perm {α : Type} {key : String} {value : α} {entries : List (String × α)}
    (fresh : key ∉ entries.map (·.1)) :
    (insertSorted key value entries).Perm ((key, value) :: entries) := by
  induction entries with
  | nil => exact .refl _
  | cons entry rest ih =>
      obtain ⟨other, further⟩ := not_or.mp (mt List.mem_cons.mpr fresh)
      rw [insertSorted, if_neg other]
      split
      · exact .refl _
      · exact ((ih further).cons entry).trans (.swap _ _ _)

namespace Dict

variable {α : Type}

theorem foldl_insert_perm {entries : List (String × α)} {d : Dict α}
    (distinct : ((d.entries ++ entries).map (·.1)).Nodup) :
    (entries.foldl (fun d e => d.insert e.1 e.2) d).entries.Perm (d.entries ++ entries) := by
  induction entries generalizing d with
  | nil => exact .of_eq (List.append_nil _).symm
  | cons entry rest ih =>
      have moved : (d.entries ++ entry :: rest).Perm (entry :: d.entries ++ rest) :=
        List.perm_middle
      have first := (moved.map (·.1)).nodup_iff.mp distinct
      have put : (d.insert entry.1 entry.2).entries.Perm (entry :: d.entries) :=
        insertSorted_perm fun there =>
          have ⟨other, listed, same⟩ := List.mem_map.mp there
          (List.nodup_cons.mp first).1 (List.mem_map.mpr
            ⟨other, List.mem_append_left _ listed, same⟩)
      have step := put.append_right rest
      exact (ih ((step.map (·.1)).nodup_iff.mpr first)).trans (step.trans moved.symm)

theorem eq_of_entries {d e : Dict α} (same : d.entries = e.entries) : d = e := by
  cases d
  cases e
  cases same
  rfl

theorem ofList_of_perm {d : Dict α} {entries : List (String × α)}
    (order : entries.Perm d.entries) : Dict.ofList entries = d := by
  have keys : (d.entries.map (·.1)).Nodup := d.nodup_keys
  have distinct : (entries.map (·.1)).Nodup := (order.map (·.1)).nodup_iff.mpr keys
  have made : (Dict.ofList entries).entries.Perm entries := foldl_insert_perm (d := .empty) distinct
  refine eq_of_entries (List.Perm.eq_of_pairwise (fun a b _ _ less more => ?_)
    (Dict.ofList entries).increasing d.increasing (made.trans order))
  exact absurd (String.lt_trans less more) (String.lt_irrefl _)

end Dict

theorem NameSet.ofList_of_perm {s : NameSet} {names : List String} (order : names.Perm s.names) :
    NameSet.ofList names = s := by
  have made (names : List String) (start : Dict Unit) :
      names.foldl NameSet.insert ⟨start⟩ =
        ⟨(names.map fun name => (name, ())).foldl (fun d e => d.insert e.1 e.2) start⟩ := by
    induction names generalizing start with
    | nil => rfl
    | cons name rest ih => exact ih _
  have members : (s.names.map fun name => (name, ())) = s.members.entries := by
    rw [NameSet.names, Dict.keys, List.map_map]
    exact List.map_id _
  have whole := Dict.ofList_of_perm (members ▸ order.map fun name => (name, ()))
  exact (made names .empty).trans (congrArg NameSet.mk whole)

namespace Json

/-! ## What writes a record -/

structure Field where
  name : String
  Shows : Json → Prop

namespace Field

def of (name : String) (value : Json) : Field := ⟨name, (· = value)⟩

def names (fields : List Field) : List String := fields.map Field.name

def IsMember (field : Field) (member : String × Json) : Prop :=
  member.1 = field.name ∧ field.Shows member.2

inductive Found (left : List String) (field : Field) : Option Json → Prop
  | absent (gone : field.name ∈ left) : Found left field none
  | present {value : Json} (kept : field.name ∉ left) (shows : field.Shows value) :
    Found left field (some value)

end Field

/-- An object writes a record but for the fields that are left out. Each other field has one member;
they stand in any order, and members of other names may stand among them. -/
inductive Writes (fields : List Field) (left : List String) : Json → Prop
  | members (written others : List (String × Json)) {members : List (String × Json)}
      (values : List.Forall₂ Field.IsMember (fields.filter fun field => field.name ∉ left) written)
      (unknown : ∀ member ∈ others, member.1 ∉ Field.names fields)
      (order : members.Perm (written ++ others)) : Writes fields left (.obj members)

/-! ## What is found -/

variable {fields : List Field} {left : List String} {j : Json}

theorem map_fst_of_forall₂ {written : List (String × Json)}
    (values : List.Forall₂ Field.IsMember fields written) :
    written.map (·.1) = Field.names fields := by
  induction values with
  | nil => rfl
  | cons member _ ih => exact congrArg₂ List.cons member.1 ih

theorem exists_of_forall₂ {written : List (String × Json)}
    (values : List.Forall₂ Field.IsMember fields written) {field : Field}
    (listed : field ∈ fields) : ∃ value, (field.name, value) ∈ written ∧ field.Shows value := by
  induction values with
  | nil => cases listed
  | @cons first member _ _ here _ ih =>
      rcases List.mem_cons.mp listed with rfl | further
      · exact ⟨member.2, here.1 ▸ List.mem_cons_self, here.2⟩
      · obtain ⟨value, there, shows⟩ := ih further
        exact ⟨value, List.mem_cons_of_mem _ there, shows⟩

def known (fields : List Field) (members : List (String × Json)) : List (String × Json) :=
  members.filter fun m => (Field.names fields).contains m.1

variable {written others members : List (String × Json)}

theorem known_perm
    (values : List.Forall₂ Field.IsMember (fields.filter fun field => field.name ∉ left) written)
    (unknown : ∀ member ∈ others, member.1 ∉ Field.names fields)
    (order : members.Perm (written ++ others)) : (known fields members).Perm written := by
  have kept : known fields written = written := by
    refine List.filter_eq_self.mpr fun member listed => List.contains_iff_mem.mpr ?_
    have among := List.mem_map_of_mem (f := (·.1)) listed
    rw [map_fst_of_forall₂ values] at among
    exact (List.filter_sublist.map Field.name).subset among
  have dropped : known fields others = [] :=
    List.filter_eq_nil_iff.mpr fun member listed known =>
      unknown member listed (List.contains_iff_mem.mp known)
  have sorted := order.filter fun m => (Field.names fields).contains m.1
  rw [List.filter_append] at sorted
  change (known fields members).Perm (known fields written ++ known fields others) at sorted
  rwa [kept, dropped, List.append_nil] at sorted

theorem nodup_known (distinct : (Field.names fields).Nodup)
    (values : List.Forall₂ Field.IsMember (fields.filter fun field => field.name ∉ left) written)
    (sorted : (known fields members).Perm written) : ((known fields members).map (·.1)).Nodup := by
  rw [(sorted.map (·.1)).nodup_iff, map_fst_of_forall₂ values]
  exact distinct.sublist (List.filter_sublist.map _)

theorem found_known (distinct : (Field.names fields).Nodup)
    (values : List.Forall₂ Field.IsMember (fields.filter fun field => field.name ∉ left) written)
    (sorted : (known fields members).Perm written) {field : Field} (listed : field ∈ fields) :
    field.Found left ((known fields members).lookup field.name) := by
  by_cases gone : field.name ∈ left
  · have missing : (known fields members).lookup field.name = none := by
      refine lookup_eq_none_iff_not_mem.mpr fun found => ?_
      have among := (sorted.map (·.1)).mem_iff.mp found
      rw [map_fst_of_forall₂ values] at among
      obtain ⟨other, kept, same⟩ := List.mem_map.mp among
      exact of_decide_eq_true (List.mem_filter.mp kept).2 (same ▸ gone)
    rw [missing]
    exact .absent gone
  · obtain ⟨value, there, shows⟩ :=
      exists_of_forall₂ values (List.mem_filter.mpr ⟨listed, decide_eq_true gone⟩)
    rw [(lookup_eq_some_iff_mem (nodup_known distinct values sorted)).mpr
      (sorted.mem_iff.mpr there)]
    exact .present gone shows

theorem fields?_of_writes (writes : Writes fields left j) (distinct : (Field.names fields).Nodup) :
    ∃ look : String → Option Json,
      j.fields? (Field.names fields) = some ((Field.names fields).map look) ∧
        ∀ field ∈ fields, field.Found left (look field.name) := by
  cases writes with
  | @members _ _ members values unknown order =>
      have sorted := known_perm values unknown order
      exact ⟨fun name => (known fields members).lookup name,
        if_pos (nodup_known distinct values sorted), fun _ => found_known distinct values sorted⟩

theorem writes_obj (values : List.Forall₂ Field.IsMember fields written) :
    Writes fields [] (.obj written) := by
  have all : (fields.filter fun field => field.name ∉ ([] : List String)) = fields :=
    List.filter_eq_self.mpr fun _ _ => decide_eq_true List.not_mem_nil
  exact .members written [] (all.symm ▸ values) (List.forall_mem_nil _)
    (.of_eq (List.append_nil _).symm)

/-! ## What is read -/

variable {α : Type} {field : Field} {member : Option Json} {decode : Json → Option α}

theorem Field.Found.required (found : field.Found left member) {a : Option α}
    (reads : ∀ value, field.Shows value → decode value = a) :
    Json.required decode member = if field.name ∈ left then none else a := by
  cases found with
  | absent gone => rw [if_pos gone]; rfl
  | present kept shows =>
      rw [if_neg kept]
      exact reads _ shows

theorem Field.Found.optional (found : field.Found left member) {a : Option α}
    (reads : ∀ value, field.Shows value → optional decode (some value) = some a) :
    Json.optional decode member = some (if field.name ∈ left then none else a) := by
  cases found with
  | absent gone => rw [if_pos gone]; rfl
  | present kept shows =>
      rw [if_neg kept]
      exact reads _ shows

theorem Field.name_of (name : String) (value : Json) : (Field.of name value).name = name := rfl

theorem Field.Found.required_of {name : String} {value : Json} {a : α}
    (found : (Field.of name value).Found left member) (reads : decode value = some a) :
    Json.required decode member = if name ∈ left then none else some a :=
  found.required fun _ shown => shown ▸ reads

theorem Field.Found.optional_of {name : String} {value : Json} {a : Option α}
    (found : (Field.of name value).Found left member)
    (reads : Json.optional decode (some value) = some a) :
    Json.optional decode member = some (if name ∈ left then none else a) :=
  found.optional fun _ shown => shown ▸ reads

theorem optional_ofOption {encode : α → Json} {a : Option α}
    (reads : ∀ x ∈ a, encode x ≠ .null ∧ decode (encode x) = some x) :
    Json.optional decode (some (ofOption encode a)) = some a := by
  cases a with
  | none => rfl
  | some x =>
      obtain ⟨solid, read⟩ := reads x rfl
      rw [ofOption, Json.optional, read]
      · rfl
      · exact solid

theorem uint32?_ofUInt32 (n : UInt32) : uint32? (ofUInt32 n) = some n := by
  have small : (0 : Int) ≤ n.toNat ∧ (n.toNat : Int) < UInt32.size :=
    ⟨Int.natCast_nonneg _, Int.ofNat_lt.mpr n.toNat_lt_size⟩
  rw [uint32?, ofUInt32, nat?, if_pos small]
  simp

theorem uint64?_ofUInt64 (n : UInt64) : uint64? (ofUInt64 n) = some n := by
  have small : (0 : Int) ≤ n.toNat ∧ (n.toNat : Int) < UInt64.size :=
    ⟨Int.natCast_nonneg _, Int.ofNat_lt.mpr n.toNat_lt_size⟩
  rw [uint64?, ofUInt64, nat?, if_pos small]
  simp

/-! ## Collections -/

def ShowsNames (s : NameSet) (j : Json) : Prop :=
  ∃ names : List String, names.Perm s.names ∧ j = .arr (names.map .str)

def ShowsTexts (d : Dict String) (j : Json) : Prop :=
  ∃ entries : List (String × String), entries.Perm d.entries ∧
    j = .obj (entries.map fun e => (e.1, .str e.2))

theorem mapM_map_eq_some {β : Type} (encode : α → β) (decode : β → Option α)
    (reads : ∀ a, decode (encode a) = some a) (values : List α) :
    (values.map encode).mapM decode = some values := by
  induction values with
  | nil => rfl
  | cons a rest ih =>
      rw [List.map_cons, List.mapM_cons, reads, ih]
      rfl

theorem names?_of_shows {s : NameSet} (shows : ShowsNames s j) : names? j = some s := by
  obtain ⟨names, order, rfl⟩ := shows
  have read : (names.map Json.str).mapM text? = some names :=
    mapM_map_eq_some .str text? (fun _ => rfl) names
  rw [names?, list?, read, Option.map_some, NameSet.ofList_of_perm order]

theorem dict?_of_shows {d : Dict String} (shows : ShowsTexts d j) : dict? text? j = some d := by
  obtain ⟨entries, order, rfl⟩ := shows
  have read := mapM_map_eq_some (fun e : String × String => (e.1, Json.str e.2))
    (fun m => (text? m.2).map (m.1, ·)) (fun _ => rfl) entries
  rw [dict?, read, Option.map_some, Dict.ofList_of_perm order]

theorem showsNames_ofNames (s : NameSet) : ShowsNames s (ofNames s) :=
  ⟨s.names, .refl _, rfl⟩

end Json

end LogPipeline
