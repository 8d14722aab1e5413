import LogPipeline.Log.Structuring
import LogPipeline.Proofs.Collections

/-!
# The fields of a JSON log

A field is a value that a path of names leads to, under the names of the path with points between
them. Where no name is empty or has a point, the path can be told from the name of the field, so no
field takes the place of another.
-/

namespace LogPipeline

namespace Json

/-! ## Paths -/

inductive Leads : Json → List String → Json → Prop where
  | here (value : Json) : Leads value [] value
  | into {members : List (String × Json)} {name : String} {value target : Json}
    {path : List String} (member : (name, value) ∈ members) (further : Leads value path target) :
    Leads (.obj members) (name :: path) target

def isObject : Json → Bool
  | .obj _ => true
  | _ => false

/-- What a path of some length leads to makes a field: it is not null, and an object is flattened
exactly if it lies above the depth. -/
def MakesField (depth : Nat) (path : List String) (value : Json) : Prop :=
  value ≠ .null ∧ if value.isObject then path.length = depth else path.length ≤ depth

mutual

/-- No name of a member, at any level of nested objects, is empty or has a point. -/
def hasPlainNames : Json → Bool
  | .obj members => membersHavePlainNames members
  | _ => true

def membersHavePlainNames : List (String × Json) → Bool
  | [] => true
  | (name, value) :: rest =>
    name ≠ "" && ! name.toList.contains '.' && value.hasPlainNames && membersHavePlainNames rest

end

variable {value target : Json} {path : List String}

theorem leads_iff_of_not_object (plain : value.isObject = false) :
    value.Leads path target ↔ path = [] ∧ target = value := by
  constructor
  · intro leads
    cases leads with
    | here => exact ⟨rfl, rfl⟩
    | into => cases plain
  · rintro ⟨rfl, rfl⟩
    exact .here _

theorem leads_obj_iff {members : List (String × Json)} :
    (obj members).Leads path target ↔ path = [] ∧ target = .obj members ∨
      ∃ name value further, path = name :: further ∧ (name, value) ∈ members ∧
        value.Leads further target := by
  constructor
  · intro leads
    cases leads with
    | here => exact .inl ⟨rfl, rfl⟩
    | into member further => exact .inr ⟨_, _, _, rfl, member, further⟩
  · rintro (⟨rfl, rfl⟩ | ⟨name, value, further, rfl, member, leads⟩)
    · exact .here _
    · exact .into member leads

theorem makesField_cons {depth : Nat} {name : String} :
    value.MakesField (depth + 1) (name :: path) ↔ value.MakesField depth path := by
  simp [MakesField]

end Json

/-! ## What flattening makes -/

open Json

theorem flattenValue_of_scalar (depth : Nat) (name : String) {value : Json}
    (plain : value.isObject = false) (something : value ≠ .null) :
    flattenValue depth name value = [(name, value)] := by
  cases value with
  | null => exact absurd rfl something
  | obj members => cases plain
  | _ => simp only [flattenValue]

theorem mem_flattenValue_of_scalar (depth : Nat) (name : String) (field : String × Json)
    (value : Json) (plain : value.isObject = false) (something : value ≠ .null) :
    field ∈ flattenValue depth name value ↔ ∃ path, value.Leads path field.2 ∧
      field.2.MakesField depth path ∧ field.1 = path.foldl fieldName name := by
  simp only [flattenValue_of_scalar depth name plain something, leads_iff_of_not_object plain,
    List.mem_singleton]
  constructor
  · rintro rfl
    exact ⟨[], ⟨rfl, rfl⟩, ⟨something, by simp [plain]⟩, rfl⟩
  · rintro ⟨_, ⟨rfl, same⟩, -, named⟩
    exact Prod.ext named same

theorem mem_deep {name : String} {members : List (String × Json)} (field : String × Json) :
    field ∈ [(name, Json.obj members)] ↔ ∃ path, (Json.obj members).Leads path field.2 ∧
      field.2.MakesField 0 path ∧ field.1 = path.foldl fieldName name := by
  rw [List.mem_singleton]
  constructor
  · rintro rfl
    exact ⟨[], .here _, ⟨nofun, rfl⟩, rfl⟩
  · rintro ⟨path, leads, makes, named⟩
    rcases leads_obj_iff.mp leads with ⟨rfl, same⟩ | ⟨_, _, _, rfl, -, -⟩
    · exact Prod.ext named same
    · exact absurd makes (by simp [MakesField])

mutual

theorem mem_flattenMembers (depth : Nat) (path : String) (field : String × Json) :
    (members : List (String × Json)) → (field ∈ flattenMembers depth path members ↔
      ∃ name value further, (name, value) ∈ members ∧ value.Leads further field.2 ∧
        field.2.MakesField depth further ∧ field.1 = further.foldl fieldName (fieldName path name))
  | [] => by simp [flattenMembers]
  | (name, value) :: rest => by
      rw [flattenMembers, List.mem_append, mem_flattenValue depth _ field value,
        mem_flattenMembers depth path field rest]
      constructor
      · rintro (⟨further, leads⟩ | ⟨other, there, further, member, leads⟩)
        · exact ⟨name, value, further, List.mem_cons_self, leads⟩
        · exact ⟨other, there, further, List.mem_cons_of_mem _ member, leads⟩
      · rintro ⟨other, there, further, member, leads⟩
        rcases List.mem_cons.mp member with same | later
        · cases same
          exact .inl ⟨further, leads⟩
        · exact .inr ⟨other, there, further, later, leads⟩

theorem mem_flattenValue (depth : Nat) (name : String) (field : String × Json) :
    (value : Json) → (field ∈ flattenValue depth name value ↔
      ∃ path, value.Leads path field.2 ∧ field.2.MakesField depth path ∧
        field.1 = path.foldl fieldName name)
  | .obj members => by
      cases depth with
      | zero =>
          rw [flattenValue]
          exact mem_deep field
      | succ depth =>
          rw [flattenValue, mem_flattenMembers depth name field members]
          constructor
          · rintro ⟨key, value, further, member, leads, makes, named⟩
            exact ⟨key :: further, .into member leads, makesField_cons.mpr makes, named⟩
          · rintro ⟨path, leads, makes, named⟩
            rcases leads_obj_iff.mp leads with
              ⟨rfl, same⟩ | ⟨key, value, further, rfl, member, leads⟩
            · exact absurd makes (by simp [MakesField, same, isObject])
            · exact ⟨key, value, further, member, leads, makesField_cons.mp makes, named⟩
  | .null => by
      rw [flattenValue]
      refine ⟨nofun, ?_⟩
      rintro ⟨path, leads, makes, -⟩
      exact absurd ((leads_iff_of_not_object rfl).mp leads).2 makes.1
  | .bool b => mem_flattenValue_of_scalar depth name field (.bool b) rfl nofun
  | .int n => mem_flattenValue_of_scalar depth name field (.int n) rfl nofun
  | .real x => mem_flattenValue_of_scalar depth name field (.real x) rfl nofun
  | .str s => mem_flattenValue_of_scalar depth name field (.str s) rfl nofun
  | .arr items => mem_flattenValue_of_scalar depth name field (.arr items) rfl nofun
  | .unreadable => mem_flattenValue_of_scalar depth name field .unreadable rfl nofun

end

/-! ## Names of fields -/

theorem foldl_fieldName {name : String} (something : name ≠ "") (path : List String) :
    path.foldl fieldName name = ".".intercalate (name :: path) := by
  induction path generalizing name with
  | nil => rfl
  | cons next rest ih =>
      have named : fieldName name next = name ++ "." ++ next :=
        if_neg (by simpa using something)
      have longer : name ++ "." ++ next ≠ "" := by simp [something]
      rw [List.foldl_cons, named, ih longer]
      rfl

def IsPlainName (name : String) : Prop :=
  name ≠ "" ∧ '.' ∉ name.toList

theorem eq_of_intercalate_eq {path other : List String} (plain : ∀ name ∈ path, IsPlainName name)
    (plains : ∀ name ∈ other, IsPlainName name) (nonempty : path ≠ []) (nonempties : other ≠ [])
    (same : ".".intercalate path = ".".intercalate other) : path = other := by
  have split {names : List String} (plain : ∀ name ∈ names, IsPlainName name)
      (some : names ≠ []) :
      (".".intercalate names).toList.splitOn '.' = names.map String.toList := by
    rw [String.toList_intercalate]
    refine List.splitOn_intercalate '.' ?_ (by simpa using some)
    simp only [List.forall_mem_map]
    exact fun name member => (plain name member).2
  have texts : path.map String.toList = other.map String.toList := by
    rw [← split plain nonempty, ← split plains nonempties, same]
  exact (List.map_inj_right fun _ _ => String.toList_inj.mp).mp texts

theorem membersHavePlainNames_iff (members : List (String × Json)) :
    membersHavePlainNames members = true ↔
      ∀ member ∈ members, IsPlainName member.1 ∧ member.2.hasPlainNames = true := by
  induction members with
  | nil => simp [membersHavePlainNames]
  | cons member rest ih =>
      obtain ⟨name, value⟩ := member
      simp only [membersHavePlainNames, Bool.and_eq_true, ih, List.forall_mem_cons, IsPlainName]
      simp

theorem Json.Leads.isPlainName {value target : Json} {path : List String}
    (leads : value.Leads path target) (plain : value.hasPlainNames = true) :
    ∀ name ∈ path, IsPlainName name := by
  induction leads with
  | here => exact nofun
  | into member _ ih =>
      obtain ⟨named, further⟩ := (membersHavePlainNames_iff _).mp plain _ member
      exact List.forall_mem_cons.mpr ⟨named, ih further⟩

/-! ## Canonical documents -/

namespace Json

def IsCanonical (value : Json) : Prop :=
  ∃ written : Json, written.canonical = value

theorem isCanonical_of_parse {text : String} {value : Json} (parsed : parse? text = some value) :
    value.IsCanonical := by
  obtain ⟨written, -, strict⟩ := Option.bind_eq_some_iff.mp parsed
  rw [strict?] at strict
  split at strict
  · exact ⟨written, Option.some.inj strict⟩
  · cases strict

theorem isCanonical_of_mem_canonicalMembers {members : List (String × Json)}
    {member : String × Json} (there : member ∈ canonicalMembers members) :
    member.2.IsCanonical := by
  induction members with
  | nil => cases there
  | cons first rest ih =>
      rcases List.mem_cons.mp there with rfl | later
      · exact ⟨first.2, rfl⟩
      · exact ih later

theorem IsCanonical.exists_members {members : List (String × Json)}
    (canonical : (obj members).IsCanonical) :
    ∃ written, members = (Dict.ofList (canonicalMembers written)).entries := by
  obtain ⟨written, same⟩ := canonical
  cases written with
  | obj written => exact ⟨written, (Json.obj.inj same).symm⟩
  | _ => cases same

theorem IsCanonical.nodup_names {members : List (String × Json)}
    (canonical : (obj members).IsCanonical) : (members.map Prod.fst).Nodup := by
  obtain ⟨written, rfl⟩ := canonical.exists_members
  exact (Dict.ofList _).nodup_keys

theorem IsCanonical.of_mem {members : List (String × Json)}
    (canonical : (obj members).IsCanonical) {member : String × Json} (there : member ∈ members) :
    member.2.IsCanonical := by
  obtain ⟨written, rfl⟩ := canonical.exists_members
  rcases mem_entries_foldl_insert there with ⟨⟨⟩⟩ | among
  exact isCanonical_of_mem_canonicalMembers among

theorem Leads.unique {value target other : Json} {path : List String}
    (leads : value.Leads path target) (leadsToo : value.Leads path other)
    (canonical : value.IsCanonical) : target = other := by
  induction leads with
  | here => cases leadsToo with | here => rfl
  | @into members name value target path member further ih =>
      cases leadsToo with
      | @into _ _ valueToo _ _ memberToo furtherToo =>
          have found := find?_eq_some_of_mem Prod.fst canonical.nodup_names member
          have foundToo := find?_eq_some_of_mem Prod.fst canonical.nodup_names memberToo
          obtain rfl : value = valueToo := by simpa [found] using foundToo
          exact ih furtherToo (canonical.of_mem member)

end Json

/-! ## The fields of a log -/

namespace Preprocessor

variable {p : Preprocessor} {key : Key} {now : Timestamp} {raw : RawLog}

theorem preprocess_of_object (json : raw.format = .json) {members : List (String × Json)}
    (parsed : Json.parse? raw.content = some (.obj members)) :
    p.preprocess key now raw = normalizeLevel (normalizeTimestamp
      (addFields (.ofRaw raw key now) (flattenMembers p.maxDepth "" members))) := by
  simp [preprocess, json, structureJson, ProcessedLog.ofRaw, parsed]

theorem mem_flattenMembers_root {depth : Nat} {members : List (String × Json)}
    (plain : (obj members).hasPlainNames = true) (field : String × Json) :
    field ∈ flattenMembers depth "" members ↔ ∃ path, (obj members).Leads path field.2 ∧
      field.2.MakesField (depth + 1) path ∧ field.1 = ".".intercalate path := by
  have named {name : String} {value : Json} (member : (name, value) ∈ members)
      (further : List String) :
      further.foldl fieldName (fieldName "" name) = ".".intercalate (name :: further) :=
    foldl_fieldName ((membersHavePlainNames_iff members).mp plain _ member).1.1 further
  rw [mem_flattenMembers]
  constructor
  · rintro ⟨name, value, further, member, leads, makes, same⟩
    exact ⟨name :: further, .into member leads, makesField_cons.mpr makes,
      same.trans (named member further)⟩
  · rintro ⟨path, leads, makes, same⟩
    rcases leads_obj_iff.mp leads with ⟨rfl, whole⟩ | ⟨name, value, further, rfl, member, leads⟩
    · exact absurd makes (by simp [MakesField, whole, isObject])
    · exact ⟨name, value, further, member, leads, makesField_cons.mp makes,
        same.trans (named member further).symm⟩

theorem ne_nil_of_makesField {depth : Nat} {members : List (String × Json)} {path : List String}
    {value : Json} (leads : (obj members).Leads path value)
    (makes : value.MakesField (depth + 1) path) : path ≠ [] := by
  rintro rfl
  cases leads with
  | here => exact absurd makes (by simp [MakesField, isObject])

section

variable {depth : Nat} {members : List (String × Json)} (canonical : (obj members).IsCanonical)
  (plain : (obj members).hasPlainNames = true)
include canonical plain

theorem eq_of_same_name {path other : List String} {value valueToo : Json}
    (leads : (obj members).Leads path value) (makes : value.MakesField (depth + 1) path)
    (leadsToo : (obj members).Leads other valueToo)
    (makesToo : valueToo.MakesField (depth + 1) other)
    (same : ".".intercalate path = ".".intercalate other) : path = other ∧ value = valueToo := by
  obtain rfl := eq_of_intercalate_eq (leads.isPlainName plain) (leadsToo.isPlainName plain)
    (ne_nil_of_makesField leads makes) (ne_nil_of_makesField leadsToo makesToo) same
  exact ⟨rfl, leads.unique leadsToo canonical⟩

theorem eq_of_mem_flattenMembers {name : String} {value valueToo : Json}
    (member : (name, value) ∈ flattenMembers depth "" members)
    (memberToo : (name, valueToo) ∈ flattenMembers depth "" members) : value = valueToo := by
  obtain ⟨path, leads, makes, named⟩ := (mem_flattenMembers_root plain _).mp member
  obtain ⟨other, leadsToo, makesToo, namedToo⟩ := (mem_flattenMembers_root plain _).mp memberToo
  exact (eq_of_same_name canonical plain leads makes leadsToo makesToo
    (named.symm.trans namedToo)).2

end

/-- The fields of a log are the values that paths of the length allowed lead to, each under the
names of its path, and no two paths make a field of the same name. -/
theorem fields_of_object (json : raw.format = .json) {members : List (String × Json)}
    (parsed : Json.parse? raw.content = some (.obj members))
    (plain : (obj members).hasPlainNames = true) :
    (p.preprocess key now raw).validated = true ∧
      (∀ name value, (p.preprocess key now raw).fields.get? name = some value ↔
        ∃ path, (obj members).Leads path value ∧ value.MakesField (p.maxDepth + 1) path ∧
          name = ".".intercalate path) ∧
      ∀ path value other valueToo,
        (obj members).Leads path value → value.MakesField (p.maxDepth + 1) path →
        (obj members).Leads other valueToo → valueToo.MakesField (p.maxDepth + 1) other →
        ".".intercalate path = ".".intercalate other → path = other ∧ value = valueToo := by
  have canonical := isCanonical_of_parse parsed
  refine ⟨by simp [preprocess_of_object json parsed, addFields, ProcessedLog.ofRaw], ?_, ?_⟩
  · intro name value
    rw [preprocess_of_object json parsed, fields_normalizeLevel, fields_normalizeTimestamp,
      addFields, ProcessedLog.ofRaw]
    exact (Dict.get?_foldl_insert_empty_eq_some_iff
      (eq_of_mem_flattenMembers canonical plain)).trans (mem_flattenMembers_root plain _)
  · intro path value other valueToo leads makes leadsToo makesToo same
    exact eq_of_same_name canonical plain leads makes leadsToo makesToo same

/-- Objects that lie two levels deep are the fields of a log that is flattened one level below its
own members. -/
theorem fields_of_object_cut_off :
    let nested : List (String × Json) :=
      [("a", .obj [("b", .obj [("c", .int 1)]), ("d", .arr [.int 2]), ("e", .null)]),
        ("f", .str "g")]
    let raw : RawLog := .new
      "\x7b\"f\":\"g\",\"a\":\x7b\"e\":null,\"d\":[2],\"b\":\x7b\"c\":1\x7d\x7d\x7d"
      .json default
    let log := { defaults with maxDepth := 1 }.preprocess ⟨⟨"app"⟩, ⟨"endpoint"⟩⟩ default raw
    raw.format = .json ∧ Json.parse? raw.content = some (.obj nested) ∧
      (obj nested).hasPlainNames = true ∧ log.validated = true ∧
      log.fields.get? "a.b" = some (.obj [("c", .int 1)]) ∧
      log.fields.get? "a.d" = some (.arr [.int 2]) ∧ log.fields.get? "f" = some (.str "g") := by
  intro nested raw log
  have read : Json.read? raw.content = some (.obj [("f", .str "g"),
      ("a", .obj [("e", .null), ("d", .arr [.int 2]), ("b", .obj [("c", .int 1)])])]) := by
    simp only [raw, RawLog.new, read?, String.reduceToList, List.length_cons, List.length_nil,
      Nat.reduceAdd, Nat.reduceMul]
    rfl
  have parsed : Json.parse? raw.content = some (.obj nested) := by
    rw [parse?, read]
    rfl
  have plain : (obj nested).hasPlainNames = true := by decide
  obtain ⟨valid, told, -⟩ := @fields_of_object { defaults with maxDepth := 1 }
    ⟨⟨"app"⟩, ⟨"endpoint"⟩⟩ default raw rfl nested parsed plain
  refine ⟨rfl, parsed, plain, valid, ?_, ?_, ?_⟩
  · exact (told _ _).mpr
      ⟨["a", "b"], .into (.head _) (.into (.head _) (.here _)), ⟨nofun, rfl⟩, rfl⟩
  · exact (told _ _).mpr
      ⟨["a", "d"], .into (.head _) (.into (.tail _ (.head _)) (.here _)), ⟨nofun, by decide⟩, rfl⟩
  · exact (told _ _).mpr ⟨["f"], .into (.tail _ (.head _)) (.here _), ⟨nofun, by decide⟩, rfl⟩

end Preprocessor

end LogPipeline
