import LogPipeline.Log.Structuring
import LogPipeline.Proofs.Collections
import LogPipeline.Proofs.Pattern.Leading

namespace LogPipeline

def isKeyStart (c : Char) : Bool :=
  ('A' ≤ c && c ≤ 'Z') || ('a' ≤ c && c ≤ 'z') || c = '_'

def isKeyRest (c : Char) : Bool :=
  Text.isWord c || c = '.' || c = '-'

def isKey (text : String) : Bool :=
  match text.toList with
  | [] => false
  | first :: rest => isKeyStart first && rest.all isKeyRest

def isBareValue (text : String) : Bool :=
  match text.toList with
  | [] => false
  | first :: rest => first ≠ '"' && (first :: rest).all fun c => ! Text.isBlank c

structure Pair where
  key : String
  value : String
  quoted : Bool
  keyed : isKey key
  valued : if quoted then '"' ∉ value.toList else isBareValue value

namespace Pair

def valueText (pair : Pair) : String :=
  if pair.quoted then "\"" ++ pair.value ++ "\"" else pair.value

def text (pair : Pair) : String :=
  pair.key ++ "=" ++ pair.valueText

def field (pair : Pair) : String × Json :=
  (pair.key, .str pair.value)

def render (pairs : List Pair) : String :=
  " ".intercalate (pairs.map text)

theorem exists_key (pair : Pair) : ∃ first rest, pair.key.toList = first :: rest ∧
    isKeyStart first ∧ ∀ c ∈ rest, isKeyRest c := by
  have keyed := pair.keyed
  rw [isKey] at keyed
  split at keyed
  · cases keyed
  · rename_i first rest key
    rw [Bool.and_eq_true, List.all_eq_true] at keyed
    exact ⟨first, rest, key, keyed⟩

theorem toList_text (pair : Pair) :
    pair.text.toList = pair.key.toList ++ '=' :: pair.valueText.toList := by
  simp [text]

theorem toList_render_cons (pair : Pair) (pairs : List Pair) :
    (render (pair :: pairs)).toList =
      pair.text.toList ++ if pairs.isEmpty then [] else ' ' :: (render pairs).toList := by
  cases pairs with
  | nil => simp [render]
  | cons next rest => simp [render]

end Pair

namespace Preprocessor

open Pattern

/-- The default pattern is the one that its text writes. -/
theorem withPattern_default :
    withPattern "([A-Za-z_][\\w.\\-]*)=(?:\"([^\"]*)\"|(\\S+))" = .ok defaults := by
  have read : Pattern.ofText? "([A-Za-z_][\\w.\\-]*)=(?:\"([^\"]*)\"|(\\S+))" =
      some defaultKeyValue := by decide +kernel
  rw [withPattern, read]
  rfl

/-! ## Classes of characters -/

theorem has_range_self (c d : Char) : (CharClass.range d d).has c = decide (c = d) := by
  rw [Bool.eq_iff_iff]
  simp only [CharClass.has, Bool.and_eq_true, decide_eq_true_eq]
  constructor
  · rintro ⟨low, high⟩
    exact Char.le_antisymm high low
  · rintro rfl
    exact ⟨Char.le_refl c, Char.le_refl c⟩

theorem has_keyStart (c : Char) : keyStart.has c = isKeyStart c := by
  have apart : keyStart.has c = (('A' ≤ c && c ≤ 'Z') || (('a' ≤ c && c ≤ 'z') ||
      (CharClass.range '_' '_').has c)) := rfl
  rw [apart, has_range_self, isKeyStart, Bool.or_assoc]

theorem has_keyRest (c : Char) : keyRest.has c = isKeyRest c := by
  have apart : keyRest.has c = (Text.isWord c || ((CharClass.range '.' '.').has c ||
      (CharClass.range '-' '-').has c)) := rfl
  rw [apart, has_range_self, has_range_self, isKeyRest, Bool.or_assoc]

theorem isBlank_of_isKeyStart {c : Char} (start : isKeyStart c) : Text.isBlank c = false := by
  have bounds : 65 ≤ c.toNat ∧ c.toNat ≤ 122 := by
    simp only [isKeyStart, Bool.or_eq_true, Bool.and_eq_true, decide_eq_true_eq, Char.le_def,
      UInt32.le_iff_toNat_le] at start
    rcases start with (⟨low, high⟩ | ⟨low, high⟩) | rfl
    · exact ⟨low, Nat.le_trans high (by decide)⟩
    · exact ⟨Nat.le_trans (by decide) low, high⟩
    · decide
  simp [Text.isBlank]
  omega

/-! ## One pair -/

variable {place start : Place} {key : Span} {last : Captures}

def valuePattern : Pattern :=
  .alt
    (.seq
      (.seq (.one (.range '"' '"'))
        (.group 2 (atLeast 0 (.except (.anyOf [.range '"' '"'])))))
      (.one (.range '"' '"')))
    (.group 3 (atLeast 1 (.except .blank)))

theorem completes_key {first : Char} {taken after : List Char}
    (here : place.rest = first :: taken ++ '=' :: after) (start : isKeyStart first)
    (more : ∀ c ∈ taken, isKeyRest c)
    (further : Completes (place.behind (first :: taken)).next
      ⟨[.follow valuePattern, .leave 0],
        ⟨[(1, place), (0, place)], [(1, ⟨place, place.behind (first :: taken)⟩)]⟩⟩ last) :
    Completes place ⟨[.follow (.group 0 defaultKeyValue)], .none⟩ last := by
  have behind := Place.rest_next_of_append here
  have opens : keyStart.has first := (has_keyStart first).trans start
  have goes : ∀ c ∈ taken, keyRest.has c := fun c member => (has_keyRest c).trans (more c member)
  have ends : keyRest.has '=' = false := by decide
  refine .group (.seq (.seq (.group (.seq (.one here opens (.anyNumber behind goes ends ?_))))))
  exact .leave (.one (Place.rest_behind behind) (by decide) further)

theorem completes_quoted {value after : List Char}
    (here : place.rest = '"' :: value ++ '"' :: after) (free : '"' ∉ value) :
    Completes place ⟨[.follow valuePattern, .leave 0], ⟨[(1, start), (0, start)], [(1, key)]⟩⟩
      ⟨[(2, place.next), (1, start), (0, start)],
        [(0, ⟨start, (place.next.behind value).next⟩),
          (2, ⟨place.next, place.next.behind value⟩), (1, key)]⟩ := by
  have behind := Place.rest_next_of_append here
  have inside : ∀ c ∈ value, (CharClass.except (.anyOf [.range '"' '"'])).has c := by
    intro c member
    have differs : c ≠ '"' := fun same => free (same ▸ member)
    change (! (CharClass.range '"' '"').has c) = true
    simp [has_range_self, differs]
  have ends : (CharClass.except (.anyOf [.range '"' '"'])).has '"' = false := by decide
  -- The mark opens a bare value as well, but that way is tried later.
  refine .altLeft (.seq (.seq (.one here (by decide) (.group (.anyNumber behind inside ends ?_)))))
  exact .leave (.one (Place.rest_behind behind) (by decide) (.leave .nothing))

theorem completes_bare {first : Char} {taken after : List Char}
    (here : place.rest = first :: taken ++ after) (bare : first ≠ '"')
    (solid : ∀ c ∈ first :: taken, Text.isBlank c = false)
    (ends : after.head?.all Text.isBlank) :
    Completes place ⟨[.follow valuePattern, .leave 0], ⟨[(1, start), (0, start)], [(1, key)]⟩⟩
      ⟨[(3, place), (1, start), (0, start)],
        [(0, ⟨start, place.behind (first :: taken)⟩),
          (3, ⟨place, place.behind (first :: taken)⟩), (1, key)]⟩ := by
  have unopened : place.rest.head?.any (CharClass.range '"' '"').has = false := by
    simp [here, has_range_self, bare]
  have inside : ∀ c ∈ first :: taken, (CharClass.except .blank).has c := by
    intro c member
    simp [CharClass.has, solid c member]
  have ended : after.head?.any (CharClass.except .blank).has = false := by
    cases after with
    | nil => rfl
    | cons c after => simpa [CharClass.has] using ends
  refine .altRight rfl unopened (.group (.atLeastOne here inside ended ?_))
  exact .leave (.leave .nothing)

theorem completes_value (pair : Pair) {after : List Char}
    (here : place.rest = pair.valueText.toList ++ after) (ends : after.head?.all Text.isBlank) :
    ∃ m last, Completes place
        ⟨[.follow valuePattern, .leave 0], ⟨[(1, start), (0, start)], [(1, key)]⟩⟩ m ∧
      m.group? 0 = some ⟨start, last⟩ ∧ m.group? 1 = some key ∧
      ((m.group? 2).or (m.group? 3)).map Span.text = some pair.value ∧
      last.rest = after ∧ place.position ≤ last.position := by
  have valued := pair.valued
  rw [Pair.valueText] at here
  split at valued
  · rename_i quoted
    have there : place.rest = '"' :: pair.value.toList ++ '"' :: after := by
      simpa [quoted] using here
    have behind := Place.rest_next_of_append there
    have closing := Place.rest_behind behind
    refine ⟨_, _, completes_quoted there valued, rfl, rfl, ?_, ?_, ?_⟩
    · exact congrArg some ((Place.text_behind behind).trans String.ofList_toList)
    · rw [Place.next_of_cons closing]
    · rw [Place.next_of_cons closing, Place.position_behind behind, Place.next_of_cons there]
      simp only
      omega
  · rename_i bare
    rw [isBareValue] at valued
    split at valued
    · cases valued
    · rename_i first taken value
      obtain ⟨differs, solid⟩ := (Bool.and_eq_true _ _).mp valued
      have there : place.rest = first :: taken ++ after := by simpa [bare, value] using here
      refine ⟨_, _, completes_bare there (by simpa using differs) (by simpa using solid) ends,
        rfl, rfl, ?_, Place.rest_behind there, ?_⟩
      · refine congrArg some ((Place.text_behind there).trans ?_)
        rw [← value, String.ofList_toList]
      · have moved := Place.position_behind there
        rw [List.length_cons] at moved
        omega

theorem pairOf_of_groups {m : Captures} {value : String} (named : m.group? 1 = some key)
    (valued : ((m.group? 2).or (m.group? 3)).map Span.text = some value) :
    pairOf m = some (key.text, .str value) := by
  obtain ⟨span, found, rfl⟩ := Option.map_eq_some_iff.mp valued
  simp [pairOf, named, found]

theorem firstMatch_of_pair (pair : Pair) {after : List Char}
    (here : place.rest = pair.text.toList ++ after) (ends : after.head?.all Text.isBlank) :
    ∃ m last, defaultKeyValue.firstMatch place = some m ∧ m.group? 0 = some ⟨place, last⟩ ∧
      pairOf m = some pair.field ∧ last.rest = after ∧ place.position < last.position := by
  obtain ⟨first, taken, keyed, start, more⟩ := pair.exists_key
  have there : place.rest = first :: taken ++ '=' :: (pair.valueText.toList ++ after) := by
    simpa [pair.toList_text, keyed] using here
  have equals := Place.next_of_cons (Place.rest_behind there)
  obtain ⟨m, last, completes, whole, named, valued, rest, further⟩ :=
    completes_value pair (congrArg Place.rest equals) ends
  refine ⟨m, last, firstMatch_of_completes (completes_key there start more completes), whole, ?_,
    rest, ?_⟩
  · rw [pairOf_of_groups named valued, Place.text_behind there, ← keyed, String.ofList_toList]
    rfl
  · rw [equals, Place.position_behind there] at further
    simp only [List.length_cons] at further
    omega

/-! ## All pairs -/

theorem firstMatch_dead (lacks : place.rest.head?.any isKeyStart = false) :
    move place.rest.head? (waysAhead place [.follow (.group 0 defaultKeyValue)] .none) =
      ([], none) := by
  have lacks : place.rest.head?.any keyStart.has = false := by
    simpa only [Option.any, has_keyStart] using lacks
  simp only [defaultKeyValue, waysAhead_group, waysAhead_seq, waysAhead_one]
  exact move_takes_not lacks _

theorem exists_same_firstMatch {pairs : List Pair}
    (rest : place.rest = if pairs.isEmpty then [] else ' ' :: (Pair.render pairs).toList) :
    ∃ next, defaultKeyValue.firstMatch place = defaultKeyValue.firstMatch next ∧
      next.rest = (Pair.render pairs).toList := by
  cases pairs with
  | nil => exact ⟨place, rfl, rest⟩
  | cons pair pairs =>
      refine ⟨place.next, firstMatch_next rest (firstMatch_dead ?_), ?_⟩
      · rw [rest]
        rfl
      · rw [Place.next_of_cons rest]

theorem filterMap_matchesFrom (pairs : List Pair) {start : Place}
    (same : defaultKeyValue.firstMatch place = defaultKeyValue.firstMatch start)
    (here : start.rest = (Pair.render pairs).toList) {fuel : Nat} (enough : pairs.length ≤ fuel)
    (previous : Option Nat) :
    (defaultKeyValue.matchesFrom fuel previous place).filterMap pairOf = pairs.map Pair.field := by
  induction pairs generalizing place start fuel previous with
  | nil =>
      have none : start.rest = [] := here
      rw [firstMatch_of_nil none (firstMatch_dead (by rw [none]; rfl))] at same
      rw [matchesFrom_of_none same]
      rfl
  | cons pair pairs ih =>
      cases fuel with
      | zero => cases enough
      | succ fuel =>
          rw [Pair.toList_render_cons] at here
          have ends : (if pairs.isEmpty then [] else
              ' ' :: (Pair.render pairs).toList).head?.all Text.isBlank := by
            cases pairs <;> rfl
          obtain ⟨m, last, found, whole, field, rest, further⟩ :=
            firstMatch_of_pair pair here ends
          have something : (Span.mk start last).isEmpty = false := by
            simp [Span.isEmpty, Nat.ne_of_lt further]
          obtain ⟨next, sameNext, hereNext⟩ := exists_same_firstMatch rest
          rw [matchesFrom_of_firstMatch (same.trans found) whole something,
            List.filterMap_cons_some field, ih sameNext hereNext (Nat.le_of_succ_le_succ enough)]
          rfl

theorem length_le_length_render (pairs : List Pair) :
    pairs.length ≤ (Pair.render pairs).toList.length := by
  induction pairs with
  | nil => exact Nat.zero_le _
  | cons pair pairs ih =>
      have later : pairs.length ≤
          (if pairs.isEmpty then [] else ' ' :: (Pair.render pairs).toList).length := by
        cases pairs with
        | nil => exact Nat.zero_le _
        | cons next rest => exact Nat.le_succ_of_le ih
      rw [Pair.toList_render_cons, Pair.toList_text]
      simp only [List.length_append, List.length_cons]
      omega

theorem filterMap_allMatches (pairs : List Pair) :
    (defaultKeyValue.allMatches (Pair.render pairs)).filterMap pairOf = pairs.map Pair.field := by
  refine filterMap_matchesFrom pairs rfl rfl ?_ none
  have enough := length_le_length_render pairs
  omega

/-! ## The fields of a log -/

theorem isBlankText_render {pairs : List Pair} (some : pairs ≠ []) :
    Text.isBlankText (Pair.render pairs) = false := by
  obtain ⟨pair, rest, rfl⟩ := List.exists_cons_of_ne_nil some
  obtain ⟨first, taken, keyed, start, -⟩ := pair.exists_key
  simp [Text.isBlankText, Pair.toList_render_cons, Pair.toList_text, keyed,
    isBlank_of_isKeyStart start]

theorem lookup_map_field (pairs : List Pair) (name : String) :
    (pairs.map Pair.field).lookup name =
      (pairs.find? (·.key = name)).map fun pair => .str pair.value := by
  induction pairs with
  | nil => rfl
  | cons pair pairs ih =>
      rw [List.map_cons, lookup_cons_eq_ite, ih, List.find?_cons]
      by_cases same : pair.key = name
      · simp [Pair.field, same]
      · simp [Pair.field, same, Ne.symm same]

/-- A text of pairs is valid, and its fields are the keys of the pairs, each with the value of the
last pair that has the key. -/
theorem fields_of_pairs {p : Preprocessor} {raw : RawLog} {pairs : List Pair}
    (standard : p.keyValue = defaultKeyValue) (text : raw.format = .text)
    (rendered : raw.content = Pair.render pairs) (some : pairs ≠ []) (key : Key)
    (now : Timestamp) :
    (p.preprocess key now raw).validated = true ∧
      ∀ name, (p.preprocess key now raw).fields.get? name =
        (pairs.reverse.find? (·.key = name)).map fun pair => .str pair.value := by
  have structured : p.preprocess key now raw = normalizeTimestamp (normalizeLevel
      (addFields (.ofRaw raw key now) (pairs.map Pair.field))) := by
    simp [preprocess, text, structureText, ProcessedLog.ofRaw, rendered, isBlankText_render some,
      standard, filterMap_allMatches]
  rw [structured]
  constructor
  · simp [addFields, ProcessedLog.ofRaw]
  · intro name
    rw [fields_normalizeTimestamp, fields_normalizeLevel, addFields, ProcessedLog.ofRaw,
      Dict.get?_foldl_insert, ← List.map_reverse, lookup_map_field]
    exact Option.or_none

/-- A quoted value with what looks like a pair in it, a bare value with quotation marks in it, and a
key that is written again with an empty value. -/
theorem fields_of_pairs_written_again :
    let quoted : Pair := ⟨"level", "a b=c", true, by decide +kernel, by decide +kernel⟩
    let bare : Pair := ⟨"x.y", "1=\"2\"", false, by decide +kernel, by decide +kernel⟩
    let again : Pair := ⟨"level", "", true, by decide +kernel, by decide +kernel⟩
    let raw : RawLog := .new "level=\"a b=c\" x.y=1=\"2\" level=\"\"" .text default
    let log := defaults.preprocess ⟨⟨"app"⟩, ⟨"endpoint"⟩⟩ default raw
    raw.format = .text ∧ raw.content = Pair.render [quoted, bare, again] ∧
      log.validated = true ∧ log.fields.get? "level" = some (.str "") ∧
      log.fields.get? "x.y" = some (.str "1=\"2\"") ∧ log.fields.get? "b" = none := by
  intro quoted bare again raw log
  have rendered : raw.content = Pair.render [quoted, bare, again] := by decide +kernel
  obtain ⟨valid, fields⟩ := @fields_of_pairs defaults raw [quoted, bare, again] rfl rfl rendered
    (by simp) ⟨⟨"app"⟩, ⟨"endpoint"⟩⟩ default
  exact ⟨rfl, rendered, valid, fields "level", fields "x.y", fields "b"⟩

end Preprocessor

end LogPipeline
