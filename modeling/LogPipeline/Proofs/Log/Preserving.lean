import Mathlib.Data.List.Forall2
import LogPipeline.Log.Structuring
import LogPipeline.Proofs.Collections

namespace LogPipeline

/-- The content of a log has the form of its format. Only JSON and text have one. -/
def RawLog.HasForm (raw : RawLog) : Prop :=
  match raw.format with
  | .json => ∃ members, Json.parse? raw.content = some (.obj members)
  | .text => ∃ c ∈ raw.content.toList, Text.isBlank c = false
  | .xml | .binary | .custom => True

namespace Preprocessor

variable {raw : RawLog} {key : Key} {now : Timestamp} {log : ProcessedLog}

/-- What is kept of a submitted log. The instant of the log moves only to one that is written. -/
structure Preserves (raw : RawLog) (key : Key) (now : Timestamp) (log : ProcessedLog) : Prop where
  content : log.content = raw.content
  format : log.format = raw.format
  source : log.source = raw.source
  app : log.app = key.app
  endpoint : log.endpoint = key.endpoint
  processTime : log.processTime = now
  metadata : ∀ name, name ≠ timestampKey → name ≠ levelKey →
    log.metadata.get? name = raw.metadata.get? name
  logTime : log.logTime = raw.timestamp ∧
      log.metadata.get? timestampKey = raw.metadata.get? timestampKey ∨
    log.metadata.get? timestampKey = some (instantText log.logTime)

theorem preserves_ofRaw (raw : RawLog) (key : Key) (now : Timestamp) :
    Preserves raw key now (.ofRaw raw key now) where
  content := rfl
  format := rfl
  source := rfl
  app := rfl
  endpoint := rfl
  processTime := rfl
  metadata _ _ _ := rfl
  logTime := .inl ⟨rfl, rfl⟩

theorem Preserves.addFields (kept : Preserves raw key now log) (fields : List (String × Json)) :
    Preserves raw key now (addFields log fields) :=
  { kept with }

theorem Preserves.reject (kept : Preserves raw key now log) (reason : String) :
    Preserves raw key now (log.reject reason) :=
  { kept with }

theorem Preserves.normalizeTimestamp (kept : Preserves raw key now log) :
    Preserves raw key now (normalizeTimestamp log) := by
  rw [Preprocessor.normalizeTimestamp]
  split
  · rename_i t _
    have written : (log.metadata.insert timestampKey (instantText t)).get? timestampKey =
        some (instantText t) := by
      rw [Dict.get?_insert, if_pos rfl]
    refine { kept with metadata := fun name other level => ?_, logTime := .inr written }
    exact (Dict.get?_insert _ _ _ _).trans ((if_neg other).trans (kept.metadata name other level))
  · exact kept

theorem Preserves.normalizeLevel (kept : Preserves raw key now log) :
    Preserves raw key now (normalizeLevel log) := by
  rw [Preprocessor.normalizeLevel]
  split
  · rename_i level _
    have still (name : String) (other : name ≠ levelKey) :
        (log.metadata.insert levelKey (Text.lowercase level)).get? name =
          log.metadata.get? name := by
      rw [Dict.get?_insert, if_neg other]
    have timestamp := still timestampKey (by decide)
    exact { kept with
      metadata := fun name other level =>
        (still name level).trans (kept.metadata name other level)
      logTime := kept.logTime.imp (fun same => ⟨same.1, timestamp.trans same.2⟩)
        timestamp.trans }
  · exact kept

inductive Judged (raw : RawLog) (key : Key) (now : Timestamp) : ProcessedLog → Prop where
  | rejected (reason : String) (formless : ¬ raw.HasForm) :
    Judged raw key now ((ProcessedLog.ofRaw raw key now).reject reason)
  | accepted {log : ProcessedLog} (formed : raw.HasForm) (valid : log.validated = true)
      (kept : Preserves raw key now log) : Judged raw key now log

theorem validated_ofRaw (raw : RawLog) (key : Key) (now : Timestamp) :
    (ProcessedLog.ofRaw raw key now).validated = true := rfl

theorem judged_structureJson (p : Preprocessor) (json : raw.format = .json) :
    Judged raw key now (p.structureJson (.ofRaw raw key now)) := by
  have form : raw.HasForm ↔ ∃ members, Json.parse? raw.content = some (.obj members) := by
    simp only [RawLog.HasForm, json]
  have content : (ProcessedLog.ofRaw raw key now).content = raw.content := rfl
  rw [structureJson, content]
  split
  · rename_i unread
    exact .rejected _ (by simp [form, unread])
  · rename_i members read
    refine .accepted (form.mpr ⟨members, read⟩) ?_ ?_
    · rw [validated_normalizeLevel, validated_normalizeTimestamp]
      exact validated_ofRaw raw key now
    · exact ((preserves_ofRaw raw key now).addFields _).normalizeTimestamp.normalizeLevel
  · rename_i value other read
    refine .rejected _ fun formed => ?_
    obtain ⟨members, object⟩ := form.mp formed
    exact other members (Option.some.inj (read.symm.trans object))

theorem judged_structureText (p : Preprocessor) (text : raw.format = .text) :
    Judged raw key now (p.structureText (.ofRaw raw key now)) := by
  have form : raw.HasForm ↔ Text.isBlankText raw.content = false := by
    simp [RawLog.HasForm, text, Text.isBlankText]
  have content : (ProcessedLog.ofRaw raw key now).content = raw.content := rfl
  rw [structureText, content]
  split
  · rename_i blank
    exact .rejected _ (by simp [form, blank])
  · rename_i something
    refine .accepted (form.mpr (Bool.eq_false_iff.mpr something)) ?_ ?_
    · rw [validated_normalizeTimestamp, validated_normalizeLevel]
      exact validated_ofRaw raw key now
    · exact ((preserves_ofRaw raw key now).addFields _).normalizeLevel.normalizeTimestamp

theorem judged_preprocess (p : Preprocessor) (raw : RawLog) (key : Key) (now : Timestamp) :
    Judged raw key now (p.preprocess key now raw) := by
  cases format : raw.format with
  | json =>
      simp only [preprocess, format]
      exact judged_structureJson p format
  | text =>
      simp only [preprocess, format]
      exact judged_structureText p format
  | xml | binary | custom =>
      simp only [preprocess, format]
      refine .accepted ?_ (validated_ofRaw raw key now) (preserves_ofRaw raw key now)
      simp only [RawLog.HasForm, format]

structure TurnedDown (raw : RawLog) (log : ProcessedLog) : Prop where
  error : log.validationError ≠ none
  fields : log.fields = .empty
  metadata : log.metadata = raw.metadata
  logTime : log.logTime = raw.timestamp

structure Faithful (raw : RawLog) (key : Key) (now : Timestamp) (log : ProcessedLog) : Prop extends
    Preserves raw key now log where
  validated : log.validated = true ↔ raw.HasForm
  invalid : log.validated = false → TurnedDown raw log

theorem Judged.faithful (judged : Judged raw key now log) : Faithful raw key now log := by
  cases judged with
  | rejected reason formless =>
      exact
        { (preserves_ofRaw raw key now).reject reason with
          validated := iff_of_false Bool.false_ne_true formless
          invalid := fun _ => ⟨nofun, rfl, rfl, rfl⟩ }
  | accepted formed valid kept =>
      exact
        { kept with
          validated := iff_of_true valid formed
          invalid := fun invalid => absurd valid (by simp [invalid]) }

/-- The logs of a batch are structured one by one in their order, each faithfully to what was
submitted. What becomes of a log depends on nothing else but the key of its batch and the clock. -/
theorem preprocessBatch_faithful (p : Preprocessor) (batch : Batch) (now : Timestamp) :
    batch.logs.Forall₂ (fun raw log => Faithful raw batch.key now log)
        (p.preprocessBatch batch now) ∧
      ∀ (other : Batch) (i j : Nat), other.key = batch.key → other.logs[j]? = batch.logs[i]? →
        (p.preprocessBatch other now)[j]? = (p.preprocessBatch batch now)[i]? := by
  constructor
  · rw [preprocessBatch, List.forall₂_map_right_iff, List.forall₂_same]
    exact fun raw _ => (judged_preprocess p raw batch.key now).faithful
  · intro other i j sameKey sameLog
    rw [preprocessBatch, preprocessBatch, List.getElem?_map, List.getElem?_map, sameKey, sameLog]

/-- An array, a blank text and a document that has no form to keep to. The last one becomes the same
log in a batch of its own. -/
theorem preprocessBatch_faithful_mixed :
    let log (content : String) (format : LogFormat) : RawLog :=
      (RawLog.new content format ⟨0, 0⟩).withMetadata timestampKey "then"
    let key : Key := ⟨⟨"app"⟩, ⟨"endpoint"⟩⟩
    let mixed := Batch.new ⟨"one"⟩ key [log "[1]" .json, log " " .text, log "<a/>" .xml] ⟨1, 0⟩
    let single := Batch.new ⟨"two"⟩ key [log "<a/>" .xml] ⟨2, 0⟩
    (defaults.preprocessBatch mixed ⟨3, 0⟩).map (·.validated) = [false, false, true] ∧
      mixed.logs.Forall₂ (fun raw log => Faithful raw key ⟨3, 0⟩ log)
        (defaults.preprocessBatch mixed ⟨3, 0⟩) ∧
      (defaults.preprocessBatch single ⟨3, 0⟩)[0]? =
        (defaults.preprocessBatch mixed ⟨3, 0⟩)[2]? := by
  intro log key mixed single
  obtain ⟨faithful, alone⟩ := preprocessBatch_faithful defaults mixed ⟨3, 0⟩
  exact ⟨by decide +kernel, faithful, alone single 2 0 rfl rfl⟩

end Preprocessor

end LogPipeline
