import LogPipeline.Proofs.Checks
import LogPipeline.Settings.Reader
import Mathlib.Data.List.Pairwise

namespace LogPipeline

/-! ## Looking up and changing settings -/

namespace Setting

def Independent (x y : Setting) : Prop :=
  (∀ v s, x.get (y.set v s) = x.get s) ∧ ∀ v s, y.get (x.set v s) = y.get s

theorem get_set {x : Setting} (listed : x ∈ all) (v : x.kind.Value) (s : Settings) :
    x.get (x.set v s) = v := by
  have each : ∀ x ∈ all, ∀ v s, x.get (x.set v s) = v := by
    simp only [all, groups, generalSettings, metricsSettings, bufferSettings, processingSettings,
      authSettings, rateLimitSettings, cleanupSettings, List.flatMap_cons, List.flatMap_nil,
      List.cons_append, List.nil_append, List.forall_mem_cons]
    simp
  exact each x listed v s

theorem pairwise_independent : all.Pairwise Independent := by
  simp only [all, groups, generalSettings, metricsSettings, bufferSettings, processingSettings,
    authSettings, rateLimitSettings, cleanupSettings, List.flatMap_cons, List.flatMap_nil,
    List.cons_append, List.nil_append, List.pairwise_cons, List.forall_mem_cons]
  simp [Independent]

theorem independent_of_ne {x y : Setting} (first : x ∈ all) (second : y ∈ all) (apart : x ≠ y) :
    x.Independent y :=
  have : Std.Symm Independent := ⟨fun _ _ both => both.symm⟩
  pairwise_independent.forall first second apart

theorem settings_ext {s t : Settings} (same : ∀ x ∈ all, x.get s = x.get t) : s = t := by
  obtain ⟨⟨_, _⟩, ⟨_, _, _, _⟩, ⟨_, _, _⟩, ⟨_, _, _⟩, ⟨_, _⟩, ⟨_⟩, ⟨_, _, _, _, _, _⟩⟩ := s
  obtain ⟨⟨_, _⟩, ⟨_, _, _, _⟩, ⟨_, _, _⟩, ⟨_, _, _⟩, ⟨_, _⟩, ⟨_⟩, ⟨_, _, _, _, _, _⟩⟩ := t
  simpa [all, groups, generalSettings, metricsSettings, bufferSettings, processingSettings,
    authSettings, rateLimitSettings, cleanupSettings, and_assoc] using same

def overridden? (env : Environment) (x : Setting) : Option x.kind.Value :=
  if x.overridable then (env x.variableName).bind x.kind.ofText? else none

def effective (env : Environment) (written : Settings) (x : Setting) : x.kind.Value :=
  (x.overridden? env).getD (x.get written)

end Setting

namespace Settings

/-! ## Overriding -/

theorem get_overrideSetting {x : Setting} (listed : x ∈ Setting.all) (env : Environment)
    (s : Settings) :
    x.get (overrideSetting env x s) =
      ((env x.variableName).bind x.kind.ofText?).getD (x.get s) := by
  unfold overrideSetting
  cases (env x.variableName).bind x.kind.ofText? with
  | none => rfl
  | some v => exact Setting.get_set listed v s

theorem get_overrideSetting_of_independent {x y : Setting} (apart : x.Independent y)
    (env : Environment) (s : Settings) : x.get (overrideSetting env y s) = x.get s := by
  unfold overrideSetting
  cases (env y.variableName).bind y.kind.ofText? with
  | none => rfl
  | some v => exact apart.1 v s

theorem get_foldl_of_independent {x : Setting} (env : Environment) (ys : List Setting)
    (apart : ∀ y ∈ ys, x.Independent y) (s : Settings) :
    x.get (ys.foldl (fun s y => overrideSetting env y s) s) = x.get s := by
  induction ys generalizing s with
  | nil => rfl
  | cons y ys ih =>
      rw [List.foldl_cons, ih (fun z later => apart z (List.mem_cons_of_mem y later)),
        get_overrideSetting_of_independent (apart y List.mem_cons_self)]

theorem get_foldl_of_mem {x : Setting} (env : Environment) (ys : List Setting)
    (listed : ∀ y ∈ ys, y ∈ Setting.all) (apart : ys.Pairwise Setting.Independent) (mine : x ∈ ys)
    (s : Settings) :
    x.get (ys.foldl (fun s y => overrideSetting env y s) s) =
      ((env x.variableName).bind x.kind.ofText?).getD (x.get s) := by
  induction ys generalizing s with
  | nil => cases mine
  | cons y ys ih =>
      obtain ⟨first, rest⟩ := List.pairwise_cons.mp apart
      rw [List.foldl_cons]
      rcases List.mem_cons.mp mine with rfl | later
      · rw [get_foldl_of_independent env ys first,
          get_overrideSetting (listed x List.mem_cons_self)]
      · rw [ih (fun z inside => listed z (List.mem_cons_of_mem y inside)) rest later,
          get_overrideSetting_of_independent (first x later).symm]

theorem get_override {x : Setting} (listed : x ∈ Setting.all) (env : Environment)
    (written : Settings) : x.get (override env written) = x.effective env written := by
  unfold override Setting.effective Setting.overridden?
  split
  · next overridable =>
      exact get_foldl_of_mem env _ (fun y inside => (List.mem_filter.mp inside).1)
        (Setting.pairwise_independent.filter _) (List.mem_filter.mpr ⟨listed, overridable⟩) written
  · next fixed =>
      refine get_foldl_of_independent env _ (fun y inside => ?_) written
      obtain ⟨other, overridable⟩ := List.mem_filter.mp inside
      exact Setting.independent_of_ne listed other fun same => fixed (same ▸ overridable)

theorem eq_override_iff {env : Environment} {s written : Settings} :
    s = override env written ↔ ∀ x ∈ Setting.all, x.get s = x.effective env written := by
  constructor
  · rintro rfl x listed
    exact get_override listed env written
  · intro same
    exact Setting.settings_ext fun x listed => by rw [same x listed, get_override listed]

/-! ## Limits -/

structure WithinLimits (s : Settings) : Prop where
  level : s.general.logLevel ∈ logLevels
  format : s.general.logFormat ∈ logFormats
  endpoint : s.metrics.enabled → s.metrics.endpoint.startsWith "/"
  positive : ∀ x ∈ s.positive, x.2 ≠ 0
  interval : s.cleanup.enabled → s.cleanup.intervalMinutes ≠ 0

theorem validate_eq_ok_iff {s : Settings} {done : Unit} :
    validate s = .ok done ↔ s.WithinLimits := by
  have conditions : validate s = .ok done ↔
      s.general.logLevel ∈ logLevels ∧ s.general.logFormat ∈ logFormats ∧
        (s.metrics.enabled → s.metrics.endpoint.startsWith "/") ∧
        (∀ x ∈ s.positive, x.2 ≠ 0) ∧
        (s.cleanup.enabled → s.cleanup.intervalMinutes ≠ 0) := by
    simp only [validate, check_eq_ok_iff, bind_eq_ok_iff, forM_eq_ok_iff, lastCheck_eq_ok_iff]
    simp
  exact conditions.trans ⟨fun ⟨level, format, endpoint, positive, interval⟩ =>
    ⟨level, format, endpoint, positive, interval⟩,
    fun limits => ⟨limits.level, limits.format, limits.endpoint, limits.positive,
      limits.interval⟩⟩

/-! ## Loading -/

theorem fileText_toUTF8 (path text : String) :
    fileText path (.content text.toUTF8) = .ok text := by
  have decoded : String.fromUTF8? text.toUTF8 = some text := dif_pos text.isValidUTF8
  rw [fileText, decoded]

theorem fromFile_eq_ok_iff {path text : String} {s : Settings} :
    fromFile path (.content text.toUTF8) = .ok s ↔ parse text = .ok s ∧ s.WithinLimits := by
  simp only [fromFile, fileText_toUTF8, bind_eq_ok_iff, mapError_eq_ok_iff, validate_eq_ok_iff]
  constructor
  · rintro ⟨_, read, written, parsed, _, limits, done⟩
    cases read
    cases done
    exact ⟨parsed, limits⟩
  · rintro ⟨parsed, limits⟩
    exact ⟨text, rfl, s, parsed, (), limits, rfl⟩

/-- Loading succeeds exactly if a file can be read and is within its limits both as it is written
and as it is overridden. The settings are then those of the file with the readable variables of
the settings that can be overridden in their place. -/
theorem load_eq_ok_iff (path text : String) (env : Environment) (s : Settings) :
    load path (.content text.toUTF8) env = .ok s ↔
      ∃ written, parse text = .ok written ∧ written.WithinLimits ∧
        s = override env written ∧ (∀ x ∈ Setting.all, x.get s = x.effective env written) ∧
        s.WithinLimits := by
  simp only [load, bind_eq_ok_iff, mapError_eq_ok_iff, fromFile_eq_ok_iff, validate_eq_ok_iff]
  constructor
  · rintro ⟨written, ⟨parsed, before⟩, _, after, done⟩
    cases done
    exact ⟨written, parsed, before, rfl, eq_override_iff.mp rfl, after⟩
  · rintro ⟨written, parsed, before, rfl, -, after⟩
    exact ⟨written, ⟨parsed, before⟩, (), after, rfl⟩

/-- A log level that does not exist is overridden by one that does, and loading fails. -/
theorem load_rejects_overridden_value :
    let text := "[general]\nlog_level = \"verbose\""
    let env : Environment := fun name =>
      if name = "INTAKE_GENERAL_LOG_LEVEL" then some "info" else none
    ∃ written, parse text = .ok written ∧ validate (override env written) = .ok () ∧
      load "intake.toml" (.content text.toUTF8) env =
        .error (.settings (.invalidValue "general.log_level"
          "must be one of: trace, debug, info, warn, error")) := by
  refine ⟨{ defaults with general.logLevel := "verbose" }, ?_, ?_, ?_⟩ <;> decide +kernel

end Settings

end LogPipeline
