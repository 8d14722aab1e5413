import LogPipeline.Proofs.Number.Decimal
import LogPipeline.Proofs.Settings.Loading

namespace LogPipeline

namespace Number

def Counts (text : String) (n : Nat) : Prop :=
  ∃ digits, IsNumeral digits ∧ digitsValue digits = n ∧
    (text.toList = digits ∨ text.toList = '+' :: digits)

theorem readBelow?_eq_some_iff {bound n : Nat} {text : String} :
    readBelow? bound text = some n ↔ Counts text n ∧ n < bound := by
  unfold readBelow? Counts
  rw [Option.filter_eq_some_iff, decide_eq_true_iff]
  refine and_congr_left fun _ => ?_
  generalize text.toList = characters
  constructor
  · intro read
    split at read
    · next rest =>
        obtain ⟨numeral, value⟩ := ofDigits?_eq_some_iff.mp read
        exact ⟨rest, numeral, value, .inr rfl⟩
    · obtain ⟨numeral, value⟩ := ofDigits?_eq_some_iff.mp read
      exact ⟨characters, numeral, value, .inl rfl⟩
  · rintro ⟨digits, numeral, value, rfl | rfl⟩
    · split
      · exact absurd (numeral.2 '+' List.mem_cons_self) (by decide)
      · exact ofDigits?_eq_some_iff.mpr ⟨numeral, value⟩
    · exact ofDigits?_eq_some_iff.mpr ⟨numeral, value⟩

theorem map_readBelow?_eq_some_iff {Word : Type} {bound : Nat} {toNat : Word → Nat}
    {ofNat : Nat → Word} (below : ∀ v, toNat v < bound) (back : ∀ v, ofNat (toNat v) = v)
    (same : ∀ n < bound, toNat (ofNat n) = n) {text : String} {v : Word} :
    (readBelow? bound text).map ofNat = some v ↔ Counts text (toNat v) := by
  rw [Option.map_eq_some_iff]
  constructor
  · rintro ⟨n, read, rfl⟩
    obtain ⟨counts, less⟩ := readBelow?_eq_some_iff.mp read
    rwa [same n less]
  · intro counts
    exact ⟨toNat v, readBelow?_eq_some_iff.mpr ⟨counts, below v⟩, back v⟩

end Number

namespace SettingKind

def Spells : (kind : SettingKind) → String → kind.Value → Prop
  | .text, s, v => v = s
  | .flag, s, v => s = if v then "true" else "false"
  | .word16, s, v => Number.Counts s v.toNat
  | .word32, s, v => Number.Counts s v.toNat
  | .word64, s, v => Number.Counts s v.toNat

theorem ofText?_eq_some_iff {kind : SettingKind} {s : String} {v : kind.Value} :
    kind.ofText? s = some v ↔ kind.Spells s v := by
  cases kind with
  | text => exact Option.some_inj.trans eq_comm
  | flag =>
      simp only [ofText?, Spells]
      cases v <;> grind
  | word16 =>
      exact Number.map_readBelow?_eq_some_iff UInt16.toNat_lt_size (fun v => UInt16.ofNat_toNat)
        fun n less => UInt16.toNat_ofNat_of_lt less
  | word32 =>
      exact Number.map_readBelow?_eq_some_iff UInt32.toNat_lt_size (fun v => UInt32.ofNat_toNat)
        fun n less => UInt32.toNat_ofNat_of_lt less
  | word64 =>
      exact Number.map_readBelow?_eq_some_iff UInt64.toNat_lt_size (fun v => UInt64.ofNat_toNat)
        fun n less => UInt64.toNat_ofNat_of_lt less

end SettingKind

namespace Setting

def IsSpelled (env : Environment) (x : Setting) : Prop :=
  ∃ s v, env x.variableName = some s ∧ x.kind.Spells s v

theorem bind_ofText?_eq_some_iff {env : Environment} {x : Setting} {v : x.kind.Value} :
    (env x.variableName).bind x.kind.ofText? = some v ↔
      ∃ s, env x.variableName = some s ∧ x.kind.Spells s v := by
  simp [Option.bind_eq_some_iff, SettingKind.ofText?_eq_some_iff]

theorem nodup_variableName : (all.map variableName).Nodup := by
  decide +kernel

theorem overridable_eq_false_iff : ∀ x ∈ all, x.overridable = false ↔
    x.path = "metrics.endpoint" ∨ x.path = "cleanup.initial_delay_minutes" := by
  decide +kernel

end Setting

namespace Settings

/-- What the variables of an environment make of settings. -/
structure Overridden (env : Environment) (before after : Settings) : Prop where
  taken : ∀ x ∈ Setting.all, x.overridable = true →
    ∀ s v, env x.variableName = some s → x.kind.Spells s v → x.get after = v
  kept : ∀ x ∈ Setting.all, x.overridable = false ∨ ¬ x.IsSpelled env →
    x.get after = x.get before

theorem overridden_override (env : Environment) (s : Settings) :
    Overridden env s (override env s) where
  taken x listed overridable text v there spells := by
    have read := Setting.bind_ofText?_eq_some_iff.mpr ⟨text, there, spells⟩
    rw [get_override listed, Setting.effective, Setting.overridden?, if_pos overridable, read,
      Option.getD_some]
  kept x listed own := by
    rw [get_override listed, Setting.effective, Setting.overridden?]
    rcases own with fixed | unspelled
    · simp [fixed]
    · have unread : (env x.variableName).bind x.kind.ofText? = none := by
        apply Option.eq_none_iff_forall_ne_some.mpr
        intro v read
        obtain ⟨text, there, spells⟩ := Setting.bind_ofText?_eq_some_iff.mp read
        exact unspelled ⟨text, v, there, spells⟩
      rw [unread, ite_self, Option.getD_none]

theorem get_override_congr {x : Setting} (listed : x ∈ Setting.all) {env other : Environment}
    (same : env x.variableName = other x.variableName) (s : Settings) :
    x.get (override env s) = x.get (override other s) := by
  simp only [get_override listed, Setting.effective, Setting.overridden?, same]

/-- Each setting follows the one variable that is named for it, but for two settings that follow
none. -/
theorem override_follows_variables (env : Environment) (s : Settings) :
    Overridden env s (override env s) ∧ (Setting.all.map Setting.variableName).Nodup ∧
      (∀ x ∈ Setting.all, x.overridable = false ↔
        x.path = "metrics.endpoint" ∨ x.path = "cleanup.initial_delay_minutes") ∧
      ∀ x ∈ Setting.all, ∀ other : Environment, env x.variableName = other x.variableName →
        x.get (override env s) = x.get (override other s) :=
  ⟨overridden_override env s, Setting.nodup_variableName, Setting.overridable_eq_false_iff,
    fun _ listed _ same => get_override_congr listed same s⟩

/-- The variable of a setting is there and spells a value, and the setting keeps its own. -/
theorem override_passes_over_delay :
    ¬ ∀ (env : Environment) (s : Settings), ∀ x ∈ Setting.all, ∀ text v,
      env x.variableName = some text → x.kind.Spells text v → x.get (override env s) = v := by
  intro follows
  let env : Environment := fun name =>
    if name = "INTAKE_CLEANUP_INITIAL_DELAY_MINUTES" then some "7" else none
  have listed : Setting.cleanupSettings[4] ∈ Setting.all :=
    List.mem_flatMap.mpr ⟨("cleanup", Setting.cleanupSettings), by simp [Setting.groups],
      List.getElem_mem _⟩
  have there : env Setting.cleanupSettings[4].variableName = some "7" := by decide +kernel
  have numeral : Number.IsNumeral ['7'] :=
    ⟨List.cons_ne_nil _ _, List.forall_mem_singleton.mpr (by decide)⟩
  have seven : Number.Counts "7" 7 := ⟨['7'], numeral, by decide, .inl rfl⟩
  have taken : (override env .defaults).cleanup.initialDelayMinutes = 7 :=
    follows env .defaults _ listed "7" (7 : UInt64) there seven
  have kept : (override env .defaults).cleanup.initialDelayMinutes = 5 := by decide +kernel
  exact absurd (kept.symm.trans taken) (by decide)

end Settings

end LogPipeline
