import LogPipeline.Daemon.Launch
import LogPipeline.Proofs.Daemon.CommandLine
import LogPipeline.Proofs.Settings.Loading

namespace LogPipeline

open CommandLine

structure Settings.IsStartable (s : Settings) : Prop where
  threshold : s.buffer.threshold ≤ PipelineConfig.mostThreshold
  retries : s.processing.maxRetries ≤ PipelineConfig.mostRetries
  workers : s.processing.workers ≤ PipelineConfig.mostWorkers
  retention : s.cleanup.enabled → s.cleanup.processedRetentionHours ≠ 0 ∧
    s.cleanup.failedRetentionHours ≠ 0 ∧ s.cleanup.processingTimeoutMinutes ≠ 0
  endpoint : s.metrics.enabled → s.metrics.endpoint = "/metrics"
  address : s.metrics.enabled → ∃ address, Net.SocketAddress.ofText?
    (s.metrics.listenAddr ++ ":" ++ toString s.metrics.port) = some address

namespace PipelineConfig

structure WithinLimits (c : PipelineConfig) : Prop where
  threshold : c.bufferThreshold ≠ 0 ∧ c.bufferThreshold ≤ mostThreshold
  retries : c.maxRetries ≤ mostRetries
  workers : c.workers ≤ mostWorkers
  positive : ∀ x ∈ c.positive, x.2 ≠ 0
  cleanup : c.cleanupEnabled → ∀ x ∈ c.positiveForCleanup, x.2 ≠ 0

theorem validate_eq_ok_iff {c : PipelineConfig} {done : Unit} :
    c.validate = .ok done ↔ c.WithinLimits := by
  have conditions : c.validate = .ok done ↔
      (c.bufferThreshold ≠ 0 ∧ c.bufferThreshold ≤ mostThreshold) ∧ c.maxRetries ≤ mostRetries ∧
        c.workers ≤ mostWorkers ∧ (∀ x ∈ c.positive, x.2 ≠ 0) ∧
        (c.cleanupEnabled → ∀ x ∈ c.positiveForCleanup, x.2 ≠ 0) := by
    simp only [validate, check_eq_ok_iff, bind_eq_ok_iff, forM_eq_ok_iff, lastCheck_eq_ok_iff,
      not_or, UInt64.not_lt, UInt32.not_lt, exists_const]
    cases c.cleanupEnabled with
    | false => simp [pure, Except.pure]
    | true =>
        simp only [if_true, forM_eq_ok_iff, lastCheck_eq_ok_iff, forall_const, ne_eq]
  exact conditions.trans ⟨fun ⟨threshold, retries, workers, positive, cleanup⟩ =>
    ⟨threshold, retries, workers, positive, cleanup⟩,
    fun limits => ⟨limits.threshold, limits.retries, limits.workers, limits.positive,
      limits.cleanup⟩⟩

end PipelineConfig

theorem MetricsSettings.listenAddress_eq_ok_iff {s : MetricsSettings} :
    (∃ address, s.listenAddress = .ok address) ↔ s.endpoint = "/metrics" ∧
      ∃ address, Net.SocketAddress.ofText? (s.listenAddr ++ ":" ++ toString s.port) =
        some address := by
  unfold listenAddress
  by_cases offered : s.endpoint = "/metrics"
  · rw [if_neg (not_not.mpr offered)]
    cases Net.SocketAddress.ofText? (s.listenAddr ++ ":" ++ toString s.port) <;> simp [offered]
  · simp [offered]

namespace Daemon

theorem check_eq_ok_iff {s : Settings} :
    check s = .ok () ↔ s.validate = .ok () ∧ (PipelineConfig.ofSettings s).validate = .ok () ∧
      (s.metrics.enabled → ∃ address, s.metrics.listenAddress = .ok address) := by
  constructor
  · intro passed
    obtain ⟨_, settings, passed⟩ := bind_eq_ok_iff.mp passed
    obtain ⟨_, pipeline, passed⟩ := bind_eq_ok_iff.mp passed
    refine ⟨mapError_eq_ok_iff.mp settings, mapError_eq_ok_iff.mp pipeline, fun offered => ?_⟩
    rw [if_pos offered] at passed
    obtain ⟨address, found, -⟩ := bind_eq_ok_iff.mp passed
    exact ⟨address, mapError_eq_ok_iff.mp found⟩
  · rintro ⟨settings, pipeline, listens⟩
    unfold check
    rw [settings, pipeline]
    by_cases offered : s.metrics.enabled
    · obtain ⟨address, found⟩ := listens offered
      rw [if_pos offered, found]
      rfl
    · rw [if_neg offered]
      rfl

theorem check_eq_ok_iff_isStartable {s : Settings} (limits : s.WithinLimits) :
    check s = .ok () ↔ s.IsStartable := by
  have positive := limits.positive
  have interval := limits.interval
  simp only [Settings.positive, List.forall_mem_cons] at positive
  rw [check_eq_ok_iff, PipelineConfig.validate_eq_ok_iff, Settings.validate_eq_ok_iff]
  constructor
  · rintro ⟨-, pipeline, listens⟩
    have cleanup := pipeline.cleanup
    simp only [PipelineConfig.positiveForCleanup, List.forall_mem_cons] at cleanup
    exact
      { threshold := pipeline.threshold.2
        retries := pipeline.retries
        workers := pipeline.workers
        retention := fun enabled =>
          have ⟨processed, failed, timeout, _⟩ := cleanup enabled
          ⟨processed, failed, timeout⟩
        endpoint := fun offered =>
          (MetricsSettings.listenAddress_eq_ok_iff.mp (listens offered)).1
        address := fun offered =>
          (MetricsSettings.listenAddress_eq_ok_iff.mp (listens offered)).2 }
  · intro startable
    refine ⟨limits, ?_, fun offered => MetricsSettings.listenAddress_eq_ok_iff.mpr
      ⟨startable.endpoint offered, startable.address offered⟩⟩
    exact
      { threshold := ⟨positive.1, startable.threshold⟩
        retries := startable.retries
        workers := startable.workers
        positive := by
          simp only [PipelineConfig.positive, List.forall_mem_cons]
          exact positive.2
        cleanup := fun enabled => by
          obtain ⟨processed, failed, timeout⟩ := startable.retention enabled
          simp only [PipelineConfig.positiveForCleanup, List.forall_mem_cons]
          exact ⟨processed, failed, timeout, interval enabled, List.forall_mem_nil _⟩ }

end Daemon

theorem OutputFormat.ofName_of_mem {name : String} (listed : name ∈ Settings.logFormats) :
    ∃ format, ofName name = .ok format := by
  simp only [Settings.logFormats, List.mem_cons, List.not_mem_nil, or_false] at listed
  rcases listed with rfl | rfl
  · exact ⟨.json, rfl⟩
  · exact ⟨.pretty, rfl⟩

namespace Launch

variable {args : List String} {files : String → FileRead} {env : Environment} {output : String}

theorem validate_of_settings {c : CommandLine} {s : Settings}
    (settled : settings c files env = .ok s) : s.validate = .ok () := by
  obtain ⟨loaded, -, settled⟩ := bind_eq_ok_iff.mp settled
  obtain ⟨_, valid, settled⟩ := bind_eq_ok_iff.mp settled
  cases settled
  exact mapError_eq_ok_iff.mp valid

theorem ofArgs_of_settings {c : CommandLine} {s : Settings} (parsed : parse args = .ok c)
    (run : c.validateOnly = false) (settled : settings c files env = .ok s) :
    ofArgs args files env =
      match Daemon.check s with
      | .ok () => .runs s
      | .error e => .failed e := by
  have limits := Settings.validate_eq_ok_iff.mp (validate_of_settings settled)
  obtain ⟨format, known⟩ := OutputFormat.ofName_of_mem limits.format
  simp only [ofArgs, parsed, settled, run, known, Bool.false_eq_true, if_false]
  cases Daemon.check s <;> rfl

/-- Arguments that ask for a check and end well. Without the flag they print the same, or they come
to a run with settings that are within their limits; the run starts exactly if they are startable. -/
theorem withoutCheck_of_finished (well : ofArgs args files env = .finished output) :
    match parse args with
    | .error _ => ofArgs (withoutCheck args) files env = .finished output
    | .ok c => ∃ s, settings c files env = .ok s ∧ s.validate = .ok () ∧
        (Daemon.check s = .ok () ↔ s.IsStartable) ∧
        ofArgs (withoutCheck args) files env =
          match Daemon.check s with
          | .ok () => .runs s
          | .error e => .failed e := by
  have printed : ∀ stop, parse args = .error stop → stop.IsInformation := by
    intro stop refused
    simp only [ofArgs, refused] at well
    cases stop with
    | help | version => trivial
    | _ => cases well
  have same := parse_withoutCheck printed
  cases parsed : parse args with
  | error stop =>
      rw [parsed] at same
      simp only [ofArgs, parsed] at well
      simp only [ofArgs, same, Except.map]
      exact well
  | ok c =>
      rw [parsed] at same
      simp only [ofArgs, parsed] at well
      cases settled : settings c files env with
      | error e =>
          rw [settled] at well
          cases well
      | ok s =>
          have valid := validate_of_settings settled
          have limits := Settings.validate_eq_ok_iff.mp valid
          exact ⟨s, settled, valid, Daemon.check_eq_ok_iff_isStartable limits,
            ofArgs_of_settings same rfl settled⟩

/-- Options around the flag: the highest threshold that a run starts with. -/
theorem withoutCheck_of_finished_at_the_limit :
    let args := ["-c", "intake.toml", "--validate", "--log-level", "debug"]
    let files : String → FileRead := fun _ => .content "[general]\nlog_level = \"warn\"".toUTF8
    let env : Environment := fun name =>
      if name = "INTAKE_BUFFER_THRESHOLD" then some "100000" else none
    ofArgs args files env = .finished "configuration OK: intake.toml\n" ∧
      ∃ s, settings ⟨"intake.toml", some "debug", none, true⟩ files env = .ok s ∧
        s.validate = .ok () ∧ (Daemon.check s = .ok () ↔ s.IsStartable) ∧
        ofArgs (withoutCheck args) files env =
          match Daemon.check s with
          | .ok () => .runs s
          | .error e => .failed e := by
  intro args files env
  let highest : Settings :=
    { Settings.defaults with general.logLevel := "debug", buffer.threshold := 100000 }
  have parsed : parse args = .ok ⟨"intake.toml", some "debug", none, true⟩ := by decide +kernel
  have settled : settings ⟨"intake.toml", some "debug", none, true⟩ files env = .ok highest := by
    decide +kernel
  have well : ofArgs args files env = .finished "configuration OK: intake.toml\n" := by
    simp only [ofArgs, parsed, settled]
    rfl
  have without := withoutCheck_of_finished well
  rw [parsed] at without
  exact ⟨well, without⟩

/-- A threshold that is checked and passed, and with which no run starts. -/
theorem withoutCheck_of_high_threshold :
    ¬ ∀ (args : List String) (files : String → FileRead) (env : Environment) (output : String),
      checkFlag ∈ args → ofArgs args files env = .finished output →
        ∀ c s, parse (withoutCheck args) = .ok c → settings c files env = .ok s →
          s.validate = .ok () ∧ (PipelineConfig.ofSettings s).validate = .ok () ∧
            (s.metrics.enabled → ∃ address, s.metrics.listenAddress = .ok address) := by
  intro passes
  let files : String → FileRead := fun _ => .content "[buffer]\nthreshold = 200000".toUTF8
  let env : Environment := fun _ => none
  let high : Settings := { Settings.defaults with buffer.threshold := 200000 }
  have parsed : parse ["--validate", "-c", "intake.toml"] =
      .ok ⟨"intake.toml", none, none, true⟩ := by
    decide +kernel
  have settled : ∀ asked, settings ⟨"intake.toml", none, none, asked⟩ files env = .ok high := by
    decide +kernel
  have well : ofArgs ["--validate", "-c", "intake.toml"] files env =
      .finished "configuration OK: intake.toml\n" := by
    rw [ofArgs, parsed]
    dsimp only
    rw [settled]
    rfl
  obtain ⟨-, pipeline, -⟩ := passes _ files env _ List.mem_cons_self well
    ⟨"intake.toml", none, none, false⟩ high (by decide +kernel) (settled false)
  exact absurd pipeline (by decide +kernel)

end Launch

end LogPipeline
