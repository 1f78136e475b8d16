import AgenticEbpf.Evaluator.Evaluate

/-!
# What the artifacts of a run say

Every result `evaluate` returns carries `compile_output`, and its artifacts say how the run
ended. When `go generate` failed there is nothing else. When it exited 0, the run either
failed at a later stage and exactly one of `launch_failure` and `workload_failure` says
why, or it succeeded, and then neither is there (`evaluate_artifacts_outcome`). The server
logs the scan copies in are named `log_<name>`, so they never stand for either.

Each stage adds its artifacts with `dictSet`, whose keys are those before and the one it
sets (`mem_keys_dictSet`); the stage lemmas below follow one stage each, and the theorem
composes them along `evaluate`.
-/

namespace AgenticEbpf.Evaluator

open AgenticEbpf.Python

/-! ## Keys -/

theorem mem_keys_dictSet {α : Type} {d : List (String × α)} {key other : String} {value : α} :
    other ∈ (dictSet d key value).map Prod.fst ↔ other ∈ d.map Prod.fst ∨ other = key := by
  unfold dictSet
  split_ifs with present
  · have sameKeys : (d.map fun item => if item.1 = key then (key, value) else item).map Prod.fst =
        d.map Prod.fst := by
      rw [List.map_map]
      exact List.map_congr_left fun item _ => by by_cases same : item.1 = key <;> simp [same]
    obtain ⟨item, member, named⟩ := List.any_eq_true.mp present
    rw [sameKeys, or_iff_left_of_imp]
    rintro rfl
    exact List.mem_map.mpr ⟨item, member, by simpa using named⟩
  · simp

theorem mem_keys_logArtifacts (errorLogs : List (List Char × List Char))
    (artifacts : List (String × List Char)) (other : String) :
    other ∈ (errorLogs.foldl (fun acc log => dictSet acc ("log_" ++ String.mk log.1) log.2)
        artifacts).map Prod.fst ↔
      other ∈ artifacts.map Prod.fst ∨ ∃ log ∈ errorLogs, other = "log_" ++ String.mk log.1 := by
  induction errorLogs generalizing artifacts with
  | nil => simp
  | cons log rest ih =>
      simp only [List.foldl_cons, ih, mem_keys_dictSet, List.mem_cons, exists_eq_or_imp, or_assoc]

/-- A copied server log is never taken for a failure artifact. -/
theorem failure_ne_logArtifact (name : List Char) :
    "launch_failure" ≠ "log_" ++ String.mk name ∧ "workload_failure" ≠ "log_" ++ String.mk name := by
  constructor <;> intro named <;> simpa using congrArg String.data named

/-- The artifacts collected after a measured run. -/
def collectedKeys : List String :=
  ["basic_workload_summary_csv", "basic_workload_metrics_csv", "acceptq_stats_log", "cpu_stats_log"]

theorem mem_keys_collectArtifacts (w : World) (summary metricsFile : Bytes)
    (artifacts : List (String × List Char)) {other : String} (notCollected : other ∉ collectedKeys) :
    other ∈ (collectArtifacts w summary metricsFile artifacts).map Prod.fst ↔
      other ∈ artifacts.map Prod.fst := by
  simp only [collectedKeys, List.mem_cons, List.not_mem_nil, or_false, not_or] at notCollected
  obtain ⟨notSummary, notMetrics, notAcceptq, notCpu⟩ := notCollected
  unfold collectArtifacts
  split <;> split <;>
    simp only [mem_keys_dictSet, notSummary, notMetrics, notAcceptq, notCpu, or_false]

/-! ## The outcome of a compiled run -/

/-- What the artifacts of a run past `go generate` say: it failed, and exactly one of
`launch_failure` and `workload_failure` is there, or it succeeded and neither is. -/
def CompiledOutcome (result : EvaluationResult) : Prop :=
  "compile_output" ∈ result.artifacts.map Prod.fst ∧
    ((result.metrics = metricsMap (.finite 0) (.finite 0) (.finite 0) false true ∧
        ("launch_failure" ∈ result.artifacts.map Prod.fst ↔
          "workload_failure" ∉ result.artifacts.map Prod.fst)) ∨
      ∃ averageTput averageLatency totalScore,
        result.metrics = metricsMap averageTput averageLatency totalScore true true ∧
        "launch_failure" ∉ result.artifacts.map Prod.fst ∧
        "workload_failure" ∉ result.artifacts.map Prod.fst)

/-- The artifacts of a compiled run that has not failed yet. -/
structure Unfailed (artifacts : List (String × List Char)) : Prop where
  compiled : "compile_output" ∈ artifacts.map Prod.fst
  noLaunchFailure : "launch_failure" ∉ artifacts.map Prod.fst
  noWorkloadFailure : "workload_failure" ∉ artifacts.map Prod.fst

namespace Unfailed

variable {artifacts : List (String × List Char)} (unfailed : Unfailed artifacts)

include unfailed

theorem dictSet {key : String} (notLaunch : key ≠ "launch_failure")
    (notWorkload : key ≠ "workload_failure") (value : List Char) :
    Unfailed (dictSet artifacts key value) where
  compiled := mem_keys_dictSet.mpr (.inl unfailed.compiled)
  noLaunchFailure := by
    simp only [mem_keys_dictSet, unfailed.noLaunchFailure, false_or]
    exact notLaunch.symm
  noWorkloadFailure := by
    simp only [mem_keys_dictSet, unfailed.noWorkloadFailure, false_or]
    exact notWorkload.symm

theorem logArtifacts (errorLogs : List (List Char × List Char)) :
    Unfailed (errorLogs.foldl (fun acc log => Evaluator.dictSet acc ("log_" ++ String.mk log.1) log.2)
      artifacts) where
  compiled := (mem_keys_logArtifacts _ _ _).mpr (.inl unfailed.compiled)
  noLaunchFailure := by
    simp only [mem_keys_logArtifacts, unfailed.noLaunchFailure, false_or, not_exists, not_and]
    exact fun log _ => (failure_ne_logArtifact log.1).1
  noWorkloadFailure := by
    simp only [mem_keys_logArtifacts, unfailed.noWorkloadFailure, false_or, not_exists, not_and]
    exact fun log _ => (failure_ne_logArtifact log.1).2

theorem collectArtifacts (w : World) (summary metricsFile : Bytes) :
    Unfailed (collectArtifacts w summary metricsFile artifacts) where
  compiled := (mem_keys_collectArtifacts w summary metricsFile artifacts (by decide)).mpr
    unfailed.compiled
  noLaunchFailure := by
    rw [mem_keys_collectArtifacts w summary metricsFile artifacts (by decide)]
    exact unfailed.noLaunchFailure
  noWorkloadFailure := by
    rw [mem_keys_collectArtifacts w summary metricsFile artifacts (by decide)]
    exact unfailed.noWorkloadFailure

/-- A stage that gives up records `launch_failure`, and the run is a compiled failure. -/
theorem launch_failure (reason : List Char) :
    CompiledOutcome ⟨metricsMap (.finite 0) (.finite 0) (.finite 0) false true,
      Evaluator.dictSet artifacts "launch_failure" reason⟩ :=
  ⟨mem_keys_dictSet.mpr (.inl unfailed.compiled),
    .inl ⟨rfl, by
      simp only [mem_keys_dictSet, unfailed.noWorkloadFailure, or_true, false_or]
      decide⟩⟩

/-- A stage that gives up records `workload_failure`, and the run is a compiled failure. -/
theorem workload_failure (reason : List Char) :
    CompiledOutcome ⟨metricsMap (.finite 0) (.finite 0) (.finite 0) false true,
      Evaluator.dictSet artifacts "workload_failure" reason⟩ :=
  ⟨mem_keys_dictSet.mpr (.inl unfailed.compiled),
    .inl ⟨rfl, by
      simp only [mem_keys_dictSet, unfailed.noLaunchFailure, or_true, false_or]
      decide⟩⟩

theorem succeeded (averageTput averageLatency totalScore : PyFloat) :
    CompiledOutcome ⟨metricsMap averageTput averageLatency totalScore true true, artifacts⟩ :=
  ⟨unfailed.compiled, .inr ⟨averageTput, averageLatency, totalScore, rfl,
    unfailed.noLaunchFailure, unfailed.noWorkloadFailure⟩⟩

end Unfailed

/-! ## Stage by stage -/

section Stages

variable {artifacts : List (String × List Char)} {result : EvaluationResult}

theorem afterWorkload_outcome (w : World) (workload : Except PyError (Bool × Completed))
    (unfailed : Unfailed artifacts)
    (returned : afterWorkload w (metricsMap (.finite 0) (.finite 0) (.finite 0) false true)
      artifacts workload = .ok result) :
    CompiledOutcome result := by
  rcases workload with e | ⟨workloadOk, completed⟩
  · cases returned
  have recorded := (unfailed.dictSet (by decide : "workload_stdout" ≠ "launch_failure") (by decide)
    completed.stdout).dictSet (by decide : "workload_stderr" ≠ "launch_failure") (by decide)
      completed.stderr
  simp only [afterWorkload] at returned
  cases workloadOk
  · -- the workload exited with another code
    obtain rfl := (Except.ok.inj returned).symm
    exact recorded.workload_failure _
  simp only [Bool.not_true, Bool.false_eq_true, if_false] at returned
  split at returned
  · -- both files exist and the metrics file is read
    obtain ⟨figures, -, measured⟩ := bind_eq_ok.mp returned
    obtain rfl := (pure_eq_ok.mp measured).symm
    exact (recorded.collectArtifacts w _ _).succeeded _ _ _
  · -- a summary file is missing
    obtain rfl := (Except.ok.inj returned).symm
    exact recorded.workload_failure _

variable (isWordChar : Char → Bool)

theorem launchedRun_outcome (w : World) (launcher : Launcher) (unfailed : Unfailed artifacts)
    (returned : (launchedRun isWordChar w launcher
      (metricsMap (.finite 0) (.finite 0) (.finite 0) false true) artifacts).1 = .ok result) :
    CompiledOutcome result := by
  unfold launchedRun at returned
  generalize waitForServerLogs launcher.probes = waited at returned
  obtain ⟨_ | _, sleeps⟩ := waited
  · -- no log appeared while the launcher ran
    obtain rfl := (Except.ok.inj returned).symm
    exact unfailed.launch_failure _
  simp only [Bool.not_true, Bool.false_eq_true, if_false] at returned
  generalize launcher.pollAfterWait = polled at returned
  cases polled with
  | some code =>
      -- the launcher exited early
      obtain rfl := (Except.ok.inj returned).symm
      exact unfailed.launch_failure _
  | none =>
      split_ifs at returned
      · -- a server log matches `ERROR_PATTERN`
        obtain rfl := (Except.ok.inj returned).symm
        exact (unfailed.logArtifacts _).launch_failure _
      · exact afterWorkload_outcome w _ unfailed returned

theorem withLaunchOutput_outcome (output : List (List Char)) (outcome : CompiledOutcome result) :
    CompiledOutcome (withLaunchOutput output result) := by
  have launchKept : "launch_failure" ≠ "launch_servers_output" := by decide
  have workloadKept : "workload_failure" ≠ "launch_servers_output" := by decide
  unfold withLaunchOutput
  split
  · obtain ⟨compiled, failed | succeeded⟩ := outcome
    · refine ⟨mem_keys_dictSet.mpr (.inl compiled), .inl ⟨failed.1, ?_⟩⟩
      simp only [mem_keys_dictSet, launchKept, workloadKept, or_false]
      exact failed.2
    · obtain ⟨averageTput, averageLatency, totalScore, measured, noLaunch, noWorkload⟩ := succeeded
      refine ⟨mem_keys_dictSet.mpr (.inl compiled),
        .inr ⟨averageTput, averageLatency, totalScore, measured, ?_, ?_⟩⟩ <;>
        simp only [mem_keys_dictSet, launchKept, workloadKept, or_false] <;> assumption
  · exact outcome

end Stages

/-- **The artifacts say how the run ended.** Every result `evaluate` returns holds
`compile_output`. When `go generate` did not exit 0, that is its only artifact and nothing
succeeded. When it did, `compile_successful` is `1.0`, and either the run failed, with
exactly one of `launch_failure` and `workload_failure` among the artifacts, or
`run_successful` is `1.0` and neither is there. -/
theorem evaluate_artifacts_outcome (isWordChar : Char → Bool) (w : World) (result : EvaluationResult)
    (returned : (evaluate isWordChar w).outcome = some (.ok result)) :
    if w.goGenerate.exitedZero then CompiledOutcome result
    else result.metrics = metricsMap (.finite 0) (.finite 0) (.finite 0) false false ∧
      result.artifacts.map Prod.fst = ["compile_output"] := by
  obtain ⟨output, generated⟩ := runGoGenerate_eq w.goGenerate
  unfold evaluate at returned
  rw [generated] at returned
  cases raised : w.goGenerate.raised with
  | some e => simp [raised] at returned
  | none =>
  cases exited : w.goGenerate.exitedZero
  · -- `go generate` failed
    simp only [raised, exited, Bool.not_false, ↓reduceIte, Option.some.injEq] at returned
    obtain rfl := (Except.ok.inj returned).symm
    exact ⟨rfl, rfl⟩
  simp only [raised, exited, Bool.not_true, Bool.false_eq_true, ↓reduceIte,
    compiled_metricsMap] at returned ⊢
  have unfailed : Unfailed [("compile_output", output)] := ⟨by simp, by simp, by simp⟩
  cases launch : w.launch with
  | raises e => simp [launch] at returned
  | notFound message =>
      simp only [launch, Option.some.injEq] at returned
      obtain rfl := (Except.ok.inj returned).symm
      exact unfailed.launch_failure _
  | started launcher =>
      simp only [launch, terminateProcess_fst] at returned
      split_ifs at returned
      · -- the teardown never returns
        simp at returned
      cases teardown : launcher.shutdown.raised with
      | some e =>
          -- a signal of the teardown raised
          simp [teardown, Except.bind] at returned
      | none =>
          cases body : (launchedRun isWordChar w launcher
              (metricsMap (.finite 0) (.finite 0) (.finite 0) false true) [("compile_output", output)]).1 with
          | error e => simp [teardown, body, Except.bind] at returned
          | ok bodyResult =>
              simp only [teardown, body, Option.map_some', Option.some.injEq] at returned
              obtain rfl : withLaunchOutput launcher.output bodyResult = result := Except.ok.inj returned
              exact withLaunchOutput_outcome _ (launchedRun_outcome isWordChar w launcher unfailed body)

/-- A run whose only server log reports `exit status 1`. -/
def failingServerRun : World where
  rootDir := PurePosixPath.ofString "/opt/agentic-ebpf/src/go-http-server".toList
  goGenerate := .completed 0 (.ofText []) (.ofText [])
  launchStartedAt := 0
  launch := .started ⟨[⟨false, true⟩], none, ["starting\n".toList],
    ⟨true, true, false, none, none, none, false⟩⟩
  logDir := [⟨"server_0.log".toList, 1, .ofText "panic: exit status 1\n".toList⟩]
  workload := .completed 0 (.ofText []) (.ofText [])
  cleanupRaises := false
  summaryCsv := none
  metricsCsv := none

theorem failingServerRun_artifacts :
    ∃ result, (evaluate asciiWordChar failingServerRun).outcome = some (.ok result) ∧
      if failingServerRun.goGenerate.exitedZero then CompiledOutcome result
      else result.metrics = metricsMap (.finite 0) (.finite 0) (.finite 0) false false ∧
        result.artifacts.map Prod.fst = ["compile_output"] :=
  ⟨_, rfl, evaluate_artifacts_outcome asciiWordChar failingServerRun _ rfl⟩

/-- The scan copies the log in and the teardown adds the launcher's output. -/
example : ((evaluate asciiWordChar failingServerRun).outcome.map
    (·.map fun result => result.artifacts.map Prod.fst)) =
      some (.ok ["compile_output", "log_server_0.log", "launch_failure", "launch_servers_output"]) := by
  rfl

end AgenticEbpf.Evaluator
