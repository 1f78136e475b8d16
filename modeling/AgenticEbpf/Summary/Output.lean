import AgenticEbpf.Summary.WorkerLog
import AgenticEbpf.Python.Statistics
import AgenticEbpf.Python.Csv

/-!
# Scoring and the two CSV files (`compute_run_metrics`, `write_csv`, `write_metrics_csv`)

After parsing, the summary script writes one row per worker to the summary CSV, scores
the run, and writes the run's figures as the single row of the metrics CSV, both with
`csv.DictWriter` and numbers in the `.6f` format. The per-connection script scores its
workers the same way over other fields, so `runMetricsOf` is the shared scoring over the
workers' latencies and throughputs, and each script's `compute_run_metrics` applies it to
its own fields. `RunMetrics` and `write_metrics_csv` are the same in both scripts.

`writeCsv_eq` and `writeMetricsCsv_eq` give the written text as rows for `writeRow`: the
rows carry exactly the field names as keys, so the writer never raises.
-/

namespace AgenticEbpf.Summary

open AgenticEbpf.Python

/-! ## The worker rows -/

/-- `fieldnames` of `write_csv`. -/
def workerFieldnames : List (List Char) :=
  ["worker_id", "latency_avg_ms", "latency_stdev_ms", "req_per_sec_avg", "req_per_sec_stdev",
    "log_path"].map String.toList

/-- `WorkerStats.as_row`. -/
def WorkerStats.asRow (entry : WorkerStats) : List (List Char × List Char) :=
  [("worker_id".toList, entry.workerId),
    ("latency_avg_ms".toList, formatFixed6 entry.latencyAvgMs),
    ("latency_stdev_ms".toList, formatFixed6 entry.latencyStdevMs),
    ("req_per_sec_avg".toList, formatFixed6 entry.reqPerSecAvg),
    ("req_per_sec_stdev".toList, formatFixed6 entry.reqPerSecStdev),
    ("log_path".toList, entry.logPath.toString)]

/-- `write_csv(stats, output_path)`: the text written to the summary CSV. -/
def writeCsv (stats : List WorkerStats) : Except PyError (List Char) := do
  let rows ← stats.mapM fun entry => dictWriterRow workerFieldnames entry.asRow
  pure (dictWriterHeader workerFieldnames ++ rows.flatten)

/-! ## Scoring -/

/-- `RunMetrics`; the two spreads are square roots. -/
structure RunMetrics where
  workers : Nat
  avgLatencyMs : ℚ
  latencyStddevMs : SquareRoot
  avgReqPerSec : ℚ
  reqPerSecStddev : SquareRoot
  score : ℚ

/-- `compute_run_metrics` of either script, over the workers' latencies and throughputs in
worker order. -/
def runMetricsOf (latencyValues reqValues : List ℚ) : Except PyError RunMetrics :=
  if latencyValues = [] then throw (.valueError "No worker stats provided for scoring.")
  else
    let avgLatencyMs := mean latencyValues
    let avgReqPerSec := mean reqValues
    let latencyStddevMs := if latencyValues.length > 1 then pstdev latencyValues else .zero
    let reqStddev := if latencyValues.length > 1 then pstdev reqValues else .zero
    if avgLatencyMs = 0 then throw (.valueError "Average latency is zero; cannot compute score.")
    else pure ⟨latencyValues.length, avgLatencyMs, latencyStddevMs, avgReqPerSec, reqStddev,
      avgReqPerSec / avgLatencyMs⟩

/-- `compute_run_metrics(stats)` of `basic-workload-summary.py`. -/
def computeRunMetrics (stats : List WorkerStats) : Except PyError RunMetrics :=
  runMetricsOf (stats.map (·.latencyAvgMs)) (stats.map (·.reqPerSecAvg))

/-- What a scoring that returns has computed: the run had workers, a mean latency that is
not zero, and the score is the mean rate over the mean latency. -/
theorem runMetricsOf_eq_ok {latencyValues reqValues : List ℚ} {metrics : RunMetrics}
    (scored : runMetricsOf latencyValues reqValues = .ok metrics) :
    latencyValues ≠ [] ∧ mean latencyValues ≠ 0 ∧ metrics.avgLatencyMs = mean latencyValues ∧
      metrics.avgReqPerSec = mean reqValues ∧
      metrics.score = mean reqValues / mean latencyValues := by
  by_cases empty : latencyValues = []
  · simp [runMetricsOf, empty] at scored
  by_cases zero : mean latencyValues = 0
  · simp [runMetricsOf, empty, zero] at scored
  simp only [runMetricsOf, empty, zero, if_false, pure_eq_ok] at scored
  subst scored
  exact ⟨empty, zero, rfl, rfl, rfl⟩

theorem runMetricsOf_zero_latency {latencyValues reqValues : List ℚ}
    (nonempty : latencyValues ≠ []) (zero : mean latencyValues = 0) :
    runMetricsOf latencyValues reqValues =
      .error (.valueError "Average latency is zero; cannot compute score.") := by
  simp [runMetricsOf, nonempty, zero]

section Nonneg

variable {latencyValues reqValues : List ℚ} (latencyNonneg : ∀ x ∈ latencyValues, 0 ≤ x)
include latencyNonneg

/-- Over latencies that are never negative, the scoring returns exactly when one latency is
positive. -/
theorem runMetricsOf_isOk_iff :
    (∃ metrics, runMetricsOf latencyValues reqValues = .ok metrics) ↔ ∃ x ∈ latencyValues, 0 < x := by
  constructor
  · rintro ⟨metrics, scored⟩
    obtain ⟨-, nonzero, -⟩ := runMetricsOf_eq_ok scored
    by_contra idle
    push_neg at idle
    refine nonzero ?_
    rw [mean, List.sum_eq_zero fun x member => le_antisymm (idle x member) (latencyNonneg x member),
      zero_div]
  · rintro ⟨x, member, positive⟩
    have meanPositive := mean_pos latencyNonneg member positive
    simp only [runMetricsOf, List.ne_nil_of_mem member, meanPositive.ne', if_false]
    exact ⟨_, rfl⟩

/-- A scored run has a positive mean latency, and with rates that are never negative, a
mean rate and a score that are not negative. -/
theorem runMetricsOf_figures_nonneg (reqNonneg : ∀ x ∈ reqValues, 0 ≤ x) {metrics : RunMetrics}
    (scored : runMetricsOf latencyValues reqValues = .ok metrics) :
    0 < metrics.avgLatencyMs ∧ 0 ≤ metrics.avgReqPerSec ∧ 0 ≤ metrics.score := by
  obtain ⟨-, nonzero, latency, rate, score⟩ := runMetricsOf_eq_ok scored
  have positive : 0 < mean latencyValues := (mean_nonneg latencyNonneg).lt_of_ne (Ne.symm nonzero)
  rw [latency, rate, score]
  exact ⟨positive, mean_nonneg reqNonneg, div_nonneg (mean_nonneg reqNonneg) positive.le⟩

end Nonneg

/-! ## The metrics row -/

/-- `fieldnames` of `write_metrics_csv`. -/
def metricsFieldnames : List (List Char) :=
  ["workers", "avg_latency_ms", "latency_stddev_ms", "avg_req_per_sec", "req_per_sec_stddev",
    "score"].map String.toList

/-- `RunMetrics.as_row`. -/
def RunMetrics.asRow (metrics : RunMetrics) : List (List Char × List Char) :=
  [("workers".toList, natRepr metrics.workers),
    ("avg_latency_ms".toList, formatFixed6 metrics.avgLatencyMs),
    ("latency_stddev_ms".toList, metrics.latencyStddevMs.formatFixed6),
    ("avg_req_per_sec".toList, formatFixed6 metrics.avgReqPerSec),
    ("req_per_sec_stddev".toList, metrics.reqPerSecStddev.formatFixed6),
    ("score".toList, formatFixed6 metrics.score)]

/-- `write_metrics_csv(metrics, output_path)`: the text written to the metrics CSV. -/
def writeMetricsCsv (metrics : RunMetrics) : Except PyError (List Char) := do
  let row ← dictWriterRow metricsFieldnames metrics.asRow
  pure (dictWriterHeader metricsFieldnames ++ row)

/-! ## The written text -/

theorem writeCsv_eq (stats : List WorkerStats) :
    writeCsv stats = .ok ((workerFieldnames :: stats.map fun entry => entry.asRow.map Prod.snd).flatMap
      writeRow) := by
  have rows : (stats.mapM fun entry => dictWriterRow workerFieldnames entry.asRow) =
      .ok (stats.map fun entry => writeRow (entry.asRow.map Prod.snd)) := by
    induction stats with
    | nil => rfl
    | cons entry rest ih =>
        rw [List.mapM_cons,
          dictWriterRow_of_keys (show entry.asRow.map Prod.fst = workerFieldnames from rfl)
            (by decide), ih]
        rfl
  rw [writeCsv, rows]
  simp [dictWriterHeader, List.flatMap, Function.comp_def]

theorem writeMetricsCsv_eq (metrics : RunMetrics) :
    writeMetricsCsv metrics = .ok ([metricsFieldnames, metrics.asRow.map Prod.snd].flatMap writeRow) := by
  rw [writeMetricsCsv,
    dictWriterRow_of_keys (show metrics.asRow.map Prod.fst = metricsFieldnames from rfl) (by decide)]
  simp [dictWriterHeader]

end AgenticEbpf.Summary
