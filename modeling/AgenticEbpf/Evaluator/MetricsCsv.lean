import AgenticEbpf.Summary.Output

/-!
# Reading the metrics CSV (`_parse_metrics_csv`)

The evaluator reads the run's figures back from the metrics CSV with `csv.DictReader`:
from the first data row it takes `float(row.get(key, 0.0))` for `avg_req_per_sec`,
`avg_latency_ms` and `score`, and it raises when there is no data row. A missing column
silently reads as `0.0`, so the writer's header and the reader's keys have to agree. The
loop returns at the first data row, so the file is read only that far: what would raise
further on (an undecodable chunk, a field past the size limit) is never met.

`metrics_csv_round_trip` closes the loop between the summary script and the evaluator:
the file `write_metrics_csv` writes for a `RunMetrics` is read back as the three figures
rounded to six places, and the summary CSV `write_csv` writes is read back, row by row and
column by column, as each worker's four figures rounded to six places, both when every
field written is within `csv.field_size_limit()`. It rests on the CSV round trip
`csvRows_write` and on `pyFloat_formatFixed6`. A longer field, such as a worker id taken
from a long section name, makes the reader raise (`long_worker_id_unreadable`).
-/

namespace AgenticEbpf.Evaluator

open AgenticEbpf.Python AgenticEbpf.Summary

/-- `float(row.get(key, 0.0))` on a `DictReader` row, from what `dictGet` finds: the
default `0.0` for a missing key, `None` for a field past the end of a short row, or the
field's text. -/
def floatOfGet : Option (Option (List Char)) → Except PyError PyFloat
  | none => .ok (.finite 0)
  | some none =>
      .error (.typeError "float() argument must be a string or a real number, not 'NoneType'")
  | some (some text) => pyFloat text

/-- What the first step of a `DictReader` loop reaches in the rows read so far: the field
names (the first row) and the first row after them that is not empty. -/
def firstDataRow : List (List (List Char)) → Option (List (List Char) × List (List Char))
  | [] => none
  | header :: rest => (rest.find? fun row => !row.isEmpty).map (header, ·)

/-- `_parse_metrics_csv(path)` on the bytes of the file at `path`: the rows the reader
yields before it stops, and of them the field names and the first data row; only when
there is none does what stopped the reader matter, an exception or the end of the file. -/
def parseMetricsCsv (path : PurePosixPath) (file : Bytes) :
    Except PyError (PyFloat × PyFloat × PyFloat) :=
  let (lines, ending) := file.textLines
  let (rows, stopped) := readRows CsvReader.initial (lines.flatMap Line.tokens) ending
  match firstDataRow rows, stopped with
  | some (fieldnames, row), _ => do
      let avgTput ← floatOfGet (dictGet fieldnames row "avg_req_per_sec".toList)
      let avgLatency ← floatOfGet (dictGet fieldnames row "avg_latency_ms".toList)
      let score ← floatOfGet (dictGet fieldnames row "score".toList)
      pure (avgTput, avgLatency, score)
  | none, some e => .error e
  | none, none =>
      .error (.valueError ("No rows found in metrics CSV: " ++ String.mk path.toString))

/-! ## The written texts hold no carriage return -/

theorem return_not_mem_of_plain {s : List Char} (plain : PlainNumeric s) : '\r' ∉ s :=
  fun member => absurd (plain _ member) (by decide)

theorem translateNewlines_formatFixed6 (x : ℚ) :
    translateNewlines (formatFixed6 x) = formatFixed6 x :=
  translateNewlines_of_return_free (return_not_mem_of_plain (formatFixed6_plain x))

theorem translateNewlines_asRow (metrics : RunMetrics) :
    (metrics.asRow.map Prod.snd).map translateNewlines = metrics.asRow.map Prod.snd := by
  have natPlain : '\r' ∉ natRepr metrics.workers := fun member =>
    absurd (natRepr_mem_decimalDigits _ _ member) (by decide)
  simp [RunMetrics.asRow, SquareRoot.formatFixed6, translateNewlines_formatFixed6,
    translateNewlines_of_return_free natPlain,
    translateNewlines_of_return_free (return_not_mem_of_plain (fixedText_plain _ _))]

/-- The summary CSV's rows as read back: the texts of each worker's row, with line breaks
in its id and path translated. -/
theorem csvRows_writeCsv (stats : List WorkerStats)
    (fits : ∀ entry ∈ stats, ∀ field ∈ entry.asRow.map Prod.snd,
      (translateNewlines field).length ≤ fieldSizeLimit) :
    ∃ content, writeCsv stats = .ok content ∧
      csvRows (fileTokens content) = .ok (workerFieldnames :: stats.map fun entry =>
        [translateNewlines entry.workerId, formatFixed6 entry.latencyAvgMs,
          formatFixed6 entry.latencyStdevMs, formatFixed6 entry.reqPerSecAvg,
          formatFixed6 entry.reqPerSecStdev, translateNewlines entry.logPath.toString]) := by
  have rowsFit : ∀ row ∈ workerFieldnames :: stats.map (fun entry => entry.asRow.map Prod.snd),
      ∀ field ∈ row, (translateNewlines field).length ≤ fieldSizeLimit := by
    intro row member
    rcases List.mem_cons.mp member with rfl | member
    · decide
    · obtain ⟨entry, inStats, rfl⟩ := List.mem_map.mp member
      exact fits entry inStats
  refine ⟨_, writeCsv_eq stats, ?_⟩
  rw [csvRows_write _ rowsFit, List.map_cons, show workerFieldnames.map translateNewlines = workerFieldnames
    by decide, List.map_map]
  simp [WorkerStats.asRow, translateNewlines_formatFixed6]

/-- The rows of the metrics CSV as read back: the header and the metrics row, unchanged. -/
theorem csvRows_metricsRows (metrics : RunMetrics)
    (fits : ∀ field ∈ metrics.asRow.map Prod.snd, field.length ≤ fieldSizeLimit) :
    csvRows (fileTokens ([metricsFieldnames, metrics.asRow.map Prod.snd].flatMap writeRow)) =
      .ok [metricsFieldnames, metrics.asRow.map Prod.snd] := by
  have rowsFit : ∀ row ∈ [metricsFieldnames, metrics.asRow.map Prod.snd], ∀ field ∈ row,
      (translateNewlines field).length ≤ fieldSizeLimit := by
    simp only [List.mem_cons, List.mem_singleton, List.not_mem_nil, or_false]
    rintro row (rfl | rfl)
    · decide
    · intro field member
      rw [List.map_eq_map_iff.mp ((translateNewlines_asRow metrics).trans (List.map_id _).symm)
        field member]
      exact fits field member
  rw [csvRows_write _ rowsFit, List.map_cons, List.map_singleton, translateNewlines_asRow,
    show metricsFieldnames.map translateNewlines = metricsFieldnames by decide]

/-- `_parse_metrics_csv` reads the three figures of the metrics row back, rounded to six
places. -/
theorem parseMetricsCsv_metricsRows (path : PurePosixPath) (metrics : RunMetrics)
    (fits : ∀ field ∈ metrics.asRow.map Prod.snd, field.length ≤ fieldSizeLimit) :
    parseMetricsCsv path (.ofText ([metricsFieldnames, metrics.asRow.map Prod.snd].flatMap writeRow)) =
      .ok (.finite (round6 metrics.avgReqPerSec), .finite (round6 metrics.avgLatencyMs),
        .finite (round6 metrics.score)) := by
  have avgTput : dictGet metricsFieldnames (metrics.asRow.map Prod.snd) "avg_req_per_sec".toList =
      some (some (formatFixed6 metrics.avgReqPerSec)) := rfl
  have avgLatency : dictGet metricsFieldnames (metrics.asRow.map Prod.snd) "avg_latency_ms".toList =
      some (some (formatFixed6 metrics.avgLatencyMs)) := rfl
  have score : dictGet metricsFieldnames (metrics.asRow.map Prod.snd) "score".toList =
      some (some (formatFixed6 metrics.score)) := rfl
  have read := readRows_of_csvRows (csvRows_metricsRows metrics fits)
  simp only [parseMetricsCsv, Bytes.textLines_ofText]
  rw [show ∀ text, (readLines text).flatMap Line.tokens = fileTokens text from fun _ => rfl, read]
  have nonEmpty : (metrics.asRow.map Prod.snd).isEmpty = false := rfl
  simp only [firstDataRow, List.find?_cons, nonEmpty, Bool.not_false, Option.map_some', avgTput,
    avgLatency, score, floatOfGet, pyFloat_formatFixed6]
  rfl

/-- **The evaluator reads back what the summary script wrote.** Under exact arithmetic, and
when every field written is within `csv.field_size_limit()`: `_parse_metrics_csv` reads
the file `write_metrics_csv` writes as its three figures rounded to six places, and
`csv.DictReader` reads the file `write_csv` writes as the field names and, for each
worker in order, its four figures rounded to six places. -/
theorem metrics_csv_round_trip (path : PurePosixPath) (metrics : RunMetrics)
    (metricsFit : ∀ field ∈ metrics.asRow.map Prod.snd, field.length ≤ fieldSizeLimit)
    (stats : List WorkerStats)
    (statsFit : ∀ entry ∈ stats, ∀ field ∈ entry.asRow.map Prod.snd,
      (translateNewlines field).length ≤ fieldSizeLimit) :
    (∃ content, writeMetricsCsv metrics = .ok content ∧
      csvRows (fileTokens content) = .ok [metricsFieldnames, metrics.asRow.map Prod.snd] ∧
      parseMetricsCsv path (.ofText content) =
        .ok (.finite (round6 metrics.avgReqPerSec), .finite (round6 metrics.avgLatencyMs),
          .finite (round6 metrics.score))) ∧
    (∃ content, writeCsv stats = .ok content ∧
      ∃ rows, csvRows (fileTokens content) = .ok rows ∧
        (dictReader rows).1 = workerFieldnames ∧
        List.Forall₂ (fun row entry =>
            (["latency_avg_ms", "latency_stdev_ms", "req_per_sec_avg", "req_per_sec_stdev"].map
              fun key => floatOfGet (dictGet workerFieldnames row key.toList)) =
            [entry.latencyAvgMs, entry.latencyStdevMs, entry.reqPerSecAvg, entry.reqPerSecStdev].map
              fun value => .ok (.finite (round6 value)))
          (dictReader rows).2 stats) := by
  refine ⟨⟨_, writeMetricsCsv_eq metrics, csvRows_metricsRows metrics metricsFit,
    parseMetricsCsv_metricsRows path metrics metricsFit⟩, ?_⟩
  obtain ⟨content, written, rows⟩ := csvRows_writeCsv stats statsFit
  refine ⟨content, written, _, rows, rfl, ?_⟩
  simp only [dictReader, List.filter_map, Function.comp_def, ne_eq, reduceCtorEq,
    not_false_eq_true, decide_True, List.filter_true]
  refine List.forall₂_map_left_iff.mpr (List.forall₂_same.mpr fun entry _ => ?_)
  show [floatOfGet (some (some (formatFixed6 entry.latencyAvgMs))),
    floatOfGet (some (some (formatFixed6 entry.latencyStdevMs))),
    floatOfGet (some (some (formatFixed6 entry.reqPerSecAvg))),
    floatOfGet (some (some (formatFixed6 entry.reqPerSecStdev)))] = _
  simp [floatOfGet, pyFloat_formatFixed6]

/-- One worker's run, scored: 2 ms on average, 10 requests per second. -/
def oneWorkerMetrics : RunMetrics :=
  ⟨1, 2, .zero, 10, .zero, 5⟩

/-- One worker's figures, under a short id and path. -/
def oneWorkerStats : WorkerStats :=
  ⟨"1".toList, 2, 0, 10, 0, .ofString "wrk_log/wrk_client_1.log".toList⟩

theorem oneWorker_round_trip :
    (∃ content, writeMetricsCsv oneWorkerMetrics = .ok content ∧
      csvRows (fileTokens content) = .ok [metricsFieldnames, oneWorkerMetrics.asRow.map Prod.snd] ∧
      parseMetricsCsv (.ofString "m.csv".toList) (.ofText content) =
        .ok (.finite (round6 oneWorkerMetrics.avgReqPerSec),
          .finite (round6 oneWorkerMetrics.avgLatencyMs), .finite (round6 oneWorkerMetrics.score))) ∧
    (∃ content, writeCsv [oneWorkerStats] = .ok content ∧
      ∃ rows, csvRows (fileTokens content) = .ok rows ∧
        (dictReader rows).1 = workerFieldnames ∧
        List.Forall₂ (fun row entry =>
            (["latency_avg_ms", "latency_stdev_ms", "req_per_sec_avg", "req_per_sec_stdev"].map
              fun key => floatOfGet (dictGet workerFieldnames row key.toList)) =
            [entry.latencyAvgMs, entry.latencyStdevMs, entry.reqPerSecAvg, entry.reqPerSecStdev].map
              fun value => .ok (.finite (round6 value)))
          (dictReader rows).2 [oneWorkerStats]) :=
  metrics_csv_round_trip (.ofString "m.csv".toList) oneWorkerMetrics (by with_unfolding_all decide)
    [oneWorkerStats] (by with_unfolding_all decide)

/-- A worker whose id is one character longer than the field size limit, as a section of
the aggregated log with so long a name gives. -/
def longIdWorker : WorkerStats :=
  ⟨List.replicate 131073 'w', 2, 0, 10, 0, .ofString "wrk_log/basic-workload.log".toList⟩

/-- The summary CSV of a worker with a longer id cannot be read back: `csv.reader` raises
`_csv.Error` on the id. -/
theorem long_worker_id_unreadable :
    ∃ content, writeCsv [longIdWorker] = .ok content ∧
      csvRows (fileTokens content) = .error fieldTooLarge := by
  refine ⟨_, writeCsv_eq [longIdWorker], ?_⟩
  have plain : needsQuotes longIdWorker.workerId = false :=
    List.any_eq_false.mpr fun c member => by
      rw [List.eq_of_mem_replicate member]
      decide
  have header : ∀ row ∈ [workerFieldnames], ∀ field ∈ row,
      (translateNewlines field).length ≤ fieldSizeLimit := by decide
  have long : fieldSizeLimit < longIdWorker.workerId.length := by
    rw [show longIdWorker.workerId = List.replicate 131073 'w' from rfl, List.length_replicate]
    decide
  exact csvRows_write_tooLarge [workerFieldnames] header plain long _ []

end AgenticEbpf.Evaluator
