import AgenticEbpf.Summary.Main

/-!
# `per-connection-workload-summary.py`

The per-connection workload leaves one `worker_<id>.summary` file per worker, made of
`key=value` lines. `parse_summary_file` keeps the last value of every key, reads the seven
counters it needs with `int()`, and derives the worker's duration, throughput and
latencies; each of these converts an `int` to a `float`, which raises `OverflowError` past
the largest double. `main` writes one row per worker and then scores the run as the basic
summary does, over the workers' throughputs.

`summaryData_lookup` says what the loop of `parse_summary_file` keeps: for each key, the
value of the last line that assigns it (`lastAssignment`). In those terms
`parseSummaryFile_eq_ok` gives every summary the function returns, and when it returns.
-/

namespace AgenticEbpf.Summary.PerConnection

open AgenticEbpf.Python

/-! ## One summary file -/

/-- `WorkerSummary`. -/
structure WorkerSummary where
  workerId : List Char
  totalRequests : ℤ
  success : ℤ
  failure : ℤ
  durationSec : ℚ
  throughputReqPerSec : ℚ
  latencyAvgMs : ℚ
  latencyMinMs : ℚ
  latencyMaxMs : ℚ
  summaryPath : PurePosixPath

/-- What one line of a summary file assigns: `line.split("=", 1)` of the stripped line,
each side stripped again, unless the line is empty or holds no `=`. -/
def assignment (rawLine : List Char) : Option (List Char × List Char) :=
  let line := strip rawLine
  if line.isEmpty || !line.contains '=' then none
  else some (strip (line.takeWhile (· != '=')), strip ((line.dropWhile (· != '=')).drop 1))

/-- The `data` dict after the loop of `parse_summary_file`, newest assignment first, so
that `data[key]` is the first entry for `key`. -/
def summaryData (lines : List (List Char)) : List (List Char × List Char) :=
  lines.foldl (fun data rawLine => match assignment rawLine with
    | some entry => entry :: data
    | none => data) []

/-- `required_keys`. -/
def requiredKeys : List (List Char) :=
  ["success", "failure", "latency_sum_ns", "latency_count", "latency_min_ns", "latency_max_ns",
    "duration_ns"].map String.toList

/-- `_extract_worker_id(path)`: the stem after `worker_`, or the whole stem. -/
def extractWorkerId (path : PurePosixPath) : List Char :=
  if startsWith path.stem "worker_".toList then (path.stem.dropWhile (· != '_')).drop 1
  else path.stem

/-- The summary `parse_summary_file` builds from the seven counters, in seconds and
milliseconds; a duration, count or bound that is not positive gives `0.0`. The five
divisions convert an `int` to a `float` first, in this order. -/
def WorkerSummary.ofCounts (path : PurePosixPath)
    (success failure latencyCount latencySumNs latencyMinNs latencyMaxNs durationNs : ℤ) :
    Except PyError WorkerSummary := do
  let totalRequests := success + failure
  let durationSec ← (if durationNs > 0 then (· / 10 ^ 9) <$> intToFloat durationNs else pure 0)
  let throughputReqPerSec ←
    (if durationSec > 0 then (· / durationSec) <$> intToFloat totalRequests else pure 0)
  let latencyAvgMs ←
    (if latencyCount > 0 then (· / 10 ^ 6) <$> intTrueDivide latencySumNs latencyCount else pure 0)
  let latencyMinMs ← (if latencyMinNs > 0 then (· / 10 ^ 6) <$> intToFloat latencyMinNs else pure 0)
  let latencyMaxMs ← (if latencyMaxNs > 0 then (· / 10 ^ 6) <$> intToFloat latencyMaxNs else pure 0)
  pure ⟨extractWorkerId path, totalRequests, success, failure, durationSec, throughputReqPerSec,
    latencyAvgMs, latencyMinMs, latencyMaxMs, path⟩

/-- `parse_summary_file(path)` on the file's text. -/
def parseSummaryFile (path : PurePosixPath) (content : List Char) :
    Except PyError WorkerSummary := do
  let data := summaryData ((readLines content).map Line.raw)
  let missing := requiredKeys.filter fun key => (data.lookup key).isNone
  if !missing.isEmpty then
    throw (.valueError (String.mk path.toString ++ " missing fields: " ++
      ", ".intercalate (missing.map String.mk)))
  let field (key : String) : Except PyError ℤ := pyInt ((data.lookup key.toList).getD [])
  let success ← field "success"
  let failure ← field "failure"
  let latencyCount ← field "latency_count"
  let latencySumNs ← field "latency_sum_ns"
  let latencyMinNs ← field "latency_min_ns"
  let latencyMaxNs ← field "latency_max_ns"
  let durationNs ← field "duration_ns"
  WorkerSummary.ofCounts path success failure latencyCount latencySumNs latencyMinNs latencyMaxNs durationNs

/-! ## What the loop keeps -/

/-- The value the last line assigning `key` gives it. -/
def lastAssignment (lines : List (List Char)) (key : List Char) : Option (List Char) :=
  ((lines.filterMap assignment).filter (·.1 == key)).getLast?.map Prod.snd

theorem foldl_assignment (lines : List (List Char)) (data : List (List Char × List Char)) :
    lines.foldl (fun data rawLine => match assignment rawLine with
        | some entry => entry :: data
        | none => data) data = (lines.filterMap assignment).reverse ++ data := by
  induction lines generalizing data with
  | nil => rfl
  | cons rawLine rest ih => cases h : assignment rawLine <;> simp [List.filterMap_cons, h, ih]

theorem lookup_reverse (entries : List (List Char × List Char)) (key : List Char) :
    entries.reverse.lookup key = (entries.filter (·.1 == key)).getLast?.map Prod.snd := by
  induction entries using List.reverseRecOn with
  | nil => rfl
  | append_singleton entries entry ih =>
      obtain ⟨name, value⟩ := entry
      by_cases same : name = key
      · simp [same]
      · have differ : (key == name) = false := beq_false_of_ne (Ne.symm same)
        simp [List.lookup_cons, same, differ, ih]

/-- `data[key]` after the loop is the value of the last line assigning `key`. -/
theorem summaryData_lookup (lines : List (List Char)) (key : List Char) :
    (summaryData lines).lookup key = lastAssignment lines key := by
  rw [summaryData, foldl_assignment, List.append_nil, lookup_reverse]
  rfl

theorem map_pyInt_eq_some_ok {value : Option (List Char)} {n : ℤ} :
    value.map pyInt = some (.ok n) ↔ value.isSome ∧ pyInt (value.getD []) = .ok n := by
  cases value <;> simp

theorem requiredKeys_assigned {L : List Char → Option (List Char)} :
    (requiredKeys.filter fun key => (L key).isNone) = [] ↔
      (L "success".toList).isSome ∧ (L "failure".toList).isSome ∧
        (L "latency_sum_ns".toList).isSome ∧ (L "latency_count".toList).isSome ∧
        (L "latency_min_ns".toList).isSome ∧ (L "latency_max_ns".toList).isSome ∧
        (L "duration_ns".toList).isSome := by
  rw [List.filter_eq_nil_iff]
  simp only [requiredKeys, List.map_cons, List.map_nil, List.forall_mem_cons, List.not_mem_nil,
    Option.isNone_iff_eq_none, ← Option.isSome_iff_ne_none, decide_eq_true_eq,
    IsEmpty.forall_iff, implies_true, and_true]

/-! ## The conversions to `float` -/

/-- The summary of the seven counters, as `parse_summary_file` builds it when no conversion
overflows. -/
def WorkerSummary.exactOfCounts (path : PurePosixPath)
    (success failure latencyCount latencySumNs latencyMinNs latencyMaxNs durationNs : ℤ) :
    WorkerSummary :=
  let totalRequests := success + failure
  let durationSec : ℚ := if durationNs > 0 then durationNs / 10 ^ 9 else 0
  ⟨extractWorkerId path, totalRequests, success, failure, durationSec,
    if durationSec > 0 then totalRequests / durationSec else 0,
    if latencyCount > 0 then (latencySumNs : ℚ) / latencyCount / 10 ^ 6 else 0,
    if latencyMinNs > 0 then (latencyMinNs : ℚ) / 10 ^ 6 else 0,
    if latencyMaxNs > 0 then (latencyMaxNs : ℚ) / 10 ^ 6 else 0, path⟩

/-- Every `int` value `parse_summary_file` converts to a `float` is within the range of a
double: the duration and the total when the duration is positive, the mean latency when
the count is positive, and each latency bound that is positive. -/
def ConvertsToFloat (success failure latencyCount latencySumNs latencyMinNs latencyMaxNs durationNs : ℤ) :
    Prop :=
  (0 < durationNs → |(durationNs : ℚ)| < doubleOverflowBound ∧
    |((success + failure : ℤ) : ℚ)| < doubleOverflowBound) ∧
  (0 < latencyCount → |(latencySumNs : ℚ) / latencyCount| < doubleOverflowBound) ∧
  (0 < latencyMinNs → |(latencyMinNs : ℚ)| < doubleOverflowBound) ∧
  (0 < latencyMaxNs → |(latencyMaxNs : ℚ)| < doubleOverflowBound)

/-- A conversion under a guard: `0.0` when the guard fails, else the converted value
scaled, when it is within range. -/
theorem guardedConversion_eq_ok {guard : Prop} [Decidable guard] {x r : ℚ} {e : PyError}
    {scale : ℚ → ℚ} :
    (if guard then scale <$> (if doubleOverflowBound ≤ |x| then .error e else .ok x) else pure 0 :
        Except PyError ℚ) = .ok r ↔
      (guard → |x| < doubleOverflowBound) ∧ r = if guard then scale x else 0 := by
  by_cases guarded : guard <;> by_cases over : doubleOverflowBound ≤ |x| <;>
    simp [guarded, over, Functor.map, Except.map, pure, Except.pure, eq_comm, not_le.mp]

theorem durationSec_pos {durationNs : ℤ} :
    ((if durationNs > 0 then (durationNs : ℚ) / 10 ^ 9 else 0) > 0) ↔ 0 < durationNs := by
  split_ifs with positive
  · exact iff_of_true (div_pos (Int.cast_pos.mpr positive) (by norm_num)) positive
  · exact iff_of_false (lt_irrefl 0) positive

/-- `parse_summary_file` builds its summary from the counters exactly when no conversion to
`float` overflows. -/
theorem ofCounts_eq_ok {path : PurePosixPath}
    {success failure latencyCount latencySumNs latencyMinNs latencyMaxNs durationNs : ℤ}
    {summary : WorkerSummary} :
    WorkerSummary.ofCounts path success failure latencyCount latencySumNs latencyMinNs latencyMaxNs
        durationNs = .ok summary ↔
      ConvertsToFloat success failure latencyCount latencySumNs latencyMinNs latencyMaxNs durationNs ∧
        summary = .exactOfCounts path success failure latencyCount latencySumNs latencyMinNs
          latencyMaxNs durationNs := by
  simp only [WorkerSummary.ofCounts, intToFloat, intTrueDivide, bind_eq_ok, guardedConversion_eq_ok,
    pure_eq_ok, ConvertsToFloat, WorkerSummary.exactOfCounts, and_assoc, exists_and_left,
    exists_eq_left, durationSec_pos, gt_iff_lt, imp_and]

/-- **What `parse_summary_file` returns.** A summary exactly when each of the seven
counters is assigned by some line, the last line assigning it holds an `int()` literal,
and no conversion of those values to `float` overflows; the summary is the one built from
those values. -/
theorem parseSummaryFile_eq_ok (path : PurePosixPath) (content : List Char)
    (summary : WorkerSummary) :
    parseSummaryFile path content = .ok summary ↔
      ∃ success failure latencyCount latencySumNs latencyMinNs latencyMaxNs durationNs : ℤ,
        (["success", "failure", "latency_count", "latency_sum_ns", "latency_min_ns",
            "latency_max_ns", "duration_ns"].map fun key =>
          (lastAssignment ((readLines content).map Line.raw) key.toList).map pyInt) =
          [success, failure, latencyCount, latencySumNs, latencyMinNs, latencyMaxNs,
            durationNs].map (fun n => some (.ok n)) ∧
        ConvertsToFloat success failure latencyCount latencySumNs latencyMinNs latencyMaxNs
          durationNs ∧
        summary = .exactOfCounts path success failure latencyCount latencySumNs latencyMinNs
          latencyMaxNs durationNs := by
  simp only [parseSummaryFile, summaryData_lookup, List.map_cons, List.map_nil, List.cons.injEq,
    map_pyInt_eq_some_ok, and_true]
  generalize lastAssignment ((readLines content).map Line.raw) = L
  by_cases assigned : (requiredKeys.filter fun key => (L key).isNone) = []
  · -- every counter is assigned: the summary is built from the seven `int()` values
    obtain ⟨s, f, sum, c, mn, mx, d⟩ := requiredKeys_assigned.mp assigned
    simp only [assigned, s, f, sum, c, mn, mx, d, List.isEmpty_nil, Bool.not_true,
      Bool.false_eq_true, ↓reduceIte, true_and, bind_eq_ok, pure_eq_ok, ofCounts_eq_ok]
    constructor
    · rintro ⟨-, a, ha, b, hb, c, hc, d, hd, e, he, f, hf, g, hg, built⟩
      exact ⟨a, b, c, d, e, f, g, ⟨ha, hb, hc, hd, he, hf, hg⟩, built⟩
    · rintro ⟨a, b, c, d, e, f, g, ⟨ha, hb, hc, hd, he, hf, hg⟩, built⟩
      exact ⟨(), a, ha, b, hb, c, hc, d, hd, e, he, f, hf, g, hg, built⟩
  · -- a counter is missing: the function raises, and some counter has no value
    simp only [List.isEmpty_eq_false.mpr assigned, Bool.not_false, ↓reduceIte, throw_eq_error]
    refine ⟨fun raised => (by cases raised), ?_⟩
    rintro ⟨-, -, -, -, -, -, -, ⟨⟨s, -⟩, ⟨f, -⟩, ⟨c, -⟩, ⟨sum, -⟩, ⟨mn, -⟩, ⟨mx, -⟩, ⟨d, -⟩⟩, -⟩
    exact absurd (requiredKeys_assigned.mpr ⟨s, f, sum, c, mn, mx, d⟩) assigned

/-! ## Worker ids -/

theorem rdropWhile_append_cons {p : Char → Bool} (xs ys : List Char) {c : Char}
    (stop : p c = false) (drops : ∀ y ∈ ys, p y = true) : (xs ++ c :: ys).rdropWhile p = xs ++ [c] := by
  induction ys using List.reverseRecOn with
  | nil => simp [List.rdropWhile_concat, stop]
  | append_singleton ys y ih =>
      rw [← List.cons_append, ← List.append_assoc, List.rdropWhile_concat_pos _ _ _ (drops y (by simp)),
        ih fun y' member => drops y' (by simp [member])]

/-- The worker id of `worker_<id>.summary`, in any directory, is `<id>`. -/
theorem extractWorkerId_worker (dir : PurePosixPath) {id : List Char} (noSlash : '/' ∉ id) :
    extractWorkerId (dir.div ("worker_".toList ++ id ++ ".summary".toList)) = id := by
  have plain : PurePosixPath.PlainName ("worker_".toList ++ id ++ ".summary".toList) := by
    refine ⟨by simp, fun slash => ?_, fun single => by simpa using congrArg List.length single⟩
    simp only [List.mem_append] at slash
    rcases slash with (slash | slash) | slash
    · exact absurd slash (by decide)
    · exact noSlash slash
    · exact absurd slash (by decide)
  have throughDot : ("worker_".toList ++ id ++ ".summary".toList).rdropWhile (· != '.') =
      "worker_".toList ++ id ++ ['.'] :=
    rdropWhile_append_cons ("worker_".toList ++ id) "summary".toList (by decide) (by decide)
  obtain ⟨divName, ofName⟩ := PurePosixPath.name_div_of_plain dir plain
  have lengths : 1 < ("worker_".toList ++ id ++ ['.']).length ∧
      ("worker_".toList ++ id ++ ['.']).length < ("worker_".toList ++ id ++ ".summary".toList).length := by
    simp only [List.length_append]
    exact ⟨by simp, by simp⟩
  have stem : ("worker_".toList ++ id ++ ['.']).dropLast = "worker_".toList ++ id := by
    rw [List.dropLast_concat]
  simp only [extractWorkerId, PurePosixPath.stem, divName, ofName, throughDot, lengths,
    decide_True, Bool.and_self, if_true, stem]
  rw [if_pos (by simp [startsWith])]
  simp [List.dropWhile_append]

theorem extractWorkerId_worker_seven :
    extractWorkerId ((PurePosixPath.ofString "logs".toList).div
      ("worker_".toList ++ "7".toList ++ ".summary".toList)) = "7".toList :=
  @extractWorkerId_worker (.ofString "logs".toList) "7".toList (by decide)

/-- The later `success` line wins, and the figures are in seconds and milliseconds. -/
example : (parseSummaryFile (.ofString "worker_3.summary".toList)
    ("success=1\nfailure=0\nsuccess = 9\nlatency_sum_ns=40000000\nlatency_count=10\n" ++
      "latency_min_ns=1000000\nlatency_max_ns=0\nduration_ns=2000000000\n").toList).map
      (fun summary => (summary.workerId, summary.totalRequests, summary.throughputReqPerSec,
        summary.latencyAvgMs, summary.latencyMinMs, summary.latencyMaxMs)) =
    .ok ("3".toList, 9, 9 / 2, 4, 1, 0) := by
  with_unfolding_all rfl

/-! ## The worker CSV and `main` -/

/-- `fieldnames` of `write_worker_csv`. -/
def workerCsvFieldnames : List (List Char) :=
  ["worker_id", "total_requests", "success", "failure", "duration_sec", "throughput_req_per_sec",
    "latency_avg_ms", "latency_min_ms", "latency_max_ms", "summary_path"].map String.toList

/-- `WorkerSummary.as_row`: `str()` of a count raises past `intMaxStrDigits` digits. -/
def WorkerSummary.asRow (entry : WorkerSummary) : Except PyError (List (List Char × List Char)) := do
  let totalRequests ← strOfInt entry.totalRequests
  let success ← strOfInt entry.success
  let failure ← strOfInt entry.failure
  pure [("worker_id".toList, entry.workerId), ("total_requests".toList, totalRequests),
    ("success".toList, success), ("failure".toList, failure),
    ("duration_sec".toList, formatFixed6 entry.durationSec),
    ("throughput_req_per_sec".toList, formatFixed6 entry.throughputReqPerSec),
    ("latency_avg_ms".toList, formatFixed6 entry.latencyAvgMs),
    ("latency_min_ms".toList, formatFixed6 entry.latencyMinMs),
    ("latency_max_ms".toList, formatFixed6 entry.latencyMaxMs),
    ("summary_path".toList, entry.summaryPath.toString)]

/-- `write_worker_csv(stats, output_path)` after `written`: the text in the file when the
`with` block ends, and the exception that ended it, if one did. A row that raises leaves
the rows before it in the file. -/
def writeWorkerRows (written : List Char) : List WorkerSummary → List Char × Option PyError
  | [] => (written, none)
  | entry :: rest =>
      match entry.asRow >>= dictWriterRow workerCsvFieldnames with
      | .ok row => writeWorkerRows (written ++ row) rest
      | .error e => (written, some e)

/-- `write_worker_csv(stats, output_path)`. -/
def writeWorkerCsv (stats : List WorkerSummary) : List Char × Option PyError :=
  writeWorkerRows (dictWriterHeader workerCsvFieldnames) stats

/-- `compute_run_metrics(stats)` of `per-connection-workload-summary.py`. -/
def computeRunMetrics (stats : List WorkerSummary) : Except PyError RunMetrics :=
  runMetricsOf (stats.map (·.latencyAvgMs)) (stats.map (·.throughputReqPerSec))

/-- The options `argparse` gives `main`, with their defaults. -/
structure Args where
  logsDir : List Char := "per_connection_wrk_log".toList
  output : List Char := "per-connection-workload-summary.csv".toList
  metricsOutput : List Char := "per-connection-workload-metrics.csv".toList
  deriving DecidableEq

/-- `sorted(logs_dir.glob("worker_*.summary"))`. -/
def summaryFiles (files : List (List Char × Bytes)) : List (List Char × Bytes) :=
  sortedGlob Prod.fst (globMatch "worker_".toList ".summary".toList) files

/-- `[parse_summary_file(path) for path in summary_files]`, each file read as strict UTF-8. -/
def parseSummaries (logsDir : PurePosixPath) (summaryFiles : List (List Char × Bytes)) :
    Except PyError (List WorkerSummary) :=
  summaryFiles.mapM fun (name, bytes) => do parseSummaryFile (logsDir.div name) (← bytes.decode)

/-- `main(argv)` for the options `args`, on what the logs path holds, when opening the file
at `path` for writing raises `openError path`, if anything. -/
def main (args : Args) (logs : LogsDir) (openError : PurePosixPath → Option PyError) : MainRun :=
  let logsDir := PurePosixPath.ofString args.logsDir
  match logs with
  | .missing => ⟨.ok 1, [.print .stderr ("Logs directory not found: ".toList ++ logsDir.toString)]⟩
  | .notDirectory =>
      ⟨.ok 1, [.print .stderr ("Logs path is not a directory: ".toList ++ logsDir.toString)]⟩
  | .directory files =>
      let summaryFiles := summaryFiles files
      if summaryFiles.isEmpty then
        ⟨.ok 1, [.print .stderr ("No worker summary files found in ".toList ++ logsDir.toString)]⟩
      else
        match parseSummaries logsDir summaryFiles with
        | .error e => ⟨.error e, []⟩
        | .ok workerStats =>
            let outputPath := PurePosixPath.ofString args.output
            let metricsOutput := PurePosixPath.ofString args.metricsOutput
            match openError outputPath, writeWorkerCsv workerStats with
            | some e, _ => ⟨.error e, []⟩
            | none, (text, some e) => ⟨.error e, [.write outputPath text]⟩
            | none, (text, none) =>
                let wroteCsv := [.write outputPath text,
                  .print .stdout ("Wrote worker CSV: ".toList ++ outputPath.toString)]
                match computeRunMetrics workerStats with
                | .error e => ⟨.error e, wroteCsv⟩
                | .ok metrics =>
                    match openError metricsOutput, writeMetricsCsv metrics with
                    | some e, _ | none, .error e => ⟨.error e, wroteCsv⟩
                    | none, .ok metricsText =>
                        ⟨.ok 0, wroteCsv ++ [.write metricsOutput metricsText,
                          .print .stdout ("Wrote metrics CSV: ".toList ++ metricsOutput.toString)]⟩

/-! ## The worker CSV -/

/-- `str()` writes each count of the row: none has more than `intMaxStrDigits` digits. -/
def WorkerSummary.Printable (entry : WorkerSummary) : Prop :=
  ∀ count ∈ [entry.totalRequests, entry.success, entry.failure],
    (natRepr count.natAbs).length ≤ intMaxStrDigits

instance (entry : WorkerSummary) : Decidable entry.Printable :=
  inferInstanceAs (Decidable (∀ count ∈ [entry.totalRequests, entry.success, entry.failure],
    (natRepr count.natAbs).length ≤ intMaxStrDigits))

/-- The texts of `as_row`, in the order of `fieldnames`. -/
def WorkerSummary.rowValues (entry : WorkerSummary) : List (List Char) :=
  [entry.workerId, intRepr entry.totalRequests, intRepr entry.success, intRepr entry.failure,
    formatFixed6 entry.durationSec, formatFixed6 entry.throughputReqPerSec,
    formatFixed6 entry.latencyAvgMs, formatFixed6 entry.latencyMinMs,
    formatFixed6 entry.latencyMaxMs, entry.summaryPath.toString]

/-- The text of a worker CSV holding the rows of `stats`. -/
def workerCsvText (stats : List WorkerSummary) : List Char :=
  (workerCsvFieldnames :: stats.map WorkerSummary.rowValues).flatMap writeRow

section Rows

variable {entry : WorkerSummary}

/-- A row whose counts print is written with its keys in the order of `fieldnames`. -/
theorem workerRow_printable (printable : entry.Printable) :
    (entry.asRow >>= dictWriterRow workerCsvFieldnames) = .ok (writeRow entry.rowValues) := by
  simp only [WorkerSummary.Printable, List.mem_cons, List.not_mem_nil, or_false,
    forall_eq_or_imp, forall_eq] at printable
  obtain ⟨total, success, failure⟩ := printable
  simp only [WorkerSummary.asRow, strOfInt_of_le total, strOfInt_of_le success,
    strOfInt_of_le failure, ok_bind, pure_bind]
  exact dictWriterRow_of_keys rfl (by decide)

/-- A row with a count `str()` cannot write raises before anything of it is written. -/
theorem workerRow_unprintable (unprintable : ¬entry.Printable) :
    (entry.asRow >>= dictWriterRow workerCsvFieldnames) = .error (.valueError "Exceeds the limit (4300 digits) for integer string conversion; use sys.set_int_max_str_digits() to increase the limit") := by
  simp only [WorkerSummary.Printable, List.mem_cons, List.not_mem_nil, or_false,
    forall_eq_or_imp, forall_eq, not_and_or, not_le] at unprintable
  simp only [WorkerSummary.asRow]
  by_cases total : (natRepr entry.totalRequests.natAbs).length ≤ intMaxStrDigits
  · by_cases success : (natRepr entry.success.natAbs).length ≤ intMaxStrDigits
    · have failure := (unprintable.resolve_left (not_lt.mpr total)).resolve_left (not_lt.mpr success)
      simp only [strOfInt_of_le total, strOfInt_of_le success, strOfInt_of_lt failure, ok_bind]
      rfl
    · simp only [strOfInt_of_le total, strOfInt_of_lt (not_le.mp success), ok_bind]
      rfl
  · simp only [strOfInt_of_lt (not_le.mp total)]
    rfl

/-- Rows whose counts all print follow `written`, and the `with` block ends normally. -/
theorem writeWorkerRows_printable (written : List Char) {stats : List WorkerSummary}
    (printable : ∀ entry ∈ stats, entry.Printable) :
    writeWorkerRows written stats = (written ++ (stats.map fun entry => writeRow entry.rowValues).flatten, none) := by
  induction stats generalizing written with
  | nil => simp [writeWorkerRows]
  | cons entry rest ih =>
      rw [writeWorkerRows, workerRow_printable (printable entry (List.mem_cons_self entry rest))]
      dsimp only
      rw [ih _ fun other member => printable other (List.mem_cons_of_mem entry member)]
      simp

/-- The first row with a count `str()` cannot write ends the `with` block: the file keeps
the rows before it. -/
theorem writeWorkerRows_unprintable (written : List Char) {printed : List WorkerSummary}
    {rest : List WorkerSummary} (printable : ∀ entry ∈ printed, entry.Printable)
    (unprintable : ¬entry.Printable) :
    writeWorkerRows written (printed ++ entry :: rest) =
      (written ++ (printed.map fun entry => writeRow entry.rowValues).flatten,
        some (.valueError "Exceeds the limit (4300 digits) for integer string conversion; use sys.set_int_max_str_digits() to increase the limit")) := by
  induction printed generalizing written with
  | nil => simp [writeWorkerRows, workerRow_unprintable unprintable]
  | cons first printed ih =>
      rw [List.cons_append, writeWorkerRows,
        workerRow_printable (printable first (List.mem_cons_self first printed))]
      dsimp only
      rw [ih _ fun other member => printable other (List.mem_cons_of_mem first member)]
      simp

end Rows

theorem workerCsvText_eq (stats : List WorkerSummary) :
    workerCsvText stats =
      dictWriterHeader workerCsvFieldnames ++ (stats.map fun entry => writeRow entry.rowValues).flatten := by
  simp [workerCsvText, dictWriterHeader, List.flatMap, Function.comp_def]

/-- A list that not every element of satisfies `p` splits at the first that does not. -/
theorem exists_first_not {α : Type} {p : α → Prop} [DecidablePred p] {xs : List α}
    (notAll : ¬∀ x ∈ xs, p x) : ∃ good bad rest, xs = good ++ bad :: rest ∧ (∀ x ∈ good, p x) ∧ ¬p bad := by
  induction xs with
  | nil => simp at notAll
  | cons x rest ih =>
      by_cases first : p x
      · obtain ⟨good, bad, rest, rfl, allGood, notBad⟩ :=
          ih fun all => notAll (List.forall_mem_cons.mpr ⟨first, all⟩)
        exact ⟨x :: good, bad, rest, rfl, List.forall_mem_cons.mpr ⟨first, allGood⟩, notBad⟩
      · exact ⟨[], x, rest, rfl, by simp, first⟩

/-- `write_worker_csv` returns normally exactly when every count prints. -/
theorem writeWorkerCsv_eq_none {stats : List WorkerSummary} :
    (writeWorkerCsv stats).2 = none ↔ ∀ entry ∈ stats, entry.Printable := by
  constructor
  · intro finished
    by_contra notAll
    obtain ⟨printed, entry, rest, rfl, printable, unprintable⟩ := exists_first_not notAll
    simp [writeWorkerCsv, writeWorkerRows_unprintable _ printable unprintable] at finished
  · intro printable
    simp [writeWorkerCsv, writeWorkerRows_printable _ printable]

/-- The two counters of a summary `parse_summary_file` returns are values `int()` read, so
`str()` writes them back; the total is their sum. -/
theorem parseSummaryFile_counts {path : PurePosixPath} {content : List Char}
    {summary : WorkerSummary} (parsed : parseSummaryFile path content = .ok summary) :
    (natRepr summary.success.natAbs).length ≤ intMaxStrDigits ∧
      (natRepr summary.failure.natAbs).length ≤ intMaxStrDigits ∧
      summary.totalRequests = summary.success + summary.failure := by
  unfold parseSummaryFile at parsed
  dsimp only at parsed
  split_ifs at parsed
  · obtain ⟨_, raised, -⟩ := bind_eq_ok.mp parsed
    cases raised
  obtain ⟨-, -, parsed⟩ := bind_eq_ok.mp parsed
  obtain ⟨success, readSuccess, parsed⟩ := bind_eq_ok.mp parsed
  obtain ⟨failure, readFailure, parsed⟩ := bind_eq_ok.mp parsed
  iterate 5 obtain ⟨_, -, parsed⟩ := bind_eq_ok.mp parsed
  obtain ⟨-, rfl⟩ := ofCounts_eq_ok.mp parsed
  exact ⟨pyInt_natRepr_length_le readSuccess, pyInt_natRepr_length_le readFailure, rfl⟩

/-- **Only a worker's total can fail to print.** The row of a summary that
`parse_summary_file` returned is written exactly when its total has at most
`intMaxStrDigits` digits; otherwise `str()` raises. Each counter `int()` read prints, but
their sum can have one digit more. -/
theorem parsedSummary_row {path : PurePosixPath} {content : List Char} {summary : WorkerSummary}
    (parsed : parseSummaryFile path content = .ok summary) :
    (summary.asRow >>= dictWriterRow workerCsvFieldnames) =
      if (natRepr summary.totalRequests.natAbs).length ≤ intMaxStrDigits then
        .ok (writeRow summary.rowValues)
      else .error (.valueError "Exceeds the limit (4300 digits) for integer string conversion; use sys.set_int_max_str_digits() to increase the limit") := by
  obtain ⟨success, failure, -⟩ := parseSummaryFile_counts parsed
  split_ifs with total
  · refine workerRow_printable fun count member => ?_
    simp only [List.mem_cons, List.not_mem_nil, or_false] at member
    rcases member with rfl | rfl | rfl <;> assumption
  · exact workerRow_unprintable fun printable => total (printable _ (List.mem_cons_self _ _))

/-- A summary file of one worker that served four requests in a second. -/
def workerOneSummary : List Char :=
  ("success=3\nfailure=1\nlatency_sum_ns=8000000\nlatency_count=4\nlatency_min_ns=1\n" ++
    "latency_max_ns=4000000\nduration_ns=1000000000\n").toList

theorem parsedSummary_row_worker_one :
    ∃ summary, parseSummaryFile (.ofString "worker_1.summary".toList) workerOneSummary = .ok summary ∧
      (summary.asRow >>= dictWriterRow workerCsvFieldnames) =
        if (natRepr summary.totalRequests.natAbs).length ≤ intMaxStrDigits then
          .ok (writeRow summary.rowValues)
        else .error (.valueError "Exceeds the limit (4300 digits) for integer string conversion; use sys.set_int_max_str_digits() to increase the limit") :=
  ⟨_, by with_unfolding_all rfl,
    @parsedSummary_row (.ofString "worker_1.summary".toList) workerOneSummary _
      (by with_unfolding_all rfl)⟩

/-! ## `main` -/

/-- `main` on a directory whose summaries parse and whose counts all print, when the worker
CSV can be opened, with the texts the writers produce. -/
theorem main_printable (args : Args) (openError : PurePosixPath → Option PyError)
    {files : List (List Char × Bytes)} {stats : List WorkerSummary}
    (found : summaryFiles files ≠ [])
    (parsed : parseSummaries (.ofString args.logsDir) (summaryFiles files) = .ok stats)
    (opened : openError (.ofString args.output) = none)
    (printable : ∀ entry ∈ stats, entry.Printable) :
    main args (.directory files) openError =
      let wroteCsv := [.write (.ofString args.output) (workerCsvText stats),
        .print .stdout ("Wrote worker CSV: ".toList ++ (PurePosixPath.ofString args.output).toString)]
      match computeRunMetrics stats, openError (.ofString args.metricsOutput) with
      | .error e, _ | .ok _, some e => ⟨.error e, wroteCsv⟩
      | .ok metrics, none => ⟨.ok 0, wroteCsv ++ [.write (.ofString args.metricsOutput) (metricsText metrics),
          .print .stdout ("Wrote metrics CSV: ".toList ++
            (PurePosixPath.ofString args.metricsOutput).toString)]⟩ := by
  have written : writeWorkerCsv stats = (workerCsvText stats, none) := by
    rw [writeWorkerCsv, writeWorkerRows_printable _ printable, workerCsvText_eq]
  simp only [main, List.isEmpty_eq_false.mpr found, Bool.false_eq_true, if_false, parsed, opened,
    written, writeMetricsCsv_eq]
  cases computeRunMetrics stats <;> cases openError (.ofString args.metricsOutput) <;> rfl

end AgenticEbpf.Summary.PerConnection
