import AgenticEbpf.Summary.Units
import AgenticEbpf.Python.Path

/-!
# Worker logs (`_extract_metrics_from_lines`, `parse_wrk_log`)

A wrk report holds one `Latency` line and one `Req/Sec` line:

    Thread Stats   Avg      Stdev     Max
      Latency     1.20ms  250.00us   4.00ms
      Req/Sec     2.10k   300.00    3.00k

`_extract_metrics_from_lines` reads tokens 1 and 2 of such lines with `parse_latency` and
`parse_throughput`. The loop does not stop at the first line of a kind: every qualifying
line overwrites the values read before, and a token that does not parse raises wherever
its line stands. `foldlM_extractStep_eq_ok` says what a whole run of the loop does from
what one iteration does (`extractStep_of_latency`, `extractStep_of_throughput`,
`extractStep_of_other`):

* it returns exactly when every qualifying line's two tokens parse;
* the values are then those of the last qualifying line of each kind.

`extract_metrics_last_wins` adds the final check of the function: the message of the
`Missing fields` error names exactly the kinds no line supplied.
-/

namespace AgenticEbpf.Summary

open AgenticEbpf.Python

/-- `WorkerStats`: one worker's figures and the log they were read from. -/
structure WorkerStats where
  workerId : List Char
  latencyAvgMs : ℚ
  latencyStdevMs : ℚ
  reqPerSecAvg : ℚ
  reqPerSecStdev : ℚ
  logPath : PurePosixPath
  deriving DecidableEq

/-! ## The extraction loop -/

/-- The four locals of `_extract_metrics_from_lines`, `None` until a line sets them. -/
@[ext] structure Found where
  latencyAvgMs : Option ℚ := none
  latencyStdevMs : Option ℚ := none
  reqAvg : Option ℚ := none
  reqStdev : Option ℚ := none

/-- `parts[1]` and `parts[2]`, or `None` when `len(parts) < 3`. -/
def secondAndThird : List (List Char) → Option (List Char × List Char)
  | _ :: avg :: stdev :: _ => some (avg, stdev)
  | _ => none

/-- One iteration of the loop. A line with fewer than three tokens is skipped
(`continue`); otherwise tokens 1 and 2 are parsed, and a parse error leaves the loop. -/
def extractStep (found : Found) (rawLine : List Char) : Except PyError Found :=
  let line := strip rawLine
  if startsWith line "Latency".toList then
    match secondAndThird (split line) with
    | none => pure found
    | some (avg, stdev) => do
        let latencyAvgMs ← parseLatency avg
        let latencyStdevMs ← parseLatency stdev
        pure { found with latencyAvgMs := some latencyAvgMs, latencyStdevMs := some latencyStdevMs }
  else if startsWith line "Req/Sec".toList then
    match secondAndThird (split line) with
    | none => pure found
    | some (avg, stdev) => do
        let reqAvg ← parseThroughput avg
        let reqStdev ← parseThroughput stdev
        pure { found with reqAvg := some reqAvg, reqStdev := some reqStdev }
  else pure found

/-- The list `missing`: the names whose value is still `None`, in order. -/
def missingFields (found : Found) : List String :=
  ([("latency_avg", found.latencyAvgMs), ("latency_stdev", found.latencyStdevMs),
    ("req_per_sec_avg", found.reqAvg), ("req_per_sec_stdev", found.reqStdev)].filter
      fun entry => entry.2.isNone).map Prod.fst

/-- `_extract_metrics_from_lines(lines)`. `missing` is empty exactly when all four values
are set, so the check and the return are one match. -/
def extractMetricsFromLines (lines : List (List Char)) :
    Except PyError (ℚ × ℚ × ℚ × ℚ) := do
  let found ← lines.foldlM extractStep {}
  match found with
  | ⟨some latencyAvgMs, some latencyStdevMs, some reqAvg, some reqStdev⟩ =>
      pure (latencyAvgMs, latencyStdevMs, reqAvg, reqStdev)
  | _ => throw (.valueError ("Missing fields: " ++ ", ".intercalate (missingFields found)))

/-! ## Which lines the loop reads -/

/-- Tokens 1 and 2 of a qualifying `Latency` line: after `strip()` it starts with
`Latency` and splits into at least three tokens. -/
def latencyTokens (rawLine : List Char) : Option (List Char × List Char) :=
  if startsWith (strip rawLine) "Latency".toList then secondAndThird (split (strip rawLine))
  else none

/-- Tokens 1 and 2 of a qualifying `Req/Sec` line. -/
def throughputTokens (rawLine : List Char) : Option (List Char × List Char) :=
  if startsWith (strip rawLine) "Req/Sec".toList then secondAndThird (split (strip rawLine))
  else none

/-- Whether both tokens of a qualifying line parse. -/
def pairParses (parse : List Char → Except PyError ℚ) (tokens : List Char × List Char) :
    Bool :=
  (parse tokens.1).isOk && (parse tokens.2).isOk

/-- The values the last of `reads` parses to, or `current` when there is none. -/
def lastValues (parse : List Char → Except PyError ℚ) (current : Option ℚ × Option ℚ)
    (reads : List (List Char × List Char)) : Option ℚ × Option ℚ :=
  match reads.getLast? with
  | none => current
  | some (avg, stdev) => ((parse avg).toOption, (parse stdev).toOption)

@[simp] theorem lastValues_nil (parse : List Char → Except PyError ℚ)
    (current : Option ℚ × Option ℚ) : lastValues parse current [] = current := rfl

theorem lastValues_cons (parse : List Char → Except PyError ℚ) (current : Option ℚ × Option ℚ)
    (tokens : List Char × List Char) (reads : List (List Char × List Char)) :
    lastValues parse current (tokens :: reads) =
      lastValues parse ((parse tokens.1).toOption, (parse tokens.2).toOption) reads := by
  unfold lastValues
  rw [List.getLast?_cons]
  cases reads.getLast? <;> rfl

/-- No text starts with both `Latency` and `Req/Sec`. -/
theorem not_startsWith_latency_and_req (s : List Char)
    (latency : startsWith s "Latency".toList = true) : startsWith s "Req/Sec".toList = false := by
  rw [Bool.eq_false_iff]
  intro req
  simp only [startsWith, List.isPrefixOf_iff_prefix] at latency req
  obtain ⟨_, rfl⟩ := latency
  simp [List.cons_prefix_cons] at req

/-! ## One iteration, and the whole loop -/

section Step

variable {found found' : Found} {rawLine avg stdev : List Char}

theorem extractStep_of_latency (tokens : latencyTokens rawLine = some (avg, stdev)) :
    extractStep found rawLine = .ok found' ↔
      ∃ latencyAvgMs, parseLatency avg = .ok latencyAvgMs ∧
        ∃ latencyStdevMs, parseLatency stdev = .ok latencyStdevMs ∧
          found' = { found with
            latencyAvgMs := some latencyAvgMs, latencyStdevMs := some latencyStdevMs } := by
  unfold latencyTokens at tokens
  split at tokens
  · rename_i latency
    simp only [extractStep, latency, if_true, tokens, bind_eq_ok, pure_eq_ok]
  · cases tokens

theorem extractStep_of_throughput (tokens : throughputTokens rawLine = some (avg, stdev)) :
    extractStep found rawLine = .ok found' ↔
      ∃ reqAvg, parseThroughput avg = .ok reqAvg ∧
        ∃ reqStdev, parseThroughput stdev = .ok reqStdev ∧
          found' = { found with reqAvg := some reqAvg, reqStdev := some reqStdev } := by
  unfold throughputTokens at tokens
  split at tokens
  · rename_i req
    have notLatency : startsWith (strip rawLine) "Latency".toList = false := by
      cases latency : startsWith (strip rawLine) "Latency".toList
      · rfl
      · rw [not_startsWith_latency_and_req _ latency] at req; cases req
    simp only [extractStep, notLatency, req, tokens, Bool.false_eq_true, if_false, if_true,
      bind_eq_ok, pure_eq_ok]
  · cases tokens

theorem extractStep_of_other (noLatency : latencyTokens rawLine = none)
    (noThroughput : throughputTokens rawLine = none) : extractStep found rawLine = .ok found := by
  unfold latencyTokens at noLatency
  unfold throughputTokens at noThroughput
  simp only [extractStep]
  split_ifs at noLatency noThroughput <;> simp_all

/-- A qualifying `Latency` line is no `Req/Sec` line. -/
theorem throughputTokens_of_latencyTokens (tokens : latencyTokens rawLine = some (avg, stdev)) :
    throughputTokens rawLine = none := by
  unfold latencyTokens at tokens
  split at tokens
  · rename_i latency
    simp only [throughputTokens, not_startsWith_latency_and_req _ latency, Bool.false_eq_true,
      if_false]
  · cases tokens

end Step

/-- A run of the loop from `found`: it returns exactly when both tokens of every
qualifying line parse, and each pair of values is then that of the last qualifying line of
its kind (or stays as it was when there is none). -/
theorem foldlM_extractStep_eq_ok (lines : List (List Char)) (found found' : Found) :
    lines.foldlM extractStep found = .ok found' ↔
      (∀ tokens ∈ lines.filterMap latencyTokens, pairParses parseLatency tokens) ∧
      (∀ tokens ∈ lines.filterMap throughputTokens, pairParses parseThroughput tokens) ∧
      (found'.latencyAvgMs, found'.latencyStdevMs) =
        lastValues parseLatency (found.latencyAvgMs, found.latencyStdevMs)
          (lines.filterMap latencyTokens) ∧
      (found'.reqAvg, found'.reqStdev) =
        lastValues parseThroughput (found.reqAvg, found.reqStdev)
          (lines.filterMap throughputTokens) := by
  induction lines generalizing found with
  | nil =>
      simp only [List.foldlM_nil, List.filterMap_nil, List.not_mem_nil, lastValues,
        List.getLast?_nil, Prod.mk.injEq]
      constructor
      · rintro ⟨⟩; simp
      · rintro ⟨-, -, ⟨h1, h2⟩, h3, h4⟩
        exact congrArg Except.ok (Found.ext h1.symm h2.symm h3.symm h4.symm)
  | cons rawLine rest ih =>
      rw [List.foldlM_cons, bind_eq_ok]
      cases latency : latencyTokens rawLine with
      | some tokens =>
          obtain ⟨avg, stdev⟩ := tokens
          simp only [extractStep_of_latency latency, List.filterMap_cons, latency,
            throughputTokens_of_latencyTokens latency, List.mem_cons, forall_eq_or_imp,
            lastValues_cons]
          cases first : parseLatency avg <;> cases second : parseLatency stdev <;>
            simp only [pairParses, first, second, Except.isOk, Except.toBool, Except.toOption, ih,
              reduceCtorEq, Except.ok.injEq, exists_eq_left', exists_eq_left, false_and, and_false,
              true_and, exists_false, Bool.and_true, Bool.and_false]
      | none =>
          cases throughput : throughputTokens rawLine with
          | some tokens =>
              obtain ⟨avg, stdev⟩ := tokens
              simp only [extractStep_of_throughput throughput, List.filterMap_cons, latency,
                throughput, List.mem_cons, forall_eq_or_imp, lastValues_cons]
              cases first : parseThroughput avg <;> cases second : parseThroughput stdev <;>
                simp only [pairParses, first, second, Except.isOk, Except.toBool, Except.toOption,
                  ih, reduceCtorEq, Except.ok.injEq, exists_eq_left', exists_eq_left, false_and,
                  and_false, true_and, exists_false, Bool.and_true, Bool.and_false]
          | none =>
              simpa [extractStep_of_other latency throughput, List.filterMap_cons, latency,
                throughput] using ih found

/-! ## The function's result -/

/-- After a loop that returned, a pair of values starting at `None` is unset when no line
of its kind was read, and set otherwise. -/
theorem lastValues_initial {parse : List Char → Except PyError ℚ}
    {reads : List (List Char × List Char)} (allParse : ∀ tokens ∈ reads, pairParses parse tokens) :
    (reads = [] ∧ lastValues parse (none, none) reads = (none, none)) ∨
      (reads ≠ [] ∧ ∃ avg stdev, lastValues parse (none, none) reads = (some avg, some stdev)) := by
  cases last : reads.getLast? with
  | none => exact .inl ⟨List.getLast?_eq_none_iff.mp last, by simp [lastValues, last]⟩
  | some tokens =>
      have parses := allParse tokens (List.mem_of_getLast?_eq_some last)
      refine .inr ⟨fun empty => by simp [empty] at last, ?_⟩
      simp only [pairParses, Bool.and_eq_true] at parses
      cases first : parse tokens.1 <;> cases second : parse tokens.2 <;>
        simp_all [Except.isOk, Except.toBool, lastValues]

theorem lastValues_eq_some {parse : List Char → Except PyError ℚ}
    {reads : List (List Char × List Char)} {avg stdev : ℚ} :
    lastValues parse (none, none) reads = (some avg, some stdev) ↔
      ∃ tokens, reads.getLast? = some tokens ∧ parse tokens.1 = .ok avg ∧
        parse tokens.2 = .ok stdev := by
  unfold lastValues
  cases reads.getLast? <;> simp

/-- What `_extract_metrics_from_lines` returns: it returns exactly when both tokens of every
qualifying line parse and a line of each kind exists, with the values of the last
qualifying line of each kind. -/
theorem extractMetricsFromLines_eq_ok (lines : List (List Char)) (result : ℚ × ℚ × ℚ × ℚ) :
    extractMetricsFromLines lines = .ok result ↔
      (∀ tokens ∈ lines.filterMap latencyTokens, pairParses parseLatency tokens) ∧
      (∀ tokens ∈ lines.filterMap throughputTokens, pairParses parseThroughput tokens) ∧
      ∃ latency throughput, (lines.filterMap latencyTokens).getLast? = some latency ∧
        (lines.filterMap throughputTokens).getLast? = some throughput ∧
        parseLatency latency.1 = .ok result.1 ∧ parseLatency latency.2 = .ok result.2.1 ∧
        parseThroughput throughput.1 = .ok result.2.2.1 ∧
        parseThroughput throughput.2 = .ok result.2.2.2 := by
  constructor
  · intro returned
    simp only [extractMetricsFromLines, bind_eq_ok] at returned
    obtain ⟨found, run, finish⟩ := returned
    obtain ⟨latencyAll, throughputAll, latencyValues, throughputValues⟩ :=
      (foldlM_extractStep_eq_ok lines {} found).mp run
    split at finish
    · obtain rfl := pure_eq_ok.mp finish
      obtain ⟨latency, latencyLast, avg, stdev⟩ := lastValues_eq_some.mp latencyValues.symm
      obtain ⟨throughput, throughputLast, reqAvg, reqStdev⟩ :=
        lastValues_eq_some.mp throughputValues.symm
      exact ⟨latencyAll, throughputAll, latency, throughput, latencyLast, throughputLast, avg,
        stdev, reqAvg, reqStdev⟩
    · cases finish
  · rintro ⟨latencyAll, throughputAll, latency, throughput, latencyLast, throughputLast, avg,
      stdev, reqAvg, reqStdev⟩
    have run := (foldlM_extractStep_eq_ok lines {}
      ⟨some result.1, some result.2.1, some result.2.2.1, some result.2.2.2⟩).mpr
      ⟨latencyAll, throughputAll, (lastValues_eq_some.mpr ⟨latency, latencyLast, avg, stdev⟩).symm,
        (lastValues_eq_some.mpr ⟨throughput, throughputLast, reqAvg, reqStdev⟩).symm⟩
    simp [extractMetricsFromLines, run]

/-- When every qualifying line parses but a kind has no line, the `ValueError` names the
fields of exactly the missing kinds. -/
theorem extractMetricsFromLines_missing {lines : List (List Char)}
    (latencyAll : ∀ tokens ∈ lines.filterMap latencyTokens, pairParses parseLatency tokens)
    (throughputAll : ∀ tokens ∈ lines.filterMap throughputTokens,
      pairParses parseThroughput tokens)
    (someMissing : lines.filterMap latencyTokens = [] ∨ lines.filterMap throughputTokens = []) :
    extractMetricsFromLines lines = .error (.valueError ("Missing fields: " ++ ", ".intercalate
      ((if lines.filterMap latencyTokens = [] then ["latency_avg", "latency_stdev"] else []) ++
        (if lines.filterMap throughputTokens = []
          then ["req_per_sec_avg", "req_per_sec_stdev"] else [])))) := by
  have run := (foldlM_extractStep_eq_ok lines {}
    ⟨(lastValues parseLatency (none, none) (lines.filterMap latencyTokens)).1,
      (lastValues parseLatency (none, none) (lines.filterMap latencyTokens)).2,
      (lastValues parseThroughput (none, none) (lines.filterMap throughputTokens)).1,
      (lastValues parseThroughput (none, none) (lines.filterMap throughputTokens)).2⟩).mpr
    ⟨latencyAll, throughputAll, rfl, rfl⟩
  simp only [extractMetricsFromLines, run, ok_bind]
  rcases lastValues_initial latencyAll with ⟨noLatency, -⟩ | ⟨someLatency, _, _, latency⟩ <;>
    rcases lastValues_initial throughputAll with ⟨noThroughput, -⟩ | ⟨someThroughput, _, _, throughput⟩
  · simp [noLatency, noThroughput, missingFields]
  · simp [noLatency, throughput, someThroughput, missingFields]
  · simp [noThroughput, latency, someLatency, missingFields]
  · exact (someMissing.elim someLatency someThroughput).elim

/-- `_extract_metrics_from_lines` keeps the last qualifying line of each kind, and raises on
any qualifying line whose tokens do not parse, wherever it stands:

* it returns exactly when both tokens of every qualifying `Latency` and `Req/Sec` line
  parse and a line of each kind exists, and the four values are then read from the last
  qualifying line of each kind;
* when every qualifying line parses but a kind has no line, the `ValueError` names exactly
  the fields of the missing kinds. -/
theorem extract_metrics_last_wins (lines : List (List Char)) :
    (∀ result, extractMetricsFromLines lines = .ok result ↔
      (∀ tokens ∈ lines.filterMap latencyTokens, pairParses parseLatency tokens) ∧
      (∀ tokens ∈ lines.filterMap throughputTokens, pairParses parseThroughput tokens) ∧
      ∃ latency throughput, (lines.filterMap latencyTokens).getLast? = some latency ∧
        (lines.filterMap throughputTokens).getLast? = some throughput ∧
        parseLatency latency.1 = .ok result.1 ∧ parseLatency latency.2 = .ok result.2.1 ∧
        parseThroughput throughput.1 = .ok result.2.2.1 ∧
        parseThroughput throughput.2 = .ok result.2.2.2) ∧
    ((∀ tokens ∈ lines.filterMap latencyTokens, pairParses parseLatency tokens) →
      (∀ tokens ∈ lines.filterMap throughputTokens, pairParses parseThroughput tokens) →
      (lines.filterMap latencyTokens = [] ∨ lines.filterMap throughputTokens = []) →
      extractMetricsFromLines lines = .error (.valueError ("Missing fields: " ++ ", ".intercalate
        ((if lines.filterMap latencyTokens = [] then ["latency_avg", "latency_stdev"] else []) ++
          (if lines.filterMap throughputTokens = []
            then ["req_per_sec_avg", "req_per_sec_stdev"] else []))))) :=
  ⟨extractMetricsFromLines_eq_ok lines, fun latencyAll throughputAll someMissing =>
    extractMetricsFromLines_missing latencyAll throughputAll someMissing⟩

/-- Two wrk reports in one log: the first qualifying lines read `1ms`, `2ms`, `1k`, `2k`,
yet the result holds the second report's values; and a malformed `Latency` line after a
complete report makes the function raise. -/
theorem extract_metrics_later_lines_count :
    latencyTokens "Latency 1ms 2ms".toList = some ("1ms".toList, "2ms".toList) ∧
      parseLatency "1ms".toList = .ok 1 ∧
      extractMetricsFromLines (["Latency 1ms 2ms", "Req/Sec 1k 2k", "Latency 3ms 4ms",
        "Req/Sec 5k 6k"].map String.toList) = .ok (3, 4, 5000, 6000) ∧
      (["1ms", "2ms"].map String.toList).all (fun t => (parseLatency t).isOk) ∧
      (["1k", "2k"].map String.toList).all (fun t => (parseThroughput t).isOk) ∧
      (extractMetricsFromLines (["Latency 1ms 2ms", "Req/Sec 1k 2k", "Latency 3ms 4x"].map
        String.toList)).isOk = false :=
  ⟨by decide, by with_unfolding_all rfl, by with_unfolding_all rfl, by decide, by decide, by decide⟩

/-- A log with a report but no `Req/Sec` line: the error names the two rate fields. -/
theorem extract_metrics_missing_rate :
    extractMetricsFromLines ["Latency 1ms 2ms".toList] =
      .error (.valueError ("Missing fields: " ++
        ", ".intercalate ["req_per_sec_avg", "req_per_sec_stdev"])) := by
  have missing := (extract_metrics_last_wins ["Latency 1ms 2ms".toList]).2 (by decide) (by decide)
    (.inr (by decide))
  have latencyRead : ["Latency 1ms 2ms".toList].filterMap latencyTokens ≠ [] := by decide
  have noRate : ["Latency 1ms 2ms".toList].filterMap throughputTokens = [] := by decide
  simpa [latencyRead, noRate] using missing

/-! ## `parse_wrk_log` -/

/-- `_WORKER_RE` (`wrk_client_(\d+)\.log$`) matched at the start of `s`: `wrk_client_`, a
run of decimal digits, `.log`, then the end of the text or a final line feed (`$`). As `.`
is no digit, `\d+` can only match the whole run; that run is group 1. -/
def workerReMatchAt (s : List Char) : Option (List Char) :=
  if "wrk_client_".toList.isPrefixOf s then
    let digits := (s.drop 11).takeWhile isDecimal
    let tail := (s.drop 11).dropWhile isDecimal
    if !digits.isEmpty && (tail == ".log".toList || tail == ".log\n".toList) then some digits
    else none
  else none

/-- `_WORKER_RE.search(s)`: group 1 of the match at the leftmost position that has one. -/
def workerReSearch : List Char → Option (List Char)
  | [] => none
  | c :: rest =>
      match workerReMatchAt (c :: rest) with
      | some digits => some digits
      | none => workerReSearch rest

/-- `_deduce_worker_id(path)`: the digits of a `wrk_client_<n>.log` name, else the stem. -/
def deduceWorkerId (path : PurePosixPath) : List Char :=
  match workerReSearch path.name with
  | some digits => digits
  | none => path.stem

example : deduceWorkerId (.ofString "logs/wrk_client_12.log".toList) = "12".toList ∧
    deduceWorkerId (.ofString "logs/old_wrk_client_7.log.bak".toList) =
      "old_wrk_client_7.log".toList := by
  decide

/-- `parse_wrk_log(path)` on the file's text. A `ValueError` of the extraction is raised
again with the path in front of its message. -/
def parseWrkLog (path : PurePosixPath) (content : List Char) : Except PyError WorkerStats :=
  let workerId := deduceWorkerId path
  match extractMetricsFromLines ((readLines content).map Line.raw) with
  | .ok (latencyAvgMs, latencyStdevMs, reqAvg, reqStdev) =>
      .ok ⟨workerId, latencyAvgMs, latencyStdevMs, reqAvg, reqStdev, path⟩
  | .error (.valueError message) =>
      .error (.valueError (String.mk path.toString ++ ": " ++ message))
  | .error other => .error other

/-- The search reports a match at the start of the text. -/
theorem workerReSearch_of_matchAt {s digits : List Char}
    (matched : workerReMatchAt s = some digits) : workerReSearch s = some digits := by
  cases s with
  | nil => simp [workerReMatchAt] at matched
  | cons c rest => simp [workerReSearch, matched]

/-- What `_WORKER_RE` accepts after the digits: `.log` at the end of the name, or before a
final line feed, as `$` allows. -/
def workerTails : List (List Char) :=
  [".log".toList, ".log\n".toList]

/-- `name` ends with `wrk_client_<digits>.log`, a final line feed allowed: what a match of
`_WORKER_RE` is, with `digits` its group 1. -/
def WorkerLogName (name digits : List Char) : Prop :=
  digits ≠ [] ∧ (∀ c ∈ digits, isDecimal c = true) ∧
    ∃ front, ∃ tail ∈ workerTails, name = front ++ "wrk_client_".toList ++ digits ++ tail

theorem workerReMatchAt_eq_some {s digits : List Char} :
    workerReMatchAt s = some digits ↔
      digits ≠ [] ∧ (∀ c ∈ digits, isDecimal c = true) ∧
        ∃ tail ∈ workerTails, s = "wrk_client_".toList ++ digits ++ tail := by
  have pointNotDecimal : isDecimal '.' = false := by decide
  unfold workerReMatchAt
  dsimp only
  constructor
  · intro matched
    split_ifs at matched with opens closes
    obtain rfl := (Option.some.inj matched).symm
    obtain ⟨rest, rfl⟩ := List.isPrefixOf_iff_prefix.mp opens
    simp only [Bool.and_eq_true, Bool.not_eq_true', List.isEmpty_eq_false, Bool.or_eq_true,
      beq_iff_eq] at closes
    have restAfter : ("wrk_client_".toList ++ rest).drop 11 = rest := List.drop_left' rfl
    rw [restAfter] at closes ⊢
    refine ⟨closes.1, fun c member => List.mem_takeWhile_imp member,
      rest.dropWhile isDecimal, by simpa [workerTails] using closes.2, ?_⟩
    rw [List.append_assoc, List.takeWhile_append_dropWhile]
  · rintro ⟨nonempty, decimal, tail, tailIn, rfl⟩
    have tailStarts : tail.head? = some '.' := by
      simp only [workerTails, List.mem_cons, List.not_mem_nil, or_false] at tailIn
      rcases tailIn with rfl | rfl <;> rfl
    obtain ⟨tailRest, rfl⟩ : ∃ tailRest, tail = '.' :: tailRest := by
      cases tail with
      | nil => cases tailStarts
      | cons c tailRest => exact ⟨tailRest, by simpa using tailStarts⟩
    have restAfter : ("wrk_client_".toList ++ digits ++ '.' :: tailRest).drop 11 =
        digits ++ '.' :: tailRest := by
      rw [List.append_assoc]; exact List.drop_left' rfl
    have taken : (digits ++ '.' :: tailRest).takeWhile isDecimal = digits := by
      rw [List.takeWhile_append, List.takeWhile_eq_self_iff.mpr decimal]
      simp [pointNotDecimal]
    have dropped : (digits ++ '.' :: tailRest).dropWhile isDecimal = '.' :: tailRest := by
      rw [List.dropWhile_append, List.dropWhile_eq_nil_iff.mpr decimal]
      simp [pointNotDecimal]
    have opens : "wrk_client_".toList.isPrefixOf ("wrk_client_".toList ++ digits ++ '.' :: tailRest) = true :=
      List.isPrefixOf_iff_prefix.mpr (by simp)
    simp only [workerTails, List.mem_cons, List.not_mem_nil, or_false] at tailIn
    simp only [opens, if_true, restAfter, taken, dropped, List.isEmpty_eq_false.mpr nonempty,
      Bool.not_false, Bool.true_and]
    rcases tailIn with same | same <;> simp [same]

/-- A match of `_WORKER_RE` cannot start right after a character of another one: the only
`w` a match holds is its first character. -/
theorem not_matchAt_of_later {c : Char} {front digits tail digits' : List Char}
    (decimal : ∀ c ∈ digits', isDecimal c = true) (tailIn : ∀ tail' ∈ workerTails, 'w' ∉ tail')
    (matched : ∃ tail' ∈ workerTails,
      c :: (front ++ "wrk_client_".toList ++ digits ++ tail) = "wrk_client_".toList ++ digits' ++ tail') :
    False := by
  obtain ⟨tail', tail'In, same⟩ := matched
  have wordStart : 'w' ∈ "wrk_client_".toList := by decide
  have later : 'w' ∈ "rk_client_".toList ++ digits' ++ tail' := by
    have shifted := congrArg List.tail same
    rw [show ("wrk_client_".toList ++ digits' ++ tail').tail = "rk_client_".toList ++ digits' ++ tail'
      from rfl] at shifted
    rw [← shifted]
    exact List.mem_append_left tail (List.mem_append_left digits (List.mem_append_right front wordStart))
  simp only [List.mem_append] at later
  rcases later with (inWord | inDigits) | inTail
  · exact absurd inWord (by decide)
  · exact absurd (decimal 'w' inDigits) (by decide)
  · exact tailIn tail' tail'In inTail

/-- `_WORKER_RE.search(name)` finds group 1 exactly when the name ends with
`wrk_client_<digits>.log`, and then that group is `digits`. -/
theorem workerReSearch_eq_some {name digits : List Char} :
    workerReSearch name = some digits ↔ WorkerLogName name digits := by
  have tailsFree : ∀ tail ∈ workerTails, 'w' ∉ tail := by decide
  constructor
  · intro found
    induction name with
    | nil => cases found
    | cons c rest ih =>
        simp only [workerReSearch] at found
        cases matched : workerReMatchAt (c :: rest) with
        | some digits' =>
            simp only [matched, Option.some.injEq] at found
            obtain ⟨nonempty, decimal, tail, tailIn, named⟩ :=
              workerReMatchAt_eq_some.mp (found ▸ matched)
            exact ⟨nonempty, decimal, [], tail, tailIn, by simpa using named⟩
        | none =>
            simp only [matched] at found
            obtain ⟨nonempty, decimal, front, tail, tailIn, rfl⟩ := ih found
            exact ⟨nonempty, decimal, c :: front, tail, tailIn, rfl⟩
  · rintro ⟨nonempty, decimal, front, tail, tailIn, rfl⟩
    induction front with
    | nil =>
        exact workerReSearch_of_matchAt
          (workerReMatchAt_eq_some.mpr ⟨nonempty, decimal, tail, tailIn, by simp⟩)
    | cons c front ih =>
        simp only [List.cons_append, workerReSearch]
        cases matched : workerReMatchAt (c :: (front ++ "wrk_client_".toList ++ digits ++ tail)) with
        | some digits' =>
            obtain ⟨-, decimal', earlier⟩ := workerReMatchAt_eq_some.mp matched
            exact (not_matchAt_of_later decimal' tailsFree earlier).elim
        | none => simpa using ih

/-- **The worker id of a log.** `_deduce_worker_id` returns the run of decimal digits of a
name that ends with `wrk_client_<digits>.log` (a final line feed allowed, as `$` allows
it), and the stem of any other name. -/
theorem deduceWorkerId_spec (path : PurePosixPath) (id : List Char) :
    deduceWorkerId path = id ↔
      WorkerLogName path.name id ∨ ((∀ digits, ¬WorkerLogName path.name digits) ∧ id = path.stem) := by
  unfold deduceWorkerId
  cases found : workerReSearch path.name with
  | some digits =>
      have named := workerReSearch_eq_some.mp found
      constructor
      · rintro rfl
        exact .inl named
      · rintro (other | ⟨none, -⟩)
        · exact Option.some.inj (found.symm.trans (workerReSearch_eq_some.mpr other))
        · exact absurd named (none digits)
  | none =>
      have unnamed : ∀ digits, ¬WorkerLogName path.name digits := fun digits named => by
        simp [workerReSearch_eq_some.mpr named] at found
      constructor
      · rintro rfl
        exact .inr ⟨unnamed, rfl⟩
      · rintro (named | ⟨-, rfl⟩)
        · exact absurd named (unnamed id)
        · rfl

/-- The worker id depends on the path's name only. -/
theorem deduceWorkerId_congr {path path' : PurePosixPath} (same : path.name = path'.name) :
    deduceWorkerId path = deduceWorkerId path' := by
  simp only [deduceWorkerId, PurePosixPath.stem, same]

/-- `parse_wrk_log` returns the extracted values under the worker id of the path, and the
path itself as `log_path`. -/
theorem parseWrkLog_eq_ok (path : PurePosixPath) (content : List Char) (stats : WorkerStats) :
    parseWrkLog path content = .ok stats ↔
      ∃ values, extractMetricsFromLines ((readLines content).map Line.raw) = .ok values ∧
        stats = ⟨deduceWorkerId path, values.1, values.2.1, values.2.2.1, values.2.2.2, path⟩ := by
  unfold parseWrkLog
  cases extractMetricsFromLines ((readLines content).map Line.raw) with
  | error e => cases e <;> simp
  | ok values => simp [eq_comm]

/-! ## The figures are never negative -/

/-- Every figure of a worker is at least 0. -/
structure WorkerStats.Nonneg (entry : WorkerStats) : Prop where
  latencyAvgMs : 0 ≤ entry.latencyAvgMs
  latencyStdevMs : 0 ≤ entry.latencyStdevMs
  reqPerSecAvg : 0 ≤ entry.reqPerSecAvg
  reqPerSecStdev : 0 ≤ entry.reqPerSecStdev

/-- `parse_latency` and `parse_throughput` return no negative value, so neither does the
extraction. -/
theorem extractMetricsFromLines_nonneg {lines : List (List Char)} {values : ℚ × ℚ × ℚ × ℚ}
    (extracted : extractMetricsFromLines lines = .ok values) :
    0 ≤ values.1 ∧ 0 ≤ values.2.1 ∧ 0 ≤ values.2.2.1 ∧ 0 ≤ values.2.2.2 := by
  obtain ⟨-, -, _, _, -, -, avg, stdev, reqAvg, reqStdev⟩ :=
    (extractMetricsFromLines_eq_ok lines values).mp extracted
  exact ⟨parseLatency_nonneg avg, parseLatency_nonneg stdev, parseThroughput_nonneg reqAvg,
    parseThroughput_nonneg reqStdev⟩

theorem parseWrkLog_nonneg {path : PurePosixPath} {content : List Char} {stats : WorkerStats}
    (parsed : parseWrkLog path content = .ok stats) : stats.Nonneg := by
  obtain ⟨values, extracted, rfl⟩ := (parseWrkLog_eq_ok path content stats).mp parsed
  obtain ⟨avg, stdev, reqAvg, reqStdev⟩ := extractMetricsFromLines_nonneg extracted
  exact ⟨avg, stdev, reqAvg, reqStdev⟩

end AgenticEbpf.Summary
