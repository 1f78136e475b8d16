import AgenticEbpf.Evaluator.MetricsCsv

/-!
# The stages `evaluate` drives (`openevolve_eval.py`)

`evaluate` runs `go generate`, starts `launch_servers.sh`, waits for its logs, scans them
for errors, runs `basic-workload.sh` and cleans up with `pkill`, then reads the files the
workload leaves behind; a `finally` clause tears the launcher down. None of these
behaviours is the evaluator's own, so a `World` records all it can observe of them:

* a command run with `subprocess.run(..., text=True, capture_output=True)` completes with
  an exit code and the bytes it wrote, raises `FileNotFoundError`, which the script
  handles, or raises another exception, which it does not (`RunOutcome`);
* the launcher fails to start in one of the same two ways or is a `Launcher`: the
  iterations of the readiness loop before its deadline, what `poll()` returns afterwards,
  its output, and how it meets the teardown (`Shutdown`): which signals it needs, which of
  them raise, and whether closing its pipe waits forever;
* the files of `log/` and the two summary files, as bytes.

Each helper of the script is a function of what it observes and returns, in order, the
effects it has on the machine (`Effect`): the commands it runs, the signals it sends and
the time it sleeps or waits. A helper that may not return gives `Option (Except PyError _)`:
`none` when it never returns, else what it returns or raises.
-/

namespace AgenticEbpf.Evaluator

open AgenticEbpf.Python

/-! ## Effects -/

/-- The signals the teardown sends to the launcher's process group. -/
inductive Signal
  | sigint
  | sigterm
  deriving DecidableEq

/-- What the evaluator does to the machine, in the order it does it. -/
inductive Effect
  /-- `subprocess.run(command)`. -/
  | run (command : List String)
  /-- `subprocess.Popen(command)`. -/
  | spawn (command : List String)
  /-- `time.sleep(seconds)`. -/
  | sleep (seconds : Nat)
  /-- `os.killpg(os.getpgid(proc.pid), signal)`. -/
  | signal (signal : Signal)
  /-- `proc.wait(timeout=seconds)`. -/
  | waitUpTo (seconds : Nat)
  /-- `proc.kill()`. -/
  | kill
  /-- `reader.join(timeout=seconds)`. -/
  | join (seconds : Nat)
  /-- `proc.stdout.close()`. -/
  | closeOutput
  deriving DecidableEq

/-- The `go generate ./...` command. -/
def goGenerateCommand : List String :=
  ["go", "generate", "./..."]

/-- `SERVER_LAUNCH_CMD`. -/
def serverLaunchCmd : List String :=
  ["sudo", "-n", "./launch_servers.sh", "4", "agent"]

/-- `WORKLOAD_CMD`. -/
def workloadCmd : List String :=
  ["./basic-workload.sh", "20", "10"]

/-- The cleanup command `sudo -n pkill -f pattern`. -/
def pkillCommand (pattern : String) : List String :=
  ["sudo", "-n", "pkill", "-f", pattern]

/-! ## Commands -/

/-- What `subprocess.run(command, text=True, capture_output=True)` does: the process
completes with its exit code and the bytes it wrote to `stdout` and `stderr`; or starting
it raises `FileNotFoundError` (no such program or working directory), with the text of
the exception; or it raises an exception that `except FileNotFoundError` lets through: a
`PermissionError` or `NotADirectoryError` for the program or its `cwd`, another `OSError`,
or a `SubprocessError`. -/
inductive RunOutcome
  | completed (returncode : ℤ) (stdout stderr : Bytes)
  | notFound (message : List Char)
  | raises (error : PyError)
  deriving DecidableEq

/-- A captured stream of a `text=True` run: strictly decoded, with universal newlines. -/
def decodeOutput (bytes : Bytes) : Except PyError (List Char) :=
  translateNewlines <$> bytes.decode

/-- `_run_go_generate()`: whether `go generate` exited 0, and its output. -/
def runGoGenerate (outcome : RunOutcome) : Except PyError (Bool × List Char) :=
  match outcome with
  | .notFound message => pure (false, "Failed to execute go generate: ".toList ++ message)
  | .raises error => throw error
  | .completed returncode stdout stderr => do
      let out ← decodeOutput stdout
      let err ← decodeOutput stderr
      pure (returncode == 0, strip (out ++ err))

/-- The `CompletedProcess` `_run_workload` returns. -/
structure Completed where
  returncode : ℤ
  stdout : List Char
  stderr : List Char
  deriving DecidableEq

/-- `_run_workload()`: whether the workload exited 0 and its `CompletedProcess` (the
stand-in with code 127 when it could not start), or the exception it passes on, and its
effects. The `finally` clause always sleeps and runs `pkill -f launch_servers`; when that
raises, the exception is swallowed and `pkill -f server_code` is skipped. -/
def runWorkload (outcome : RunOutcome) (cleanupRaises : Bool) :
    Except PyError (Bool × Completed) × List Effect :=
  let cleanup : List Effect := [.sleep 1, .run (pkillCommand "launch_servers")] ++
    if cleanupRaises then [] else [.run (pkillCommand "server_code")]
  let effects := .run ("sudo" :: "-n" :: workloadCmd) :: cleanup
  match outcome with
  | .notFound message => (.ok (false, ⟨127, [], message⟩), effects)
  | .raises error => (.error error, effects)
  | .completed returncode stdout stderr =>
      (do
        let out ← decodeOutput stdout
        let err ← decodeOutput stderr
        pure (returncode == 0, ⟨returncode, out, err⟩), effects)

/-- Whatever the workload does, `_run_workload` runs it and then its cleanup. -/
theorem runWorkload_snd (outcome : RunOutcome) (cleanupRaises : Bool) :
    (runWorkload outcome cleanupRaises).2 = .run ("sudo" :: "-n" :: workloadCmd) :: .sleep 1 ::
      .run (pkillCommand "launch_servers") ::
        if cleanupRaises then [] else [.run (pkillCommand "server_code")] := by
  cases outcome <;> rfl

/-! ## The launcher -/

/-- What one iteration of `_wait_for_server_logs` observes: whether `proc.poll()` finds
the launcher exited, and whether a `server*.log` exists. -/
structure Probe where
  exited : Bool
  logsPresent : Bool
  deriving DecidableEq

/-- How the launcher meets the teardown: whether it still runs, whether it exits within
15 s of `SIGINT` and within 5 s of `SIGTERM`; what `os.killpg` raises for each signal and
`proc.kill()` raises, other than the `ProcessLookupError` the script swallows (a
`PermissionError` for a group the evaluator may not signal); and whether the reader
thread holds the pipe in a read that never ends, because another process keeps its write
end open and silent, so that `proc.stdout.close()` waits for it forever. -/
structure Shutdown where
  running : Bool
  exitsOnInterrupt : Bool
  exitsOnTerminate : Bool
  interruptRaises : Option PyError
  terminateRaises : Option PyError
  killRaises : Option PyError
  outputHeld : Bool
  deriving DecidableEq

/-- A started launcher, as the evaluator observes it. -/
structure Launcher where
  /-- The iterations of `_wait_for_server_logs` that begin before its deadline. -/
  probes : List Probe
  /-- What `proc.poll()` returns after the wait: `none` while the launcher runs. -/
  pollAfterWait : Option ℤ
  /-- The lines the reader thread has collected from the launcher's output. -/
  output : List (List Char)
  shutdown : Shutdown
  deriving DecidableEq

/-- `_start_servers()`: the launcher; or the text of the `FileNotFoundError` that
`Popen` raised, which becomes a `RuntimeError`; or another exception of `Popen`, which
passes through. -/
inductive LaunchOutcome
  | started (launcher : Launcher)
  | notFound (message : List Char)
  | raises (error : PyError)
  deriving DecidableEq

/-- `_wait_for_server_logs(proc)` over the iterations that begin before the deadline:
whether a log appeared while the launcher ran, and the sleeps of the loop. -/
def waitForServerLogs : List Probe → Bool × List Effect
  | [] => (false, [])
  | probe :: rest =>
      if probe.exited then (false, [])
      else if probe.logsPresent then (true, [])
      else
        let (ready, sleeps) := waitForServerLogs rest
        (ready, .sleep 1 :: sleeps)

/-- The readiness loop does nothing but sleep. -/
theorem waitForServerLogs_sleeps (probes : List Probe) :
    ∀ effect ∈ (waitForServerLogs probes).2, effect = .sleep 1 := by
  induction probes with
  | nil => simp [waitForServerLogs]
  | cons probe rest ih =>
      unfold waitForServerLogs
      generalize waitForServerLogs rest = waited at ih
      obtain ⟨ready, sleeps⟩ := waited
      split_ifs
      iterate 2 simp
      exact List.forall_mem_cons.mpr ⟨rfl, ih⟩

/-- The `try` block of `_terminate_process`: `SIGINT` and a wait of up to 15 s if the
launcher still runs, then `SIGTERM` and up to 5 s more, then `kill()`; a signal that
raises ends the block. -/
def signalProcess (shutdown : Shutdown) : Except PyError Unit × List Effect :=
  if !shutdown.running then (.ok (), [])
  else match shutdown.interruptRaises with
    | some error => (.error error, [.signal .sigint])
    | none =>
        if shutdown.exitsOnInterrupt then (.ok (), [.signal .sigint, .waitUpTo 15])
        else match shutdown.terminateRaises with
          | some error => (.error error, [.signal .sigint, .waitUpTo 15, .signal .sigterm])
          | none =>
              let escalation : List Effect := [.signal .sigint, .waitUpTo 15, .signal .sigterm, .waitUpTo 5]
              if shutdown.exitsOnTerminate then (.ok (), escalation)
              else match shutdown.killRaises with
                | some error => (.error error, escalation ++ [.kill])
                | none => (.ok (), escalation ++ [.kill])

/-- The signal steps of the teardown: none when the launcher no longer runs, else `SIGINT`
and then only waits, `SIGTERM` and `kill()`. -/
theorem signalProcess_snd (shutdown : Shutdown) :
    ∃ rest, (signalProcess shutdown).2 = (if shutdown.running then .signal .sigint :: rest else []) ∧
      ∀ effect ∈ rest, effect ∈ [.waitUpTo 15, .signal .sigterm, .waitUpTo 5, .kill] := by
  rcases shutdown with ⟨_ | _, exitsOnInterrupt, exitsOnTerminate, interrupt, terminate, kill, held⟩
  · -- a launcher that no longer runs gets no signal
    exact ⟨[], rfl, by decide⟩
  · -- one that runs gets `SIGINT` first
    cases exitsOnInterrupt <;> cases exitsOnTerminate <;> cases interrupt <;> cases terminate <;>
      cases kill <;> exact ⟨_, rfl, by decide⟩

/-- The exception the teardown's signals raise: that of the first signal the launcher
still needs that raises. -/
def Shutdown.raised (shutdown : Shutdown) : Option PyError :=
  if !shutdown.running then none
  else shutdown.interruptRaises <|>
    if shutdown.exitsOnInterrupt then none
    else shutdown.terminateRaises <|> if shutdown.exitsOnTerminate then none else shutdown.killRaises

theorem signalProcess_fst (shutdown : Shutdown) :
    (signalProcess shutdown).1 = match shutdown.raised with
      | some error => .error error
      | none => .ok () := by
  rcases shutdown with ⟨_ | _, _ | _, _ | _, _ | _, _ | _, _ | _, _⟩ <;> rfl

/-- `_terminate_process(proc, reader)` for a started launcher: the signals, then, in the
`finally` clause, a join of the reader of up to 2 s and the close of the pipe, which never
returns while the pipe is held. -/
def terminateProcess (shutdown : Shutdown) : Option (Except PyError Unit) × List Effect :=
  let (signalled, signals) := signalProcess shutdown
  (if shutdown.outputHeld then none else some signalled, signals ++ [.join 2, .closeOutput])

/-- The teardown never returns while the pipe is held; otherwise it raises what its signals
raise. -/
theorem terminateProcess_fst (shutdown : Shutdown) :
    (terminateProcess shutdown).1 = if shutdown.outputHeld then none
      else some (match shutdown.raised with
        | some error => .error error
        | none => .ok ()) := by
  rw [terminateProcess, ← signalProcess_fst]

/-! ## The log directory -/

/-- A file of `LOG_DIR`: its name, modification time and bytes. -/
structure LogFile where
  name : List Char
  mtime : ℚ
  bytes : Bytes
  deriving DecidableEq

/-- `SERVER_LOG_GLOB`, `server*.log`. -/
def serverLogGlob (name : List Char) : Bool :=
  globMatch "server".toList ".log".toList name

/-- `path.read_text(encoding="utf-8", errors="ignore")`. -/
def readTextIgnoringErrors (bytes : Bytes) : List Char :=
  translateNewlines bytes.text

/-- `_latest_log`'s choice: the first file of greatest modification time. -/
def firstLatest (files : List LogFile) : Option LogFile :=
  files.foldl (fun best file => match best with
    | none => some file
    | some current => if current.mtime < file.mtime then some file else some current) none

/-- `_latest_log(pattern, newer_than)` for the pattern `front*back`: among the matching
files, those modified at or after `newerThan` if there are any, and of them the latest. -/
def latestLog (front back : List Char) (newerThan : ℚ) (logDir : List LogFile) :
    Option LogFile :=
  let candidates := logDir.filter fun file => globMatch front back file.name
  if candidates = [] then none
  else
    let recent := candidates.filter fun file => newerThan ≤ file.mtime
    firstLatest (if recent = [] then candidates else recent)

/-! ## `ERROR_PATTERN`

`re.compile(r"\b(error|fail|exit status 1)\b", re.IGNORECASE)` on a `str`. `\b` uses
Python's Unicode notion of a word character (`str.isalnum()` or `_`), which the model
takes as the parameter `isWordChar`: every result holds whatever it is. A pattern letter
matches a character whose simple lower case is that letter, and `_sre` adds `ı` for `i`
and `ſ` for `s`. -/

/-- Whether `re.IGNORECASE` lets a text character stand for a pattern character (a
lower-case ASCII letter, a space or a digit). -/
def ignoreCaseMatches (p c : Char) : Bool :=
  c == p || c == p.toUpper || (p == 'i' && (c == 'İ' || c == 'ı')) ||
    (p == 's' && c == 'ſ')

/-- The alternatives of `ERROR_PATTERN`. -/
def errorAlternatives : List (List Char) :=
  ["error", "fail", "exit status 1"].map String.toList

/-- An alternative matched at the start of a text: the last character it matched and the
text after it. -/
def matchWord (previous : Char) : List Char → List Char → Option (Char × List Char)
  | [], rest => some (previous, rest)
  | p :: ps, c :: rest => if ignoreCaseMatches p c then matchWord c ps rest else none
  | _ :: _, [] => none

section ErrorPattern

variable (isWordChar : Char → Bool)

/-- `\b` between the character before a position and the one after it (`none` at either
end of the text). -/
def wordBoundary (before after : Option Char) : Bool :=
  before.any isWordChar != after.any isWordChar

/-- Whether `ERROR_PATTERN` matches at the start of `text`, the character before being
`before`. -/
def errorPatternAt (before : Option Char) (text : List Char) : Bool :=
  wordBoundary isWordChar before text.head? && errorAlternatives.any fun word =>
    match matchWord ' ' word text with
    | some (last, after) => wordBoundary isWordChar (some last) after.head?
    | none => false

/-- `ERROR_PATTERN.search(text)` finds a match. -/
def errorPatternSearch (before : Option Char) : List Char → Bool
  | [] => false
  | c :: rest => errorPatternAt isWordChar before (c :: rest) || errorPatternSearch (some c) rest

/-- `_scan_server_logs_for_errors()`: the name and text of each `server*.log`, in sorted
order, in which `ERROR_PATTERN` finds a match. -/
def scanServerLogsForErrors (logDir : List LogFile) : List (List Char × List Char) :=
  (sortedGlob LogFile.name serverLogGlob logDir).filterMap fun file =>
    let content := readTextIgnoringErrors file.bytes
    if errorPatternSearch isWordChar none content then some (file.name, content) else none

end ErrorPattern

/-- Word characters as far as ASCII goes: letters, digits and `_`. -/
def asciiWordChar (c : Char) : Bool :=
  c.isAlphanum || c == '_'

example : errorPatternSearch asciiWordChar none "panic: Exit Status 1\n".toList = true ∧
    errorPatternSearch asciiWordChar none "no errors, 0 failures".toList = false ∧
    errorPatternSearch asciiWordChar none "FAİL".toList = true := by
  decide

/-! ## The world -/

/-- Everything `evaluate` observes of its environment. -/
structure World where
  /-- `ROOT_DIR`, the directory of the evaluator. -/
  rootDir : PurePosixPath
  goGenerate : RunOutcome
  /-- `time.time()` just before the launch. -/
  launchStartedAt : ℚ
  launch : LaunchOutcome
  /-- The files of `LOG_DIR`, in directory order, once the launcher is up. -/
  logDir : List LogFile
  workload : RunOutcome
  /-- Whether the first cleanup `pkill` raises. -/
  cleanupRaises : Bool
  /-- `WORKLOAD_LOG_DIR / "basic-workload-summary.csv"`, if it exists. -/
  summaryCsv : Option Bytes
  /-- `WORKLOAD_LOG_DIR / "basic-workload-summary-metrics.csv"`, if it exists. -/
  metricsCsv : Option Bytes

/-- `WORKLOAD_LOG_DIR / "basic-workload-summary-metrics.csv"`. -/
def World.metricsPath (w : World) : PurePosixPath :=
  ((w.rootDir.div "workloads".toList).div "wrk_log".toList).div
    "basic-workload-summary-metrics.csv".toList

end AgenticEbpf.Evaluator
