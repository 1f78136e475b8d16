import AgenticEbpf.Summary.WorkerLog
import Mathlib.Data.List.Forall2

/-!
# The aggregated log (`parse_aggregated_log`)

When the load generator writes one log for all workers, each worker's wrk output is framed
by marker lines:

    ===== wrk_client_1.log START =====
    ...the worker's wrk report...
    ===== wrk_client_1.log END =====

`parse_aggregated_log` splits the file with a loop of two states (outside any section, or
inside the one it names) and reads each section's body as `parse_wrk_log` reads a file.

`splitStep_cases` says once what one line can do to the loop's state. From it:

* `run_reached`: after any run without error, the lines read are sections with gaps
  before them and after the last, or end inside an open section, and the records are those
  of the closed sections (`Reached`);
* `run_blocks`: lines laid out as such sections are read without error, one record per
  section.

`aggregated_log_matches_worker_logs` joins both to the checks at the end of the file: the
function returns exactly on files laid out so, and each record is what `parse_wrk_log`
returns for a file beside the log that holds the section's body.
-/

namespace AgenticEbpf.Summary

open AgenticEbpf.Python

/-! ## Section markers -/

/-- The text before a section's name on a marker line. -/
def sectionHead : List Char := "===== ".toList

/-- The text after a section's name on a marker line with the word `marker`. -/
def sectionTail (marker : List Char) : List Char := ' ' :: marker ++ " =====".toList

/-- The marker line `===== name MARKER =====`. -/
def markerText (marker name : List Char) : List Char :=
  sectionHead ++ name ++ sectionTail marker

/-- `re.match(r"^===== (.+) MARKER =====$", s)` with the word `marker`: group 1. `.` is any
character but a line feed and `$` matches at the end or before a final line feed, so the
group is all the text between the head and the tail. -/
def sectionMarkerMatch (marker s : List Char) : Option (List Char) :=
  let text := if s.getLast? = some '\n' then s.dropLast else s
  match (text.dropPrefix? sectionHead).bind fun rest => rest.dropSuffix? (sectionTail marker) with
  | some name => if name ≠ [] ∧ '\n' ∉ name then some name else none
  | none => none

/-- `_SECTION_START_RE.match(s)`. -/
def sectionStartRe (s : List Char) : Option (List Char) :=
  sectionMarkerMatch "START".toList s

/-- `_SECTION_END_RE.match(s)`. -/
def sectionEndRe (s : List Char) : Option (List Char) :=
  sectionMarkerMatch "END".toList s

theorem markerText_inj {marker name name' : List Char}
    (same : markerText marker name = markerText marker name') : name = name' :=
  List.append_cancel_left (List.append_cancel_right same)

theorem sectionMarkerMatch_eq_some {marker s name : List Char} (free : '\n' ∉ s) :
    sectionMarkerMatch marker s = some name ↔ name ≠ [] ∧ s = markerText marker name := by
  have text : (if s.getLast? = some '\n' then s.dropLast else s) = s :=
    if_neg fun last => free (List.mem_of_getLast?_eq_some last)
  have framed : ∀ name, ((s.dropPrefix? sectionHead).bind fun rest =>
      rest.dropSuffix? (sectionTail marker)) = some name ↔ s = markerText marker name := by
    intro name
    simp [Option.bind_eq_some, List.dropPrefix?_eq_some_iff, List.dropSuffix?_eq_some_iff,
      markerText]
  simp only [sectionMarkerMatch, text]
  split
  · rename_i found matched
    have shape := (framed found).mp matched
    have foundFree : '\n' ∉ found := fun inFound => free (by simp [shape, markerText, inFound])
    constructor
    · intro accepted
      split_ifs at accepted with valid
      obtain rfl := Option.some.inj accepted
      exact ⟨valid.1, shape⟩
    · rintro ⟨nonempty, same⟩
      obtain rfl := markerText_inj (shape.symm.trans same)
      simp [nonempty, foundFree]
  · rename_i unmatched
    simp only [reduceCtorEq, false_iff, not_and]
    intro _ shape
    rw [(framed name).mpr shape] at unmatched
    cases unmatched

/-! ## Marker lines -/

/-- `START(n)`: without its line break, the line is `===== n START =====`. -/
def IsStart (line : Line) (name : List Char) : Prop :=
  name ≠ [] ∧ line.text = markerText "START".toList name

/-- `END(n)`: without its line break, the line is `===== n END =====`. -/
def IsEnd (line : Line) (name : List Char) : Prop :=
  name ≠ [] ∧ line.text = markerText "END".toList name

/-- The line is `START(n)` for some name `n`. -/
def StartLine (line : Line) : Prop :=
  ∃ name, IsStart line name

/-- The line is `END(n)` for some name `n`. -/
def EndLine (line : Line) : Prop :=
  ∃ name, IsEnd line name

theorem sectionStartRe_eq_some (line : Line) (name : List Char) :
    sectionStartRe line.text = some name ↔ IsStart line name :=
  sectionMarkerMatch_eq_some line.newline_free

theorem sectionEndRe_eq_some (line : Line) (name : List Char) :
    sectionEndRe line.text = some name ↔ IsEnd line name :=
  sectionMarkerMatch_eq_some line.newline_free

theorem sectionStartRe_eq_none (line : Line) :
    sectionStartRe line.text = none ↔ ¬StartLine line := by
  simp only [StartLine, not_exists, ← sectionStartRe_eq_some, Option.eq_none_iff_forall_not_mem,
    Option.mem_def]

theorem sectionEndRe_eq_none (line : Line) :
    sectionEndRe line.text = none ↔ ¬EndLine line := by
  simp only [EndLine, not_exists, ← sectionEndRe_eq_some, Option.eq_none_iff_forall_not_mem,
    Option.mem_def]

/-- No line is both an `END` and a `START` line: their texts end differently. -/
theorem not_startLine_of_isEnd {line : Line} {name : List Char} (stop : IsEnd line name) :
    ¬StartLine line := by
  rintro ⟨other, -, start⟩
  have reversed := congrArg List.reverse (stop.2.symm.trans start)
  simp [markerText, sectionHead, sectionTail] at reversed

/-! ## The splitting loop -/

/-- The locals of `parse_aggregated_log`'s loop: the records so far, the name of the open
section, and the raw lines of its body read so far. -/
structure SplitState where
  stats : List WorkerStats
  currentName : Option (List Char)
  currentLines : List (List Char)

/-- One iteration of the loop over the lines of the aggregated log at `path`. -/
def splitStep (path : PurePosixPath) (state : SplitState) (rawLine : Line) :
    Except PyError SplitState :=
  let stripped := rstripNewlines rawLine.raw
  match sectionStartRe stripped with
  | some name =>
      match state.currentName with
      | some current =>
          .error (.valueError (String.mk (path.toString ++
            ": encountered nested section start before closing previous section ".toList ++
            Python.repr current)))
      | none => .ok { state with currentName := some name, currentLines := [] }
  | none =>
      match sectionEndRe stripped, state.currentName with
      | some endName, some current =>
          if endName ≠ current then
            .error (.valueError (String.mk (path.toString ++ ": section end ".toList ++
              Python.repr endName ++ " does not match current section ".toList ++ Python.repr current)))
          else
            let workerId := deduceWorkerId (.ofString current)
            match extractMetricsFromLines state.currentLines with
            | .ok (latencyAvgMs, latencyStdevMs, reqAvg, reqStdev) =>
                .ok ⟨state.stats ++ [⟨workerId, latencyAvgMs, latencyStdevMs, reqAvg, reqStdev,
                  path.parent.div current⟩], none, []⟩
            | .error (.valueError message) =>
                .error (.valueError
                  (String.mk (path.toString ++ " [".toList ++ current ++ "]: ".toList) ++ message))
            | .error other => .error other
      | _, _ =>
          match state.currentName with
          | some _ => .ok { state with currentLines := state.currentLines ++ [rawLine.raw] }
          | none => .ok state

/-- `parse_aggregated_log(path)` on the file's text. -/
def parseAggregatedLog (path : PurePosixPath) (content : List Char) :
    Except PyError (List WorkerStats) := do
  let final ← (readLines content).foldlM (splitStep path) ⟨[], none, []⟩
  match final.currentName with
  | some current =>
      throw (.valueError (String.mk (path.toString ++
        ": reached end of file before closing section ".toList ++ Python.repr current)))
  | none =>
      if final.stats.isEmpty then
        throw (.valueError (String.mk path.toString ++ ": no worker sections found in aggregated log"))
      else pure final.stats

/-- The record the loop appends for the section `name` whose body reads as `values`. -/
def sectionRecord (path : PurePosixPath) (name : List Char) (values : ℚ × ℚ × ℚ × ℚ) :
    WorkerStats :=
  ⟨deduceWorkerId (.ofString name), values.1, values.2.1, values.2.2.1, values.2.2.2,
    path.parent.div name⟩

/-! ## One line -/

section Step

variable {path : PurePosixPath} {state state' : SplitState} {line : Line} {name : List Char}

/-- Everything one line can do to the loop's state without an error: open a section from
outside, close the open section when it names it and its body reads, be skipped outside a
section, or join the open section's body when it is no marker line. -/
theorem splitStep_cases (stepped : splitStep path state line = .ok state') :
    (∃ name, IsStart line name ∧ state.currentName = none ∧
        state' = { state with currentName := some name, currentLines := [] }) ∨
      (¬StartLine line ∧ ∃ name values, IsEnd line name ∧ state.currentName = some name ∧
        extractMetricsFromLines state.currentLines = .ok values ∧
        state' = ⟨state.stats ++ [sectionRecord path name values], none, []⟩) ∨
      (¬StartLine line ∧ state.currentName = none ∧ state' = state) ∨
      (¬StartLine line ∧ ¬EndLine line ∧ state.currentName ≠ none ∧
        state' = { state with currentLines := state.currentLines ++ [line.raw] }) := by
  cases start : sectionStartRe line.text with
  | some found =>
      cases current : state.currentName with
      | some _ => simp [splitStep, start, current] at stepped
      | none =>
          simp only [splitStep, Line.rstripNewlines_raw, start, current, Except.ok.injEq] at stepped
          exact .inl ⟨found, (sectionStartRe_eq_some line found).mp start, rfl, stepped.symm⟩
  | none =>
      have notStart := (sectionStartRe_eq_none line).mp start
      cases current : state.currentName with
      | none =>
          have unchanged : state' = state := by
            cases stop : sectionEndRe line.text <;>
              simp_all [splitStep]
          exact .inr (.inr (.inl ⟨notStart, rfl, unchanged⟩))
      | some name =>
          cases stop : sectionEndRe line.text with
          | none =>
              simp only [splitStep, Line.rstripNewlines_raw, start, stop, current, Except.ok.injEq] at stepped
              exact .inr (.inr (.inr ⟨notStart, (sectionEndRe_eq_none line).mp stop, by simp,
                stepped.symm⟩))
          | some endName =>
              by_cases same : endName = name
              · subst same
                cases read : extractMetricsFromLines state.currentLines with
                | error e => cases e <;> simp [splitStep, start, stop, current, read] at stepped
                | ok values =>
                    simp only [splitStep, Line.rstripNewlines_raw, start, stop, current, read, ne_eq,
                      not_true_eq_false, if_false, Except.ok.injEq] at stepped
                    exact .inr (.inl ⟨notStart, endName, values,
                      (sectionEndRe_eq_some line endName).mp stop, rfl, rfl, stepped.symm⟩)
              · simp [splitStep, start, stop, current, same] at stepped

theorem splitStep_start (start : IsStart line name) (stats : List WorkerStats) :
    splitStep path ⟨stats, none, []⟩ line = .ok ⟨stats, some name, []⟩ := by
  simp [splitStep, (sectionStartRe_eq_some line name).mpr start]

theorem splitStep_gap (notStart : ¬StartLine line) (stats : List WorkerStats) :
    splitStep path ⟨stats, none, []⟩ line = .ok ⟨stats, none, []⟩ := by
  simp only [splitStep, Line.rstripNewlines_raw, (sectionStartRe_eq_none line).mpr notStart]
  split <;> simp_all

theorem splitStep_body (notStart : ¬StartLine line) (notEnd : ¬EndLine line)
    (stats : List WorkerStats) (lines : List (List Char)) :
    splitStep path ⟨stats, some name, lines⟩ line = .ok ⟨stats, some name, lines ++ [line.raw]⟩ := by
  simp [splitStep, (sectionStartRe_eq_none line).mpr notStart,
    (sectionEndRe_eq_none line).mpr notEnd]

theorem splitStep_stop (stop : IsEnd line name) {lines : List (List Char)}
    {values : ℚ × ℚ × ℚ × ℚ} (read : extractMetricsFromLines lines = .ok values)
    (notStart : ¬StartLine line) (stats : List WorkerStats) :
    splitStep path ⟨stats, some name, lines⟩ line =
      .ok ⟨stats ++ [sectionRecord path name values], none, []⟩ := by
  simp [splitStep, (sectionStartRe_eq_none line).mpr notStart,
    (sectionEndRe_eq_some line name).mpr stop, read, sectionRecord]

end Step

/-! ## Layouts -/

/-- One section of the aggregated log with the gap before it: the lines before its start
line, its name, its start line, its body and its end line. -/
structure SectionBlock where
  gap : List Line
  name : List Char
  start : Line
  body : List Line
  stop : Line

/-- The lines of a block, in file order. -/
def SectionBlock.lines (block : SectionBlock) : List Line :=
  block.gap ++ block.start :: block.body ++ [block.stop]

/-- A block the loop reads as one section: no start line in the gap (end lines there are
skipped), the start and end lines name the section, no marker line in the body, and the
body is accepted by `_extract_metrics_from_lines`. -/
structure SectionBlock.WellFormed (block : SectionBlock) : Prop where
  gap_unopened : ∀ line ∈ block.gap, ¬StartLine line
  start_opens : IsStart block.start block.name
  body_unmarked : ∀ line ∈ block.body, ¬StartLine line ∧ ¬EndLine line
  stop_closes : IsEnd block.stop block.name
  body_reads : (extractMetricsFromLines (block.body.map Line.raw)).isOk = true

/-- The lines of an aggregated log as sections `G₀ S₁ B₁ E₁ … Gₖ₋₁ Sₖ Bₖ Eₖ` and the gap
`Gₖ` after the last. -/
structure AggregatedLayout where
  blocks : List SectionBlock
  trailing : List Line

/-- The lines of a layout, in file order. -/
def AggregatedLayout.lines (layout : AggregatedLayout) : List Line :=
  layout.blocks.flatMap SectionBlock.lines ++ layout.trailing

/-- A layout `parse_aggregated_log` accepts: at least one section, every block read as one
section, and no start line after the last. -/
structure AggregatedLayout.WellFormed (layout : AggregatedLayout) : Prop where
  blocks_nonempty : layout.blocks ≠ []
  blocks_wellFormed : ∀ block ∈ layout.blocks, block.WellFormed
  trailing_unopened : ∀ line ∈ layout.trailing, ¬StartLine line

/-- `record` is what the loop appends for `block`: the values its body reads as, under the
worker id of `Path(name)`, with `path.parent / name` as its log path. -/
def SectionRecord (path : PurePosixPath) (record : WorkerStats) (block : SectionBlock) : Prop :=
  ∃ values, extractMetricsFromLines (block.body.map Line.raw) = .ok values ∧
    record = sectionRecord path block.name values

/-! ## Runs over a layout -/

section Runs

variable (path : PurePosixPath)

theorem run_gap (stats : List WorkerStats) :
    ∀ gap : List Line, (∀ line ∈ gap, ¬StartLine line) →
      gap.foldlM (splitStep path) ⟨stats, none, []⟩ = .ok ⟨stats, none, []⟩
  | [], _ => rfl
  | line :: rest, unopened => by
      rw [List.foldlM_cons, splitStep_gap (unopened line (.head _)), ok_bind]
      exact run_gap stats rest fun other member => unopened other (.tail _ member)

theorem run_body (stats : List WorkerStats) (name : List Char) :
    ∀ (body : List Line) (lines : List (List Char)),
      (∀ line ∈ body, ¬StartLine line ∧ ¬EndLine line) →
      body.foldlM (splitStep path) ⟨stats, some name, lines⟩ =
        .ok ⟨stats, some name, lines ++ body.map Line.raw⟩
  | [], lines, _ => by simp [pure, Except.pure]
  | line :: rest, lines, unmarked => by
      have ⟨notStart, notEnd⟩ := unmarked line (.head _)
      rw [List.foldlM_cons, splitStep_body notStart notEnd, ok_bind,
        run_body stats name rest _ fun other member => unmarked other (.tail _ member)]
      simp

/-- A well-formed block is read as one section: the loop appends its record. -/
theorem run_block {block : SectionBlock} (wellFormed : block.WellFormed)
    (stats : List WorkerStats) :
    ∃ record, SectionRecord path record block ∧
      block.lines.foldlM (splitStep path) ⟨stats, none, []⟩ = .ok ⟨stats ++ [record], none, []⟩ := by
  obtain ⟨values, read⟩ : ∃ values,
      extractMetricsFromLines (block.body.map Line.raw) = .ok values := by
    have reads := wellFormed.body_reads
    revert reads
    cases extractMetricsFromLines (block.body.map Line.raw) <;> simp [Except.isOk, Except.toBool]
  refine ⟨sectionRecord path block.name values, ⟨values, read, rfl⟩, ?_⟩
  simp only [SectionBlock.lines, List.foldlM_append, List.foldlM_cons, List.foldlM_nil,
    run_gap path stats _ wellFormed.gap_unopened, ok_bind, splitStep_start wellFormed.start_opens,
    run_body path stats _ _ _ wellFormed.body_unmarked, List.nil_append,
    splitStep_stop wellFormed.stop_closes read (not_startLine_of_isEnd wellFormed.stop_closes)]
  rfl

/-- Well-formed blocks are read as sections, one record each, in order. -/
theorem run_blocks :
    ∀ (blocks : List SectionBlock) (stats : List WorkerStats),
      (∀ block ∈ blocks, block.WellFormed) →
      ∃ records, List.Forall₂ (SectionRecord path) records blocks ∧
        (blocks.flatMap SectionBlock.lines).foldlM (splitStep path) ⟨stats, none, []⟩ =
          .ok ⟨stats ++ records, none, []⟩
  | [], stats, _ => ⟨[], .nil, by simp [pure, Except.pure]⟩
  | block :: rest, stats, wellFormed => by
      obtain ⟨record, recorded, run⟩ := run_block path (wellFormed block (.head _)) stats
      obtain ⟨records, all, runRest⟩ :=
        run_blocks rest (stats ++ [record]) fun other member => wellFormed other (.tail _ member)
      refine ⟨record :: records, .cons recorded all, ?_⟩
      simp [List.flatMap_cons, List.foldlM_append, run, runRest]

/-! ## What any run has read -/

/-- Where the loop stands after reading `lines` into `state`: the lines are closed sections
with their gaps, then either a gap with no start line (outside any section) or a gap and an
open section whose body so far the state holds; the records are those of the closed
sections, in order. -/
def Reached (path : PurePosixPath) (lines : List Line) (state : SplitState) : Prop :=
  ∃ blocks : List SectionBlock, (∀ block ∈ blocks, block.WellFormed) ∧
    List.Forall₂ (SectionRecord path) state.stats blocks ∧
    ((∃ trailing, (∀ line ∈ trailing, ¬StartLine line) ∧
        lines = blocks.flatMap SectionBlock.lines ++ trailing ∧
        state.currentName = none ∧ state.currentLines = []) ∨
      ∃ gap name start body, (∀ line ∈ gap, ¬StartLine line) ∧ IsStart start name ∧
        (∀ line ∈ body, ¬StartLine line ∧ ¬EndLine line) ∧
        lines = blocks.flatMap SectionBlock.lines ++ (gap ++ start :: body) ∧
        state.currentName = some name ∧ state.currentLines = body.map Line.raw)

/-- One line keeps `Reached`. -/
theorem reached_step {lines : List Line} {state state' : SplitState} {line : Line}
    (reached : Reached path lines state) (stepped : splitStep path state line = .ok state') :
    Reached path (lines ++ [line]) state' := by
  obtain ⟨blocks, wellFormed, recorded, outside | inside⟩ := reached
  · obtain ⟨trailing, unopened, rfl, noName, noLines⟩ := outside
    rcases splitStep_cases stepped with
      ⟨name, opens, -, rfl⟩ | ⟨-, _, _, -, named, -⟩ | ⟨notStart, -, rfl⟩ | ⟨-, -, named, -⟩
    · exact ⟨blocks, wellFormed, recorded, .inr ⟨trailing, name, line, [], unopened, opens,
        by simp, by simp, rfl, rfl⟩⟩
    · simp [noName] at named
    · refine ⟨blocks, wellFormed, recorded, .inl ⟨trailing ++ [line], ?_, by simp, noName,
        noLines⟩⟩
      intro other member
      rcases List.mem_append.mp member with old | new
      · exact unopened other old
      · exact List.mem_singleton.mp new ▸ notStart
    · exact absurd noName named
  · obtain ⟨gap, name, start, body, unopened, opens, unmarked, rfl, named, held⟩ := inside
    rcases splitStep_cases stepped with
      ⟨_, _, noName, -⟩ | ⟨-, endName, values, closes, named', read, rfl⟩ | ⟨-, noName, -⟩ |
        ⟨notStart, notEnd, -, rfl⟩
    · simp [named] at noName
    · obtain rfl : endName = name := (Option.some.inj (named'.symm.trans named))
      have closed : SectionRecord path (sectionRecord path endName values)
          (⟨gap, endName, start, body, line⟩ : SectionBlock) :=
        ⟨values, held ▸ read, rfl⟩
      refine ⟨blocks ++ [⟨gap, endName, start, body, line⟩], ?_,
        List.rel_append recorded (.cons closed .nil),
        .inl ⟨[], by simp, by simp [SectionBlock.lines], rfl, rfl⟩⟩
      intro block member
      rcases List.mem_append.mp member with old | new
      · exact wellFormed block old
      · obtain rfl := List.mem_singleton.mp new
        exact ⟨unopened, opens, unmarked, closes, by simp [← held, read, Except.isOk,
          Except.toBool]⟩
    · simp [named] at noName
    · refine ⟨blocks, wellFormed, recorded, .inr ⟨gap, name, start, body ++ [line], unopened,
        opens, ?_, by simp, named, by simp [held]⟩⟩
      intro other member
      rcases List.mem_append.mp member with old | new
      · exact unmarked other old
      · exact List.mem_singleton.mp new ▸ ⟨notStart, notEnd⟩

/-- Every run of the loop from its initial state that raises nothing has `Reached` the
lines it read. -/
theorem run_reached (lines : List Line) {final : SplitState}
    (ran : lines.foldlM (splitStep path) ⟨[], none, []⟩ = .ok final) : Reached path lines final := by
  induction lines using List.reverseRecOn generalizing final with
  | nil =>
      obtain rfl : final = ⟨[], none, []⟩ := (Except.ok.inj ran).symm
      exact ⟨[], by simp, .nil, .inl ⟨[], by simp, rfl, rfl, rfl⟩⟩
  | append_singleton lines line ih =>
      rw [List.foldlM_append, bind_eq_ok] at ran
      obtain ⟨middle, ranMiddle, stepped⟩ := ran
      simp only [List.foldlM_cons, List.foldlM_nil, bind_pure] at stepped
      exact reached_step path (ih ranMiddle) stepped

end Runs

/-! ## The function -/

/-- A layout of a file that `parse_aggregated_log` reads without error, with one record per
section in order. -/
theorem parseAggregatedLog_of_layout (path : PurePosixPath) {content : List Char}
    {layout : AggregatedLayout} (laidOut : layout.lines = readLines content)
    (wellFormed : layout.WellFormed) :
    ∃ records, parseAggregatedLog path content = .ok records ∧
      List.Forall₂ (SectionRecord path) records layout.blocks := by
  obtain ⟨records, recorded, run⟩ := run_blocks path layout.blocks []
    wellFormed.blocks_wellFormed
  have whole : (readLines content).foldlM (splitStep path) ⟨[], none, []⟩ =
      .ok ⟨records, none, []⟩ := by
    rw [← laidOut, AggregatedLayout.lines, List.foldlM_append, run, ok_bind,
      run_gap path _ _ wellFormed.trailing_unopened, List.nil_append]
  have nonempty : records ≠ [] := fun empty =>
    wellFormed.blocks_nonempty (List.forall₂_nil_left_iff.mp (empty ▸ recorded))
  exact ⟨records, by simp [parseAggregatedLog, whole, nonempty], recorded⟩

/-- A file `parse_aggregated_log` reads without error is laid out as sections. -/
theorem layout_of_parseAggregatedLog {path : PurePosixPath} {content : List Char}
    {records : List WorkerStats} (parsed : parseAggregatedLog path content = .ok records) :
    ∃ layout : AggregatedLayout, layout.lines = readLines content ∧ layout.WellFormed := by
  simp only [parseAggregatedLog, bind_eq_ok] at parsed
  obtain ⟨final, ran, finish⟩ := parsed
  obtain ⟨blocks, wellFormed, recorded, outside | inside⟩ := run_reached path (readLines content) ran
  · obtain ⟨trailing, unopened, laidOut, noName, -⟩ := outside
    have nonempty : final.stats ≠ [] := by
      intro empty
      simp [noName, empty] at finish
    refine ⟨⟨blocks, trailing⟩, laidOut.symm, ⟨?_, wellFormed, unopened⟩⟩
    rintro rfl
    exact nonempty (List.forall₂_nil_right_iff.mp recorded)
  · obtain ⟨_, _, _, _, -, -, -, -, named, -⟩ := inside
    simp [named] at finish

/-- The body lines of a section of a file end in a line break and hold no carriage
return. -/
theorem body_lines_read {content : List Char} {layout : AggregatedLayout}
    (laidOut : layout.lines = readLines content) {block : SectionBlock}
    (member : block ∈ layout.blocks) :
    ∀ line ∈ block.body, line.terminated = true ∧ '\r' ∉ line.text := by
  intro line inBody
  obtain ⟨before, after, blocks⟩ := List.append_of_mem member
  have shape : readLines content =
      (before.flatMap SectionBlock.lines ++ (block.gap ++ [block.start]) ++ block.body) ++
        block.stop :: (after.flatMap SectionBlock.lines ++ layout.trailing) := by
    rw [← laidOut, AggregatedLayout.lines, blocks]
    simp [SectionBlock.lines]
  have inFile : line ∈ (readLines content).dropLast := by
    rw [shape, List.dropLast_append_cons]
    exact List.mem_append_left _ (List.mem_append_right _ inBody)
  refine ⟨splitLines_terminated _ line inFile, readLines_return_free content line ?_⟩
  rw [shape]
  exact List.mem_append_left _ (List.mem_append_right _ inBody)

/-- For a plain name, a section's record is what `parse_wrk_log` returns for the file
`path.parent / name` that holds the section's body. -/
theorem parseWrkLog_of_sectionRecord {path : PurePosixPath} {record : WorkerStats}
    {block : SectionBlock} (recorded : SectionRecord path record block)
    (plain : PurePosixPath.PlainName block.name)
    (read : ∀ line ∈ block.body, line.terminated = true ∧ '\r' ∉ line.text) :
    parseWrkLog (path.parent.div block.name) (block.body.flatMap Line.raw) = .ok record := by
  obtain ⟨values, extracted, rfl⟩ := recorded
  have readBack := readLines_flatMap_raw (fun line member => (read line member).2)
    (fun line member => (read line member).1)
  have named := PurePosixPath.name_div_of_plain path.parent plain
  refine (parseWrkLog_eq_ok _ _ _).mpr ⟨values, by rw [readBack]; exact extracted, ?_⟩
  simp [sectionRecord, deduceWorkerId_congr (named.1.trans named.2 |>.trans named.2.symm),
    deduceWorkerId_congr named.1]

/-- A relation between two lists, and a property of every element on the right, hold
together pairwise. -/
theorem forall₂_and_right {α β : Type} {R : α → β → Prop} {P : β → Prop} :
    ∀ {l : List α} {u : List β}, List.Forall₂ R l u → (∀ b ∈ u, P b) →
      List.Forall₂ (fun a b => R a b ∧ P b) l u
  | _, _, .nil, _ => .nil
  | _, _, .cons head tail, all =>
      .cons ⟨head, all _ (.head _)⟩ (forall₂_and_right tail fun b member => all b (.tail _ member))

/-- `parse_aggregated_log` returns exactly on files laid out as at least one section, each
`START(n)`, a body with no marker line that `_extract_metrics_from_lines` accepts, and
`END(n)`, with gaps holding no start line before, between and after them; it then returns
one record per section, in file order, and for a plain name `n` the record is the one
`parse_wrk_log` returns for the file `path.parent / n` holding the section's body. -/
theorem aggregated_log_matches_worker_logs (path : PurePosixPath) (content : List Char) :
    ((parseAggregatedLog path content).isOk ↔
      ∃ layout : AggregatedLayout, layout.lines = readLines content ∧ layout.WellFormed) ∧
    ∀ layout : AggregatedLayout, layout.lines = readLines content → layout.WellFormed →
      ∃ records, parseAggregatedLog path content = .ok records ∧
        List.Forall₂ (fun record block => SectionRecord path record block ∧
          (PurePosixPath.PlainName block.name →
            parseWrkLog (path.parent.div block.name) (block.body.flatMap Line.raw) = .ok record))
          records layout.blocks := by
  refine ⟨⟨fun parsed => ?_, fun ⟨layout, laidOut, wellFormed⟩ => ?_⟩,
    fun layout laidOut wellFormed => ?_⟩
  · cases returned : parseAggregatedLog path content with
    | error => simp [returned, Except.isOk, Except.toBool] at parsed
    | ok records => exact layout_of_parseAggregatedLog returned
  · obtain ⟨records, parsed, -⟩ := parseAggregatedLog_of_layout path laidOut wellFormed
    simp [parsed, Except.isOk, Except.toBool]
  · obtain ⟨records, parsed, recorded⟩ :=
      parseAggregatedLog_of_layout path laidOut wellFormed
    refine ⟨records, parsed, (forall₂_and_right recorded
      fun block member => body_lines_read laidOut member).imp ?_⟩
    exact fun record block ⟨sectioned, read⟩ =>
      ⟨sectioned, fun plain => parseWrkLog_of_sectionRecord sectioned plain read⟩

theorem sectionRecord_nonneg {path : PurePosixPath} {record : WorkerStats}
    {block : SectionBlock} (recorded : SectionRecord path record block) : record.Nonneg := by
  obtain ⟨values, extracted, rfl⟩ := recorded
  obtain ⟨avg, stdev, reqAvg, reqStdev⟩ := extractMetricsFromLines_nonneg extracted
  exact ⟨avg, stdev, reqAvg, reqStdev⟩

theorem sectionRecords_nonneg {path : PurePosixPath} :
    ∀ {records : List WorkerStats} {blocks : List SectionBlock},
      List.Forall₂ (SectionRecord path) records blocks → ∀ record ∈ records, record.Nonneg
  | _, _, .nil, _, member => absurd member (List.not_mem_nil _)
  | _, _, .cons recorded rest, _, member => by
      rcases List.mem_cons.mp member with rfl | later
      · exact sectionRecord_nonneg recorded
      · exact sectionRecords_nonneg rest _ later

/-- Every record of an aggregated log has non-negative figures. -/
theorem parseAggregatedLog_nonneg {path : PurePosixPath} {content : List Char}
    {records : List WorkerStats} (parsed : parseAggregatedLog path content = .ok records) :
    ∀ record ∈ records, record.Nonneg := by
  obtain ⟨layout, laidOut, wellFormed⟩ := layout_of_parseAggregatedLog parsed
  obtain ⟨records', parsed', recorded⟩ := parseAggregatedLog_of_layout path laidOut wellFormed
  obtain rfl : records' = records := Except.ok.inj (parsed'.symm.trans parsed)
  exact sectionRecords_nonneg recorded

/-- A log with one section: it is read into one record. -/
theorem aggregated_log_one_section :
    ∃ records, parseAggregatedLog (.ofString "logs/basic-workload.log".toList)
        ("===== wrk_client_1.log START =====\nLatency 1ms 2ms\nReq/Sec 1k 2k\n" ++
          "===== wrk_client_1.log END =====\n").toList = .ok records ∧ records.length = 1 := by
  let block : SectionBlock :=
    ⟨[], "wrk_client_1.log".toList, ⟨"===== wrk_client_1.log START =====".toList, true, by decide⟩,
      [⟨"Latency 1ms 2ms".toList, true, by decide⟩, ⟨"Req/Sec 1k 2k".toList, true, by decide⟩],
      ⟨"===== wrk_client_1.log END =====".toList, true, by decide⟩⟩
  have blockWellFormed : block.WellFormed := by
    refine ⟨by simp [block], ⟨by decide, by decide⟩, ?_, ⟨by decide, by decide⟩, by decide⟩
    simp only [block, List.mem_cons, List.mem_singleton, List.not_mem_nil, or_false]
    rintro line (rfl | rfl) <;>
      exact ⟨(sectionStartRe_eq_none _).mp (by decide), (sectionEndRe_eq_none _).mp (by decide)⟩
  obtain ⟨records, parsed, related⟩ := (aggregated_log_matches_worker_logs
    (.ofString "logs/basic-workload.log".toList)
    ("===== wrk_client_1.log START =====\nLatency 1ms 2ms\nReq/Sec 1k 2k\n" ++
      "===== wrk_client_1.log END =====\n").toList).2 ⟨[block], []⟩
    (by decide) ⟨by simp, by simpa using blockWellFormed, by simp⟩
  exact ⟨records, parsed, related.length_eq⟩

end AgenticEbpf.Summary
