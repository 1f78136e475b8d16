import AgenticEbpf.Evaluator.Stages

/-!
# What the evaluator reads of `log/`

`ERROR_PATTERN.search` is modelled by a scan that tries, at each position in turn, every
alternative letter by letter (`errorPatternSearch`). `errorPatternSearch_iff_occurs` says
that it finds what the regular expression `\b(error|fail|exit status 1)\b` means: a slice of
the text that spells an alternative under `re.IGNORECASE`, with a word boundary on either
side. So `_scan_server_logs_for_errors` reports exactly the `server*.log` files whose text
holds such a slice (`scanServerLogsForErrors_mem`).

`_latest_log` chooses with `max(candidates, key=mtime)`, which keeps the first file of
greatest modification time; `firstLatest_eq_some` says that the fold of the model keeps
exactly that file.
-/

namespace AgenticEbpf.Evaluator

open AgenticEbpf.Python

/-! ## `ERROR_PATTERN` -/

/-- `found` spells `word` under `re.IGNORECASE`, character by character. -/
def SpelledAs (word found : List Char) : Prop :=
  List.Forall₂ (fun p c => ignoreCaseMatches p c = true) word found

theorem spelledAs_ne_nil {word found : List Char} (spelled : SpelledAs word found)
    (nonempty : word ≠ []) : found ≠ [] := by
  rintro rfl
  exact nonempty (List.forall₂_nil_right_iff.mp spelled)

theorem errorAlternatives_ne_nil : ∀ word ∈ errorAlternatives, word ≠ [] := by
  decide

/-- `matchWord` spells the word out of a prefix of the text, and returns the last
character it read (`previous` when the word is empty) and what follows. -/
theorem matchWord_eq_some {previous last : Char} {word text after : List Char} :
    matchWord previous word text = some (last, after) ↔
      ∃ found, text = found ++ after ∧ SpelledAs word found ∧
        last = found.getLast?.getD previous := by
  induction word generalizing previous text with
  | nil =>
      simp only [matchWord, Option.some.injEq, Prod.mk.injEq, SpelledAs, List.forall₂_nil_left_iff]
      constructor
      · rintro ⟨rfl, rfl⟩
        exact ⟨[], rfl, rfl, rfl⟩
      · rintro ⟨_, rfl, rfl, rfl⟩
        exact ⟨rfl, rfl⟩
  | cons p ps ih =>
      cases text with
      | nil =>
          simp only [matchWord, reduceCtorEq, false_iff]
          rintro ⟨found, text, spelled, -⟩
          obtain ⟨rfl, -⟩ := List.append_eq_nil.mp text.symm
          cases spelled
      | cons c rest =>
          by_cases same : ignoreCaseMatches p c = true
          · simp only [matchWord, same, if_true, ih, SpelledAs, List.forall₂_cons_left_iff]
            constructor
            · rintro ⟨found, rfl, spelled, rfl⟩
              exact ⟨c :: found, rfl, ⟨c, found, same, spelled, rfl⟩,
                by simp [List.getLast?_cons]⟩
            · rintro ⟨_, text, ⟨b, found, -, spelled, rfl⟩, rfl⟩
              obtain ⟨rfl, rfl⟩ := List.cons_eq_cons.mp text
              exact ⟨found, rfl, spelled, by simp [List.getLast?_cons]⟩
          · simp only [matchWord, same, Bool.false_eq_true, if_false, reduceCtorEq, false_iff,
              SpelledAs, List.forall₂_cons_left_iff]
            rintro ⟨_, text, ⟨b, found, matched, -, rfl⟩, -⟩
            obtain ⟨rfl, -⟩ := List.cons_eq_cons.mp text
            exact same matched

section ErrorPattern

variable (isWordChar : Char → Bool)

/-- `ERROR_PATTERN` matches at the start of a text exactly when a prefix spells an
alternative with a word boundary on either side. -/
theorem errorPatternAt_iff (before : Option Char) (text : List Char) :
    errorPatternAt isWordChar before text = true ↔
      ∃ found back, text = found ++ back ∧ (∃ word ∈ errorAlternatives, SpelledAs word found) ∧
        wordBoundary isWordChar before found.head? ∧
        wordBoundary isWordChar found.getLast? back.head? := by
  simp only [errorPatternAt, Bool.and_eq_true, List.any_eq_true]
  constructor
  · rintro ⟨opens, word, alternative, closes⟩
    cases matched : matchWord ' ' word text with
    | none => simp [matched] at closes
    | some result =>
        obtain ⟨last, back⟩ := result
        obtain ⟨found, rfl, spelled, rfl⟩ := matchWord_eq_some.mp matched
        have nonempty := spelledAs_ne_nil spelled (errorAlternatives_ne_nil word alternative)
        simp only [matched, List.getLast?_eq_getLast found nonempty, Option.getD_some] at closes
        rw [List.head?_append_of_ne_nil found nonempty] at opens
        exact ⟨found, back, rfl, ⟨word, alternative, spelled⟩, opens,
          by rwa [List.getLast?_eq_getLast found nonempty]⟩
  · rintro ⟨found, back, rfl, ⟨word, alternative, spelled⟩, opens, closes⟩
    have nonempty := spelledAs_ne_nil spelled (errorAlternatives_ne_nil word alternative)
    have matched : matchWord ' ' word (found ++ back) = some (found.getLast?.getD ' ', back) :=
      matchWord_eq_some.mpr ⟨found, rfl, spelled, rfl⟩
    rw [List.getLast?_eq_getLast found nonempty] at closes matched
    exact ⟨by rwa [List.head?_append_of_ne_nil found nonempty], word, alternative,
      by simpa [matched] using closes⟩

/-- What a match of `ERROR_PATTERN` in `text` is, `before` being the character before the
text: a slice `found` that spells an alternative, with a word boundary before and after it. -/
def ErrorPatternOccurs (before : Option Char) (text : List Char) : Prop :=
  ∃ front found back, text = front ++ found ++ back ∧
    (∃ word ∈ errorAlternatives, SpelledAs word found) ∧
    wordBoundary isWordChar (before.toList ++ front).getLast? found.head? ∧
    wordBoundary isWordChar found.getLast? back.head?

/-- **The search finds what the pattern means.** Trying every position in turn, and at
each every alternative, finds a match exactly when the text holds one. -/
theorem errorPatternSearch_iff_occurs (before : Option Char) (text : List Char) :
    errorPatternSearch isWordChar before text = true ↔
      ErrorPatternOccurs isWordChar before text := by
  induction text generalizing before with
  | nil =>
      simp only [errorPatternSearch, Bool.false_eq_true, false_iff]
      rintro ⟨front, found, back, text, ⟨word, alternative, spelled⟩, -⟩
      have nonempty := spelledAs_ne_nil spelled (errorAlternatives_ne_nil word alternative)
      exact nonempty (List.append_eq_nil.mp (List.append_eq_nil.mp text.symm).1).2
  | cons c rest ih =>
      simp only [errorPatternSearch, Bool.or_eq_true, errorPatternAt_iff, ih]
      constructor
      · rintro (⟨found, back, text, spelled, opens, closes⟩ | ⟨front, found, back, rfl, rest⟩)
        · -- a match at this position
          refine ⟨[], found, back, by simpa using text, spelled, ?_, closes⟩
          cases before <;> simpa using opens
        · -- a match further on, after `c`
          refine ⟨c :: front, found, back, rfl, rest.1, ?_, rest.2.2⟩
          rw [List.getLast?_append_of_ne_nil _ (List.cons_ne_nil c front)]
          simpa using rest.2.1
      · rintro ⟨front, found, back, text, spelled, opens, closes⟩
        cases front with
        | nil =>
            refine .inl ⟨found, back, by simpa using text, spelled, ?_, closes⟩
            cases before <;> simpa using opens
        | cons c' front =>
            obtain ⟨rfl, rfl⟩ := List.cons_eq_cons.mp text
            refine .inr ⟨front, found, back, by simp, spelled, ?_, closes⟩
            rw [List.getLast?_append_of_ne_nil _ (List.cons_ne_nil c front)] at opens
            simpa using opens

/-- **`_scan_server_logs_for_errors` reports exactly the logs that hold a match.** A name
and text are among its findings exactly when they are those of a `server*.log` whose text
read with `errors="ignore"` holds a slice spelling `error`, `fail` or `exit status 1`
under `re.IGNORECASE`, with a word boundary on either side. -/
theorem scanServerLogsForErrors_mem (logDir : List LogFile) (name content : List Char) :
    (name, content) ∈ scanServerLogsForErrors isWordChar logDir ↔
      ∃ file ∈ logDir, serverLogGlob file.name = true ∧ name = file.name ∧
        content = readTextIgnoringErrors file.bytes ∧
        ∃ front found back, content = front ++ found ++ back ∧
          (∃ word ∈ errorAlternatives, SpelledAs word found) ∧
          wordBoundary isWordChar front.getLast? found.head? ∧
          wordBoundary isWordChar found.getLast? back.head? := by
  have occurs (text : List Char) := errorPatternSearch_iff_occurs isWordChar none text
  simp only [ErrorPatternOccurs, Option.toList_none, List.nil_append] at occurs
  simp only [scanServerLogsForErrors, List.mem_filterMap, mem_sortedGlob]
  constructor
  · rintro ⟨file, ⟨member, server⟩, found⟩
    split_ifs at found with matched
    obtain ⟨rfl, rfl⟩ := Prod.mk.inj (Option.some.inj found)
    exact ⟨file, member, server, rfl, rfl, (occurs _).mp matched⟩
  · rintro ⟨file, member, server, rfl, rfl, slice⟩
    exact ⟨file, ⟨member, server⟩, by simp [(occurs _).mpr slice]⟩

end ErrorPattern

/-! ## `_latest_log` -/

/-- `file` is the first of `files` of greatest modification time: the files before it are
older, and none after it is newer. -/
def FirstLatest (files : List LogFile) (file : LogFile) : Prop :=
  ∃ earlier later, files = earlier ++ file :: later ∧
    (∀ other ∈ earlier, other.mtime < file.mtime) ∧ ∀ other ∈ later, other.mtime ≤ file.mtime

theorem FirstLatest.mem {files : List LogFile} {file : LogFile} (first : FirstLatest files file) :
    file ∈ files := by
  obtain ⟨earlier, later, rfl, -⟩ := first
  simp

theorem firstLatest_append (files : List LogFile) (file : LogFile) :
    firstLatest (files ++ [file]) = match firstLatest files with
      | none => some file
      | some current => if current.mtime < file.mtime then some file else some current := by
  rw [firstLatest, List.foldl_append]
  rfl

theorem firstLatest_eq_none {files : List LogFile} : firstLatest files = none ↔ files = [] := by
  induction files using List.reverseRecOn with
  | nil => simp [firstLatest]
  | append_singleton files file _ =>
      rw [firstLatest_append]
      cases firstLatest files with
      | none => simp
      | some current =>
          simp only [List.append_eq_nil, List.cons_ne_nil, and_false, iff_false]
          split <;> simp

/-- **`max(files, key=mtime)` keeps the first file of greatest modification time.** The
fold of the model returns `file` exactly when `file` is that file. -/
theorem firstLatest_eq_some (files : List LogFile) (file : LogFile) :
    firstLatest files = some file ↔ FirstLatest files file := by
  induction files using List.reverseRecOn generalizing file with
  | nil =>
      simp only [firstLatest, List.foldl_nil, reduceCtorEq, false_iff]
      rintro ⟨earlier, later, split, -⟩
      simp at split
  | append_singleton files last ih =>
      rw [firstLatest_append]
      constructor
      · intro chosen
        cases current : firstLatest files with
        | none =>
            -- the first file read is the latest so far
            obtain rfl := firstLatest_eq_none.mp current
            simp only [current, Option.some.injEq] at chosen
            exact ⟨[], [], by simp [chosen], by simp, by simp⟩
        | some current' =>
            obtain ⟨earlier, later, rfl, older, notNewer⟩ := (ih current').mp current
            simp only [current] at chosen
            split_ifs at chosen with newer <;> obtain rfl := Option.some.inj chosen
            · -- a strictly newer file replaces the best so far
              refine ⟨earlier ++ current' :: later, [], by simp, fun other member => ?_, by simp⟩
              simp only [List.mem_append, List.mem_cons] at member
              rcases member with old | rfl | old
              · exact (older other old).trans newer
              · exact newer
              · exact (notNewer other old).trans_lt newer
            · -- one that is not newer leaves it in place
              refine ⟨earlier, later ++ [last], by simp, older, fun other member => ?_⟩
              simp only [List.mem_append, List.mem_singleton] at member
              rcases member with old | rfl
              · exact notNewer other old
              · exact not_lt.mp newer
      · rintro ⟨earlier, later, split, older, notNewer⟩
        rcases List.eq_nil_or_concat later with rfl | ⟨later, other, rfl⟩
        · -- the latest file is the last one read
          obtain ⟨rfl, same⟩ := List.append_inj' split rfl
          obtain rfl := List.singleton_inj.mp same
          cases current : firstLatest files with
          | none => rfl
          | some current' =>
              have member := ((ih current').mp current).mem
              simp [older current' member]
        · -- it was read earlier, and the last one is not newer
          have regroup :
              earlier ++ file :: later.concat other = (earlier ++ file :: later) ++ [other] := by
            simp
          obtain ⟨rfl, same⟩ := List.append_inj' (split.trans regroup) rfl
          obtain rfl := List.singleton_inj.mp same
          have kept : firstLatest (earlier ++ file :: later) = some file :=
            (ih file).mpr ⟨earlier, later, rfl, older,
              fun other member => notNewer other (by simp [member])⟩
          simp [kept, not_lt.mpr (notNewer last (by simp))]

/-- `FirstLatest` of the files of a list that satisfy `p`, read off the whole list. -/
theorem firstLatest_filter (p : LogFile → Bool) (files : List LogFile) (file : LogFile) :
    FirstLatest (files.filter p) file ↔
      ∃ front back, files = front ++ file :: back ∧ p file = true ∧
        (∀ other ∈ front, p other = true → other.mtime < file.mtime) ∧
        ∀ other ∈ back, p other = true → other.mtime ≤ file.mtime := by
  constructor
  · rintro ⟨earlier, later, split, older, notNewer⟩
    obtain ⟨front, rest, rfl, frontKept, restKept⟩ := List.filter_eq_append_iff.mp split
    obtain ⟨skipped, back, rfl, dropped, chosen, backKept⟩ := List.filter_eq_cons_iff.mp restKept
    refine ⟨front ++ skipped, back, by simp, chosen, fun other member kept => ?_,
      fun other member kept => notNewer other (backKept ▸ List.mem_filter.mpr ⟨member, kept⟩)⟩
    rcases List.mem_append.mp member with old | old
    · exact older other (frontKept ▸ List.mem_filter.mpr ⟨old, kept⟩)
    · exact absurd kept (dropped other old)
  · rintro ⟨front, back, rfl, chosen, older, notNewer⟩
    refine ⟨front.filter p, back.filter p, by simp [List.filter_append, chosen], ?_, ?_⟩
    · intro other member
      exact older other (List.mem_filter.mp member).1 (List.mem_filter.mp member).2
    · intro other member
      exact notNewer other (List.mem_filter.mp member).1 (List.mem_filter.mp member).2

/-- Some file of `log/` that matches `front*back` was modified at or after `newerThan`. -/
def HasRecent (front back : List Char) (newerThan : ℚ) (logDir : List LogFile) : Prop :=
  ∃ other ∈ logDir, globMatch front back other.name = true ∧ newerThan ≤ other.mtime

instance (front back : List Char) (newerThan : ℚ) (logDir : List LogFile) :
    Decidable (HasRecent front back newerThan logDir) :=
  inferInstanceAs (Decidable (∃ other ∈ logDir,
    globMatch front back other.name = true ∧ newerThan ≤ other.mtime))

/-- A file `_latest_log` chooses among: it matches `front*back`, and it is recent when some
matching file is. -/
def LatestCandidate (front back : List Char) (newerThan : ℚ) (logDir : List LogFile)
    (file : LogFile) : Prop :=
  globMatch front back file.name = true ∧
    (HasRecent front back newerThan logDir → newerThan ≤ file.mtime)

instance (front back : List Char) (newerThan : ℚ) (logDir : List LogFile) (file : LogFile) :
    Decidable (LatestCandidate front back newerThan logDir file) :=
  inferInstanceAs (Decidable (globMatch front back file.name = true ∧
    (HasRecent front back newerThan logDir → newerThan ≤ file.mtime)))

/-- `_latest_log` is `max` over the files it chooses among. -/
theorem latestLog_eq_firstLatest (front back : List Char) (newerThan : ℚ)
    (logDir : List LogFile) :
    latestLog front back newerThan logDir = firstLatest
      (logDir.filter fun file => decide (LatestCandidate front back newerThan logDir file)) := by
  dsimp only [latestLog]
  by_cases recent : HasRecent front back newerThan logDir
  · have notEmpty : (logDir.filter fun file => globMatch front back file.name).filter
        (fun file => decide (newerThan ≤ file.mtime)) ≠ [] := by
      obtain ⟨other, member, matched, late⟩ := recent
      exact List.ne_nil_of_mem
        (List.mem_filter.mpr ⟨List.mem_filter.mpr ⟨member, matched⟩, by simpa⟩)
    rw [if_neg (fun empty => notEmpty (by simp [empty])), if_neg notEmpty, List.filter_filter]
    congr 1
    exact List.filter_congr fun file _ => by simp [LatestCandidate, recent, and_comm]
  · have candidates :
        (logDir.filter fun file => decide (LatestCandidate front back newerThan logDir file)) =
          logDir.filter fun file => globMatch front back file.name :=
      List.filter_congr fun file _ => by simp [LatestCandidate, recent]
    have notRecent : (logDir.filter fun file => globMatch front back file.name).filter
        (fun file => decide (newerThan ≤ file.mtime)) = [] := by
      simp only [List.filter_eq_nil_iff, List.mem_filter, decide_eq_true_eq]
      exact fun other ⟨member, matched⟩ late => recent ⟨other, member, matched, late⟩
    rw [candidates, if_pos notRecent]
    split_ifs with empty
    · rw [empty]; rfl
    · rfl

/-- **What `_latest_log` returns.** Nothing exactly when no file of `log/` matches the
pattern; otherwise the first file, in directory order, of greatest modification time among
the matching files modified at or after `newer_than`, or among all the matching files when
none is that recent. -/
theorem latestLog_spec (front back : List Char) (newerThan : ℚ) (logDir : List LogFile) :
    (latestLog front back newerThan logDir = none ↔
      ∀ other ∈ logDir, globMatch front back other.name = false) ∧
    ∀ file, latestLog front back newerThan logDir = some file ↔
      ∃ earlier later, logDir = earlier ++ file :: later ∧
        LatestCandidate front back newerThan logDir file ∧
        (∀ other ∈ earlier, LatestCandidate front back newerThan logDir other →
          other.mtime < file.mtime) ∧
        ∀ other ∈ later, LatestCandidate front back newerThan logDir other →
          other.mtime ≤ file.mtime := by
  rw [latestLog_eq_firstLatest]
  refine ⟨?_, fun file => ?_⟩
  · rw [firstLatest_eq_none, List.filter_eq_nil_iff]
    constructor
    · intro none other member
      by_contra matched
      rw [Bool.not_eq_false] at matched
      by_cases recent : HasRecent front back newerThan logDir
      · obtain ⟨late, lateMember, lateMatched, isLate⟩ := recent
        exact none late lateMember (decide_eq_true ⟨lateMatched, fun _ => isLate⟩)
      · exact none other member (decide_eq_true ⟨matched, fun r => absurd r recent⟩)
    · intro none other member chosen
      simp only [decide_eq_true_eq, LatestCandidate] at chosen
      simp [none other member] at chosen
  · rw [firstLatest_eq_some, firstLatest_filter]
    simp only [decide_eq_true_eq]

end AgenticEbpf.Evaluator
