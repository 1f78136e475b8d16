import AgenticEbpf.Python.Text

/-!
# The `csv` module, excel dialect

The summary scripts write their CSV files with `csv.DictWriter` and the evaluator reads
the metrics file back with `csv.DictReader`, both in the default `excel` dialect: `,` between
fields, `"` as the quote character (doubled inside a quoted field), no escape character,
`QUOTE_MINIMAL`, `\r\n` after each row, and a non-strict reader.

* `writeRow` is `writer.writerow`: a field is quoted when it holds `,`, `"`, `\r` or `\n`,
  and a row of one empty field is written as `""`.
* `readerStep` is `parse_process_char` of `_csv.c` (with the end-of-line token the reader
  feeds after each line) and `csvRows` the rows `csv.reader` returns for a stream of
  tokens; `fileTokens` is the stream for a file opened with `open(path, "r")`, whose line
  breaks universal newlines translate to `\n`.
* A field grows one character at a time (`CsvReader.addChar`), and the reader raises
  `_csv.Error` on a character that would take it past `csv.field_size_limit()`.
* `readRows` is the reader as the `DictReader` loop drives it, one row at a time: the rows
  yielded before the first exception, and that exception.
* `dictReader` and `dictGet` are `csv.DictReader` and the lookups in the dicts it yields.

`csvRows_write` is the round trip: reading back the text written for any rows whose fields
are within the limit gives the rows, with the line breaks inside fields translated; a
longer unquoted field makes the reader raise (`csvRows_write_tooLarge`).
-/

namespace AgenticEbpf.Python

/-! ## Writing -/

/-- Whether `QUOTE_MINIMAL` quotes a field: it holds the delimiter, the quote character or a
line break. -/
def needsQuotes (field : List Char) : Bool :=
  field.any fun c => c == ',' || c == '"' || c == '\r' || c == '\n'

/-- A field's characters inside quotes, with the quote character doubled. -/
def escapeQuotes (field : List Char) : List Char :=
  field.flatMap fun c => if c = '"' then ['"', '"'] else [c]

/-- A field as the writer emits it. -/
def quoteField (field : List Char) : List Char :=
  if needsQuotes field then '"' :: escapeQuotes field ++ ['"'] else field

/-- The fields' texts joined by the delimiter (`join_append` writes it before every field
but the first). -/
def joinFields : List (List Char) → List Char
  | [] => []
  | [field] => field
  | field :: rest => field ++ ',' :: joinFields rest

/-- The text of a row before the line terminator. A row of one empty field would be empty
text, so `csv_writerow` writes it as `""`. -/
def rowBody (row : List (List Char)) : List Char :=
  if row = [[]] then ['"', '"'] else joinFields (row.map quoteField)

/-- `writer.writerow(row)`: the row's text, then the line terminator `\r\n`. -/
def writeRow (row : List (List Char)) : List Char :=
  rowBody row ++ ['\r', '\n']

example : writeRow ["a,b".toList, [], "say \"hi\"".toList] =
    "\"a,b\",,\"say \"\"hi\"\"\"\r\n".toList := by decide
example : writeRow [[]] = "\"\"\r\n".toList := by decide

/-- `DictWriter.writerow(rowdict)`: the values under the field names in order, `restval`
(`""`) for a missing one; a key that is no field name raises. -/
def dictWriterRow (fieldnames : List (List Char)) (rowdict : List (List Char × List Char)) :
    Except PyError (List Char) :=
  match rowdict.filter fun entry => entry.1 ∉ fieldnames with
  | [] => .ok (writeRow (fieldnames.map fun key => (rowdict.lookup key).getD []))
  | wrong => .error (.valueError ("dict contains fields not in fieldnames: " ++
      ", ".intercalate (wrong.map fun entry => String.mk (repr entry.1))))

/-- `DictWriter.writeheader()`. -/
def dictWriterHeader (fieldnames : List (List Char)) : List Char :=
  writeRow fieldnames

theorem dictWriterRow_of_keys {fieldnames : List (List Char)}
    {rowdict : List (List Char × List Char)} (keys : rowdict.map Prod.fst = fieldnames)
    (distinct : fieldnames.Nodup) :
    dictWriterRow fieldnames rowdict = .ok (writeRow (rowdict.map Prod.snd)) := by
  have noneWrong : rowdict.filter (fun entry => entry.1 ∉ fieldnames) = [] :=
    List.filter_eq_nil_iff.mpr fun entry member => by
      simpa [← keys] using ⟨entry.2, member⟩
  subst keys
  simp only [dictWriterRow, noneWrong]
  congr 2
  induction rowdict with
  | nil => rfl
  | cons entry rest ih =>
      obtain ⟨key, value⟩ := entry
      obtain ⟨notLater, restDistinct⟩ := List.nodup_cons.mp distinct
      simp only [List.map_cons, List.lookup_cons_self, Option.getD_some, List.cons.injEq,
        true_and]
      rw [← ih restDistinct (List.filter_eq_nil_iff.mpr fun e m => by simpa using ⟨e.2, m⟩)]
      refine List.map_congr_left fun other member => ?_
      have differs : (other == key) = false := beq_false_of_ne fun same => notLater (same ▸ member)
      simp [List.lookup_cons, differs]

/-! Quoting never shortens a field, so a written row is at least as long as each of its
fields. -/

theorem length_le_escapeQuotes (field : List Char) : field.length ≤ (escapeQuotes field).length := by
  induction field with
  | nil => exact le_rfl
  | cons c rest ih =>
      rw [escapeQuotes, List.flatMap_cons, List.length_append, ← escapeQuotes]
      split <;> simp only [List.length_cons, List.length_nil, List.length_singleton] <;> omega

theorem length_le_quoteField (field : List Char) : field.length ≤ (quoteField field).length := by
  unfold quoteField
  split
  · have escaped := length_le_escapeQuotes field
    simp only [List.length_cons, List.length_append, List.length_singleton]
    omega
  · exact le_rfl

theorem length_le_joinFields {fields : List (List Char)} {field : List Char} (member : field ∈ fields) :
    field.length ≤ (joinFields fields).length := by
  induction fields with
  | nil => cases member
  | cons first rest ih =>
      cases rest with
      | nil => rw [List.mem_singleton.mp member, joinFields]
      | cons second rest =>
          simp only [joinFields, List.length_append, List.length_cons]
          rcases List.mem_cons.mp member with rfl | later
          · omega
          · have inRest := ih later
            omega

theorem length_le_writeRow {row : List (List Char)} {field : List Char} (member : field ∈ row) :
    field.length ≤ (writeRow row).length := by
  have body : field.length ≤ (rowBody row).length := by
    unfold rowBody
    split
    · -- the row of one empty field
      rename_i single
      subst single
      rw [List.mem_singleton.mp member]
      exact Nat.zero_le _
    · exact (length_le_quoteField field).trans (length_le_joinFields (List.mem_map_of_mem _ member))
  rw [writeRow, List.length_append]
  omega

/-! ## Reading -/

/-- What `csv.reader` feeds its parser: a character of a line, or the end of a line. -/
inductive Token
  | char (c : Char)
  | eol
  deriving DecidableEq

/-- The parser states of `_csv.c` the excel dialect reaches (it has no escape character). -/
inductive ParserState
  | startRecord
  | startField
  | inField
  | inQuotedField
  | quoteInQuotedField
  | eatCrnl
  deriving DecidableEq

/-- The reader: its parser state, the fields of the row being read, the field being read,
and the rows read so far. -/
structure CsvReader where
  state : ParserState
  fields : List (List Char)
  field : List Char
  rows : List (List (List Char))
  deriving DecidableEq

/-- `parse_save_field`. -/
def CsvReader.saveField (reader : CsvReader) (next : ParserState) : CsvReader :=
  { reader with state := next, fields := reader.fields ++ [reader.field], field := [] }

/-- `csv.field_size_limit()`, which no modelled program changes. -/
def fieldSizeLimit : Nat := 131072

/-- What `parse_add_char` raises for a character that a field at the limit cannot take. -/
def fieldTooLarge : PyError :=
  .csvError "field larger than field limit (131072)"

/-- `parse_add_char`: the character joins the field unless the field is at the limit. -/
def CsvReader.addChar (reader : CsvReader) (next : ParserState) (c : Char) :
    Except PyError CsvReader :=
  if reader.field.length < fieldSizeLimit then
    .ok { reader with state := next, field := reader.field ++ [c] }
  else .error fieldTooLarge

/-- Whether a token ends a record outside quotes: a line break or the end of the line. -/
def Token.isBreak : Token → Bool
  | .char c => c == '\n' || c == '\r'
  | .eol => true

/-- The state after a break token: the next record at the end of the line, else
`EAT_CRNL`. -/
def Token.afterBreak : Token → ParserState
  | .eol => .startRecord
  | .char _ => .eatCrnl

/-- The `START_FIELD` case of `parse_process_char`. -/
def startFieldStep (reader : CsvReader) (token : Token) : Except PyError CsvReader :=
  if token.isBreak then .ok (reader.saveField token.afterBreak)
  else match token with
    | .char '"' => .ok { reader with state := .inQuotedField }
    | .char ',' => .ok (reader.saveField .startField)
    | .char c => reader.addChar .inField c
    | .eol => .ok reader

/-- The error `EAT_CRNL` raises on a character after a line break inside a line. -/
def newlineInUnquotedField : PyError :=
  .csvError "new-line character seen in unquoted field - do you need to open the file with newline=''?"

/-- `parse_process_char` for the excel dialect. -/
def processToken (reader : CsvReader) (token : Token) : Except PyError CsvReader :=
  match reader.state with
  | .startRecord =>
      match token with
      | .eol => .ok reader
      | .char c => if c = '\n' ∨ c = '\r' then .ok { reader with state := .eatCrnl }
          else startFieldStep reader token
  | .startField => startFieldStep reader token
  | .inField =>
      if token.isBreak then .ok (reader.saveField token.afterBreak)
      else match token with
        | .char ',' => .ok (reader.saveField .startField)
        | .char c => reader.addChar .inField c
        | .eol => .ok reader
  | .inQuotedField =>
      match token with
      | .eol => .ok reader
      | .char '"' => .ok { reader with state := .quoteInQuotedField }
      | .char c => reader.addChar .inQuotedField c
  | .quoteInQuotedField =>
      match token with
      | .char '"' => reader.addChar .inQuotedField '"'
      | .char ',' => .ok (reader.saveField .startField)
      | .char c => if c = '\n' ∨ c = '\r' then .ok (reader.saveField .eatCrnl)
          else reader.addChar .inField c
      | .eol => .ok (reader.saveField .startRecord)
  | .eatCrnl =>
      match token with
      | .eol => .ok { reader with state := .startRecord }
      | .char c => if c = '\n' ∨ c = '\r' then .ok reader else .error newlineInUnquotedField

/-- One token fed to the reader. After the end of a line that leaves the parser at the start
of a record, the row read is returned and the parser reset (`Reader_iternext`). -/
def readerStep (reader : CsvReader) (token : Token) : Except PyError CsvReader := do
  let next ← processToken reader token
  if token = .eol ∧ next.state = .startRecord then
    pure { next with fields := [], field := [], rows := next.rows ++ [next.fields] }
  else pure next

/-- The reader before the first token. -/
def CsvReader.initial : CsvReader :=
  ⟨.startRecord, [], [], []⟩

/-- The rows `csv.reader` returns for a stream of tokens. At the end of the input a field
being read (or an open quoted field) ends the last row. -/
def csvRows (tokens : List Token) : Except PyError (List (List (List Char))) := do
  let reader ← tokens.foldlM readerStep CsvReader.initial
  if reader.field ≠ [] ∨ reader.state = .inQuotedField then
    pure (reader.rows ++ [reader.fields ++ [reader.field]])
  else pure reader.rows

/-- The rows `csv.reader` yields one by one for a stream of tokens that ends in `ending`
(what reading the next line raises, or `none` at the end of the file), and the exception
that stops it, if any: a row is yielded once the end of its last line is read. -/
def readRows (reader : CsvReader) : List Token → Option PyError →
    List (List (List Char)) × Option PyError
  | [], some e => (reader.rows, some e)
  | [], none =>
      (if reader.field ≠ [] ∨ reader.state = .inQuotedField then
        reader.rows ++ [reader.fields ++ [reader.field]] else reader.rows, none)
  | token :: rest, ending =>
      match readerStep reader token with
      | .ok next => readRows next rest ending
      | .error e => (reader.rows, some e)

/-- The tokens of one line: its characters, then the end of the line. -/
def Line.tokens (line : Line) : List Token :=
  line.raw.map .char ++ [.eol]

/-- The tokens `csv.reader` feeds its parser for a file opened with `open(path, "r")`. -/
def fileTokens (content : List Char) : List Token :=
  (readLines content).flatMap Line.tokens

/-- `csv.DictReader` over the rows: the field names (the first row) and the rows after it
that are not empty. -/
def dictReader (rows : List (List (List Char))) :
    List (List Char) × List (List (List Char)) :=
  match rows with
  | [] => ([], [])
  | header :: rest => (header, rest.filter fun row => row ≠ [])

/-- `row.get(key)` on the dict `DictReader` yields for `row` under `fieldnames`:
`none` when the key is missing, `some none` for `restval` (`None`, the value of a field
name past the end of a short row), and `some (some text)` for a field's text (the last one
when a name repeats). -/
def dictGet (fieldnames row : List (List Char)) (key : List Char) :
    Option (Option (List Char)) :=
  if key ∈ fieldnames.drop row.length then some none
  else ((fieldnames.zip row).reverse.lookup key).map some

/-! ## Steps of the reader -/

@[simp] theorem readerStep_char (reader : CsvReader) (c : Char) :
    readerStep reader (.char c) = processToken reader (.char c) := by
  cases h : processToken reader (.char c) <;> simp [readerStep, h, bind, Except.bind, pure,
    Except.pure]

theorem readerStep_eol (reader : CsvReader) :
    readerStep reader .eol = (processToken reader .eol).map fun next =>
      if next.state = .startRecord then
        { next with fields := [], field := [], rows := next.rows ++ [next.fields] }
      else next := by
  unfold readerStep
  cases processToken reader .eol with
  | error e => rfl
  | ok next => by_cases start : next.state = .startRecord <;> simp [start, Except.map]

/-- A stream the reader takes without an error yields the rows `csvRows` reads, and then
stops as the stream ends. -/
theorem readRows_of_foldlM {reader final : CsvReader} {tokens : List Token}
    (ran : tokens.foldlM readerStep reader = .ok final) (ending : Option PyError) :
    readRows reader tokens ending = match ending with
      | some e => (final.rows, some e)
      | none => (if final.field ≠ [] ∨ final.state = .inQuotedField then
          final.rows ++ [final.fields ++ [final.field]] else final.rows, none) := by
  induction tokens generalizing reader with
  | nil =>
      obtain rfl : reader = final := Except.ok.inj ran
      cases ending <;> rfl
  | cons token rest ih =>
      obtain ⟨next, step, restRan⟩ := bind_eq_ok.mp ran
      rw [readRows, step]
      exact ih restRan

/-- A stream `csvRows` reads to the end yields the same rows one by one. -/
theorem readRows_of_csvRows {tokens : List Token} {rows : List (List (List Char))}
    (read : csvRows tokens = .ok rows) : readRows CsvReader.initial tokens none = (rows, none) := by
  obtain ⟨final, ran, finish⟩ := bind_eq_ok.mp read
  rw [readRows_of_foldlM ran]
  split at finish <;> rename_i pending <;> simp only [pending, if_true, if_false, (pure_eq_ok.mp finish).symm]

/-! ## Line breaks in written text

The written file is read back with universal newlines, which turn each `\r\n` and each
lone `\r` into `\n`, inside quoted fields too. Translation works piece by piece unless a
piece ends in `\r` and the next starts with `\n`, and it commutes with the writer's
quoting. -/

theorem translateNewlines_return {rest : List Char} (notFeed : rest.head? ≠ some '\n') :
    translateNewlines ('\r' :: rest) = '\n' :: translateNewlines rest := by
  match rest, notFeed with
  | [], _ => rfl
  | d :: rest, notFeed =>
      exact translateNewlines.eq_3 _ fun _ same => notFeed (by rw [same]; rfl)

theorem translateNewlines_cons {c : Char} (notReturn : c ≠ '\r') (rest : List Char) :
    translateNewlines (c :: rest) = c :: translateNewlines rest :=
  translateNewlines.eq_4 c rest (fun _ same => absurd same notReturn) notReturn

theorem getLast?_ne_return_of_cons {c : Char} {rest : List Char}
    (noReturn : (c :: rest).getLast? ≠ some '\r') : rest.getLast? ≠ some '\r' := by
  cases rest with
  | nil => simp
  | cons d rest => rwa [List.getLast?_cons_cons] at noReturn

theorem translateNewlines_append {a b : List Char}
    (apart : a.getLast? ≠ some '\r' ∨ b.head? ≠ some '\n') :
    translateNewlines (a ++ b) = translateNewlines a ++ translateNewlines b := by
  induction a using translateNewlines.induct with
  | case1 => rfl
  | case2 rest ih =>
      rw [List.cons_append, List.cons_append, translateNewlines.eq_2, translateNewlines.eq_2,
        ih (apart.imp_left (getLast?_ne_return_of_cons ∘ getLast?_ne_return_of_cons)),
        List.cons_append]
  | case3 rest notFeed ih =>
      have restNotFeed : rest.head? ≠ some '\n' := by
        cases rest <;> simp_all
      have joinedNotFeed : (rest ++ b).head? ≠ some '\n' := by
        cases rest with
        | nil => simpa using apart.resolve_left (by simp)
        | cons d rest => simpa using restNotFeed
      rw [List.cons_append, translateNewlines_return joinedNotFeed,
        translateNewlines_return restNotFeed, ih (apart.imp_left getLast?_ne_return_of_cons),
        List.cons_append]
  | case4 c rest _ notReturn ih =>
      rw [List.cons_append, translateNewlines_cons notReturn, translateNewlines_cons notReturn,
        ih (apart.imp_left getLast?_ne_return_of_cons), List.cons_append]

theorem needsQuotes_translateNewlines (field : List Char) :
    needsQuotes (translateNewlines field) = needsQuotes field := by
  induction field using translateNewlines.induct <;> simp_all [translateNewlines, needsQuotes]

theorem escapeQuotes_cons (c : Char) (rest : List Char) :
    escapeQuotes (c :: rest) = (if c = '"' then ['"', '"'] else [c]) ++ escapeQuotes rest :=
  List.flatMap_cons _ _ _

theorem head?_escapeQuotes (field : List Char) : (escapeQuotes field).head? = field.head? := by
  cases field with
  | nil => rfl
  | cons c rest => by_cases quote : c = '"' <;> simp [escapeQuotes_cons, quote]

theorem translateNewlines_escapeQuotes (field : List Char) :
    translateNewlines (escapeQuotes field) = escapeQuotes (translateNewlines field) := by
  induction field using translateNewlines.induct with
  | case1 => rfl
  | case2 rest ih =>
      rw [escapeQuotes_cons, escapeQuotes_cons, if_neg (by decide), if_neg (by decide),
        List.singleton_append, List.singleton_append, translateNewlines.eq_2, ih,
        translateNewlines.eq_2, escapeQuotes_cons, if_neg (by decide), List.singleton_append]
  | case3 rest notFeed ih =>
      have restNotFeed : rest.head? ≠ some '\n' := by
        cases rest <;> simp_all
      rw [translateNewlines_return restNotFeed, escapeQuotes_cons, if_neg (by decide),
        List.singleton_append, translateNewlines_return (by rwa [head?_escapeQuotes]), ih,
        escapeQuotes_cons, if_neg (by decide), List.singleton_append]
  | case4 c rest _ notReturn ih =>
      by_cases quote : c = '"'
      · subst quote
        simp [escapeQuotes_cons, translateNewlines_cons notReturn, ih]
      · simp [escapeQuotes_cons, quote, translateNewlines_cons notReturn, ih]

theorem translateNewlines_quoteField (field : List Char) :
    translateNewlines (quoteField field) = quoteField (translateNewlines field) := by
  unfold quoteField
  rw [needsQuotes_translateNewlines]
  split
  · rw [List.cons_append, translateNewlines_cons (by decide),
      translateNewlines_append (.inr (by simp)), translateNewlines_escapeQuotes]
    rfl
  · rename_i plain
    have returnFree : '\r' ∉ field := fun member => by
      simp only [needsQuotes, Bool.not_eq_true, List.any_eq_false] at plain
      simpa using plain _ member
    rw [translateNewlines_of_return_free returnFree]

theorem translateNewlines_joinFields (fields : List (List Char)) :
    translateNewlines (joinFields fields) = joinFields (fields.map translateNewlines) := by
  induction fields using joinFields.induct with
  | case1 => rfl
  | case2 field => rfl
  | case3 field next nonempty ih =>
      obtain ⟨second, rest, rfl⟩ := List.exists_cons_of_ne_nil nonempty
      simp only [joinFields, List.map_cons] at ih ⊢
      rw [translateNewlines_append (.inr (by simp)), translateNewlines_cons (by decide), ih]

theorem translateNewlines_eq_nil {s : List Char} : translateNewlines s = [] ↔ s = [] := by
  induction s using translateNewlines.induct <;> simp_all [translateNewlines]

theorem translateNewlines_rowBody (row : List (List Char)) :
    translateNewlines (rowBody row) = rowBody (row.map translateNewlines) := by
  have special : row.map translateNewlines = [[]] ↔ row = [[]] := by
    constructor
    · intro mapped
      cases row with
      | nil => simp at mapped
      | cons field rest => cases rest <;> simp_all [translateNewlines_eq_nil]
    · rintro rfl; rfl
  unfold rowBody
  rw [if_congr special rfl rfl]
  split
  · rfl
  · rw [translateNewlines_joinFields, List.map_map, List.map_map]
    exact congrArg joinFields (List.map_congr_left fun field _ => translateNewlines_quoteField field)

/-- The text read back from written rows: each row's fields translated, then `\n`. -/
theorem translateNewlines_flatMap_writeRow (rows : List (List (List Char))) :
    translateNewlines (rows.flatMap writeRow) =
      (rows.map (·.map translateNewlines)).flatMap fun row => rowBody row ++ ['\n'] := by
  induction rows with
  | nil => rfl
  | cons row rest ih =>
      simp only [List.flatMap_cons, List.map_cons, writeRow]
      rw [translateNewlines_append (.inl (by simp)), translateNewlines_append (.inr (by simp)),
        translateNewlines_rowBody, ih]
      rfl

/-! ## Reading back written rows -/

/-- The tokens of a text whose line breaks are all `\n`: each character, and the end of a
line after each `\n`. -/
def lineTokens (s : List Char) : List Token :=
  s.flatMap fun c => if c = '\n' then [.char c, .eol] else [.char c]

@[simp] theorem lineTokens_nil : lineTokens [] = [] := rfl

@[simp] theorem lineTokens_append (s t : List Char) :
    lineTokens (s ++ t) = lineTokens s ++ lineTokens t :=
  List.flatMap_append _ _ _

theorem lineTokens_cons (c : Char) (rest : List Char) :
    lineTokens (c :: rest) = (if c = '\n' then [.char c, .eol] else [.char c]) ++ lineTokens rest :=
  List.flatMap_cons _ _ _

theorem splitLines_eq_nil {s : List Char} : splitLines s = [] ↔ s = [] := by
  cases s with
  | nil => simp [splitLines]
  | cons c rest =>
      simp only [splitLines, reduceCtorEq, iff_false]
      split
      · simp
      · split <;> simp

/-- The lines of a text that ends in `\n`, followed by more text, give its `lineTokens`
before those of the rest. -/
theorem splitLines_tokens {s : List Char} (ends : s.getLast? = some '\n') (rest : List Char) :
    (splitLines (s ++ rest)).flatMap Line.tokens =
      lineTokens s ++ (splitLines rest).flatMap Line.tokens := by
  induction s with
  | nil => simp at ends
  | cons c more ih =>
      by_cases isBreak : c = '\n'
      · subst isBreak
        have head : splitLines ('\n' :: (more ++ rest)) =
            ⟨[], true, List.not_mem_nil _⟩ :: splitLines (more ++ rest) := by
          rw [splitLines, dif_pos rfl]
        rw [List.cons_append, head, List.flatMap_cons, lineTokens_cons, if_pos rfl]
        cases more with
        | nil => rfl
        | cons d more =>
            rw [ih (by rwa [List.getLast?_cons_cons] at ends)]
            rfl
      · cases more with
        | nil => simp [isBreak] at ends
        | cons d more =>
            rw [List.getLast?_cons_cons] at ends
            have restLines := ih ends
            cases lines : splitLines (d :: more ++ rest) with
            | nil => simp [splitLines_eq_nil] at lines
            | cons line others =>
                rw [lines] at restLines
                rw [List.cons_append, splitLines, dif_neg isBreak, lines, List.flatMap_cons]
                change Token.char c :: (line.tokens ++ others.flatMap Line.tokens) = _
                rw [← List.flatMap_cons, restLines, lineTokens_cons c, if_neg isBreak]
                rfl

/-- Quoted text is read character by character: a doubled quote is one quote, and the end of
a line inside the quotes is skipped. -/
theorem run_escapeQuotes (text : List Char) (fields : List (List Char)) (field : List Char)
    (rows : List (List (List Char))) (fits : field.length + text.length ≤ fieldSizeLimit) :
    (lineTokens (escapeQuotes text)).foldlM readerStep ⟨.inQuotedField, fields, field, rows⟩ =
      .ok ⟨.inQuotedField, fields, field ++ text, rows⟩ := by
  induction text generalizing field with
  | nil => simp [escapeQuotes]
  | cons c rest ih =>
      have room : field.length < fieldSizeLimit := by simp at fits; omega
      have next := ih (field ++ [c]) (by simp at fits ⊢; omega)
      rw [escapeQuotes_cons, lineTokens_append, List.foldlM_append]
      by_cases quote : c = '"'
      · subst quote
        simp [lineTokens_cons, processToken, CsvReader.addChar, room, next]
      · by_cases feed : c = '\n'
        · subst feed
          simp [lineTokens_cons, processToken, CsvReader.addChar, room, readerStep_eol, Except.map,
            next]
        · simp [lineTokens_cons, quote, feed, processToken, CsvReader.addChar, room, next]

/-- An unquoted field's characters are kept one by one in `IN_FIELD`. -/
theorem run_plainField {text : List Char} (plain : needsQuotes text = false)
    (fields : List (List Char)) (field : List Char) (rows : List (List (List Char)))
    (fits : field.length + text.length ≤ fieldSizeLimit) :
    (lineTokens text).foldlM readerStep ⟨.inField, fields, field, rows⟩ =
      .ok ⟨.inField, fields, field ++ text, rows⟩ := by
  induction text generalizing field with
  | nil => simp
  | cons c rest ih =>
      simp only [needsQuotes, List.any_cons, Bool.or_eq_false_iff] at plain
      obtain ⟨special, restPlain⟩ := plain
      simp only [Bool.or_eq_false_iff, beq_eq_false_iff_ne] at special
      obtain ⟨⟨⟨comma, quote⟩, ret⟩, feed⟩ := special
      have room : field.length < fieldSizeLimit := by simp at fits; omega
      simp [lineTokens_cons, feed, processToken, Token.isBreak, ret, comma, CsvReader.addChar, room,
        ih restPlain (field ++ [c]) (by simp at fits ⊢; omega)]

/-- An unquoted field that outgrows the limit makes the reader raise. -/
theorem run_plainField_tooLarge {text : List Char} (plain : needsQuotes text = false)
    (fields : List (List Char)) (field : List Char) (rows : List (List (List Char)))
    (within : field.length ≤ fieldSizeLimit) (over : fieldSizeLimit < field.length + text.length) :
    (lineTokens text).foldlM readerStep ⟨.inField, fields, field, rows⟩ = .error fieldTooLarge := by
  induction text generalizing field with
  | nil => simp at over; omega
  | cons c rest ih =>
      simp only [needsQuotes, List.any_cons, Bool.or_eq_false_iff] at plain
      obtain ⟨special, restPlain⟩ := plain
      simp only [Bool.or_eq_false_iff, beq_eq_false_iff_ne] at special
      obtain ⟨⟨⟨comma, quote⟩, ret⟩, feed⟩ := special
      by_cases room : field.length < fieldSizeLimit
      · simp [lineTokens_cons, feed, processToken, Token.isBreak, ret, comma, CsvReader.addChar, room,
          ih restPlain (field ++ [c]) (by simp; omega) (by simp at over ⊢; omega)]
      · simp [lineTokens_cons, feed, processToken, Token.isBreak, ret, comma, CsvReader.addChar, room,
          bind, Except.bind]

/-- The parser state after the text `quoteField` writes for a field, read from the start of
a field. -/
def stateAfterField (start : ParserState) (text : List Char) : ParserState :=
  if needsQuotes text then .quoteInQuotedField else if text = [] then start else .inField

theorem run_quoteField {start : ParserState} (atStart : start = .startRecord ∨ start = .startField)
    (text : List Char) (fields : List (List Char)) (rows : List (List (List Char)))
    (fits : text.length ≤ fieldSizeLimit) :
    (lineTokens (quoteField text)).foldlM readerStep ⟨start, fields, [], rows⟩ =
      .ok ⟨stateAfterField start text, fields, text, rows⟩ := by
  have opens : processToken ⟨start, fields, [], rows⟩ (.char '"') =
      .ok ⟨.inQuotedField, fields, [], rows⟩ := by
    rcases atStart with rfl | rfl <;> simp [processToken, startFieldStep, Token.isBreak]
  unfold quoteField stateAfterField
  split
  · have closes : processToken ⟨.inQuotedField, fields, text, rows⟩ (.char '"') =
        .ok ⟨.quoteInQuotedField, fields, text, rows⟩ := rfl
    simp [lineTokens_cons, opens, run_escapeQuotes text fields [] rows (by simpa using fits), closes]
  · rename_i plain
    cases text with
    | nil => simp
    | cons c rest =>
        simp only [needsQuotes, List.any_cons, Bool.or_eq_false_iff, Bool.not_eq_true] at plain
        obtain ⟨special, restPlain⟩ := plain
        simp only [Bool.or_eq_false_iff, beq_eq_false_iff_ne] at special
        obtain ⟨⟨⟨comma, quote⟩, ret⟩, feed⟩ := special
        have first : processToken ⟨start, fields, [], rows⟩ (.char c) =
            .ok ⟨.inField, fields, [c], rows⟩ := by
          rcases atStart with rfl | rfl <;>
            simp [processToken, startFieldStep, Token.isBreak, feed, ret, comma, quote,
              CsvReader.addChar, fieldSizeLimit]
        simp [lineTokens_cons, feed, first,
          run_plainField restPlain _ [c] _ (by simpa [Nat.add_comm] using fits)]

theorem processToken_comma {state : ParserState} (between : state ≠ .inQuotedField ∧ state ≠ .eatCrnl)
    (fields : List (List Char)) (field : List Char) (rows : List (List (List Char))) :
    processToken ⟨state, fields, field, rows⟩ (.char ',') =
      .ok ⟨.startField, fields ++ [field], [], rows⟩ := by
  cases state <;> simp_all [processToken, startFieldStep, Token.isBreak, CsvReader.saveField]

theorem run_lineEnd {state : ParserState}
    (inRecord : state = .startField ∨ state = .inField ∨ state = .quoteInQuotedField)
    (fields : List (List Char)) (field : List Char) (rows : List (List (List Char))) :
    (lineTokens ['\n']).foldlM readerStep ⟨state, fields, field, rows⟩ =
      .ok ⟨.startRecord, [], [], rows ++ [fields ++ [field]]⟩ := by
  rcases inRecord with rfl | rfl | rfl <;>
    simp [lineTokens_cons, processToken, startFieldStep, Token.isBreak, Token.afterBreak,
      CsvReader.saveField, readerStep_eol, Except.map]

/-- The fields of a row after the first read from `START_FIELD`, the first from the start of
the record unless it is the row's only field and empty. -/
theorem run_joinFields {fields : List (List Char)} (nonempty : fields ≠ []) {start : ParserState}
    (atStart : start = .startField ∨ start = .startRecord ∧ fields ≠ [[]])
    (fits : ∀ field ∈ fields, field.length ≤ fieldSizeLimit)
    (done : List (List Char)) (rows : List (List (List Char))) :
    (lineTokens (joinFields (fields.map quoteField) ++ ['\n'])).foldlM readerStep
        ⟨start, done, [], rows⟩ = .ok ⟨.startRecord, [], [], rows ++ [done ++ fields]⟩ := by
  induction fields generalizing start done with
  | nil => exact absurd rfl nonempty
  | cons text rest ih =>
      have textFits := fits text (List.mem_cons_self _ _)
      have fieldStart : start = .startRecord ∨ start = .startField := by
        rcases atStart with h | h <;> simp [h]
      cases rest with
      | nil =>
          have ends : stateAfterField start text = .startField ∨
              stateAfterField start text = .inField ∨
              stateAfterField start text = .quoteInQuotedField := by
            unfold stateAfterField
            split
            · simp
            · split
              · rcases atStart with h | h
                · exact .inl h
                · simp_all
              · simp
          simp [joinFields, List.foldlM_append, run_quoteField fieldStart _ _ _ textFits,
            run_lineEnd ends]
      | cons next more =>
          have between : stateAfterField start text ≠ .inQuotedField ∧
              stateAfterField start text ≠ .eatCrnl := by
            unfold stateAfterField
            split
            · simp
            · split
              · rcases fieldStart with h | h <;> simp [h]
              · simp
          rw [List.map_cons, joinFields.eq_3 _ _ (by simp), List.append_assoc, List.cons_append,
            lineTokens_append, List.foldlM_append, run_quoteField fieldStart _ _ _ textFits, ok_bind,
            lineTokens_cons, if_neg (by decide), List.singleton_append, List.foldlM_cons,
            readerStep_char, processToken_comma between, ok_bind,
            ih (by simp) (.inl rfl) fun field member => fits field (List.mem_cons_of_mem _ member)]
          simp

/-- One written row, read from the start of a record, is read back whole. -/
theorem run_rowBody (row : List (List Char)) (rows : List (List (List Char)))
    (fits : ∀ field ∈ row, field.length ≤ fieldSizeLimit) :
    (lineTokens (rowBody row ++ ['\n'])).foldlM readerStep ⟨.startRecord, [], [], rows⟩ =
      .ok ⟨.startRecord, [], [], rows ++ [row]⟩ := by
  unfold rowBody
  split
  · rename_i single
    subst single
    simp [lineTokens_cons, processToken, startFieldStep, Token.isBreak, Token.afterBreak,
      CsvReader.saveField, readerStep_eol, Except.map]
  · rename_i notSingle
    cases row with
    | nil =>
        simp [joinFields, lineTokens_cons, processToken, readerStep_eol, Except.map]
    | cons text rest =>
        simpa using run_joinFields (List.cons_ne_nil text rest) (.inr ⟨rfl, notSingle⟩) fits [] rows

theorem run_rows (written rows : List (List (List Char)))
    (fits : ∀ row ∈ written, ∀ field ∈ row, field.length ≤ fieldSizeLimit) :
    (lineTokens (written.flatMap fun row => rowBody row ++ ['\n'])).foldlM readerStep
        ⟨.startRecord, [], [], rows⟩ = .ok ⟨.startRecord, [], [], rows ++ written⟩ := by
  induction written generalizing rows with
  | nil => simp
  | cons row rest ih =>
      rw [List.flatMap_cons, lineTokens_append, List.foldlM_append,
        run_rowBody row rows (fits row (List.mem_cons_self _ _)), ok_bind,
        ih _ fun row member => fits row (List.mem_cons_of_mem _ member)]
      simp

theorem splitLines_rows_tokens (written : List (List (List Char))) :
    (splitLines (written.flatMap fun row => rowBody row ++ ['\n'])).flatMap Line.tokens =
      lineTokens (written.flatMap fun row => rowBody row ++ ['\n']) := by
  induction written with
  | nil => simp [splitLines]
  | cons row rest ih =>
      rw [List.flatMap_cons, splitLines_tokens (by simp), ih]
      exact (lineTokens_append _ _).symm

/-- Reading back with `csv.reader` the text `writer.writerow` wrote for rows whose fields, as
read back, are within the field size limit gives the rows, with each line break inside a
field read as `\n`. -/
theorem csvRows_write (rows : List (List (List Char)))
    (fits : ∀ row ∈ rows, ∀ field ∈ row, (translateNewlines field).length ≤ fieldSizeLimit) :
    csvRows (fileTokens (rows.flatMap writeRow)) = .ok (rows.map (·.map translateNewlines)) := by
  have readFits : ∀ row ∈ rows.map (·.map translateNewlines), ∀ field ∈ row,
      field.length ≤ fieldSizeLimit := by
    intro read readMember field inRead
    obtain ⟨row, member, rfl⟩ := List.mem_map.mp readMember
    obtain ⟨field, inRow, rfl⟩ := List.mem_map.mp inRead
    exact fits row member field inRow
  rw [csvRows, fileTokens, readLines, translateNewlines_flatMap_writeRow, splitLines_rows_tokens,
    CsvReader.initial, run_rows _ _ readFits]
  simp

/-- A field the writer leaves unquoted holds no carriage return. -/
theorem return_not_mem_of_needsQuotes {field : List Char} (plain : needsQuotes field = false) :
    '\r' ∉ field := fun member => by
  simp only [needsQuotes, List.any_eq_false] at plain
  simpa using plain _ member

/-- The text of a row that starts with an unquoted field starts with that field. -/
theorem rowBody_plain_cons {field : List Char} (plain : needsQuotes field = false)
    (nonempty : field ≠ []) (rest : List (List Char)) :
    ∃ tail, rowBody (field :: rest) = field ++ tail := by
  have unquoted : quoteField field = field := by simp [quoteField, plain]
  unfold rowBody
  rw [if_neg fun single => nonempty (List.cons.inj single).1, List.map_cons, unquoted]
  cases rest with
  | nil => exact ⟨[], by simp [joinFields]⟩
  | cons next more => exact ⟨_, joinFields.eq_3 _ _ (by simp)⟩

/-- **A field past the limit cannot be read back.** When the first field of a written row
is unquoted and longer than the field size limit, reading the file back raises, after the
rows before it, whose fields fit. -/
theorem csvRows_write_tooLarge (written : List (List (List Char)))
    (fits : ∀ row ∈ written, ∀ field ∈ row, (translateNewlines field).length ≤ fieldSizeLimit)
    {field : List Char} (plain : needsQuotes field = false) (long : fieldSizeLimit < field.length)
    (rest : List (List Char)) (more : List (List (List Char))) :
    csvRows (fileTokens ((written ++ (field :: rest) :: more).flatMap writeRow)) =
      .error fieldTooLarge := by
  have readFits : ∀ row ∈ written.map (·.map translateNewlines), ∀ field ∈ row,
      field.length ≤ fieldSizeLimit := by
    intro read readMember field inRead
    obtain ⟨row, member, rfl⟩ := List.mem_map.mp readMember
    obtain ⟨field, inRow, rfl⟩ := List.mem_map.mp inRead
    exact fits row member field inRow
  obtain ⟨c, cs, rfl⟩ := List.exists_cons_of_ne_nil
    (List.ne_nil_of_length_pos (by omega : 0 < field.length))
  obtain ⟨tail, body⟩ := rowBody_plain_cons plain (List.cons_ne_nil c cs)
    (rest.map translateNewlines)
  simp only [needsQuotes, List.any_cons, Bool.or_eq_false_iff, beq_eq_false_iff_ne] at plain
  obtain ⟨⟨⟨⟨comma, quote⟩, ret⟩, feed⟩, restPlain⟩ := plain
  have first : readerStep ⟨.startRecord, [], [], written.map (·.map translateNewlines)⟩ (.char c) =
      .ok ⟨.inField, [], [c], written.map (·.map translateNewlines)⟩ := by
    simp [processToken, startFieldStep, Token.isBreak, feed, ret, comma, quote, CsvReader.addChar,
      fieldSizeLimit]
  rw [csvRows, fileTokens, readLines, translateNewlines_flatMap_writeRow, splitLines_rows_tokens,
    List.map_append, List.flatMap_append, lineTokens_append, List.foldlM_append, CsvReader.initial,
    run_rows _ _ readFits, ok_bind, List.nil_append, List.map_cons, List.map_cons,
    translateNewlines_of_return_free (return_not_mem_of_needsQuotes (by simp [needsQuotes, *])),
    List.flatMap_cons, body, List.append_assoc, List.append_assoc, List.cons_append, lineTokens_cons,
    if_neg feed,
    List.singleton_append, List.foldlM_cons, first, ok_bind, lineTokens_append, List.foldlM_append,
    run_plainField_tooLarge (by simp [needsQuotes, restPlain]) _ _ _ (by simp [fieldSizeLimit])
      (by simp at long ⊢; omega)]
  rfl

end AgenticEbpf.Python
