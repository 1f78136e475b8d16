import Mathlib.Data.List.DropRight

/-!
# Python `str` operations

The summary scripts and the evaluator see text only through a few `str` methods:
`strip()`, `split()`, `lower()`, `startswith`, `rstrip("\n")` and `repr`. Each is given
here on `List Char`, the code points of a Python `str`, together with `Line`, one line of
a text file as iterating the open file yields it.

Python's character classes come from the Unicode database:

* `isSpace` is the whole whitespace class of `str.isspace`;
* `decimalValue` is the whole decimal-digit class (`\d`, and the digits `float()` reads);
* `lowerChar` is exact on every character whose lowercase holds an ASCII letter (the
  letters `A`–`Z`, `İ` and the Kelvin sign `K`) and keeps every other character as it is,
  which no ASCII pattern applied after `lower()` can tell from its real lowercase;
* `repr` escapes exactly as CPython does for Latin-1 text and takes every character
  beyond it as printable.
-/

namespace AgenticEbpf.Python

/-! ## Whitespace, `strip` and `split` -/

/-- `str.isspace()` on one character (`Py_UNICODE_ISSPACE`). -/
def isSpace (c : Char) : Bool :=
  let n := c.toNat
  (0x09 ≤ n && n ≤ 0x0D) || (0x1C ≤ n && n ≤ 0x20) || n == 0x85 || n == 0xA0 ||
    n == 0x1680 || (0x2000 ≤ n && n ≤ 0x200A) || n == 0x2028 || n == 0x2029 ||
    n == 0x202F || n == 0x205F || n == 0x3000

/-- `s.strip()`: leading and trailing whitespace removed. -/
def strip (s : List Char) : List Char :=
  (s.dropWhile isSpace).rdropWhile isSpace

/-- `s.split()`: the maximal runs of non-whitespace characters, in order. -/
def split (s : List Char) : List (List Char) :=
  (s.splitOnP isSpace).filter fun token => !token.isEmpty

/-- `s.startswith(prefix)`. -/
def startsWith (s pre : List Char) : Bool :=
  pre.isPrefixOf s

/-- `s.rstrip("\n")`: every trailing line feed removed. -/
def rstripNewlines (s : List Char) : List Char :=
  s.rdropWhile (· == '\n')

/-! ## Decimal digits of every script -/

/-- The code point of the digit zero of each run of ten decimal digits (general category
`Nd`, Unicode 15.0). -/
def decimalZeros : List Nat :=
  [0x30, 0x660, 0x6F0, 0x7C0, 0x966, 0x9E6, 0xA66, 0xAE6, 0xB66, 0xBE6, 0xC66, 0xCE6,
    0xD66, 0xDE6, 0xE50, 0xED0, 0xF20, 0x1040, 0x1090, 0x17E0, 0x1810, 0x1946, 0x19D0,
    0x1A80, 0x1A90, 0x1B50, 0x1BB0, 0x1C40, 0x1C50, 0xA620, 0xA8D0, 0xA900, 0xA9D0,
    0xA9F0, 0xAA50, 0xABF0, 0xFF10, 0x104A0, 0x10D30, 0x11066, 0x110F0, 0x11136, 0x111D0,
    0x112F0, 0x11450, 0x114D0, 0x11650, 0x116C0, 0x11730, 0x118E0, 0x11950, 0x11C50,
    0x11D50, 0x11DA0, 0x11F50, 0x16A60, 0x16AC0, 0x16B50, 0x1D7CE, 0x1D7D8, 0x1D7E2,
    0x1D7EC, 0x1D7F6, 0x1E140, 0x1E2F0, 0x1E4F0, 0x1E950, 0x1FBF0]

/-- The value of a decimal digit of any script (`Py_UNICODE_TODECIMAL`); `none` for every
other character. -/
def decimalValue (c : Char) : Option Nat :=
  (decimalZeros.find? fun first => first ≤ c.toNat && c.toNat < first + 10).map
    fun first => c.toNat - first

/-- `str.isdecimal()` on one character: the class `\d` of a `str` pattern. -/
def isDecimal (c : Char) : Bool :=
  (decimalValue c).isSome

example : decimalValue '٣' = some 3 ∧ decimalValue '7' = some 7 ∧ decimalValue 'x' = none := by
  decide

/-! ## `lower` -/

/-- The lowercase of one character, as far as an ASCII pattern can tell. -/
def lowerChar (c : Char) : List Char :=
  if c.isUpper then [c.toLower]
  else if c = 'İ' then ['i', '̇']
  else if c = 'K' then ['k']
  else [c]

/-- `s.lower()`. -/
def lower (s : List Char) : List Char :=
  s.flatMap lowerChar

/-! ## `repr` -/

/-- `width` lowercase hexadecimal digits of `n`, as the `\x`, `\u` and `\U` escapes
print them. -/
def hexDigits : Nat → Nat → List Char
  | 0, _ => []
  | width + 1, n => hexDigits width (n / 16) ++ [Nat.digitChar (n % 16)]

/-- Whether `repr` prints the character as it is (`Py_UNICODE_ISPRINTABLE`). -/
def isPrintable (c : Char) : Bool :=
  let n := c.toNat
  !(n < 0x20 || (0x7F ≤ n && n ≤ 0xA0) || n == 0xAD)

/-- One character of a string's `repr` between the quotes `quote`. -/
def reprChar (quote c : Char) : List Char :=
  if c = quote || c = '\\' then ['\\', c]
  else if c = '\t' then ['\\', 't']
  else if c = '\n' then ['\\', 'n']
  else if c = '\r' then ['\\', 'r']
  else if isPrintable c then [c]
  else if c.toNat ≤ 0xFF then ['\\', 'x'] ++ hexDigits 2 c.toNat
  else if c.toNat ≤ 0xFFFF then ['\\', 'u'] ++ hexDigits 4 c.toNat
  else ['\\', 'U'] ++ hexDigits 8 c.toNat

/-- `repr(s)` (the `!r` conversion): single quotes unless the text holds a single quote
and no double quote. -/
def repr (s : List Char) : List Char :=
  let quote := if '\'' ∈ s && '"' ∉ s then '"' else '\''
  quote :: s.flatMap (reprChar quote) ++ [quote]

example : repr "it's".toList = "\"it's\"".toList := by decide
example : repr "a\nb".toList = "'a\\nb'".toList := by decide
example : repr "\x7f".toList = "'\\x7f'".toList := by decide

/-! ## Lines of a text file -/

/-- One line of a text file as iterating the open file yields it (universal newlines):
its characters up to the line break, and whether a line break ends it. -/
@[ext] structure Line where
  text : List Char
  terminated : Bool
  newline_free : '\n' ∉ text
  deriving DecidableEq

/-- The `str` the loop variable holds: the text with its line break. -/
def Line.raw (line : Line) : List Char :=
  line.text ++ if line.terminated then ['\n'] else []

theorem rstripNewlines_of_newline_free {s : List Char} (free : '\n' ∉ s) :
    rstripNewlines s = s := by
  induction s using List.reverseRecOn with
  | nil => rfl
  | append_singleton s c _ =>
      have lastNotNewline : c ≠ '\n' := fun h => free (by simp [h])
      simp [rstripNewlines, List.rdropWhile_concat, lastNotNewline]

/-- `raw_line.rstrip("\n")` is the line's text. -/
@[simp] theorem Line.rstripNewlines_raw (line : Line) :
    rstripNewlines line.raw = line.text := by
  have textKept := rstripNewlines_of_newline_free line.newline_free
  unfold rstripNewlines at textKept ⊢
  cases hterm : line.terminated <;> simp [Line.raw, hterm, List.rdropWhile_concat, textKept]

/-! ## Reading a text file -/

/-- Universal newlines: `\r\n` and a lone `\r` are read as `\n`. -/
def translateNewlines : List Char → List Char
  | [] => []
  | '\r' :: '\n' :: rest => '\n' :: translateNewlines rest
  | '\r' :: rest => '\n' :: translateNewlines rest
  | c :: rest => c :: translateNewlines rest

/-- The lines of a text whose line breaks are all `\n`: each runs up to and including a
line feed, and the last one may lack it. -/
def splitLines : List Char → List Line
  | [] => []
  | c :: rest =>
      if isBreak : c = '\n' then ⟨[], true, List.not_mem_nil _⟩ :: splitLines rest
      else match splitLines rest with
        | [] => [⟨[c], false, by simpa [eq_comm] using isBreak⟩]
        | line :: lines =>
            ⟨c :: line.text, line.terminated, by simp [Ne.symm isBreak, line.newline_free]⟩ :: lines

/-- The lines iterating a file opened with `open(path, "r")` yields, from its text. -/
def readLines (content : List Char) : List Line :=
  splitLines (translateNewlines content)

example : (readLines "a\r\nb\rc".toList).map Line.raw = ["a\n", "b\n", "c"].map String.toList := by
  decide

theorem translateNewlines_of_return_free {s : List Char} (free : '\r' ∉ s) :
    translateNewlines s = s := by
  induction s using translateNewlines.induct <;> simp_all [translateNewlines]

theorem return_not_mem_translateNewlines (s : List Char) : '\r' ∉ translateNewlines s := by
  induction s using translateNewlines.induct <;> simp_all [translateNewlines, eq_comm]

theorem splitLines_append_break {text : List Char} (free : '\n' ∉ text) (rest : List Char) :
    splitLines (text ++ '\n' :: rest) = ⟨text, true, free⟩ :: splitLines rest := by
  induction text with
  | nil => simp [splitLines]
  | cons c text ih =>
      have notBreak : c ≠ '\n' := fun h => free (h ▸ List.mem_cons_self c text)
      simp [splitLines, notBreak, ih (fun h => free (List.mem_cons_of_mem c h))]

theorem mem_of_mem_splitLines {s : List Char} {line : Line} (member : line ∈ splitLines s)
    {c : Char} (inText : c ∈ line.text) : c ∈ s := by
  induction s generalizing line with
  | nil => simp [splitLines] at member
  | cons d rest ih =>
      simp only [splitLines] at member
      split at member
      · rcases List.mem_cons.mp member with rfl | member
        · simp at inText
        · exact List.mem_cons_of_mem d (ih member inText)
      · split at member
        · simp_all
        · rename_i first lines firstLines
          rcases List.mem_cons.mp member with rfl | member
          · rcases List.mem_cons.mp inText with rfl | inText
            · exact List.mem_cons_self _ _
            · exact List.mem_cons_of_mem d (ih (firstLines ▸ List.mem_cons_self _ _) inText)
          · exact List.mem_cons_of_mem d (ih (firstLines ▸ List.mem_cons_of_mem _ member) inText)

/-- Every line but the last ends in a line break. -/
theorem splitLines_terminated (s : List Char) :
    ∀ line ∈ (splitLines s).dropLast, line.terminated = true := by
  induction s with
  | nil => simp [splitLines]
  | cons c rest ih =>
      simp only [splitLines]
      split
      · intro line member
        cases lines : splitLines rest with
        | nil => simp [lines] at member
        | cons first others =>
            rw [lines, List.dropLast_cons₂, List.mem_cons] at member
            rw [lines] at ih
            rcases member with rfl | member
            · rfl
            · exact ih line member
      · split
        · simp
        · rename_i first lines firstLines
          rw [firstLines] at ih
          intro line member
          cases lines with
          | nil => simp at member
          | cons second others =>
              rw [List.dropLast_cons₂] at ih member
              rcases List.mem_cons.mp member with rfl | member
              · exact ih first (List.mem_cons_self _ _)
              · exact ih line (List.mem_cons_of_mem _ member)

/-- Reading back the text of lines that each end in a line break and hold no carriage
return gives the same lines. -/
theorem readLines_flatMap_raw {lines : List Line} (returnFree : ∀ line ∈ lines, '\r' ∉ line.text)
    (terminated : ∀ line ∈ lines, line.terminated = true) :
    readLines (lines.flatMap Line.raw) = lines := by
  have kept : translateNewlines (lines.flatMap Line.raw) = lines.flatMap Line.raw := by
    refine translateNewlines_of_return_free fun member => ?_
    obtain ⟨line, lineMember, inRaw⟩ := List.mem_flatMap.mp member
    simp only [Line.raw, terminated line lineMember, if_true, List.mem_append,
      List.mem_singleton] at inRaw
    exact inRaw.elim (returnFree line lineMember) (by decide)
  rw [readLines, kept]
  clear kept
  induction lines with
  | nil => rfl
  | cons line rest ih =>
      have ends := terminated line (List.mem_cons_self _ _)
      simp only [List.flatMap_cons, Line.raw, ends, if_true, List.append_assoc,
        List.singleton_append]
      rw [splitLines_append_break line.newline_free, ih (fun l m => returnFree l (.tail _ m))
        (fun l m => terminated l (.tail _ m))]
      exact congrArg (· :: rest) (Line.ext rfl ends.symm)

/-- No line read from a file holds a carriage return. -/
theorem readLines_return_free (content : List Char) :
    ∀ line ∈ readLines content, '\r' ∉ line.text := fun _ member inText =>
  return_not_mem_translateNewlines content (mem_of_mem_splitLines member inText)

/-! ## Exceptions -/

/-- A Python exception the modelled code raises or lets through: its class and
`str(exc)`. -/
inductive PyError
  | valueError (message : String)
  | typeError (message : String)
  | overflowError (message : String)
  | csvError (message : String)
  /-- Strict UTF-8 decoding failed; the message, which names the offending byte and its
  position, is not modelled. -/
  | unicodeDecodeError
  /-- An exception of another class that a library or operating-system call raises, such
  as `PermissionError` or `NotADirectoryError`: its class name and `str(exc)`. -/
  | raised (kind : String) (message : String)
  deriving DecidableEq

/-- The bytes of a file or of a process's output, as the program can read them: the text
they decode to as UTF-8 when undecodable bytes are dropped (`errors="ignore"`), and, for
bytes that are not valid UTF-8, how much of that text a strict reader gets first. -/
structure Bytes where
  text : List Char
  /-- `none` for valid UTF-8, which strict decoding reads as `text`. Otherwise `some n`: a
  file opened in text mode is decoded 8192 bytes at a time as its lines are needed, a
  chunk that holds an undecodable byte raises as a whole, and the chunks before it decode
  to the first `n` characters of `text`. -/
  undecodableAfter : Option Nat
  deriving DecidableEq, Inhabited

/-- The bytes are valid UTF-8. -/
def Bytes.validUtf8 (bytes : Bytes) : Bool :=
  bytes.undecodableAfter.isNone

/-- The bytes of a text encoded as UTF-8. -/
def Bytes.ofText (text : List Char) : Bytes :=
  ⟨text, none⟩

/-- Strict UTF-8 decoding of the whole (`encoding="utf-8"` with the default
`errors="strict"`). -/
def Bytes.decode (bytes : Bytes) : Except PyError (List Char) :=
  if bytes.validUtf8 then .ok bytes.text else .error .unicodeDecodeError

@[simp] theorem Bytes.decode_ofText (text : List Char) : (Bytes.ofText text).decode = .ok text :=
  rfl

/-- The lines iterating a file opened with `open(path, "r", encoding="utf-8")` yields, in
order, and what the next step raises after them: every line of valid UTF-8 and then the
end of the file; otherwise the lines complete in the text decoded before the failing
chunk, and then `UnicodeDecodeError`. A last decoded `\r` does not end a line yet: the
newline decoder waits for the next chunk, which could start with the `\n` of `\r\n`. -/
def Bytes.textLines (bytes : Bytes) : List Line × Option PyError :=
  match bytes.undecodableAfter with
  | none => (readLines bytes.text, none)
  | some n =>
      let decoded := bytes.text.take n
      (if decoded.getLast? = some '\n' then readLines decoded else (readLines decoded).dropLast,
        some .unicodeDecodeError)

@[simp] theorem Bytes.textLines_ofText (text : List Char) :
    (Bytes.ofText text).textLines = (readLines text, none) :=
  rfl

/-- A computation that can raise returns `b` after `x` exactly when `x` returns some `a`
from which the rest returns `b`. -/
@[simp] theorem bind_eq_ok {ε α β : Type} {x : Except ε α} {f : α → Except ε β} {b : β} :
    x >>= f = .ok b ↔ ∃ a, x = .ok a ∧ f a = .ok b := by
  cases x <;> simp [bind, Except.bind]

@[simp] theorem ok_bind {ε α β : Type} (a : α) (f : α → Except ε β) :
    (Except.ok a >>= f) = f a := rfl

@[simp] theorem throw_eq_error {ε α : Type} (e : ε) : (throw e : Except ε α) = .error e := rfl

@[simp] theorem toOption_eq_some {ε α : Type} {x : Except ε α} {a : α} :
    x.toOption = some a ↔ x = .ok a := by
  cases x <;> simp [Except.toOption]

@[simp] theorem pure_eq_ok {ε α : Type} {a b : α} : (pure a : Except ε α) = .ok b ↔ b = a := by
  simp [pure, Except.pure, eq_comm]

/-- Every value a `mapM` that returned holds is what `f` returned for some element. -/
theorem mem_of_mapM_eq_ok {ε α β : Type} {f : α → Except ε β} {xs : List α} {ys : List β}
    (mapped : xs.mapM f = .ok ys) : ∀ y ∈ ys, ∃ x ∈ xs, f x = .ok y := by
  induction xs generalizing ys with
  | nil =>
      obtain rfl := pure_eq_ok.mp mapped
      simp
  | cons x xs ih =>
      rw [List.mapM_cons] at mapped
      obtain ⟨y, first, mapped⟩ := bind_eq_ok.mp mapped
      obtain ⟨rest, restMapped, returned⟩ := bind_eq_ok.mp mapped
      obtain rfl := pure_eq_ok.mp returned
      intro z member
      rcases List.mem_cons.mp member with rfl | later
      · exact ⟨x, List.mem_cons_self _ _, first⟩
      · obtain ⟨w, inXs, gives⟩ := ih restMapped z later
        exact ⟨w, List.mem_cons_of_mem _ inXs, gives⟩

end AgenticEbpf.Python
