import AgenticEbpf.Python.Text
import Mathlib.Data.List.Sort

/-!
# `pathlib.PurePosixPath`

The summary scripts name files with `pathlib.Path` and use six of its operations:
`Path(s)`, `path / key`, `.parent`, `.name`, `.stem` and `str(path)`. On POSIX a path is
its root (`''`, `'/'`, or the implementation-defined `'//'`) and its components, the
non-empty pieces between slashes other than `.`; each operation is given on that form as
`pathlib` computes it.

A directory listing is `sorted(directory.glob(pattern))`: the entries whose name the
pattern matches, ordered by name as `str` compares them (`sortedGlob`).

`name_div_of_plain` is what lets a section of the aggregated log stand for a file of its
own: a plain file name keeps its `.name` under any parent directory.
-/

namespace AgenticEbpf.Python

/-- A path as `pathlib` parses it: the root and the components (`_root`, `_tail`). -/
structure PurePosixPath where
  root : List Char
  parts : List (List Char)
  deriving DecidableEq

namespace PurePosixPath

/-- `posixpath.splitroot`: the root of a path text and the text after it. Exactly two
leading slashes are a root of their own; three or more are `'/'`. -/
def splitRoot : List Char → List Char × List Char
  | '/' :: '/' :: '/' :: rest => (['/'], '/' :: '/' :: rest)
  | '/' :: '/' :: rest => (['/', '/'], rest)
  | '/' :: rest => (['/'], rest)
  | rest => ([], rest)

/-- The components of the text after the root: the pieces between slashes, without the
empty ones and `.`. -/
def components (rel : List Char) : List (List Char) :=
  (rel.splitOnP (· == '/')).filter fun part => !part.isEmpty && part != ['.']

/-- `PurePosixPath(s)`. -/
def ofString (s : List Char) : PurePosixPath :=
  ⟨(splitRoot s).1, components (splitRoot s).2⟩

/-- `str(path)`: the root and the components joined by slashes, or `.` when both are
empty. -/
def toString (path : PurePosixPath) : List Char :=
  match path.root ++ List.intercalate ['/'] path.parts with
  | [] => ['.']
  | text => text

/-- `path.name`: the last component, or `''` when there is none. -/
def name (path : PurePosixPath) : List Char :=
  path.parts.getLast?.getD []

/-- `path.parent`: the path without its last component (the path itself when it has
none). -/
def parent (path : PurePosixPath) : PurePosixPath :=
  { path with parts := path.parts.dropLast }

/-- `path / key`: the components of `key` after those of `path`, or `key` alone when it is
absolute. -/
def div (path : PurePosixPath) (key : List Char) : PurePosixPath :=
  if (splitRoot key).1.isEmpty then { path with parts := path.parts ++ components key }
  else ofString key

/-- `path.stem`: the name without its last suffix. With `i = name.rfind('.')`, the suffix
is cut when `0 < i < len(name) - 1`; `throughDot` is the name up to and including its last
dot, so `i = throughDot.length - 1`. -/
def stem (path : PurePosixPath) : List Char :=
  let throughDot := path.name.rdropWhile (· != '.')
  if 1 < throughDot.length && throughDot.length < path.name.length then throughDot.dropLast
  else path.name

example : toString (ofString "//srv/./logs//".toList) = "//srv/logs".toList := by decide
example : toString ((ofString "/tmp/a.log".toList).parent.div "b".toList) =
    "/tmp/b".toList := by decide
example : stem (ofString "wrk.tar.gz".toList) = "wrk.tar".toList ∧
    stem (ofString ".bashrc".toList) = ".bashrc".toList := by decide

/-! ## Plain file names -/

/-- A plain file name: non-empty, without a slash, and not `.`. -/
def PlainName (n : List Char) : Prop :=
  n ≠ [] ∧ '/' ∉ n ∧ n ≠ ['.']

theorem splitRoot_of_plain {n : List Char} (plain : PlainName n) : splitRoot n = ([], n) := by
  obtain ⟨-, noSlash, -⟩ := plain
  match n, noSlash with
  | [], _ => rfl
  | c :: rest, noSlash =>
      have notSlash : c ≠ '/' := fun h => noSlash (h ▸ List.mem_cons_self c rest)
      simp [splitRoot, notSlash]

theorem components_of_plain {n : List Char} (plain : PlainName n) : components n = [n] := by
  obtain ⟨nonempty, noSlash, notDot⟩ := plain
  have single : n.splitOnP (· == '/') = [n] :=
    List.splitOnP_eq_single _ _ fun c member => by
      simpa using fun h : c = '/' => noSlash (h ▸ member)
  simp [components, single, nonempty, notDot]

/-- A plain file name keeps its `.name` under any directory: `Path(n).name` is
`(d / n).name`. -/
theorem name_div_of_plain (dir : PurePosixPath) {n : List Char} (plain : PlainName n) :
    (dir.div n).name = (ofString n).name ∧ (ofString n).name = n := by
  simp [div, ofString, name, splitRoot_of_plain plain, components_of_plain plain]

end PurePosixPath

/-! ## Listing a directory -/

/-- `fnmatch` of a file name against the pattern `front*back`. -/
def globMatch (front back name : List Char) : Bool :=
  front.isPrefixOf name && back.isSuffixOf name && front.length + back.length ≤ name.length

/-- `a <= b` on two `str`s: code point by code point, a proper prefix first. -/
def strLe : List Char → List Char → Bool
  | [], _ => true
  | _ :: _, [] => false
  | a :: as, b :: bs => if a = b then strLe as bs else a.toNat < b.toNat

/-- `sorted(directory.glob(pattern))` over the entries of one directory: the entries whose
name `accepts` takes, by name. Sibling paths compare by their last part only. -/
def sortedGlob {α : Type} (name : α → List Char) (accepts : List Char → Bool)
    (entries : List α) : List α :=
  (entries.filter fun entry => accepts (name entry)).insertionSort
    fun a b => strLe (name a) (name b)

example : sortedGlob id (globMatch "wrk_client_".toList ".log".toList)
    (["wrk_client_2.log", "notes.txt", "wrk_client_10.log", "wrk_client_.log"].map String.toList) =
      ["wrk_client_.log", "wrk_client_10.log", "wrk_client_2.log"].map String.toList := by
  decide

theorem mem_sortedGlob {α : Type} {name : α → List Char} {accepts : List Char → Bool}
    {entries : List α} {entry : α} :
    entry ∈ sortedGlob name accepts entries ↔ entry ∈ entries ∧ accepts (name entry) = true :=
  (List.perm_insertionSort _ _).mem_iff.trans List.mem_filter

end AgenticEbpf.Python
