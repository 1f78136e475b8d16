import AgenticEbpf.Python.Text
import Mathlib.Data.Nat.Digits
import Mathlib.Algebra.Order.Floor
import Mathlib.Data.Rat.Floor
import Mathlib.Tactic.Linarith

/-!
# Python numbers: `float()`, `str(int)` and the `.6f` format

Every quantity the scripts compute is a Python `float`. The model works in exact
rational arithmetic: a `float` is a rational (`PyFloat.finite`) or one of the three
special values `float()` can produce from text. The two conversions between text and
numbers the program uses are given here:

* `pyFloat` is `float(s)` on a `str`: the decimal grammar of Python (optional sign,
  digits with single underscores between them, fraction, exponent, `inf`,
  `infinity`, `nan` in any case, surrounding whitespace), giving the exact value;
* `formatFixed6` is `f"{x:.6f}"`: the value rounded to six places, ties to even as
  CPython's correctly rounded formatting does, with a leading `-` for a negative value.

`intToFloat` and `intTrueDivide` keep the one effect of the `int`-to-`float` conversions
that exact values cannot show: the `OverflowError` for a value past the largest double.

`pyFloat_formatFixed6` is the round trip the CSV artifacts rely on: reading back a value
written with six places gives `round6` of it.
-/

namespace AgenticEbpf.Python

/-! ## Decimal digits -/

/-- The value of one ASCII digit. -/
def digitValue (c : Char) : Nat :=
  c.toNat - '0'.toNat

/-- The value of a string of ASCII digits, read left to right. -/
def digitsValue (ds : List Char) : Nat :=
  ds.foldl (fun acc c => 10 * acc + digitValue c) 0

theorem digitsValue_append (ds es : List Char) :
    digitsValue (ds ++ es) = digitsValue ds * 10 ^ es.length + digitsValue es := by
  suffices general : ∀ (acc : Nat) (es : List Char),
      es.foldl (fun acc c => 10 * acc + digitValue c) acc =
        acc * 10 ^ es.length + es.foldl (fun acc c => 10 * acc + digitValue c) 0 by
    simp only [digitsValue, List.foldl_append]
    exact general _ es
  intro acc es
  induction es generalizing acc with
  | nil => simp
  | cons c rest ih =>
      simp only [List.foldl_cons, List.length_cons, Nat.mul_zero, Nat.zero_add]
      rw [ih, ih (digitValue c)]
      ring

@[simp] theorem digitsValue_nil : digitsValue [] = 0 := rfl

theorem digitsValue_cons (c : Char) (ds : List Char) :
    digitsValue (c :: ds) = digitValue c * 10 ^ ds.length + digitsValue ds := by
  rw [← List.singleton_append, digitsValue_append]
  simp [digitsValue]

theorem digitsValue_replicate_zero_append (k : Nat) (ds : List Char) :
    digitsValue (List.replicate k '0' ++ ds) = digitsValue ds := by
  induction k with
  | zero => rfl
  | succ k ih =>
      rw [List.replicate_succ, List.cons_append, digitsValue_cons, ih]
      simp [digitValue]

/-- The ten ASCII digits. -/
def decimalDigits : List Char := "0123456789".toList

theorem mem_decimalDigits_iff {c : Char} : c ∈ decimalDigits ↔ c.isDigit = true := by
  constructor
  · revert c; decide
  · intro digit
    have bounds : 48 ≤ c.toNat ∧ c.toNat ≤ 57 := by
      simp only [Char.isDigit, Bool.and_eq_true, decide_eq_true_eq] at digit
      exact ⟨digit.1, digit.2⟩
    have table : ∀ n, 48 ≤ n → n ≤ 57 → Char.ofNat n ∈ decimalDigits := by decide
    rw [← Char.ofNat_toNat c]
    exact table _ bounds.1 bounds.2

theorem digitValue_digitChar {d : Nat} (small : d < 10) :
    digitValue (Nat.digitChar d) = d := by
  interval_cases d <;> rfl

theorem digitChar_mem_decimalDigits {d : Nat} (small : d < 10) :
    Nat.digitChar d ∈ decimalDigits := by
  interval_cases d <;> decide

/-- `str(n)` for a natural number `n`. -/
def natRepr (n : Nat) : List Char :=
  Nat.toDigits 10 n

/-- `str(n)` for an `int`. -/
def intRepr (n : ℤ) : List Char :=
  if n < 0 then '-' :: natRepr n.natAbs else natRepr n.natAbs

example : intRepr (-15) = "-15".toList ∧ intRepr 127 = "127".toList := by decide

theorem toDigitsCore_spec (fuel n : Nat) (ds : List Char) (enough : n < fuel) :
    (∀ c ∈ Nat.toDigitsCore 10 fuel n ds, c ∈ decimalDigits ∨ c ∈ ds) ∧
      digitsValue (Nat.toDigitsCore 10 fuel n ds) =
        n * 10 ^ ds.length + digitsValue ds := by
  induction fuel generalizing n ds with
  | zero => omega
  | succ fuel ih =>
      have lastDigit := digitChar_mem_decimalDigits (Nat.mod_lt n (by decide : 10 > 0))
      have lastValue := digitValue_digitChar (Nat.mod_lt n (by decide : 10 > 0))
      simp only [Nat.toDigitsCore]
      split
      · rename_i high
        refine ⟨fun c member => ?_, ?_⟩
        · rcases List.mem_cons.mp member with rfl | rest
          · exact .inl lastDigit
          · exact .inr rest
        · rw [digitsValue_cons, lastValue]
          have : n % 10 = n := by omega
          rw [this]
      · rename_i high
        obtain ⟨digits, value⟩ := ih (n / 10) (Nat.digitChar (n % 10) :: ds) (by omega)
        refine ⟨fun c member => ?_, ?_⟩
        · rcases digits c member with isDig | member
          · exact .inl isDig
          · rcases List.mem_cons.mp member with rfl | rest
            · exact .inl lastDigit
            · exact .inr rest
        · rw [value, digitsValue_cons, lastValue, List.length_cons, pow_succ]
          have split := Nat.div_add_mod n 10
          calc n / 10 * (10 ^ ds.length * 10) + (n % 10 * 10 ^ ds.length + digitsValue ds)
              = (10 * (n / 10) + n % 10) * 10 ^ ds.length + digitsValue ds := by ring
            _ = n * 10 ^ ds.length + digitsValue ds := by rw [split]

theorem natRepr_mem_decimalDigits (n : Nat) : ∀ c ∈ natRepr n, c ∈ decimalDigits :=
  fun c member =>
  ((toDigitsCore_spec (n + 1) n [] (by omega)).1 c member).resolve_right (by simp)

@[simp] theorem digitsValue_natRepr (n : Nat) : digitsValue (natRepr n) = n := by
  simpa using (toDigitsCore_spec (n + 1) n [] (by omega)).2

theorem natRepr_ne_nil (n : Nat) : natRepr n ≠ [] := by
  simp only [natRepr, Nat.toDigits, Nat.toDigitsCore]
  split
  · simp
  · rw [← List.length_pos, Nat.toDigitsCore_lens_eq]; omega

theorem natRepr_length_le {n e : Nat} (small : n < 10 ^ e) (positive : 0 < e) :
    (natRepr n).length ≤ e :=
  Nat.toDigitsCore_length 10 (by decide) _ n e small positive

/-! ## `float()` -/

/-- A Python `float`: a rational value, or one of the special values `float()` reads. -/
inductive PyFloat
  | finite (value : ℚ)
  | inf
  | negInf
  | nan
  deriving DecidableEq, Repr

/-- The whitespace `float()` strips: C `isspace` on ASCII, and every non-ASCII space,
which `_PyUnicode_TransformDecimalAndSpaceToASCII` has turned into `' '` before. -/
def asciiSpace (c : Char) : Bool :=
  c == ' ' || ('\t' ≤ c && c ≤ '\r')

/-- `_PyUnicode_TransformDecimalAndSpaceToASCII` on one character: a non-ASCII space
becomes `' '` and a non-ASCII decimal digit the ASCII digit of its value. Every other
non-ASCII character makes the literal invalid, kept or not. -/
def toAsciiChar (c : Char) : Char :=
  if c.toNat < 127 then c
  else if isSpace c then ' '
  else match decimalValue c with
    | some d => Nat.digitChar d
    | none => c

/-- Python's rule for `_` in a numeric literal (`_Py_string_to_number_with_underscores`):
every `_` follows a digit, only a digit follows a `_`, and the text does not end in one. -/
def underscoresOk (previous : Char) : List Char → Bool
  | [] => previous != '_'
  | c :: rest =>
      (if c = '_' then previous.isDigit else previous != '_' || c.isDigit) &&
        underscoresOk c rest

/-- An optional exponent `e`/`E`, optional sign and digits, as the decimal parser reads
it at the end of the literal. -/
def exponentValue : List Char → Option ℤ
  | [] => some 0
  | e :: rest =>
      if e = 'e' || e = 'E' then
        let (negative, digits) : Bool × List Char := match rest with
          | '-' :: ds => (true, ds)
          | '+' :: ds => (false, ds)
          | ds => (false, ds)
        if !digits.isEmpty && digits.all Char.isDigit then
          some (if negative then -(digitsValue digits : ℤ) else digitsValue digits)
        else none
      else none

/-- The unsigned decimal part of a literal: `[digits] [. [digits]] [exponent]` with at
least one digit before the exponent; its exact value. -/
def decimalLiteral (s : List Char) : Option ℚ :=
  let intPart := s.takeWhile Char.isDigit
  let (fracPart, afterFrac) : List Char × List Char := match s.dropWhile Char.isDigit with
    | '.' :: rest => (rest.takeWhile Char.isDigit, rest.dropWhile Char.isDigit)
    | rest => ([], rest)
  if intPart.isEmpty && fracPart.isEmpty then none
  else (exponentValue afterFrac).map fun e =>
    (digitsValue (intPart ++ fracPart) : ℚ) / 10 ^ fracPart.length * 10 ^ e

/-- The optional sign in front of a literal: whether it is `-`, and the rest. -/
def splitSign : List Char → Bool × List Char
  | '-' :: rest => (true, rest)
  | '+' :: rest => (false, rest)
  | rest => (false, rest)

/-- A stripped literal without underscores: a sign, then `inf`, `infinity`, `nan` in any
case, or a decimal. -/
def floatLiteral (s : List Char) : Option PyFloat :=
  let (negative, body) := splitSign s
  let folded := body.map Char.toLower
  if folded = ['i', 'n', 'f'] || folded = ['i', 'n', 'f', 'i', 'n', 'i', 't', 'y'] then
    some (if negative then .negInf else .inf)
  else if folded = ['n', 'a', 'n'] then some .nan
  else (decimalLiteral body).map fun q => .finite (if negative then -q else q)

/-- `float(s)` for a `str` `s`. -/
def pyFloat (s : List Char) : Except PyError PyFloat :=
  let ascii := s.map toAsciiChar
  let failure := PyError.valueError
    ("could not convert string to float: " ++ String.mk (repr s))
  if underscoresOk '\x00' ascii then
    match floatLiteral (((ascii.filter (· != '_')).dropWhile asciiSpace).rdropWhile asciiSpace) with
    | some value => .ok value
    | none => .error failure
  else .error failure

/-! ## `int()` and `str(int)` -/

/-- `sys.get_int_max_str_digits()` at its default: the most digits `int()` reads and
`str()` writes in base 10. -/
def intMaxStrDigits : Nat := 4300

/-- `int(s)` for a `str` `s`, in base 10 (`PyLong_FromUnicodeObject`): surrounding
whitespace, an optional sign and digits with single underscores between them, of which
there are at most `intMaxStrDigits`. The literal is checked whole before its length. -/
def pyInt (s : List Char) : Except PyError ℤ :=
  let (negative, body) := splitSign (((s.map toAsciiChar).dropWhile asciiSpace).rdropWhile asciiSpace)
  let digits := body.filter (· != '_')
  if body.isEmpty || !body.all (fun c => c.isDigit || c == '_') || !underscoresOk '\x00' body then
    .error (.valueError
      ("invalid literal for int() with base 10: " ++ String.mk ((repr s).take 200)))
  else if intMaxStrDigits < digits.length then
    .error (.valueError ("Exceeds the limit (4300 digits) for integer string conversion: value has " ++
      String.mk (natRepr digits.length) ++ " digits; use sys.set_int_max_str_digits() to increase the limit"))
  else .ok (if negative then -(digitsValue digits : ℤ) else digitsValue digits)

example : pyInt " -1_000\n".toList = .ok (-1000) ∧ pyInt "+\u0663".toList = .ok 3 ∧
    pyInt "1__0".toList = .error (.valueError "invalid literal for int() with base 10: '1__0'") := by
  refine ⟨rfl, rfl, rfl⟩

/-- `str(n)` for an `int` `n` that may be large: it raises beyond `intMaxStrDigits`
digits. -/
def strOfInt (n : ℤ) : Except PyError (List Char) :=
  if intMaxStrDigits < (natRepr n.natAbs).length then
    .error (.valueError "Exceeds the limit (4300 digits) for integer string conversion; use sys.set_int_max_str_digits() to increase the limit")
  else .ok (intRepr n)

theorem digitValue_lt {c : Char} (digit : c.isDigit = true) : digitValue c < 10 := by
  simp only [Char.isDigit, Bool.and_eq_true, decide_eq_true_eq] at digit
  have zero : '0'.toNat = 48 := rfl
  simp only [digitValue, zero]
  exact Nat.sub_lt_left_of_lt_add digit.1 (Nat.lt_succ_of_le digit.2)

theorem digitsValue_lt {ds : List Char} (digits : ∀ c ∈ ds, c.isDigit = true) :
    digitsValue ds < 10 ^ ds.length := by
  induction ds with
  | nil => simp
  | cons c rest ih =>
      rw [digitsValue_cons, List.length_cons, pow_succ]
      have first := Nat.mul_le_mul_right (10 ^ rest.length)
        (Nat.le_of_lt_succ (digitValue_lt (digits c (List.mem_cons_self c rest))))
      have tail := ih fun d member => digits d (List.mem_cons_of_mem c member)
      omega

theorem strOfInt_of_le {n : ℤ} (short : (natRepr n.natAbs).length ≤ intMaxStrDigits) :
    strOfInt n = .ok (intRepr n) := by
  simp [strOfInt, not_lt.mpr short]

theorem strOfInt_of_lt {n : ℤ} (long : intMaxStrDigits < (natRepr n.natAbs).length) :
    strOfInt n = .error (.valueError "Exceeds the limit (4300 digits) for integer string conversion; use sys.set_int_max_str_digits() to increase the limit") := by
  simp [strOfInt, long]

/-- **What `int()` reads, `str()` writes back.** A value `int()` returns has at most
`intMaxStrDigits` digits, so `str()` of it never raises. -/
theorem pyInt_natRepr_length_le {s : List Char} {n : ℤ} (parsed : pyInt s = .ok n) :
    (natRepr n.natAbs).length ≤ intMaxStrDigits := by
  unfold pyInt at parsed
  generalize splitSign _ = signed at parsed
  obtain ⟨negative, body⟩ := signed
  simp only at parsed
  split at parsed
  · cases parsed
  rename_i malformed
  split at parsed
  · cases parsed
  rename_i tooLong
  obtain rfl := Except.ok.inj parsed
  have wellFormed : body.all (fun c => c.isDigit || c == '_') = true := by
    revert malformed
    cases body.all fun c => c.isDigit || c == '_' <;> simp
  have digits : ∀ c ∈ body.filter (· != '_'), c.isDigit = true := by
    intro c member
    obtain ⟨inBody, notUnderscore⟩ := List.mem_filter.mp member
    have allowed := List.all_eq_true.mp wellFormed c inBody
    simp only [Bool.or_eq_true, beq_iff_eq] at allowed
    exact allowed.resolve_right (by simpa using notUnderscore)
  have unsigned : (if negative then -(digitsValue (body.filter (· != '_')) : ℤ)
      else digitsValue (body.filter (· != '_'))).natAbs = digitsValue (body.filter (· != '_')) := by
    split <;> simp
  rw [unsigned]
  exact natRepr_length_le ((digitsValue_lt digits).trans_le
    (Nat.pow_le_pow_right (by decide) (not_lt.mp tooLong))) (by decide)

/-! ## `int` to `float`

The values stay exact, but a conversion that CPython cannot round to a finite double
raises, as it does. -/

/-- The least magnitude a `float` cannot hold: halfway between the largest double and
`2¹⁰²⁴`, where rounding to even goes up. It is written out (`doubleOverflowBound_eq`), so
that a conversion of a given `int` evaluates. -/
def doubleOverflowBound : ℚ :=
  179769313486231580793728971405303415079934132710037826936173778980444968292764750946649017977587207096330286416692887910946555547851940402630657488671505820681908902000708383676273854845817711531764475730270069855571366959622842914819860834936475292719074168444365510704342711559699508093042880177904174497792

theorem doubleOverflowBound_eq : doubleOverflowBound = 2 ^ 1024 - 2 ^ 970 := by
  norm_num [doubleOverflowBound]

/-- `float(n)`, also the first step of `n / x` for a `float` `x`: the value, or
`OverflowError` when it rounds past the largest double. -/
def intToFloat (n : ℤ) : Except PyError ℚ :=
  if doubleOverflowBound ≤ |(n : ℚ)| then
    .error (.overflowError "int too large to convert to float")
  else .ok n

/-- `a / b` for two `int`s, `b ≠ 0`: the quotient, or `OverflowError` when it rounds past
the largest double. -/
def intTrueDivide (a b : ℤ) : Except PyError ℚ :=
  if doubleOverflowBound ≤ |(a : ℚ) / b| then
    .error (.overflowError "integer division result too large for a float")
  else .ok ((a : ℚ) / b)

/-! ## Rounding and the `.6f` format -/

/-- The integer nearest to `q`, ties to the even one. -/
def roundHalfEven (q : ℚ) : ℤ :=
  let below := ⌊q⌋
  let rest := q - below
  if rest < 1 / 2 then below
  else if 1 / 2 < rest then below + 1
  else if below % 2 = 0 then below else below + 1

/-- `x` rounded to six decimal places, ties to even. -/
def round6 (x : ℚ) : ℚ :=
  roundHalfEven (x * 10 ^ 6) / 10 ^ 6

/-- Digits left-padded with zeros to six places. -/
def padLeft6 (ds : List Char) : List Char :=
  List.replicate (6 - ds.length) '0' ++ ds

/-- The `.6f` text of a value whose magnitude, counted in millionths and rounded, is
`scaled`: a `-` when the value is negative, the whole part, a point and six digits. -/
def fixedText (negative : Bool) (scaled : Nat) : List Char :=
  (if negative then ['-'] else []) ++
    natRepr (scaled / 10 ^ 6) ++ '.' :: padLeft6 (natRepr (scaled % 10 ^ 6))

/-- `f"{x:.6f}"`. -/
def formatFixed6 (x : ℚ) : List Char :=
  fixedText (decide (x < 0)) (roundHalfEven (|x| * 10 ^ 6)).toNat

theorem roundHalfEven_nonneg {q : ℚ} (nonneg : 0 ≤ q) : 0 ≤ roundHalfEven q := by
  have floorNonneg : 0 ≤ ⌊q⌋ := Int.floor_nonneg.mpr nonneg
  simp only [roundHalfEven]
  split_ifs <;> omega

/-- `roundHalfEven` of a whole part plus a fraction in `[0, 1)`: the floor is the whole part. -/
theorem roundHalfEven_intCast_add {below : ℤ} {rest : ℚ} (nonneg : 0 ≤ rest) (lt : rest < 1) :
    roundHalfEven (below + rest) =
      if rest < 1 / 2 then below else if 1 / 2 < rest then below + 1
      else if below % 2 = 0 then below else below + 1 := by
  have floorUp : ⌊(below : ℚ) + rest⌋ = below := by
    rw [Int.floor_eq_iff]; constructor <;> linarith
  simp only [roundHalfEven, floorUp, add_sub_cancel_left]

/-- Ties to even is symmetric: rounding commutes with negation. The negation of
`below + rest` with `0 < rest` is `(-below - 1) + (1 - rest)`, whose fraction is on the other
side of `1/2`, and a tie goes to the other neighbour of opposite parity. -/
theorem roundHalfEven_neg (q : ℚ) : roundHalfEven (-q) = -roundHalfEven q := by
  obtain ⟨below, rest, restNonneg, restLt, rfl⟩ :
      ∃ (below : ℤ) (rest : ℚ), 0 ≤ rest ∧ rest < 1 ∧ q = below + rest :=
    ⟨⌊q⌋, Int.fract q, Int.fract_nonneg q, Int.fract_lt_one q, (Int.floor_add_fract q).symm⟩
  rw [roundHalfEven_intCast_add restNonneg restLt]
  rcases eq_or_lt_of_le restNonneg with rfl | restPos
  · have whole : -((below : ℚ) + 0) = ((-below : ℤ) : ℚ) + 0 := by push_cast; ring
    rw [whole, roundHalfEven_intCast_add le_rfl one_pos]
    norm_num
  · have flip : -((below : ℚ) + rest) = ((-below - 1 : ℤ) : ℚ) + (1 - rest) := by push_cast; ring
    rw [flip, roundHalfEven_intCast_add (by linarith) (by linarith)]
    rcases lt_trichotomy rest (1 / 2) with lower | rfl | upper
    · have up : 1 / 2 < 1 - rest := by linarith
      simp only [lower, up, not_lt_of_gt up, if_true, if_false]; ring
    · norm_num; split_ifs <;> omega
    · have down : 1 - rest < 1 / 2 := by linarith
      simp only [down, upper, not_lt_of_gt upper, if_true, if_false]; ring

/-! ## Reading back the `.6f` format -/

/-- The characters the `.6f` format writes. -/
def plainNumericChars : List Char := "-.0123456789".toList

/-- Text made of digits, `.` and `-` only. -/
def PlainNumeric (s : List Char) : Prop :=
  ∀ c ∈ s, c ∈ plainNumericChars

theorem plainNumericChar_facts : ∀ c ∈ plainNumericChars,
    c ≠ '_' ∧ asciiSpace c = false ∧ c.toNat < 127 := by
  decide

theorem underscoresOk_of_plain {previous : Char} {s : List Char}
    (notUnderscore : previous ≠ '_') (plain : PlainNumeric s) :
    underscoresOk previous s = true := by
  induction s generalizing previous with
  | nil => simpa [underscoresOk] using notUnderscore
  | cons c rest ih =>
      have cNotUnderscore := (plainNumericChar_facts c (plain c (List.mem_cons_self c rest))).1
      have previousOk : (previous != '_') = true := by simpa using notUnderscore
      simp only [underscoresOk, if_neg cNotUnderscore, previousOk, Bool.true_or,
        Bool.true_and]
      exact ih cNotUnderscore fun d member => plain d (List.mem_cons_of_mem c member)

/-- On plain numeric text `float()` is the literal parser: nothing is stripped, mapped
or dropped before it. -/
theorem pyFloat_of_plain {s : List Char} {value : PyFloat} (plain : PlainNumeric s)
    (literal : floatLiteral s = some value) : pyFloat s = .ok value := by
  have facts := fun c member => plainNumericChar_facts c (plain c member)
  have kept : s.map toAsciiChar = s :=
    (List.map_congr_left fun c member => by simp [toAsciiChar, (facts c member).2.2]).trans
      (List.map_id s)
  have noUnderscore : s.filter (· != '_') = s :=
    List.filter_eq_self.mpr fun c member => by simpa using (facts c member).1
  have stripped : (s.dropWhile asciiSpace).rdropWhile asciiSpace = s := by
    rw [List.dropWhile_eq_self_iff.mpr fun nonempty => by
        simp [(facts _ (List.getElem_mem nonempty)).2.1],
      List.rdropWhile_eq_self_iff.mpr fun nonempty => by
        simp [(facts _ (List.getLast_mem nonempty)).2.1]]
  simp only [pyFloat, kept, noUnderscore, stripped, literal,
    @underscoresOk_of_plain '\x00' s (by decide) plain, if_true]

theorem unsignedStart_facts : ∀ d ∈ '.' :: decimalDigits,
    d ≠ '-' ∧ d ≠ '+' ∧ d.toLower = d ∧ d ≠ 'i' ∧ d ≠ 'n' := by
  decide

theorem splitSign_of_unsigned {d : Char} {rest : List Char} (start : d ∈ '.' :: decimalDigits) :
    splitSign (d :: rest) = (false, d :: rest) := by
  obtain ⟨notMinus, notPlus, -⟩ := unsignedStart_facts d start
  simp [splitSign, notMinus, notPlus]

theorem padLeft6_spec {ds : List Char} (short : ds.length ≤ 6) :
    (padLeft6 ds).length = 6 ∧ digitsValue (padLeft6 ds) = digitsValue ds := by
  simp only [padLeft6, List.length_append, List.length_replicate,
    digitsValue_replicate_zero_append, and_true]
  omega

/-- A decimal literal `digits.digits` is read as its exact value. -/
theorem decimalLiteral_point {int frac : List Char} (intDigits : ∀ c ∈ int, c.isDigit)
    (someDigit : int ≠ [] ∨ frac ≠ []) (fracDigits : ∀ c ∈ frac, c.isDigit) :
    decimalLiteral (int ++ '.' :: frac) =
      some ((digitsValue (int ++ frac) : ℚ) / 10 ^ frac.length) := by
  have fracTake : frac.takeWhile Char.isDigit = frac :=
    List.takeWhile_eq_self_iff.mpr fracDigits
  have fracDrop : frac.dropWhile Char.isDigit = [] :=
    List.dropWhile_eq_nil_iff.mpr fracDigits
  have pointNotDigit : '.'.isDigit = false := by decide
  have notBothEmpty : int = [] → frac ≠ [] := fun empty => someDigit.resolve_left (· empty)
  simpa [decimalLiteral, List.takeWhile_append_of_pos intDigits,
    List.dropWhile_append_of_pos intDigits, pointNotDigit, fracTake, fracDrop, exponentValue]
    using notBothEmpty

/-- A decimal literal of digits alone is read as their value. -/
theorem decimalLiteral_digits {ds : List Char} (digits : ∀ c ∈ ds, c.isDigit)
    (nonempty : ds ≠ []) : decimalLiteral ds = some (digitsValue ds : ℚ) := by
  have all : ds.takeWhile Char.isDigit = ds :=
    List.takeWhile_eq_self_iff.mpr digits
  have none : ds.dropWhile Char.isDigit = [] :=
    List.dropWhile_eq_nil_iff.mpr digits
  simp [decimalLiteral, all, none, nonempty, exponentValue]

/-- A literal starting with a digit or a point is unsigned and decimal. -/
theorem floatLiteral_unsigned {d : Char} {rest : List Char} (start : d ∈ '.' :: decimalDigits) :
    floatLiteral (d :: rest) = (decimalLiteral (d :: rest)).map .finite := by
  obtain ⟨-, -, lowerSelf, notI, notN⟩ := unsignedStart_facts d start
  simp [floatLiteral, splitSign_of_unsigned start, lowerSelf, notI, notN]

/-- A literal `-` followed by a digit is the negated decimal. -/
theorem floatLiteral_minus_digit {d : Char} {rest : List Char} (digit : d ∈ decimalDigits) :
    floatLiteral ('-' :: d :: rest) =
      (decimalLiteral (d :: rest)).map fun q => .finite (-q) := by
  obtain ⟨-, -, lowerSelf, notI, notN⟩ := unsignedStart_facts d (List.mem_cons_of_mem _ digit)
  simp [floatLiteral, splitSign, lowerSelf, notI, notN]

theorem decimalDigits_plain : ∀ c ∈ decimalDigits, c ∈ plainNumericChars := by decide

theorem padLeft6_mem_decimalDigits {ds : List Char} (digits : ∀ c ∈ ds, c ∈ decimalDigits) :
    ∀ c ∈ padLeft6 ds, c ∈ decimalDigits := by
  intro c member
  rcases List.mem_append.mp member with zero | digit
  · rw [List.eq_of_mem_replicate zero]; decide
  · exact digits c digit

theorem fixedText_plain (negative : Bool) (scaled : Nat) :
    PlainNumeric (fixedText negative scaled) := by
  intro c member
  unfold fixedText at member
  rcases List.mem_append.mp member with front | frac
  · rcases List.mem_append.mp front with sign | int
    · have minus : c = '-' := by
        split at sign
        · exact List.mem_singleton.mp sign
        · exact absurd sign (List.not_mem_nil c)
      rw [minus]; decide
    · exact decimalDigits_plain c (natRepr_mem_decimalDigits _ c int)
  · rcases List.mem_cons.mp frac with point | frac
    · rw [point]; decide
    · exact decimalDigits_plain c
        (padLeft6_mem_decimalDigits (natRepr_mem_decimalDigits _) c frac)

/-- Reading back the `.6f` text gives its value exactly. -/
theorem pyFloat_fixedText (negative : Bool) (scaled : Nat) :
    pyFloat (fixedText negative scaled) =
      .ok (.finite (if negative then -((scaled : ℚ) / 10 ^ 6) else (scaled : ℚ) / 10 ^ 6)) := by
  obtain ⟨fracLength, fracValue⟩ := @padLeft6_spec (natRepr (scaled % 10 ^ 6))
    (natRepr_length_le (Nat.mod_lt _ (by positivity)) (by decide))
  have fracDigits := padLeft6_mem_decimalDigits (natRepr_mem_decimalDigits (scaled % 10 ^ 6))
  obtain ⟨d, rest, shape⟩ := List.exists_cons_of_ne_nil (natRepr_ne_nil (scaled / 10 ^ 6))
  have intDigits := natRepr_mem_decimalDigits (scaled / 10 ^ 6)
  have headDigit : d ∈ decimalDigits := intDigits d (shape ▸ List.mem_cons_self d rest)
  -- the digits after the optional sign are read as `scaled / 10 ^ 6`
  have literal : decimalLiteral (d :: (rest ++ '.' :: padLeft6 (natRepr (scaled % 10 ^ 6)))) =
      some ((scaled : ℚ) / 10 ^ 6) := by
    have point := decimalLiteral_point (fun c member => mem_decimalDigits_iff.mp (intDigits c member))
      (.inl (natRepr_ne_nil _)) (fun c member => mem_decimalDigits_iff.mp (fracDigits c member))
    rw [digitsValue_append, fracLength, fracValue, digitsValue_natRepr, digitsValue_natRepr,
      Nat.div_add_mod', shape, List.cons_append] at point
    rw [point]
  refine pyFloat_of_plain (fixedText_plain negative scaled) ?_
  unfold fixedText
  rw [shape]
  cases negative
  · simp only [Bool.false_eq_true, ↓reduceIte, List.nil_append, List.cons_append,
      List.append_assoc]
    rw [floatLiteral_unsigned (List.mem_cons_of_mem _ headDigit), literal]
    rfl
  · simp only [↓reduceIte, List.singleton_append, List.nil_append, List.cons_append,
      List.append_assoc]
    rw [floatLiteral_minus_digit headDigit, literal]
    rfl

theorem formatFixed6_plain (x : ℚ) : PlainNumeric (formatFixed6 x) :=
  fixedText_plain _ _

/-- Reading back `f"{x:.6f}"` with `float()` gives `x` rounded to six places. -/
theorem pyFloat_formatFixed6 (x : ℚ) :
    pyFloat (formatFixed6 x) = .ok (.finite (round6 x)) := by
  have nNonneg := roundHalfEven_nonneg (show 0 ≤ |x| * 10 ^ 6 by positivity)
  have cast : ((roundHalfEven (|x| * 10 ^ 6)).toNat : ℚ) = roundHalfEven (|x| * 10 ^ 6) := by
    exact_mod_cast Int.toNat_of_nonneg nNonneg
  rw [formatFixed6, pyFloat_fixedText, cast]
  by_cases negative : x < 0
  · have scaled : roundHalfEven (x * 10 ^ 6) = -roundHalfEven (|x| * 10 ^ 6) := by
      rw [← roundHalfEven_neg, abs_of_neg negative]; ring_nf
    simp [negative, round6, scaled, neg_div]
  · rw [abs_of_nonneg (not_lt.mp negative)]
    simp [negative, round6]

end AgenticEbpf.Python
