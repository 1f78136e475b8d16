import AgenticEbpf.Python.Number

/-!
# Unit parsing (`parse_latency`, `parse_throughput`)

wrk prints a latency as a number and a unit (`12.34ms`) and a rate as a number and an
optional scale (`2.5k`). `basic-workload-summary.py` reads both with one regular
expression of the shape `([0-9]*\.?[0-9]+)(UNIT)` and a table of factors:

* `parse_latency` applies `([0-9]*\.?[0-9]+)([a-z]+)` to `token.lower()` and scales by
  `_LATENCY_UNITS_MS` (`us`, `ms`, `s`);
* `parse_throughput` strips the token, maps `nan`, `-nan`, `+nan` to `0`, applies
  `([0-9]*\.?[0-9]+)([kmg]?)` and scales by `_THROUGHPUT_SUFFIXES`.

`numberUnitMatch` is the `fullmatch` of that shape for any unit pattern whose texts hold
no digit and no point; `numberUnitMatch_eq_some` says it accepts exactly the texts
`number ++ unit` with `number` in the language of `[0-9]*\.?[0-9]+`. From it,
`parseLatency_eq_ok_iff` and `parseThroughput_eq_ok_iff` give every accepted token and
its value, and `parseLatency_nonneg`, `parseThroughput_nonneg` that no value is negative.
-/

namespace AgenticEbpf.Summary

open AgenticEbpf.Python

/-! ## The number pattern `[0-9]*\.?[0-9]+` -/

/-- The language of `[0-9]*\.?[0-9]+`: digits, an optional point, at least one digit. -/
def NumeralText (d : List Char) : Prop :=
  ∃ whole point frac, d = whole ++ point ++ frac ∧ (∀ c ∈ whole, c.isDigit) ∧
    (point = [] ∨ point = ['.']) ∧ frac ≠ [] ∧ ∀ c ∈ frac, c.isDigit

/-- Membership in `[0-9]*\.?[0-9]+`, decided. -/
def isNumeral (d : List Char) : Bool :=
  match d.dropWhile Char.isDigit with
  | [] => !d.isEmpty
  | '.' :: frac => !frac.isEmpty && frac.all Char.isDigit
  | _ => false

theorem isNumeral_iff (d : List Char) : isNumeral d = true ↔ NumeralText d := by
  have split := List.takeWhile_append_dropWhile Char.isDigit d
  have wholeDigits : ∀ c ∈ d.takeWhile Char.isDigit, c.isDigit := fun c member =>
    List.mem_takeWhile_imp member
  constructor
  · intro accepted
    unfold isNumeral at accepted
    split at accepted
    · rename_i rest
      refine ⟨[], [], d, by simp, by simp, .inl rfl, by simpa using accepted, ?_⟩
      exact List.dropWhile_eq_nil_iff.mp rest
    · rename_i frac rest
      simp only [Bool.and_eq_true, Bool.not_eq_true', List.isEmpty_eq_false,
        List.all_eq_true] at accepted
      refine ⟨d.takeWhile Char.isDigit, ['.'], frac, ?_, wholeDigits, .inr rfl,
        accepted.1, accepted.2⟩
      rw [rest] at split
      simpa using split.symm
    · simp at accepted
  · rintro ⟨whole, point, frac, rfl, wholeAll, rfl | rfl, nonempty, fracAll⟩
    · have allDigits : ∀ c ∈ whole ++ frac, c.isDigit := by
        simpa using fun c member => member.elim (wholeAll c) (fracAll c)
      simp [isNumeral, List.dropWhile_eq_nil_iff.mpr allDigits, nonempty]
    · have pointNotDigit : '.'.isDigit = false := by decide
      simpa [isNumeral, List.dropWhile_append_of_pos wholeAll, pointNotDigit, nonempty]
        using fracAll

/-- `float(number)` for a text the number pattern accepted: its exact decimal value. -/
def numeralValue (d : List Char) : ℚ :=
  (decimalLiteral d).getD 0

/-! ## `fullmatch` of `([0-9]*\.?[0-9]+)(UNIT)` -/

/-- The characters of the number group: digits and the point. -/
def isNumeralChar (c : Char) : Bool :=
  c.isDigit || c == '.'

/-- `re.fullmatch(r"([0-9]*\.?[0-9]+)(UNIT)", s)` for a unit pattern `unitOk` none of
whose texts holds a digit or a point: the number ends at the last digit or point, the
unit is what follows, and both groups must be in their languages. -/
def numberUnitMatch (unitOk : List Char → Bool) (s : List Char) :
    Option (List Char × List Char) :=
  let number := s.rdropWhile fun c => !isNumeralChar c
  let unit := s.rtakeWhile fun c => !isNumeralChar c
  if isNumeral number && unitOk unit then some (number, unit) else none

theorem rdropWhile_append_rtakeWhile {p : Char → Bool} (s : List Char) :
    s.rdropWhile p ++ s.rtakeWhile p = s := by
  simp [List.rdropWhile, List.rtakeWhile, ← List.reverse_append]

theorem rdropWhile_rtakeWhile_of_append {p : Char → Bool} {d u : List Char}
    (unitAll : ∀ c ∈ u, p c) (lastFails : ∀ nonempty : d ≠ [], ¬p (d.getLast nonempty)) :
    (d ++ u).rdropWhile p = d ∧ (d ++ u).rtakeWhile p = u := by
  induction u using List.reverseRecOn with
  | nil =>
      exact ⟨by simpa using List.rdropWhile_eq_self_iff.mpr lastFails,
        by simpa using List.rtakeWhile_eq_nil_iff.mpr lastFails⟩
  | append_singleton u c ih =>
      have cHolds := unitAll c (by simp)
      obtain ⟨dropped, taken⟩ := ih fun x member => unitAll x (by simp [member])
      rw [← List.append_assoc, List.rdropWhile_concat_pos _ _ _ cHolds,
        List.rtakeWhile_concat_pos _ _ _ cHolds, dropped, taken]
      exact ⟨rfl, rfl⟩

theorem NumeralText.last_isNumeralChar {d : List Char} (numeral : NumeralText d) :
    ∀ nonempty : d ≠ [], isNumeralChar (d.getLast nonempty) = true := by
  obtain ⟨whole, point, frac, rfl, -, -, fracNonempty, fracAll⟩ := numeral
  intro nonempty
  rw [List.getLast_append_of_ne_nil fracNonempty]
  simp [isNumeralChar, fracAll _ (List.getLast_mem fracNonempty)]

/-- The match succeeds exactly on `number ++ unit`, number in `[0-9]*\.?[0-9]+`, unit in
the unit pattern; the groups are that split. -/
theorem numberUnitMatch_eq_some {unitOk : List Char → Bool}
    (unitPlain : ∀ u, unitOk u = true → ∀ c ∈ u, isNumeralChar c = false)
    (s number unit : List Char) :
    numberUnitMatch unitOk s = some (number, unit) ↔
      s = number ++ unit ∧ NumeralText number ∧ unitOk unit = true := by
  constructor
  · intro matched
    simp only [numberUnitMatch, Bool.and_eq_true, Option.ite_none_right_eq_some,
      Option.some.injEq, Prod.mk.injEq] at matched
    obtain ⟨⟨numeral, unitAccepted⟩, rfl, rfl⟩ := matched
    exact ⟨(rdropWhile_append_rtakeWhile s).symm, (isNumeral_iff _).mp numeral, unitAccepted⟩
  · rintro ⟨rfl, numeral, unitAccepted⟩
    obtain ⟨dropped, taken⟩ := @rdropWhile_rtakeWhile_of_append (fun c => !isNumeralChar c)
      number unit (fun c member => by simp [unitPlain unit unitAccepted c member])
      (fun nonempty => by simp [numeral.last_isNumeralChar nonempty])
    simp [numberUnitMatch, dropped, taken, (isNumeral_iff number).mpr numeral, unitAccepted]

/-! ## The value of a number -/

/-- `d` is in `[0-9]*\.?[0-9]+` and `value` is its exact decimal value: the digits read
as an integer, scaled down by the number of digits after the point. -/
def DecimalNumeral (d : List Char) (value : ℚ) : Prop :=
  ∃ whole point frac, d = whole ++ point ++ frac ∧ (∀ c ∈ whole, c.isDigit) ∧
    (point = [] ∨ point = ['.']) ∧ frac ≠ [] ∧ (∀ c ∈ frac, c.isDigit) ∧
    value = (digitsValue (whole ++ frac) : ℚ) / 10 ^ (if point = [] then 0 else frac.length)

theorem decimalLiteral_numeral {whole point frac : List Char} (wholeAll : ∀ c ∈ whole, c.isDigit)
    (pointShape : point = [] ∨ point = ['.']) (nonempty : frac ≠ [])
    (fracAll : ∀ c ∈ frac, c.isDigit) :
    decimalLiteral (whole ++ point ++ frac) =
      some ((digitsValue (whole ++ frac) : ℚ) / 10 ^ (if point = [] then 0 else frac.length)) := by
  rcases pointShape with rfl | rfl
  · have all : ∀ c ∈ whole ++ frac, c.isDigit := fun c member =>
      (List.mem_append.mp member).elim (wholeAll c) (fracAll c)
    simpa using decimalLiteral_digits all (by simp [nonempty])
  · simpa using decimalLiteral_point wholeAll (.inr nonempty) fracAll

/-- The value `numeralValue` gives a numeral is its exact decimal value. -/
theorem numeralText_iff_decimalNumeral (d : List Char) :
    NumeralText d ↔ DecimalNumeral d (numeralValue d) := by
  constructor
  · rintro ⟨whole, point, frac, rfl, wholeAll, pointShape, nonempty, fracAll⟩
    exact ⟨whole, point, frac, rfl, wholeAll, pointShape, nonempty, fracAll,
      by rw [numeralValue, decimalLiteral_numeral wholeAll pointShape nonempty fracAll]; rfl⟩
  · rintro ⟨whole, point, frac, shape, wholeAll, pointShape, nonempty, fracAll, -⟩
    exact ⟨whole, point, frac, shape, wholeAll, pointShape, nonempty, fracAll⟩

theorem DecimalNumeral.numeralValue_eq {d : List Char} {value : ℚ}
    (numeral : DecimalNumeral d value) : numeralValue d = value := by
  obtain ⟨whole, point, frac, rfl, wholeAll, pointShape, nonempty, fracAll, rfl⟩ := numeral
  rw [numeralValue, decimalLiteral_numeral wholeAll pointShape nonempty fracAll]
  rfl

theorem DecimalNumeral.nonneg {d : List Char} {value : ℚ} (numeral : DecimalNumeral d value) :
    0 ≤ value := by
  obtain ⟨-, -, -, -, -, -, -, -, rfl⟩ := numeral
  positivity

/-! ## `parse_latency` and `parse_throughput` -/

/-- `_LATENCY_UNITS_MS`: milliseconds per unit. -/
def latencyUnitsMs : List (List Char × ℚ) :=
  [(['u', 's'], 1 / 1000), (['m', 's'], 1), (['s'], 1000)]

/-- `_THROUGHPUT_SUFFIXES`: requests per second per unit of the suffix. -/
def throughputSuffixes : List (List Char × ℚ) :=
  [([], 1), (['k'], 1000), (['m'], 1000000), (['g'], 1000000000)]

/-- The unit group `([a-z]+)`. -/
def latencyUnitPattern (u : List Char) : Bool :=
  !u.isEmpty && u.all Char.isLower

/-- The suffix group `([kmg]?)`. -/
def throughputSuffixPattern (u : List Char) : Bool :=
  u.isEmpty || u == ['k'] || u == ['m'] || u == ['g']

/-- `re.fullmatch(r"([0-9]*\.?[0-9]+)([a-z]+)", s)`. -/
def latencyMatch (s : List Char) : Option (List Char × List Char) :=
  numberUnitMatch latencyUnitPattern s

/-- `re.fullmatch(r"([0-9]*\.?[0-9]+)([kmg]?)", s)`. -/
def throughputMatch (s : List Char) : Option (List Char × List Char) :=
  numberUnitMatch throughputSuffixPattern s

/-- `parse_latency(token)`: milliseconds. -/
def parseLatency (token : List Char) : Except PyError ℚ :=
  match latencyMatch (lower token) with
  | none => .error (.valueError ("Unrecognized latency value: " ++ String.mk (repr token)))
  | some (number, unit) =>
      match latencyUnitsMs.lookup unit with
      | none => .error (.valueError ("Unsupported latency unit: " ++ String.mk (repr token)))
      | some factor => .ok (numeralValue number * factor)

/-- The texts `parse_throughput` reads as zero. -/
def nanTexts : List (List Char) :=
  [['n', 'a', 'n'], ['-', 'n', 'a', 'n'], ['+', 'n', 'a', 'n']]

/-- `parse_throughput(token)`: requests per second. -/
def parseThroughput (token : List Char) : Except PyError ℚ :=
  let token := strip token
  if lower token ∈ nanTexts then .ok 0
  else match throughputMatch (lower token) with
    | none => .error (.valueError ("Unrecognized throughput value: " ++ String.mk (repr token)))
    | some (number, suffix) =>
        match throughputSuffixes.lookup suffix with
        | none => .error (.valueError ("Unsupported throughput suffix: " ++ String.mk (repr token)))
        | some factor => .ok (numeralValue number * factor)

/-! ## Which tokens parse, and to what -/

theorem isNumeralChar_of_isLower {c : Char} (lowerCase : c.isLower = true) :
    isNumeralChar c = false := by
  simp only [Char.isLower, Bool.and_eq_true, decide_eq_true_eq] at lowerCase
  have bounds : 97 ≤ c.toNat ∧ c.toNat ≤ 122 := ⟨lowerCase.1, lowerCase.2⟩
  have notPoint : c ≠ '.' := by rintro rfl; simp at bounds
  simp only [isNumeralChar, Char.isDigit, Bool.or_eq_false_iff, Bool.and_eq_false_iff,
    decide_eq_false_iff_not, beq_eq_false_iff_ne, ne_eq, notPoint, not_false_eq_true, and_true]
  show ¬48 ≤ c.toNat ∨ ¬c.toNat ≤ 57
  omega

theorem lookup_latencyUnitsMs (unit : List Char) (factor : ℚ) :
    latencyUnitsMs.lookup unit = some factor ↔
      unit = ['u', 's'] ∧ factor = 1 / 1000 ∨ unit = ['m', 's'] ∧ factor = 1 ∨
        unit = ['s'] ∧ factor = 1000 := by
  by_cases us : unit = ['u', 's']
  · subst us; simp [latencyUnitsMs, eq_comm]
  by_cases ms : unit = ['m', 's']
  · subst ms; simp +decide [latencyUnitsMs, List.lookup_cons, eq_comm]
  by_cases s : unit = ['s']
  · subst s; simp +decide [latencyUnitsMs, List.lookup_cons, eq_comm]
  simp [latencyUnitsMs, List.lookup_cons, beq_false_of_ne us, beq_false_of_ne ms,
    beq_false_of_ne s, us, ms, s]

theorem lookup_throughputSuffixes (suffix : List Char) (factor : ℚ) :
    throughputSuffixes.lookup suffix = some factor ↔
      suffix = [] ∧ factor = 1 ∨ suffix = ['k'] ∧ factor = 10 ^ 3 ∨
        suffix = ['m'] ∧ factor = 10 ^ 6 ∨ suffix = ['g'] ∧ factor = 10 ^ 9 := by
  by_cases none : suffix = []
  · subst none; norm_num [throughputSuffixes, eq_comm]
  by_cases k : suffix = ['k']
  · subst k; simp +decide [throughputSuffixes, List.lookup_cons, eq_comm]; norm_num
  by_cases m : suffix = ['m']
  · subst m; simp +decide [throughputSuffixes, List.lookup_cons, eq_comm]; norm_num
  by_cases g : suffix = ['g']
  · subst g; simp +decide [throughputSuffixes, List.lookup_cons, eq_comm]; norm_num
  simp [throughputSuffixes, List.lookup_cons, beq_false_of_ne none, beq_false_of_ne k,
    beq_false_of_ne m, beq_false_of_ne g, none, k, m, g]

theorem latencyUnitPattern_plain :
    ∀ u, latencyUnitPattern u = true → ∀ c ∈ u, isNumeralChar c = false := by
  intro u accepted c member
  simp only [latencyUnitPattern, Bool.and_eq_true, List.all_eq_true] at accepted
  exact isNumeralChar_of_isLower (accepted.2 c member)

theorem throughputSuffixPattern_plain :
    ∀ u, throughputSuffixPattern u = true → ∀ c ∈ u, isNumeralChar c = false := by
  intro u accepted c member
  simp only [throughputSuffixPattern, Bool.or_eq_true, List.isEmpty_iff, beq_iff_eq] at accepted
  rcases accepted with ((rfl | rfl) | rfl) | rfl <;> simp_all <;> decide

theorem parseLatency_of_match {token number unit : List Char} {factor : ℚ}
    (matched : latencyMatch (lower token) = some (number, unit))
    (found : latencyUnitsMs.lookup unit = some factor) :
    parseLatency token = .ok (numeralValue number * factor) := by
  simp [parseLatency, matched, found]

theorem parseThroughput_of_match {token number suffix : List Char} {factor : ℚ}
    (notNan : lower (strip token) ∉ nanTexts)
    (matched : throughputMatch (lower (strip token)) = some (number, suffix))
    (found : throughputSuffixes.lookup suffix = some factor) :
    parseThroughput token = .ok (numeralValue number * factor) := by
  simp [parseThroughput, notNan, matched, found]

/-- A latency text (already lowered) and its value in milliseconds, as the conversion
table reads: a numeral followed by `us`, `ms` or `s`, scaled by `10⁻³`, `1`, `10³`. -/
def LatencyReading (text : List Char) (value : ℚ) : Prop :=
  ∃ number numberValue, DecimalNumeral number numberValue ∧
    (text = number ++ ['u', 's'] ∧ value = numberValue / 10 ^ 3 ∨
      text = number ++ ['m', 's'] ∧ value = numberValue ∨
      text = number ++ ['s'] ∧ value = numberValue * 10 ^ 3)

/-- A rate text (already stripped and lowered) and its value in requests per second:
`nan`, `-nan`, `+nan` read as zero; otherwise a numeral followed by nothing, `k`, `m` or
`g`, scaled by `1`, `10³`, `10⁶`, `10⁹`. -/
def ThroughputReading (text : List Char) (value : ℚ) : Prop :=
  (text ∈ nanTexts ∧ value = 0) ∨
    (text ∉ nanTexts ∧ ∃ number numberValue, DecimalNumeral number numberValue ∧
      (text = number ∧ value = numberValue ∨
        text = number ++ ['k'] ∧ value = numberValue * 10 ^ 3 ∨
        text = number ++ ['m'] ∧ value = numberValue * 10 ^ 6 ∨
        text = number ++ ['g'] ∧ value = numberValue * 10 ^ 9))

/-- `parse_latency` accepts exactly a numeral followed by `us`, `ms` or `s` (after
`lower()`), and returns its value in milliseconds. -/
theorem parseLatency_eq_ok_iff (token : List Char) (value : ℚ) :
    parseLatency token = .ok value ↔ LatencyReading (lower token) value := by
  have matchIff := numberUnitMatch_eq_some latencyUnitPattern_plain (lower token)
  unfold LatencyReading
  constructor
  · intro parsed
    unfold parseLatency at parsed
    split at parsed
    · cases parsed
    rename_i number unit matched
    obtain ⟨shape, numeral, -⟩ := (matchIff number unit).mp matched
    split at parsed
    · cases parsed
    rename_i factor found
    cases parsed
    refine ⟨number, numeralValue number, (numeralText_iff_decimalNumeral _).mp numeral, ?_⟩
    rcases (lookup_latencyUnitsMs unit factor).mp found with
      ⟨rfl, rfl⟩ | ⟨rfl, rfl⟩ | ⟨rfl, rfl⟩
    · exact .inl ⟨shape, by ring⟩
    · exact .inr (.inl ⟨shape, by ring⟩)
    · exact .inr (.inr ⟨shape, by ring⟩)
  · rintro ⟨number, numberValue, numeral, cases⟩
    obtain rfl := numeral.numeralValue_eq
    have text := (numeralText_iff_decimalNumeral number).mpr numeral
    have parsed := fun unit factor (shape : lower token = number ++ unit)
        (found : latencyUnitsMs.lookup unit = some factor) (accepted : latencyUnitPattern unit) =>
      parseLatency_of_match ((matchIff number unit).mpr ⟨shape, text, accepted⟩) found
    rcases cases with ⟨shape, rfl⟩ | ⟨shape, rfl⟩ | ⟨shape, rfl⟩
    · rw [parsed _ _ shape ((lookup_latencyUnitsMs _ _).mpr (.inl ⟨rfl, rfl⟩)) rfl]; ring_nf
    · rw [parsed _ _ shape ((lookup_latencyUnitsMs _ _).mpr (.inr (.inl ⟨rfl, rfl⟩))) rfl]
      ring_nf
    · rw [parsed _ _ shape ((lookup_latencyUnitsMs _ _).mpr (.inr (.inr ⟨rfl, rfl⟩))) rfl]
      ring_nf

/-- `parse_throughput` reads `nan`, `-nan`, `+nan` as zero and otherwise accepts exactly
a numeral followed by nothing, `k`, `m` or `g` (after `strip()` and `lower()`), and
returns its value in requests per second. -/
theorem parseThroughput_eq_ok_iff (token : List Char) (value : ℚ) :
    parseThroughput token = .ok value ↔ ThroughputReading (lower (strip token)) value := by
  unfold ThroughputReading
  have matchIff := numberUnitMatch_eq_some throughputSuffixPattern_plain (lower (strip token))
  by_cases nan : lower (strip token) ∈ nanTexts
  · simp [parseThroughput, nan, eq_comm]
  simp only [nan, false_and, not_false_eq_true, true_and, false_or]
  constructor
  · intro parsed
    simp only [parseThroughput, nan, if_false] at parsed
    split at parsed
    · cases parsed
    rename_i number suffix matched
    obtain ⟨shape, numeral, -⟩ := (matchIff number suffix).mp matched
    split at parsed
    · cases parsed
    rename_i factor found
    cases parsed
    refine ⟨number, numeralValue number, (numeralText_iff_decimalNumeral _).mp numeral, ?_⟩
    rcases (lookup_throughputSuffixes suffix factor).mp found with
      ⟨rfl, rfl⟩ | ⟨rfl, rfl⟩ | ⟨rfl, rfl⟩ | ⟨rfl, rfl⟩
    · exact .inl ⟨by simpa using shape, by ring⟩
    · exact .inr (.inl ⟨shape, rfl⟩)
    · exact .inr (.inr (.inl ⟨shape, rfl⟩))
    · exact .inr (.inr (.inr ⟨shape, rfl⟩))
  · rintro ⟨number, numberValue, numeral, cases⟩
    obtain rfl := numeral.numeralValue_eq
    have text := (numeralText_iff_decimalNumeral number).mpr numeral
    have parsed := fun suffix factor (shape : lower (strip token) = number ++ suffix)
        (found : throughputSuffixes.lookup suffix = some factor)
        (accepted : throughputSuffixPattern suffix) =>
      parseThroughput_of_match nan ((matchIff number suffix).mpr ⟨shape, text, accepted⟩) found
    rcases cases with ⟨shape, rfl⟩ | ⟨shape, rfl⟩ | ⟨shape, rfl⟩ | ⟨shape, rfl⟩
    · rw [parsed [] 1 (by simpa using shape)
        ((lookup_throughputSuffixes _ _).mpr (.inl ⟨rfl, rfl⟩)) rfl, mul_one]
    · exact parsed _ _ shape ((lookup_throughputSuffixes _ _).mpr (.inr (.inl ⟨rfl, rfl⟩))) rfl
    · exact parsed _ _ shape
        ((lookup_throughputSuffixes _ _).mpr (.inr (.inr (.inl ⟨rfl, rfl⟩)))) rfl
    · exact parsed _ _ shape
        ((lookup_throughputSuffixes _ _).mpr (.inr (.inr (.inr ⟨rfl, rfl⟩)))) rfl

theorem parseLatency_nonneg {token : List Char} {value : ℚ}
    (parsed : parseLatency token = .ok value) : 0 ≤ value := by
  obtain ⟨number, numberValue, numeral, cases⟩ := (parseLatency_eq_ok_iff token value).mp parsed
  have := numeral.nonneg
  rcases cases with ⟨-, rfl⟩ | ⟨-, rfl⟩ | ⟨-, rfl⟩ <;> positivity

theorem parseThroughput_nonneg {token : List Char} {value : ℚ}
    (parsed : parseThroughput token = .ok value) : 0 ≤ value := by
  rcases (parseThroughput_eq_ok_iff token value).mp parsed with
    ⟨-, rfl⟩ | ⟨-, number, numberValue, numeral, cases⟩
  · rfl
  have := numeral.nonneg
  rcases cases with ⟨-, rfl⟩ | ⟨-, rfl⟩ | ⟨-, rfl⟩ | ⟨-, rfl⟩ <;> positivity

/-- The unit parsers' contract: the tokens each accepts, the value it returns for each,
and that no accepted token has a negative value. -/
theorem unit_parsers_contract :
    (∀ token value, parseLatency token = .ok value ↔ LatencyReading (lower token) value) ∧
      (∀ token value,
        parseThroughput token = .ok value ↔ ThroughputReading (lower (strip token)) value) ∧
      (∀ token value, parseLatency token = .ok value → 0 ≤ value) ∧
      (∀ token value, parseThroughput token = .ok value → 0 ≤ value) :=
  ⟨parseLatency_eq_ok_iff, parseThroughput_eq_ok_iff, fun _ _ => parseLatency_nonneg,
    fun _ _ => parseThroughput_nonneg⟩

example : (parseLatency "1.5S".toList).isOk = true := by decide
example : (parseLatency "5ns".toList).isOk = false := by decide
example : (parseLatency " 5ms".toList).isOk = false := by decide
example : (parseThroughput " -NaN ".toList).isOk = true := by decide

end AgenticEbpf.Summary
