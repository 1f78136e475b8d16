import AgenticEbpf.Python.Number
import Mathlib.Algebra.Order.BigOperators.Group.List

/-!
# `statistics.mean` and `statistics.pstdev`

The scoring step of both summary scripts averages the workers' figures with
`statistics.mean` and measures their spread with `statistics.pstdev`. With exact
arithmetic the mean is a rational, but the standard deviation is the square root of one,
so it is kept as a `SquareRoot`: the rational under the root, which is never negative.
The `.6f` format of such a value rounds `√v · 10⁶` to the nearest integer; that integer
is `sqrtRoundHalfEven (v · 10¹²)`, found from `Nat.sqrt` and one comparison of squares.
CPython rounds twice instead, first the root to a double and then that double to six
places, so the two texts can differ in the last place near a tie.
-/

namespace AgenticEbpf.Python

/-- `statistics.mean(data)` for non-empty data. -/
def mean (data : List ℚ) : ℚ :=
  data.sum / data.length

theorem mean_nonneg {data : List ℚ} (nonneg : ∀ x ∈ data, 0 ≤ x) : 0 ≤ mean data :=
  div_nonneg (List.sum_nonneg nonneg) (Nat.cast_nonneg _)

/-- The mean of values that are never negative is positive once one of them is. -/
theorem mean_pos {data : List ℚ} (nonneg : ∀ x ∈ data, 0 ≤ x) {x : ℚ} (member : x ∈ data)
    (positive : 0 < x) : 0 < mean data :=
  div_pos (positive.trans_le (List.single_le_sum nonneg x member))
    (Nat.cast_pos.mpr (List.length_pos_of_mem member))

/-- `statistics.pvariance(data)`: the mean of the squared deviations from the mean. -/
def pvariance (data : List ℚ) : ℚ :=
  (data.map fun x => (x - mean data) ^ 2).sum / data.length

theorem pvariance_nonneg (data : List ℚ) : 0 ≤ pvariance data :=
  div_nonneg (List.sum_nonneg fun _ member => by
    obtain ⟨x, -, rfl⟩ := List.mem_map.mp member
    positivity) (Nat.cast_nonneg _)

/-- The square root of a non-negative rational, kept exact as the rational. -/
structure SquareRoot where
  radicand : ℚ
  nonneg : 0 ≤ radicand

/-- `0.0`, the spread the scripts record for a single worker. -/
def SquareRoot.zero : SquareRoot :=
  ⟨0, le_refl 0⟩

/-- `statistics.pstdev(data)`. -/
def pstdev (data : List ℚ) : SquareRoot :=
  ⟨pvariance data, pvariance_nonneg data⟩

/-- The integer nearest to `√q`, ties to the even one. `⌊√q⌋` is `Nat.sqrt ⌊q⌋`, and `√q`
is compared with `⌊√q⌋ + 1/2` through their squares. -/
def sqrtRoundHalfEven (q : ℚ) : Nat :=
  let below := Nat.sqrt ⌊q⌋₊
  let half : ℚ := (below + 1 / 2) ^ 2
  if q < half then below
  else if half < q then below + 1
  else if below % 2 = 0 then below else below + 1

/-- `f"{x:.6f}"` for `x = √v`. -/
def SquareRoot.formatFixed6 (root : SquareRoot) : List Char :=
  fixedText false (sqrtRoundHalfEven (root.radicand * 10 ^ 12))

example : SquareRoot.formatFixed6 ⟨2, by norm_num⟩ = "1.414214".toList := by
  have root : Nat.sqrt 2000000000000 = 1414213 :=
    (Nat.eq_sqrt.mpr ⟨by norm_num, by norm_num⟩).symm
  simp only [SquareRoot.formatFixed6, sqrtRoundHalfEven]
  norm_num [root]
  decide

end AgenticEbpf.Python
