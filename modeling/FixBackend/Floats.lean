import Mathlib
/-!
# Floats — the numbers that floats are

The floats of Python are those of Lean, in the binary64 format.  A finite one has an exact value, and comparisons are
those of the values (`lt_iff`).  Sums are compensated for what rounding loses, as in `sum` of Python 3.12.
-/
namespace Floats

open Float.Model (UnpackedFloat Format)
open Float.Model.UnpackedFloat (Sign)

/-! ## Exact values -/

/-- The number that an encoding stands for; infinities and NaN stand for none. -/
def value : UnpackedFloat → Option ℚ
  | .infinity _ => none
  | .notANumber => none
  | .zero _ => some 0
  | .finite sign mantissa exponent _ => some (sign.apply mantissa * 2 ^ exponent)

def exact (x : Float) : Option ℚ := value x.toModel.unpack

/-- The mantissa is as long as it can be. -/
structure Canonical (mantissa : ℕ) (exponent : ℤ) : Prop where
  lt : mantissa < 2 ^ 53
  least : -1074 ≤ exponent
  long : 2 ^ 52 ≤ mantissa ∨ exponent = -1074

theorem canonical_unpack {x : Float.Model} {sign : Sign} {mantissa : ℕ} {exponent : ℤ} {hpos : 0 < mantissa}
    (h : x.unpack = .finite sign mantissa exponent hpos) : Canonical mantissa exponent := by
  have hbias : (Format.binary64.exponentBias : ℤ) = 1023 := by decide
  have hlt := (@Float.Model.UnpackedFloat.unpackMantissa Format.binary64 x.toBits.toBitVec).isLt
  unfold Float.Model.unpack Float.Model.UnpackedFloat.unpack at h
  dsimp only at h hlt
  split_ifs at h with hspecial hinf hzero hfraction
  · obtain ⟨-, rfl, hexponent⟩ := UnpackedFloat.finite.inj h
    rw [hzero, hbias] at hexponent
    have hleast : exponent = -1074 := hexponent.symm
    exact ⟨hlt.trans (by norm_num), hleast.ge, Or.inr hleast⟩
  · obtain ⟨-, hmantissa, hexponent⟩ := UnpackedFloat.finite.inj h
    rw [BitVec.toNat_append, ← Nat.shiftLeft_add_eq_or_of_lt hlt] at hmantissa
    have himplicit : 2 ^ 52 + _ = mantissa := hmantissa
    have hnormal := BitVec.toNat_pos_of_ne_zero hzero
    rw [hbias] at hexponent
    push_cast at hexponent
    exact ⟨by omega, by omega, Or.inl (by omega)⟩

/-! ## Comparisons -/

theorem Canonical.lt_of_exponent {m m' : ℕ} {e e' : ℤ} (h : Canonical m e) (h' : Canonical m' e') (he : e < e') :
    (m * 2 ^ e : ℚ) < m' * 2 ^ e' := by
  have hlong : 2 ^ 52 ≤ m' := h'.long.resolve_right (by have := h.least; omega)
  have hlt := h.lt
  calc (m * 2 ^ e : ℚ) < 2 ^ 53 * 2 ^ e := by gcongr; exact_mod_cast hlt
    _ = 2 ^ 52 * 2 ^ (e + 1) := by rw [zpow_add₀ two_ne_zero]; ring
    _ ≤ m' * 2 ^ e' := by
      gcongr
      · exact_mod_cast hlong
      · norm_num
      · omega

theorem Canonical.compare_eq {m m' : ℕ} {e e' : ℤ} (h : Canonical m e) (h' : Canonical m' e') :
    compare (m * 2 ^ e : ℚ) (m' * 2 ^ e') = (compare e e').then (compare m m') := by
  rcases lt_trichotomy e e' with he | rfl | he
  · rw [compare_lt_iff_lt.2 (h.lt_of_exponent h' he), compare_lt_iff_lt.2 he]
    rfl
  · have hpos : (0 : ℚ) < 2 ^ e := by positivity
    rw [compare_eq_iff_eq.2 (rfl : e = e), Ordering.then]
    rcases lt_trichotomy m m' with hm | rfl | hm
    · rw [compare_lt_iff_lt.2 hm, compare_lt_iff_lt]
      exact (mul_lt_mul_iff_left₀ hpos).2 (Nat.cast_lt.2 hm)
    · rw [compare_eq_iff_eq.2 rfl, compare_eq_iff_eq.2 rfl]
    · rw [compare_gt_iff_gt.2 hm, compare_gt_iff_gt]
      exact (mul_lt_mul_iff_left₀ hpos).2 (Nat.cast_lt.2 hm)
  · rw [compare_gt_iff_gt.2 (h'.lt_of_exponent h he), compare_gt_iff_gt.2 he]
    rfl

theorem compare_neg (p q : ℚ) : compare (-p) (-q) = (compare p q).swap := by
  rcases lt_trichotomy p q with h | rfl | h
  · rw [compare_lt_iff_lt.2 h, compare_gt_iff_gt.2 (neg_lt_neg h), Ordering.swap]
  · rw [compare_eq_iff_eq.2 rfl, compare_eq_iff_eq.2 rfl, Ordering.swap]
  · rw [compare_gt_iff_gt.2 h, compare_lt_iff_lt.2 (neg_lt_neg h), Ordering.swap]

section Finite

variable {s s' : Sign} {m m' : ℕ} {e e' : ℤ} (hm : 0 < m) (hm' : 0 < m')

include hm in
theorem compare_apply_zero (s : Sign) (e : ℤ) : compare (s.apply m * 2 ^ e : ℚ) 0 =
    match s with | .negative => .lt | .positive => .gt := by
  have hpos : (0 : ℚ) < m * 2 ^ e := by positivity
  cases s with
  | negative => simp [Sign.apply, compare_lt_iff_lt.2 (neg_lt_zero.2 hpos)]
  | positive => simp [Sign.apply, compare_gt_iff_gt.2 hpos]

theorem compare_finite_zero : UnpackedFloat.compare (.finite s m e hm) (.zero s') =
    some (compare (s.apply m * 2 ^ e : ℚ) 0) := by
  rw [compare_apply_zero hm]
  cases s <;> rfl

theorem compare_zero_finite : UnpackedFloat.compare (.zero s') (.finite s m e hm) =
    some (compare 0 (s.apply m * 2 ^ e : ℚ)) := by
  rw [Std.OrientedOrd.eq_swap, compare_apply_zero hm]
  cases s <;> rfl

theorem compare_finite (h : Canonical m e) (h' : Canonical m' e') :
    UnpackedFloat.compare (.finite s m e hm) (.finite s' m' e' hm') =
      some (compare (s.apply m * 2 ^ e : ℚ) (s'.apply m' * 2 ^ e')) := by
  have hpos : (0 : ℚ) < m * 2 ^ e := by positivity
  have hpos' : (0 : ℚ) < m' * 2 ^ e' := by positivity
  have hcompare := h.compare_eq h'
  cases s <;> cases s'
  · simp [UnpackedFloat.compare, Sign.apply, compare_neg, hcompare]
  · have hlt : compare (-(m * 2 ^ e : ℚ)) (m' * 2 ^ e') = .lt := compare_lt_iff_lt.2 (by linarith)
    simp [UnpackedFloat.compare, Sign.apply, hlt]
  · have hgt : compare (m * 2 ^ e : ℚ) (-(m' * 2 ^ e')) = .gt := compare_gt_iff_gt.2 (by linarith)
    simp [UnpackedFloat.compare, Sign.apply, hgt]
  · simp [UnpackedFloat.compare, Sign.apply, hcompare]

end Finite

theorem compare_exact {x y : Float} {p q : ℚ} (hx : exact x = some p) (hy : exact y = some q) :
    x.toModel.unpack.compare y.toModel.unpack = some (compare p q) := by
  unfold exact at hx hy
  cases hux : x.toModel.unpack with
  | infinity s => rw [hux] at hx; cases hx
  | notANumber => rw [hux] at hx; cases hx
  | zero s =>
    rw [hux] at hx
    cases hx
    cases huy : y.toModel.unpack with
    | infinity s' => rw [huy] at hy; cases hy
    | notANumber => rw [huy] at hy; cases hy
    | zero s' =>
      rw [huy] at hy
      cases hy
      simp [UnpackedFloat.compare]
    | finite s' m' e' hm' =>
      rw [huy] at hy
      cases hy
      exact compare_zero_finite hm'
  | finite s m e hm =>
    rw [hux] at hx
    cases hx
    cases huy : y.toModel.unpack with
    | infinity s' => rw [huy] at hy; cases hy
    | notANumber => rw [huy] at hy; cases hy
    | zero s' =>
      rw [huy] at hy
      cases hy
      exact compare_finite_zero hm
    | finite s' m' e' hm' =>
      rw [huy] at hy
      cases hy
      exact compare_finite hm hm' (canonical_unpack hux) (canonical_unpack huy)

theorem lt_iff {x y : Float} {p q : ℚ} (hx : exact x = some p) (hy : exact y = some q) : x < y ↔ p < q := by
  change decide ((x.toModel.unpack.compare y.toModel.unpack == some .lt) = true) = true ↔ _
  rw [decide_eq_true_iff, beq_iff_eq, compare_exact hx hy, Option.some.injEq, compare_lt_iff_lt]

theorem beq_iff {x y : Float} {p q : ℚ} (hx : exact x = some p) (hy : exact y = some q) : (x == y) = true ↔ p = q := by
  change (x.toModel.unpack.compare y.toModel.unpack == some .eq) = true ↔ _
  rw [beq_iff_eq, compare_exact hx hy, Option.some.injEq, compare_eq_iff_eq]

/-! ## Numbers -/

/-- A number of Python: an integer of any size, or a float. -/
inductive Number where
  | int (n : ℤ)
  | float (x : Float)
deriving DecidableEq

namespace Number

def exact : Number → Option ℚ
  | int n => some n
  | float x => Floats.exact x

def falsy : Number → Bool
  | int n => n == 0
  | float x => x == 0

/-- `float`, which raises when an integer is too large. -/
def toFloat : Number → Option Float
  | int n => if (Float.ofInt n).isFinite then some (Float.ofInt n) else none
  | float x => some x

theorem falsy_iff {v : Number} {q : ℚ} (h : v.exact = some q) : v.falsy = true ↔ q = 0 := by
  cases v with
  | int n =>
    cases h
    simp [falsy]
  | float x =>
    have hzero : Floats.exact 0 = some 0 := by decide +kernel
    exact beq_iff h hzero

end Number

/-! ## Sums -/

/-- A sum, and what rounding has taken from it so far. -/
structure Compensated where
  sum : Float
  lost : Float

/-- The step of Neumaier's algorithm: of the two numbers that are added the smaller one loses digits. -/
def Compensated.add (s : Compensated) (x : Float) : Compensated :=
  let t := s.sum + x
  if x.abs ≤ s.sum.abs then ⟨t, s.lost + (s.sum - t + x)⟩ else ⟨t, s.lost + (x - t + s.sum)⟩

def Compensated.total (s : Compensated) : Float := if s.lost != 0 && s.lost.isFinite then s.sum + s.lost else s.sum

/-- `sum` of some floats.  It starts from the integer zero, which becomes a float with the first of them. -/
def sum : List Float → Float
  | [] => 0
  | x :: xs => (xs.foldl Compensated.add ⟨0 + x, 0⟩).total

/-- Each of the ones is lost when it is added, but not the two of them. -/
example : sum [1e16, 1, 1] = 1e16 + 2 := by decide +kernel

end Floats
