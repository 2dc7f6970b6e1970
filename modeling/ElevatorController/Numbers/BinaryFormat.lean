import ElevatorController.Numbers.RoundEven

/-!
# Numbers/BinaryFormat — binary floating-point formats as exact rationals

A format is a precision, the exponent of its last subnormal place and the exponent its finite
values stay below.  A finite value is an exact rational `m · 2ᵉ`; the two zeros are one.

* `roundFinite` rounds a rational to nearest, ties to even, with no upper bound on the exponent;
  `round` turns an overflow into an infinity.
* `roundFinite_mono`, `roundFinite_of_representable`, `abs_roundFinite_sub_le` — the map is
  monotone, fixes what the format represents, and errs by a relative plus a subnormal half-unit.
-/

/-- A binary floating-point format. -/
structure BinaryFormat where
  precision : ℕ
  minExp : ℤ
  maxExp : ℤ
  precision_pos : 0 < precision
  range : minExp + precision ≤ maxExp

namespace BinaryFormat

/-- IEEE 754 binary32: a C `float`, a BACnet REAL. -/
def binary32 : BinaryFormat := ⟨24, -149, 128, by decide, by decide⟩

/-- IEEE 754 binary64: a C `double`. -/
def binary64 : BinaryFormat := ⟨53, -1074, 1024, by decide, by decide⟩

variable (F : BinaryFormat)

/-! ## The representable rationals -/

/-- `q` has a significand of at most `precision` bits on the format's grid. -/
def Representable (q : ℚ) : Prop :=
  ∃ m e : ℤ, |m| < 2 ^ F.precision ∧ F.minExp ≤ e ∧ q = m * 2 ^ e

/-- `q` is a finite value of the format. -/
def IsFinite (q : ℚ) : Prop := F.Representable q ∧ |q| < 2 ^ F.maxExp

variable {F} in
theorem Representable.neg {q : ℚ} (h : F.Representable q) : F.Representable (-q) := by
  obtain ⟨m, e, hm, he, rfl⟩ := h
  exact ⟨-m, e, by rwa [abs_neg], he, by push_cast; ring⟩

/-! ## Rounding, with no upper bound on the exponent -/

/-- The exponent of the last place of `x` in the format. -/
def ulpExp (x : ℚ) : ℤ := max (Int.log 2 |x| - (F.precision - 1)) F.minExp

/-- The last place of `x` in the format. -/
def ulp (x : ℚ) : ℚ := 2 ^ F.ulpExp x

/-- Round to the format's grid, to nearest, ties to even. -/
def roundFinite (x : ℚ) : ℚ := roundTo (F.ulp x) x

theorem ulp_pos (x : ℚ) : 0 < F.ulp x := zpow_pos two_pos _

@[simp] theorem ulp_neg (x : ℚ) : F.ulp (-x) = F.ulp x := by simp [ulp, ulpExp]

@[simp] theorem roundFinite_zero : F.roundFinite 0 = 0 := roundTo_zero _

@[simp] theorem roundFinite_neg (x : ℚ) : F.roundFinite (-x) = -F.roundFinite x := by
  simp [roundFinite]

theorem minExp_le_ulpExp (x : ℚ) : F.minExp ≤ F.ulpExp x := le_max_right _ _

/-- A rational below `2 ^ (e + precision)` has its last place at `e` or lower. -/
theorem ulpExp_le {x : ℚ} {e : ℤ} (hx : x ≠ 0) (he : F.minExp ≤ e)
    (h : |x| < 2 ^ (e + F.precision)) : F.ulpExp x ≤ e := by
  have hlog := (Int.lt_zpow_iff_log_lt one_lt_two (abs_pos.mpr hx)).mp (by exact_mod_cast h)
  exact max_le (by omega) he

/-- A rational is below `2 ^ precision` last places. -/
theorem abs_lt_zpow_ulpExp (x : ℚ) : |x| < 2 ^ (F.ulpExp x + F.precision) := by
  have hlog : |x| < ((2 : ℕ) : ℚ) ^ (Int.log 2 |x| + 1) :=
    Int.lt_zpow_succ_log_self one_lt_two _
  refine hlog.trans_le ?_
  push_cast
  have := le_max_left (Int.log 2 |x| - ((F.precision : ℤ) - 1)) F.minExp
  exact zpow_le_zpow_right₀ one_le_two (by rw [ulpExp]; omega)

variable {F} in
/-- **Rounding fixes what the format represents.** -/
theorem roundFinite_of_representable {q : ℚ} (h : F.Representable q) : F.roundFinite q = q := by
  obtain ⟨m, e, hm, he, rfl⟩ := h
  rcases eq_or_ne ((m : ℚ) * 2 ^ e) 0 with h0 | h0
  · rw [h0, roundFinite_zero]
  have habs : |(m : ℚ) * 2 ^ e| < 2 ^ (e + F.precision) := by
    rw [abs_mul, abs_of_pos (zpow_pos (two_pos (α := ℚ)) e), add_comm, zpow_add₀ two_ne_zero,
      zpow_natCast]
    exact mul_lt_mul_of_pos_right (by exact_mod_cast hm) (zpow_pos two_pos e)
  have hE := F.ulpExp_le h0 he habs
  exact_mod_cast roundTo_zpow (K := ℚ) two_pos hE m

/-- **A rounded rational is representable.** -/
theorem representable_roundFinite (x : ℚ) : F.Representable (F.roundFinite x) := by
  obtain ⟨m, e, hm, he, hx⟩ := exists_roundTo_eq (K := ℚ) one_lt_two F.precision_pos
    (by exact_mod_cast F.abs_lt_zpow_ulpExp x)
  exact ⟨m, e, by exact_mod_cast hm, (F.minExp_le_ulpExp x).trans he, by exact_mod_cast hx⟩

theorem roundFinite_nonneg {x : ℚ} (hx : 0 ≤ x) : 0 ≤ F.roundFinite x := by
  have := roundTo_mono (F.ulp_pos x) hx
  rwa [roundTo_zero] at this

/-- Two nonnegative rationals of different last places are separated by a power of two on both
grids. -/
theorem roundFinite_mono_of_nonneg {x y : ℚ} (hx : 0 ≤ x) (hxy : x ≤ y) :
    F.roundFinite x ≤ F.roundFinite y := by
  rcases hx.eq_or_lt with rfl | hpos
  · rw [roundFinite_zero]
    exact F.roundFinite_nonneg hxy
  have hypos := hpos.trans_le hxy
  have hlog : Int.log 2 x ≤ Int.log 2 y := Int.log_mono_right hpos hxy
  have hEx : F.ulpExp x = max (Int.log 2 x - (F.precision - 1)) F.minExp := by
    rw [ulpExp, abs_of_pos hpos]
  have hEy : F.ulpExp y = max (Int.log 2 y - (F.precision - 1)) F.minExp := by
    rw [ulpExp, abs_of_pos hypos]
  rcases eq_or_ne (F.ulpExp x) (F.ulpExp y) with heq | hne
  · rw [roundFinite, roundFinite, ulp, ulp, heq]
    exact roundTo_mono (zpow_pos two_pos _) hxy
  have hp := F.precision_pos
  have hB : ∀ e : ℤ, e ≤ Int.log 2 y →
      roundTo ((2 : ℚ) ^ e) (2 ^ Int.log 2 y) = 2 ^ Int.log 2 y := fun e he => by
    simpa using roundTo_zpow (K := ℚ) two_pos he 1
  calc F.roundFinite x ≤ roundTo (F.ulp x) (2 ^ Int.log 2 y) := by
        refine roundTo_mono (F.ulp_pos x) ?_
        have h1 : x < ((2 : ℕ) : ℚ) ^ (Int.log 2 x + 1) := Int.lt_zpow_succ_log_self one_lt_two _
        refine h1.le.trans ?_
        push_cast
        exact zpow_le_zpow_right₀ one_le_two (by omega)
    _ = roundTo (F.ulp y) (2 ^ Int.log 2 y) := by rw [ulp, ulp, hB _ (by omega), hB _ (by omega)]
    _ ≤ F.roundFinite y := by
        refine roundTo_mono (F.ulp_pos y) ?_
        have h2 : ((2 : ℕ) : ℚ) ^ Int.log 2 y ≤ y := Int.zpow_log_le_self one_lt_two hypos
        exact_mod_cast h2

/-- **Rounding to a format is monotone.** -/
theorem roundFinite_mono : Monotone F.roundFinite := by
  intro x y hxy
  rcases le_or_gt 0 x with hx | hx
  · exact F.roundFinite_mono_of_nonneg hx hxy
  rcases le_or_gt 0 y with hy | hy
  · have hx' := F.roundFinite_nonneg (neg_nonneg.mpr hx.le)
    rw [roundFinite_neg] at hx'
    exact (neg_nonneg.mp hx').trans (F.roundFinite_nonneg hy)
  · have := F.roundFinite_mono_of_nonneg (neg_nonneg.mpr hy.le) (neg_le_neg hxy)
    rwa [roundFinite_neg, roundFinite_neg, neg_le_neg_iff] at this

/-- The last place is at most a relative unit plus the subnormal place. -/
theorem ulp_le {x : ℚ} (hx : x ≠ 0) :
    F.ulp x ≤ 2 ^ (1 - F.precision : ℤ) * |x| + 2 ^ F.minExp := by
  have hrel : (2 : ℚ) ^ (Int.log 2 |x| - (F.precision - 1)) ≤ 2 ^ (1 - F.precision : ℤ) * |x| := by
    have h2 : ((2 : ℕ) : ℚ) ^ Int.log 2 |x| ≤ |x| :=
      Int.zpow_log_le_self one_lt_two (abs_pos.mpr hx)
    rw [show Int.log 2 |x| - ((F.precision : ℤ) - 1) = (1 - F.precision) + Int.log 2 |x| by ring,
      zpow_add₀ two_ne_zero]
    exact mul_le_mul_of_nonneg_left (by exact_mod_cast h2) (zpow_pos two_pos _).le
  rcases max_cases (Int.log 2 |x| - ((F.precision : ℤ) - 1)) F.minExp with ⟨h, _⟩ | ⟨h, _⟩
  · rw [ulp, ulpExp, h]
    exact hrel.trans (le_add_of_nonneg_right (zpow_pos two_pos _).le)
  · rw [ulp, ulpExp, h]
    exact le_add_of_nonneg_left (by positivity)

/-- **The rounding error**: half a relative unit plus half the subnormal place. -/
theorem abs_roundFinite_sub_le (x : ℚ) :
    |F.roundFinite x - x| ≤ (2 ^ (1 - F.precision : ℤ) * |x| + 2 ^ F.minExp) / 2 := by
  rcases eq_or_ne x 0 with rfl | hx
  · rw [roundFinite_zero, sub_zero, abs_zero]
    positivity
  · have h := abs_roundTo_sub_le (F.ulp_pos x) x
    have hulp := F.ulp_le hx
    exact h.trans (by linarith)

/-! ## Values -/

/-- A value of the format: a finite rational, an infinity or the not-a-number. -/
inductive Value (F : BinaryFormat) where
  | finite (q : ℚ) (h : F.IsFinite q)
  | inf (negative : Bool)
  | nan
  deriving DecidableEq

/-- Round a rational to a value of the format: to nearest, ties to even, overflowing to an
infinity. -/
def round (x : ℚ) : F.Value :=
  if h : |F.roundFinite x| < 2 ^ F.maxExp then .finite _ ⟨F.representable_roundFinite x, h⟩
  else .inf (x < 0)

variable {F}

theorem round_eq_finite_iff {x q : ℚ} {h : F.IsFinite q} :
    F.round x = .finite q h ↔ F.roundFinite x = q := by
  rw [round]
  constructor
  · intro hx
    split at hx
    · exact Value.finite.inj hx
    · cases hx
  · rintro rfl
    rw [dif_pos h.2]

@[simp] theorem round_of_isFinite {q : ℚ} (h : F.IsFinite q) : F.round q = .finite q h :=
  round_eq_finite_iff.mpr (roundFinite_of_representable h.1)

namespace Value

/-- Convert to another format, as a C cast between `float` and `double` does. -/
def convert (G : BinaryFormat) : F.Value → G.Value
  | finite q _ => G.round q
  | inf negative => .inf negative
  | nan => .nan

/-- The exact value of a finite one. -/
def toRat? : F.Value → Option ℚ
  | finite q _ => some q
  | _ => none

/-- Addition in the format. -/
def add : F.Value → F.Value → F.Value
  | finite p _, finite q _ => F.round (p + q)
  | inf s, inf t => if s = t then .inf s else .nan
  | inf s, finite _ _ => .inf s
  | finite _ _, inf t => .inf t
  | nan, _ => .nan
  | _, nan => .nan

end Value

/-- `G` represents every value of `F`. -/
structure Widens (F G : BinaryFormat) : Prop where
  precision : F.precision ≤ G.precision
  minExp : G.minExp ≤ F.minExp
  maxExp : F.maxExp ≤ G.maxExp

theorem Widens.isFinite {G : BinaryFormat} (hw : Widens F G) {q : ℚ} (h : F.IsFinite q) :
    G.IsFinite q := by
  obtain ⟨⟨m, e, hm, he, rfl⟩, hlt⟩ := h
  refine ⟨⟨m, e, hm.trans_le ?_, hw.minExp.trans he, rfl⟩, hlt.trans_le ?_⟩
  · exact pow_le_pow_right₀ one_le_two hw.precision
  · exact zpow_le_zpow_right₀ one_le_two hw.maxExp

/-- **Widening and narrowing back changes no value.** -/
theorem Widens.convert_convert {G : BinaryFormat} (hw : Widens F G) (v : F.Value) :
    (v.convert G).convert F = v := by
  cases v with
  | finite q h => simp [Value.convert, round_of_isFinite (hw.isFinite h), round_of_isFinite h]
  | inf negative => rfl
  | nan => rfl

theorem widens_binary32_binary64 : Widens binary32 binary64 := ⟨by decide, by decide, by decide⟩

end BinaryFormat
