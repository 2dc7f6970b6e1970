import Mathlib

/-!
# Numbers/RoundEven — rounding to the nearest integer, ties to the even one

`roundEven x` is *the* integer within `1/2` of `x` that is even when two are (`roundEven_unique`);
everything else — integers are fixed, the map is odd and monotone — is read off that
characterisation.  `roundTo u` rounds to a multiple of `u`: with `u` a power of two it is the
rounding of a binary format, with `u` a power of ten the rounding of a decimal rendering.
-/

section RoundEven

variable {K : Type*} [Field K]

/-- A multiple of a coarse power of the radix, respelled at a finer one. -/
theorem mul_zpow_eq {b : ℕ} (hb : (b : K) ≠ 0) {e E : ℤ} (h : E ≤ e) (m : ℤ) :
    (m : K) * (b : K) ^ e = ((m * b ^ (e - E).toNat : ℤ) : K) * (b : K) ^ E := by
  push_cast
  rw [mul_assoc, ← zpow_natCast, ← zpow_add₀ hb]
  congr 2
  omega

variable [LinearOrder K]

/-- `n` is a nearest integer of `x`, the even one at a tie. -/
structure IsNearestEven (x : K) (n : ℤ) : Prop where
  near : |(n : K) - x| ≤ 1 / 2
  tie : |(n : K) - x| = 1 / 2 → Even n

theorem IsNearestEven.neg {x : K} {n : ℤ} (h : IsNearestEven x n) : IsNearestEven (-x) (-n) := by
  have habs : |((-n : ℤ) : K) - -x| = |(n : K) - x| := by
    rw [Int.cast_neg, ← neg_sub', abs_neg]
  exact ⟨habs ▸ h.near, fun ht => (h.tie (habs ▸ ht)).neg⟩

variable [IsStrictOrderedRing K]

/-- **The nearest even integer is unique**: two of them are one apart only at a tie, and then only
one is even. -/
theorem IsNearestEven.unique {x : K} {m n : ℤ} (hm : IsNearestEven x m)
    (hn : IsNearestEven x n) : m = n := by
  wlog hle : m ≤ n generalizing m n with H
  · exact (H hn hm (le_of_not_ge hle)).symm
  by_contra hne
  have hgap : (m : K) + 1 ≤ n := by
    exact_mod_cast Int.add_one_le_of_lt (lt_of_le_of_ne hle hne)
  have h1 := abs_le.mp hm.near
  have h2 := abs_le.mp hn.near
  have hmx : |(m : K) - x| = 1 / 2 := by rw [abs_of_nonpos (by linarith)]; linarith
  have hnx : |(n : K) - x| = 1 / 2 := by rw [abs_of_nonneg (by linarith)]; linarith
  have hnm : n = m + 1 := by
    have : (n : K) = m + 1 := by linarith
    exact_mod_cast this
  exact Int.even_add_one.mp (hnm ▸ hn.tie hnx) (hm.tie hmx)

variable [FloorRing K]

/-- The nearest integer, ties to even. -/
def roundEven (x : K) : ℤ :=
  if Int.fract x < 1 / 2 then ⌊x⌋
  else if 1 / 2 < Int.fract x then ⌊x⌋ + 1
  else if Even ⌊x⌋ then ⌊x⌋ else ⌊x⌋ + 1

theorem isNearestEven_roundEven (x : K) : IsNearestEven x (roundEven x) := by
  have hfract := Int.floor_add_fract x
  have hnonneg := Int.fract_nonneg x
  have hlt := Int.fract_lt_one x
  rw [roundEven]
  constructor
  · split_ifs <;> push_cast <;> rw [abs_le] <;> constructor <;> linarith
  · split_ifs with hlo hhi heven
    · intro h
      rw [abs_of_nonpos (by linarith)] at h
      linarith
    · intro h
      push_cast at h
      rw [abs_of_nonneg (by linarith)] at h
      linarith
    · exact fun _ => heven
    · exact fun _ => Int.even_add_one.mpr heven

theorem abs_roundEven_sub_le (x : K) : |(roundEven x : K) - x| ≤ 1 / 2 :=
  (isNearestEven_roundEven x).near

theorem roundEven_eq {x : K} {n : ℤ} (h : IsNearestEven x n) : roundEven x = n :=
  (isNearestEven_roundEven x).unique h

/-- Strictly inside half a unit there is only one candidate. -/
theorem roundEven_eq_of_abs_lt {x : K} {n : ℤ} (h : |(n : K) - x| < 1 / 2) : roundEven x = n :=
  roundEven_eq ⟨h.le, fun ht => absurd ht h.ne⟩

@[simp] theorem roundEven_intCast (n : ℤ) : roundEven (n : K) = n :=
  roundEven_eq_of_abs_lt (by simp)

@[simp] theorem roundEven_zero : roundEven (0 : K) = 0 := by
  simpa using roundEven_intCast (K := K) 0

@[simp] theorem roundEven_neg (x : K) : roundEven (-x) = -roundEven x :=
  roundEven_eq (isNearestEven_roundEven x).neg

/-- **Rounding is monotone** — two roundings in the wrong order would share a tie. -/
theorem roundEven_mono : Monotone (roundEven : K → ℤ) := by
  intro x y hxy
  by_contra hlt
  have hgap : (roundEven y : K) + 1 ≤ roundEven x := by
    exact_mod_cast Int.add_one_le_of_lt (lt_of_not_ge hlt)
  have hx := abs_le.mp (abs_roundEven_sub_le x)
  have hy := abs_le.mp (abs_roundEven_sub_le y)
  obtain rfl : x = y := le_antisymm hxy (by linarith)
  exact hlt le_rfl

theorem le_roundEven {x : K} {n : ℤ} (h : (n : K) ≤ x) : n ≤ roundEven x := by
  simpa using roundEven_mono h

theorem roundEven_le {x : K} {n : ℤ} (h : x ≤ n) : roundEven x ≤ n := by
  simpa using roundEven_mono h

/-! ## Rounding to a multiple -/

/-- The nearest multiple of `u`, ties to the even multiple. -/
def roundTo (u x : K) : K := roundEven (x / u) * u

variable {u : K}

theorem roundTo_mul (hu : u ≠ 0) (n : ℤ) : roundTo u (n * u) = n * u := by
  rw [roundTo, mul_div_cancel_right₀ _ hu, roundEven_intCast]

@[simp] theorem roundTo_zero (u : K) : roundTo u 0 = 0 := by simp [roundTo]

@[simp] theorem roundTo_neg (u x : K) : roundTo u (-x) = -roundTo u x := by
  simp [roundTo, neg_div]

theorem roundTo_mono (hu : 0 < u) : Monotone (roundTo u) := fun _ _ hxy =>
  mul_le_mul_of_nonneg_right
    (Int.cast_le.mpr (roundEven_mono (div_le_div_of_nonneg_right hxy hu.le))) hu.le

/-- **The rounding error is at most half a unit.** -/
theorem abs_roundTo_sub_le (hu : 0 < u) (x : K) : |roundTo u x - x| ≤ u / 2 := by
  have hx : roundTo u x - x = ((roundEven (x / u) : K) - x / u) * u := by
    rw [sub_mul, div_mul_cancel₀ _ hu.ne', roundTo]
  rw [hx, abs_mul, abs_of_pos hu]
  calc |(roundEven (x / u) : K) - x / u| * u ≤ 1 / 2 * u :=
        mul_le_mul_of_nonneg_right (abs_roundEven_sub_le _) hu.le
    _ = u / 2 := by ring

/-- A multiple strictly within half a unit is the rounding. -/
theorem roundTo_eq_of_abs_lt (hu : 0 < u) {x : K} {n : ℤ} (h : |n * u - x| < u / 2) :
    roundTo u x = n * u := by
  rw [roundTo, roundEven_eq_of_abs_lt]
  have hx : (n : K) - x / u = (n * u - x) / u := by
    rw [sub_div, mul_div_cancel_right₀ _ hu.ne']
  rw [hx, abs_div, abs_of_pos hu, div_lt_iff₀ hu]
  linarith

/-- Any multiple other than the rounding is at least half a unit away. -/
theorem half_le_abs_of_ne (hu : 0 < u) {x : K} {n : ℤ} (h : n * u ≠ roundTo u x) :
    u / 2 ≤ |n * u - x| :=
  le_of_not_gt fun hlt => h (roundTo_eq_of_abs_lt hu hlt).symm

/-! ## Rounding to a power of the radix

A rational of at most `p` digits above the place `bᴱ` rounds at that place to a significand of at
most `p` digits — or to the next power of the radix, which the renormalised exponent absorbs. -/

/-- A multiple of a coarse power of the radix is fixed by rounding at a finer place. -/
theorem roundTo_zpow {b : ℕ} (hb : 0 < b) {e E : ℤ} (h : E ≤ e) (m : ℤ) :
    roundTo ((b : K) ^ E) (m * (b : K) ^ e) = m * (b : K) ^ e := by
  have hb0 : (b : K) ≠ 0 := by exact_mod_cast hb.ne'
  rw [mul_zpow_eq hb0 h m, roundTo_mul (zpow_ne_zero _ hb0)]

/-- The significand a rounding produces has at most `p` digits, or is the next power. -/
theorem abs_roundEven_le_pow {b p : ℕ} (hb : 0 < b) {E : ℤ} {x : K}
    (h : |x| < (b : K) ^ (E + p)) : |roundEven (x / (b : K) ^ E)| ≤ (b : ℤ) ^ p := by
  have hb0 : (0 : K) < b := by exact_mod_cast hb
  have hx : |x / (b : K) ^ E| ≤ (b : K) ^ p := by
    rw [abs_div, abs_of_pos (zpow_pos hb0 E), div_le_iff₀ (zpow_pos hb0 E), ← zpow_natCast,
      ← zpow_add₀ hb0.ne', add_comm]
    exact h.le
  obtain ⟨hlo, hhi⟩ := abs_le.mp hx
  exact abs_le.mpr ⟨le_roundEven (by exact_mod_cast hlo), roundEven_le (by exact_mod_cast hhi)⟩

/-- **A rounding at a place has at most the digits asked for.** -/
theorem exists_roundTo_eq {b p : ℕ} (hb : 1 < b) (hp : 0 < p) {E : ℤ} {x : K}
    (h : |x| < (b : K) ^ (E + p)) :
    ∃ m e : ℤ, |m| < (b : ℤ) ^ p ∧ E ≤ e ∧ roundTo ((b : K) ^ E) x = m * (b : K) ^ e := by
  have hb0 : (b : K) ≠ 0 := by exact_mod_cast (by omega : b ≠ 0)
  have hbz : (1 : ℤ) < b := by exact_mod_cast hb
  rcases (abs_roundEven_le_pow (by omega) h).lt_or_eq with hlt | heq
  · exact ⟨_, E, hlt, le_rfl, rfl⟩
  obtain ⟨q, rfl⟩ : ∃ q, p = q + 1 := ⟨p - 1, by omega⟩
  have hpow : (b : ℤ) ^ q < (b : ℤ) ^ (q + 1) := pow_lt_pow_right₀ hbz (Nat.lt_succ_self q)
  have hpos : (0 : ℤ) < (b : ℤ) ^ q := by positivity
  rcases abs_eq (by positivity : (0 : ℤ) ≤ (b : ℤ) ^ (q + 1)) |>.mp heq with hs | hs
  · refine ⟨(b : ℤ) ^ q, E + 1, by rwa [abs_of_pos hpos], by omega, ?_⟩
    rw [roundTo, hs, zpow_add_one₀ hb0]
    push_cast
    ring
  · refine ⟨-(b : ℤ) ^ q, E + 1, by rwa [abs_neg, abs_of_pos hpos], by omega, ?_⟩
    rw [roundTo, hs, zpow_add_one₀ hb0]
    push_cast
    ring

end RoundEven
