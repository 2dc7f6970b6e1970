import ElevatorController.Numbers.RoundEven

/-!
# Numbers/SignificantDigits — rounding a rational to `p` significant decimal digits

`roundDigits p x` keeps the `p` leading decimal digits of `x`, to nearest, ties to even — what a C
library prints for `%.{p}e` and `%.{p}g`.  `roundDigits_dichotomy` compares it with any other
decimal of at most `p` digits: either that one lies beyond it on the same side of `x`, or it is at
least half a unit of the last digit away.
-/

/-- The exponent of the last of `p` significant decimal digits of `x`. -/
def digitExp (p : ℕ) (x : ℚ) : ℤ := Int.log 10 |x| - (p - 1)

/-- `x` to `p` significant decimal digits. -/
def roundDigits (p : ℕ) (x : ℚ) : ℚ := roundTo (10 ^ digitExp p x) x

/-- `d` is a decimal of at most `p` significant digits. -/
def HasDigits (p : ℕ) (d : ℚ) : Prop := ∃ n k : ℤ, |n| < 10 ^ p ∧ d = n * 10 ^ k

theorem HasDigits.neg {p : ℕ} {d : ℚ} (h : HasDigits p d) : HasDigits p (-d) := by
  obtain ⟨n, k, hn, rfl⟩ := h
  exact ⟨-n, k, by rwa [abs_neg], by push_cast; ring⟩

@[simp] theorem digitExp_neg (p : ℕ) (x : ℚ) : digitExp p (-x) = digitExp p x := by
  simp [digitExp]

@[simp] theorem roundDigits_neg (p : ℕ) (x : ℚ) : roundDigits p (-x) = -roundDigits p x := by
  simp [roundDigits]

@[simp] theorem roundDigits_zero (p : ℕ) : roundDigits p 0 = 0 := roundTo_zero _

theorem abs_lt_zpow_digitExp (p : ℕ) (x : ℚ) : |x| < 10 ^ (digitExp p x + p) := by
  have h : |x| < ((10 : ℕ) : ℚ) ^ (Int.log 10 |x| + 1) := Int.lt_zpow_succ_log_self (by norm_num) _
  rwa [show digitExp p x + p = Int.log 10 |x| + 1 by rw [digitExp]; ring]

theorem zpow_digitExp_le {p : ℕ} {x : ℚ} (hx : x ≠ 0) : 10 ^ (digitExp p x + (p - 1)) ≤ |x| := by
  have h : ((10 : ℕ) : ℚ) ^ Int.log 10 |x| ≤ |x| :=
    Int.zpow_log_le_self (by norm_num) (abs_pos.mpr hx)
  rwa [show digitExp p x + (p - 1) = Int.log 10 |x| by rw [digitExp]; ring]

theorem hasDigits_roundDigits {p : ℕ} (hp : 0 < p) (x : ℚ) : HasDigits p (roundDigits p x) := by
  obtain ⟨n, k, hn, -, hx⟩ := exists_roundTo_eq (K := ℚ) (b := 10) (by norm_num) hp
    (by exact_mod_cast abs_lt_zpow_digitExp p x)
  exact ⟨n, k, by exact_mod_cast hn, by exact_mod_cast hx⟩

theorem abs_roundDigits_sub_le (p : ℕ) (x : ℚ) : |roundDigits p x - x| ≤ 10 ^ digitExp p x / 2 :=
  abs_roundTo_sub_le (zpow_pos (by norm_num) _) x

/-- **Any other decimal of at most `p` digits is on the far side of the rounding, or half a unit
away.**  One of a coarser or equal place is another multiple of the unit; one of a finer place lies
below the leading power of ten, which is itself a multiple. -/
theorem roundDigits_dichotomy {p : ℕ} (hp : 0 < p) {x d : ℚ} (hx : 0 < x) (hd : HasDigits p d) :
    d = roundDigits p x ∨ (d ≤ roundDigits p x ∧ roundDigits p x ≤ x)
      ∨ 10 ^ digitExp p x / 2 ≤ |d - x| := by
  obtain ⟨n, k, hn, rfl⟩ := hd
  have hu : (0 : ℚ) < 10 ^ digitExp p x := zpow_pos (by norm_num) _
  rcases le_or_gt (digitExp p x) k with hk | hk
  · rcases eq_or_ne ((n : ℚ) * 10 ^ k) (roundDigits p x) with heq | hne
    · exact Or.inl heq
    · refine Or.inr (Or.inr ?_)
      have hspell := mul_zpow_eq (K := ℚ) (b := 10) (by norm_num) hk n
      rw [Nat.cast_ofNat] at hspell
      rw [hspell] at hne ⊢
      exact half_le_abs_of_ne hu hne
  have hlead : (10 : ℚ) ^ (digitExp p x + (p - 1)) ≤ x := by
    simpa [abs_of_pos hx] using zpow_digitExp_le (p := p) hx.ne'
  have hdlt : (n : ℚ) * 10 ^ k ≤ 10 ^ (digitExp p x + (p - 1)) := by
    calc (n : ℚ) * 10 ^ k ≤ 10 ^ p * 10 ^ k := by
          refine mul_le_mul_of_nonneg_right ?_ (zpow_pos (by norm_num) k).le
          exact_mod_cast (le_abs_self n).trans hn.le
      _ = 10 ^ (p + k) := by rw [zpow_add₀ (by norm_num), zpow_natCast]
      _ ≤ 10 ^ (digitExp p x + (p - 1)) := zpow_le_zpow_right₀ (by norm_num) (by omega)
  have hfix : roundTo ((10 : ℚ) ^ digitExp p x) (10 ^ (digitExp p x + (p - 1)))
      = 10 ^ (digitExp p x + (p - 1)) := by
    have := roundTo_zpow (K := ℚ) (b := 10) (by norm_num)
      (show digitExp p x ≤ digitExp p x + (p - 1) by omega) 1
    simpa using this
  have hround : (10 : ℚ) ^ (digitExp p x + (p - 1)) ≤ roundDigits p x := by
    rw [← hfix]
    exact roundTo_mono hu hlead
  rcases le_or_gt (roundDigits p x) x with hle | hgt
  · exact Or.inr (Or.inl ⟨hdlt.trans hround, hle⟩)
  · refine Or.inr (Or.inr ?_)
    have hfar : (10 : ℚ) ^ digitExp p x / 2 ≤ |10 ^ (digitExp p x + (p - 1)) - x| := by
      have hsplit : (10 : ℚ) ^ (digitExp p x + (p - 1))
          = ((10 ^ (p - 1) : ℤ) : ℚ) * 10 ^ digitExp p x := by
        rw [add_comm, zpow_add₀ (by norm_num)]
        push_cast
        rw [← zpow_natCast, Nat.cast_sub hp, Nat.cast_one]
      rw [hsplit] at hlead ⊢
      refine half_le_abs_of_ne hu ?_
      exact (hlead.trans_lt hgt).ne
    rw [abs_of_nonpos (by linarith)] at hfar ⊢
    linarith
