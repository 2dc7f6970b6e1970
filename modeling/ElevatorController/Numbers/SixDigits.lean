import ElevatorController.Numbers.BinaryFormat
import ElevatorController.Numbers.SignificantDigits

/-!
# Numbers/SixDigits — which binary32 values survive six significant decimal digits

A C program that prints a `float` with `%.6g` and reads it back with `(float)strtod(…)` rounds
three times: to six digits, to binary64, to binary32.  `readReal` is the reading half.

`readReal_roundDigits_iff`: a finite binary32 value comes back **exactly when some decimal of at
most six digits reads as it**.  Six-digit decimals are sparser than binary32 values from `10⁻³⁹`
up, so no other one could read as the value; below that they are denser, and the nearest one always
does.
-/

namespace BinaryFormat

/-- `(float)strtod(…)` of a decimal text of value `x`. -/
def readReal (x : ℚ) : binary32.Value := (binary64.round x).convert binary32

/-- The same rounding, with no upper bound on the exponents. -/
def readFinite (x : ℚ) : ℚ := binary32.roundFinite (binary64.roundFinite x)

theorem readFinite_mono : Monotone readFinite :=
  binary32.roundFinite_mono.comp binary64.roundFinite_mono

@[simp] theorem readFinite_neg (x : ℚ) : readFinite (-x) = -readFinite x := by simp [readFinite]

theorem readFinite_of_isFinite {q : ℚ} (h : binary32.IsFinite q) : readFinite q = q := by
  rw [readFinite, roundFinite_of_representable (widens_binary32_binary64.isFinite h).1,
    roundFinite_of_representable h.1]

/-- **A decimal reads as a finite value exactly when the two roundings land on it** — a decimal
that overflowed binary64 would overflow binary32 too. -/
theorem readReal_eq_finite_iff {x q : ℚ} {h : binary32.IsFinite q} :
    readReal x = .finite q h ↔ readFinite x = q := by
  rw [readReal, round]
  split
  · exact round_eq_finite_iff
  · rename_i hover
    refine iff_of_false (by rintro ⟨⟩) ?_
    rintro rfl
    refine absurd h.2 (not_lt.mpr ?_)
    have hmax : (2 : ℚ) ^ (128 : ℤ) = binary32.roundFinite (2 ^ (128 : ℤ)) :=
      (roundFinite_of_representable ⟨1, 128, by decide, by decide, by norm_num⟩).symm
    have hle : (2 : ℚ) ^ (128 : ℤ) ≤ |binary64.roundFinite x| :=
      (zpow_le_zpow_right₀ one_le_two (by decide)).trans (not_lt.mp hover)
    change (2 : ℚ) ^ (128 : ℤ) ≤ _
    rcases abs_cases (binary64.roundFinite x) with ⟨habs, -⟩ | ⟨habs, -⟩
    · rw [habs] at hle
      refine le_trans (hmax.le.trans (binary32.roundFinite_mono hle)) (le_abs_self _)
    · rw [habs] at hle
      have := hmax.le.trans (binary32.roundFinite_mono hle)
      rw [roundFinite_neg] at this
      exact this.trans (neg_le_abs _)

/-! ## Reading a decimal near a value -/

/-- The error of rounding to binary64; the subnormal half-unit is rounded up to a power of two
that numerals can spell. -/
theorem abs_roundFinite_binary64_sub_le (x : ℚ) :
    |binary64.roundFinite x - x| ≤ |x| / 2 ^ 53 + 1 / 2 ^ 200 := by
  refine (binary64.abs_roundFinite_sub_le x).trans ?_
  have hsub : (2 : ℚ) ^ (-1074 : ℤ) ≤ 2 ^ (-200 : ℤ) := zpow_le_zpow_right₀ one_le_two (by decide)
  have hrel : (2 : ℚ) ^ (1 - 53 : ℤ) * |x| / 2 = |x| / 2 ^ 53 := by
    rw [show (2 : ℚ) ^ (1 - 53 : ℤ) = 2 / 2 ^ 53 by norm_num]
    ring
  have hhalf : (2 : ℚ) ^ (-200 : ℤ) / 2 ≤ 1 / 2 ^ 200 := by norm_num
  calc (2 ^ (1 - 53 : ℤ) * |x| + 2 ^ (-1074 : ℤ)) / 2
      = |x| / 2 ^ 53 + 2 ^ (-1074 : ℤ) / 2 := by rw [add_div, hrel]
    _ ≤ |x| / 2 ^ 53 + 1 / 2 ^ 200 :=
        add_le_add le_rfl ((div_le_div_of_nonneg_right hsub zero_le_two).trans hhalf)

theorem abs_roundFinite_binary32_sub_le (x : ℚ) :
    |binary32.roundFinite x - x| ≤ |x| / 2 ^ 24 + 1 / 2 ^ 150 := by
  refine (binary32.abs_roundFinite_sub_le x).trans (le_of_eq ?_)
  change (2 ^ (1 - 24 : ℤ) * |x| + 2 ^ (-149 : ℤ)) / 2 = _
  norm_num
  ring

/-- The reading error: two half-units, relative above the subnormals. -/
theorem abs_readFinite_sub_le (x : ℚ) :
    |readFinite x - x| ≤ |x| / 2 ^ 23 + 1 / 2 ^ 149 := by
  have h64 := abs_roundFinite_binary64_sub_le x
  have h32 := abs_roundFinite_binary32_sub_le (binary64.roundFinite x)
  have habs := abs_sub_abs_le_abs_sub (binary64.roundFinite x) x
  have htri := abs_sub_le (readFinite x) (binary64.roundFinite x) x
  have hx := abs_nonneg x
  norm_num at h64 h32 ⊢
  rw [readFinite] at htri ⊢
  linarith

/-- Below `10⁻³⁹` a unit of the sixth digit is less than the binary32 spacing, so the six-digit
rounding of a value reads as it. -/
theorem readFinite_roundDigits_of_lt {v : ℚ} (hv : binary32.IsFinite v) (hpos : 0 < v)
    (hlt : v < 1 / 10 ^ 39) : readFinite (roundDigits 6 v) = v := by
  obtain ⟨m, hgrid⟩ : ∃ m : ℤ, v = m * 2 ^ (-149 : ℤ) := by
    obtain ⟨m, e, -, he, rfl⟩ := hv.1
    exact ⟨_, mul_zpow_eq (K := ℚ) (b := 2) (by norm_num) he m⟩
  have hm : (1 : ℚ) ≤ m := by
    have : (0 : ℚ) < m := pos_of_mul_pos_left (hgrid ▸ hpos) (zpow_pos two_pos _).le
    exact_mod_cast this
  have hlog : Int.log 10 v < -39 :=
    (Int.lt_zpow_iff_log_lt (by norm_num) hpos).mp (by norm_num at hlt ⊢; exact hlt)
  have hunit : (10 : ℚ) ^ digitExp 6 v ≤ 10 ^ (-45 : ℤ) :=
    zpow_le_zpow_right₀ (by norm_num) (by rw [digitExp, abs_of_pos hpos]; push_cast; omega)
  have hround := abs_le.mp (abs_roundDigits_sub_le 6 v)
  have h64 := abs_roundFinite_binary64_sub_le (roundDigits 6 v)
  have hnear : |roundDigits 6 v| ≤ 2 / 10 ^ 39 := by
    norm_num at hunit hlt ⊢
    exact abs_le.mpr ⟨by linarith, by linarith⟩
  have hclose : |binary64.roundFinite (roundDigits 6 v) - v| < 1 / 2 ^ 150 := by
    norm_num at h64 hunit hnear hround ⊢
    obtain ⟨hlo, hhi⟩ := abs_le.mp h64
    exact abs_lt.mpr ⟨by linarith, by linarith⟩
  have hsmall : |binary64.roundFinite (roundDigits 6 v)| < 2 ^ (-149 + 24 : ℤ) := by
    have := abs_lt.mp hclose
    norm_num at this hlt ⊢
    exact abs_lt.mpr ⟨by linarith, by linarith⟩
  have hne : binary64.roundFinite (roundDigits 6 v) ≠ 0 := fun h0 => by
    rw [h0, zero_sub, abs_neg, abs_of_pos hpos, hgrid] at hclose
    norm_num at hclose
    linarith
  have hulp : binary32.ulp (binary64.roundFinite (roundDigits 6 v)) = 2 ^ (-149 : ℤ) :=
    congrArg _ (le_antisymm (binary32.ulpExp_le hne le_rfl hsmall) (binary32.minExp_le_ulpExp _))
  rw [readFinite, roundFinite, hulp]
  conv_rhs => rw [hgrid]
  refine roundTo_eq_of_abs_lt (zpow_pos two_pos _) ?_
  rw [← hgrid, abs_sub_comm]
  refine hclose.trans_le ?_
  norm_num

/-- **From `10⁻³⁹` up a decimal half a unit of the sixth digit away reads as something else.** -/
theorem readFinite_ne_of_far {v d : ℚ} (hge : 1 / 10 ^ 39 ≤ v)
    (hfar : 10 ^ digitExp 6 v / 2 ≤ |d - v|) : readFinite d ≠ v := by
  intro hread
  have hpos : 0 < v := lt_of_lt_of_le (by norm_num) hge
  have herr := abs_readFinite_sub_le d
  rw [hread, abs_sub_comm] at herr
  have hd := abs_sub_abs_le_abs_sub d v
  rw [abs_of_pos hpos] at hd
  have hlog : (-39 : ℤ) ≤ Int.log 10 v :=
    (Int.zpow_le_iff_le_log (by norm_num) hpos).mp (by norm_num at hge ⊢; exact hge)
  have hunit : (10 : ℚ) ^ (-44 : ℤ) ≤ 10 ^ digitExp 6 v :=
    zpow_le_zpow_right₀ (by norm_num) (by rw [digitExp, abs_of_pos hpos]; push_cast; omega)
  have hrel := abs_lt_zpow_digitExp 6 v
  rw [abs_of_pos hpos, zpow_add₀ (by norm_num)] at hrel
  norm_num at hunit hrel herr
  linarith

/-- **The nearest six-digit decimal reads as a value as soon as any six-digit decimal does.** -/
theorem readFinite_roundDigits {v d : ℚ} (hv : binary32.IsFinite v) (hd : HasDigits 6 d)
    (hread : readFinite d = v) : readFinite (roundDigits 6 v) = v := by
  wlog hpos : 0 < v generalizing v d with H
  · rcases (not_lt.mp hpos).eq_or_lt with rfl | hneg
    · rw [roundDigits_zero]
      exact readFinite_of_isFinite hv
    · have := H ⟨hv.1.neg, by rw [abs_neg]; exact hv.2⟩ hd.neg
        (by rw [readFinite_neg, hread]) (neg_pos.mpr hneg)
      rwa [roundDigits_neg, readFinite_neg, neg_inj] at this
  rcases roundDigits_dichotomy (by norm_num) hpos hd with rfl | ⟨hdr, hrv⟩ | hfar
  · exact hread
  · refine le_antisymm ?_ ?_
    · exact (readFinite_mono hrv).trans_eq (readFinite_of_isFinite hv)
    · exact hread.symm.le.trans (readFinite_mono hdr)
  · rcases lt_or_ge v (1 / 10 ^ 39) with hlt | hge
    · exact readFinite_roundDigits_of_lt hv hpos hlt
    · exact absurd hread (readFinite_ne_of_far hge hfar)

/-- **A finite value survives the six-digit text exactly when some six-digit decimal reads as
it.** -/
theorem readReal_roundDigits_iff {v : ℚ} (hv : binary32.IsFinite v) :
    readReal (roundDigits 6 v) = .finite v hv
      ↔ ∃ d, HasDigits 6 d ∧ readReal d = .finite v hv := by
  refine ⟨fun h => ⟨_, hasDigits_roundDigits (by norm_num) v, h⟩, ?_⟩
  rintro ⟨d, hd, hread⟩
  exact readReal_eq_finite_iff.mpr (readFinite_roundDigits hv hd (readReal_eq_finite_iff.mp hread))

end BinaryFormat
