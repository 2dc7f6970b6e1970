import ElevatorController.Text.ScanReal
import ElevatorController.Numbers.SignificantDigits

/-!
# Text/PrintReal — `printf("%.{p}g")`, and reading it back with `strtod`

A nonzero finite value is rounded to `p` significant digits `n · 10ᴱ`, correctly (the conversion is
exact before it rounds, as a C library's is).  With `X = E + p − 1` the decimal exponent, the text
is fixed-point for `−4 ≤ X < p` and scientific otherwise; trailing zeros of the fraction go, and the
point with them.

**`strtod_printG`**: `strtod` consumes the whole text of every value and returns the `p`-digit
rounding of it, rounded to binary64.
-/

namespace Text

open BinaryFormat

/-- The `p`-digit significand of a positive rational and the exponent of its last digit. -/
def significand (p : ℕ) (q : ℚ) : ℕ × ℤ :=
  let E := digitExp p q
  let n := (roundEven (q / 10 ^ E)).toNat
  if n = 10 ^ p then (10 ^ (p - 1), E + 1) else (n, E)

/-- An integer part and a fraction, without the fraction's trailing zeros. -/
def withFraction (int frac : List UInt8) : List UInt8 :=
  let kept := frac.rdropWhile (· == 48)
  if kept = [] then int else int ++ 46 :: kept

/-- An exponent of at least two digits. -/
def exponentText (X : ℤ) : List UInt8 :=
  let digits := printUnsigned X.natAbs
  101 :: (if X < 0 then 45 else 43) :: if digits.length < 2 then 48 :: digits else digits

/-- `%.{p}g` of a nonnegative rational. -/
def printMagnitude (p : ℕ) (q : ℚ) : List UInt8 :=
  if q = 0 then [48]
  else
    let (n, E) := significand p q
    let X := E + p - 1
    let digits := digitText n
    if -4 ≤ X ∧ X < p then
      if 0 ≤ X then withFraction (digits.take (X + 1).toNat) (digits.drop (X + 1).toNat)
      else withFraction [48] (List.replicate (-X - 1).toNat 48 ++ digits)
    else withFraction (digits.take 1) (digits.drop 1) ++ exponentText X

/-- `%.{p}g`. -/
def printG (p : ℕ) : binary64.Value → List UInt8
  | .finite q _ => (if q < 0 then [45] else []) ++ printMagnitude p |q|
  | .inf negative => (if negative then [45] else []) ++ ascii "inf"
  | .nan => ascii "nan"

/-- The `double` a `%.{p}g` text reads as: the value to `p` significant digits. -/
def rereadG (p : ℕ) : binary64.Value → binary64.Value
  | .finite q _ => binary64.round (roundDigits p q)
  | .inf negative => .inf negative
  | .nan => .nan

/-! ## The significand -/

variable {p : ℕ}

/-- **The significand has exactly `p` digits and spells the rounding.** -/
theorem significand_spec (hp : 0 < p) {q : ℚ} (hq : 0 < q) :
    10 ^ (p - 1) ≤ (significand p q).1 ∧ (significand p q).1 < 10 ^ p
      ∧ ((significand p q).1 : ℚ) * 10 ^ (significand p q).2 = roundDigits p q := by
  have hu : (0 : ℚ) < 10 ^ digitExp p q := zpow_pos (by norm_num) _
  have hhi := abs_roundEven_le_pow (K := ℚ) (b := 10) (p := p) (E := digitExp p q) (x := q)
    (by norm_num) (by exact_mod_cast abs_lt_zpow_digitExp p q)
  have hlead := zpow_digitExp_le (p := p) hq.ne'
  rw [abs_of_pos hq, add_comm, zpow_add₀ (by norm_num),
    show ((p : ℤ) - 1) = ((p - 1 : ℕ) : ℤ) by omega, zpow_natCast] at hlead
  have hlo : ((10 ^ (p - 1) : ℕ) : ℤ) ≤ roundEven (q / 10 ^ digitExp p q) := by
    refine le_roundEven ?_
    rw [le_div_iff₀ hu]
    exact_mod_cast hlead
  push_cast at hhi hlo
  obtain ⟨n, hn⟩ : ∃ n : ℕ, roundEven (q / 10 ^ digitExp p q) = n :=
    Int.eq_ofNat_of_zero_le ((by positivity : (0 : ℤ) ≤ 10 ^ (p - 1)).trans hlo)
  rw [hn] at hhi hlo
  rw [Nat.abs_cast] at hhi
  have hvalue : (n : ℚ) * 10 ^ digitExp p q = roundDigits p q := by
    rw [roundDigits, roundTo, hn]
    rfl
  have hpow : (10 : ℕ) ^ p = 10 * 10 ^ (p - 1) := by
    rw [← pow_succ', Nat.sub_add_cancel hp]
  simp only [significand, hn, Int.toNat_natCast]
  split
  · rename_i htop
    refine ⟨le_rfl, Nat.pow_lt_pow_right (by norm_num) (by omega), ?_⟩
    rw [← hvalue, htop, hpow, zpow_add_one₀ (by norm_num)]
    push_cast
    ring
  · rename_i htop
    exact ⟨by exact_mod_cast hlo, lt_of_le_of_ne (by exact_mod_cast hhi) htop, hvalue⟩

theorem length_significand (hp : 0 < p) {q : ℚ} (hq : 0 < q) :
    (digitText (significand p q).1).length = p := by
  obtain ⟨hlo, hhi, -⟩ := significand_spec hp hq
  obtain ⟨k, rfl⟩ : ∃ k, p = k + 1 := ⟨p - 1, by omega⟩
  exact length_digitText hlo hhi

/-! ## The pieces of the text -/

/-- A run of digits is what stripping its trailing zeros leaves, and the zeros. -/
theorem rdropWhile_append_zeros (s : List UInt8) :
    ∃ k, s = s.rdropWhile (· == 48) ++ List.replicate k 48 := by
  refine ⟨(s.rtakeWhile (· == 48)).length, ?_⟩
  have hzeros : s.rtakeWhile (· == 48) = List.replicate (s.rtakeWhile (· == 48)).length 48 :=
    List.eq_replicate_of_mem fun c hc => by simpa using List.mem_rtakeWhile_imp hc
  rw [← hzeros, List.rdropWhile_append_rtakeWhile]

theorem isDigits_rdropWhile {s : List UInt8} (h : IsDigits s) :
    IsDigits (s.rdropWhile (· == 48)) := fun c hc =>
  h c ((List.rdropWhile_prefix (· == 48) s).subset hc)

/-- **Trailing zeros of a fraction carry no value**: the significand scanned is the digits of the
whole, scaled by the whole fraction. -/
theorem scanSignificand_withFraction {int frac t : List UInt8} (hint : IsDigits int)
    (hne : int ≠ []) (hfrac : IsDigits frac) (ht : EndsSignificand t) :
    ∃ m k : ℕ, scanSignificand isDigit 10 (withFraction int frac ++ t) = some (m, k, t)
      ∧ (m : ℚ) * 10 ^ (-(k : ℤ)) = readDigits 10 (int ++ frac) * 10 ^ (-(frac.length : ℤ)) := by
  obtain ⟨z, hz⟩ := rdropWhile_append_zeros frac
  have hscale : ∀ m k : ℕ, m * 10 ^ z = readDigits 10 (int ++ frac) → frac.length = k + z →
      (m : ℚ) * 10 ^ (-(k : ℤ)) = readDigits 10 (int ++ frac) * 10 ^ (-(frac.length : ℤ)) := by
    intro m k hm hk
    rw [← hm, hk, Nat.cast_mul, Nat.cast_pow, Nat.cast_ofNat, mul_assoc, ← zpow_natCast,
      ← zpow_add₀ (by norm_num)]
    congr 2
    push_cast
    ring
  have hread : ∀ s : List UInt8, readDigits 10 (s ++ List.replicate z 48)
      = readDigits 10 s * 10 ^ z := fun s => by
    rw [readDigits_append, readDigits_replicate_zero, List.length_replicate, add_zero]
  rw [withFraction]
  split
  · rename_i hkept
    rw [hkept, List.nil_append] at hz
    exact ⟨_, _, scanSignificand_int hint hne ht,
      hscale _ _ (by rw [hz, hread]) (by rw [hz, List.length_replicate, zero_add])⟩
  · rename_i hkept
    rw [List.append_assoc, List.cons_append]
    exact ⟨_, _, scanSignificand_frac hint hne (isDigits_rdropWhile hfrac) ht,
      hscale _ _ (by rw [← hread, List.append_assoc, ← hz])
        (by conv_lhs => rw [hz, List.length_append, List.length_replicate])⟩

/-- …so a decimal number prints and scans to its digits scaled by place and exponent. -/
theorem scanDecimal_withFraction {int frac t : List UInt8} (hint : IsDigits int)
    (hne : int ≠ []) (hfrac : IsDigits frac) (ht : EndsSignificand t) {e : ℤ}
    (hexp : scanExponent 101 t = (e, [])) :
    scanDecimal (withFraction int frac ++ t)
      = some (.number (readDigits 10 (int ++ frac) * 10 ^ (e - frac.length)), []) := by
  obtain ⟨m, k, hscan, hvalue⟩ := scanSignificand_withFraction hint hne hfrac ht
  rw [scanDecimal_eq hscan hexp, sub_eq_add_neg, sub_eq_add_neg, zpow_add₀ (by norm_num),
    zpow_add₀ (by norm_num), mul_left_comm, hvalue, mul_left_comm]

theorem endsSignificand_exponentText (X : ℤ) : EndsSignificand (exponentText X) := by
  rintro c ⟨⟩
  decide

theorem scanExponent_exponentText (X : ℤ) : scanExponent 101 (exponentText X) = (X, []) := by
  obtain ⟨ds, hds, hdigits, hread, hne⟩ : ∃ ds,
      exponentText X = 101 :: (if X < 0 then 45 else 43) :: ds ∧ IsDigits ds
        ∧ readDigits 10 ds = X.natAbs ∧ ds ≠ [] := by
    refine ⟨_, rfl, ?_, ?_, ?_⟩
    · split
      · exact isDigits_append.mpr ⟨isDigits_replicate_zero 1, isDigits_printUnsigned _⟩
      · exact isDigits_printUnsigned _
    · split
      · have hzero : readDigits 10 [48] = 0 := by decide
        change readDigits 10 ([48] ++ printUnsigned _) = _
        rw [readDigits_append, hzero, zero_mul, zero_add, readDigits_printUnsigned]
      · exact readDigits_printUnsigned _
    · split
      · exact List.cons_ne_nil _ _
      · exact printUnsigned_ne_nil _
  have htake : ds.takeWhile isDigit = ds := List.takeWhile_eq_self_iff.mpr hdigits
  have hdrop : ds.dropWhile isDigit = [] := List.dropWhile_eq_nil_iff.mpr hdigits
  rw [hds]
  by_cases hX : X < 0
  · simp only [hX, if_true, scanExponent, scanSign, htake, hdrop, hread]
    rw [if_pos ⟨by decide, hne⟩]
    simp only [Prod.mk.injEq, and_true]
    omega
  · simp only [hX, if_false, scanExponent, scanSign, htake, hdrop, hread]
    rw [if_pos ⟨by decide, hne⟩]
    simp only [Bool.false_eq_true, if_false, Prod.mk.injEq, and_true]
    omega

/-! ## Reading a printed value back -/

/-- **A printed magnitude scans, whole, to its `p`-digit rounding.** -/
theorem scanDecimal_printMagnitude (hp : 0 < p) {q : ℚ} (hq : 0 ≤ q) :
    scanDecimal (printMagnitude p q) = some (.number (roundDigits p q), []) := by
  rcases hq.eq_or_lt with rfl | hpos
  · have hscan := scanDecimal_eq (scanSignificand_int (t := []) (isDigits_replicate_zero 1)
      (List.cons_ne_nil _ _) fun c hc => nomatch hc) rfl
    rw [roundDigits_zero, printMagnitude, if_pos rfl]
    rw [readDigits_replicate_zero, Nat.cast_zero, zero_mul] at hscan
    exact hscan
  obtain ⟨-, -, hvalue⟩ := significand_spec hp hpos
  have hlen := length_significand hp hpos
  have hdigits := isDigits_digitText (significand p q).1
  have hnil : EndsSignificand [] := fun c hc => nomatch hc
  rw [← hvalue, printMagnitude, if_neg hpos.ne']
  generalize significand p q = s at *
  obtain ⟨n, E⟩ := s
  simp only at hlen hdigits ⊢
  have htake : ∀ k, 0 < k → (digitText n).take k ≠ [] := fun k hk h => by
    have := congrArg List.length h
    rw [List.length_take, hlen, List.length_nil] at this
    omega
  have hsplit : ∀ k, IsDigits ((digitText n).take k) ∧ IsDigits ((digitText n).drop k) := fun k =>
    isDigits_append.mp ((List.take_append_drop k _).symm ▸ hdigits)
  split_ifs with hrange hX
  · rw [← List.append_nil (withFraction _ _), scanDecimal_withFraction (hsplit _).1
      (htake _ (by omega)) (hsplit _).2 hnil rfl, List.take_append_drop, readDigits_digitText,
      List.length_drop, hlen]
    rw [show (0 : ℤ) - ((p - (E + p - 1 + 1).toNat : ℕ) : ℤ) = E by omega]
  · have hzeros := isDigits_append.mpr
      ⟨isDigits_replicate_zero (-(E + p - 1) - 1).toNat, hdigits⟩
    have hzero : readDigits 10 [48] = 0 := readDigits_replicate_zero 10 1
    have hint : IsDigits [48] := isDigits_replicate_zero 1
    rw [← List.append_nil (withFraction _ _), scanDecimal_withFraction
      hint (List.cons_ne_nil _ _) hzeros hnil rfl, readDigits_append,
      readDigits_append, hzero, readDigits_replicate_zero, zero_mul, zero_mul, zero_add, zero_add,
      readDigits_digitText, List.length_append, List.length_replicate, hlen]
    rw [show (0 : ℤ) - (((-(E + p - 1) - 1).toNat + p : ℕ) : ℤ) = E by omega]
  · rw [scanDecimal_withFraction (hsplit _).1 (htake _ one_pos) (hsplit _).2
      (endsSignificand_exponentText _) (scanExponent_exponentText _), List.take_append_drop,
      readDigits_digitText, List.length_drop, hlen]
    rw [show E + (p : ℤ) - 1 - ((p - 1 : ℕ) : ℤ) = E by omega]

/-! ## The characters of the text -/

theorem isDecimalChar_withFraction {int frac : List UInt8} (hint : IsDigits int)
    (hfrac : IsDigits frac) : ∀ c ∈ withFraction int frac, isDecimalChar c = true := by
  intro c hc
  rw [withFraction] at hc
  split at hc
  · exact isDecimalChar_of_isDigit (hint c hc)
  · rcases List.mem_append.mp hc with hc | hc
    · exact isDecimalChar_of_isDigit (hint c hc)
    · rcases List.mem_cons.mp hc with rfl | hc
      · rfl
      · exact isDecimalChar_of_isDigit (isDigits_rdropWhile hfrac c hc)

theorem isDecimalChar_exponentText (X : ℤ) : ∀ c ∈ exponentText X, isDecimalChar c = true := by
  intro c hc
  rw [exponentText] at hc
  simp only [List.mem_cons] at hc
  rcases hc with rfl | rfl | hc
  · rfl
  · split <;> rfl
  · split at hc
    · rcases List.mem_cons.mp hc with rfl | hc
      · rfl
      · exact isDecimalChar_of_isDigit (isDigits_printUnsigned _ c hc)
    · exact isDecimalChar_of_isDigit (isDigits_printUnsigned _ c hc)

/-- **A printed magnitude is spelled in decimal characters**, and starts with a digit. -/
theorem isDecimalChar_printMagnitude (p : ℕ) (q : ℚ) :
    ∀ c ∈ printMagnitude p q, isDecimalChar c = true := by
  rw [printMagnitude]
  split
  · intro c hc
    rw [List.mem_singleton.mp hc]
    rfl
  generalize significand p q = s
  obtain ⟨n, E⟩ := s
  have hdigits := isDigits_digitText n
  have hsplit : ∀ k, IsDigits ((digitText n).take k) ∧ IsDigits ((digitText n).drop k) := fun k =>
    isDigits_append.mp ((List.take_append_drop k _).symm ▸ hdigits)
  simp only
  split_ifs
  · exact isDecimalChar_withFraction (hsplit _).1 (hsplit _).2
  · exact isDecimalChar_withFraction (isDigits_replicate_zero 1)
      (isDigits_append.mpr ⟨isDigits_replicate_zero _, hdigits⟩)
  · intro c hc
    rcases List.mem_append.mp hc with hc | hc
    · exact isDecimalChar_withFraction (hsplit _).1 (hsplit _).2 c hc
    · exact isDecimalChar_exponentText _ c hc

/-- A text that scans as a decimal starts with neither a sign nor a space. -/
theorem head?_printMagnitude (hp : 0 < p) {q : ℚ} (hq : 0 ≤ q) :
    ∃ c t, printMagnitude p q = c :: t ∧ isSpace c = false ∧ c ≠ 43 ∧ c ≠ 45 := by
  have hscan := scanDecimal_printMagnitude hp hq
  have hchars := isDecimalChar_printMagnitude p q
  generalize printMagnitude p q = s at *
  cases s with
  | nil => simp [scanDecimal, scanSignificand] at hscan
  | cons c t =>
    refine ⟨c, t, rfl, ?_, ?_, ?_⟩
    · have := hchars c List.mem_cons_self
      simp only [isDecimalChar, Bool.or_eq_true, beq_iff_eq] at this
      rcases this with (((h | rfl) | rfl) | rfl) | rfl
      · exact isSpace_of_isDigit h
      all_goals rfl
    all_goals
      rintro rfl
      simp [scanDecimal, scanSignificand, isDigit] at hscan

/-- **`strtod` reads a printed value whole**, as the rounding of its `p`-digit rounding. -/
theorem strtod_printG (hp : 0 < p) (v : binary64.Value) :
    strtod (32 :: printG p v) = (rereadG p v, []) := by
  cases v with
  | inf negative => cases negative <;> rfl
  | nan => rfl
  | finite q h =>
    obtain ⟨c, t, hct, hspace, hplus, hminus⟩ := head?_printMagnitude hp (abs_nonneg q)
    have hscan := scanMagnitude_of_decimal (isDecimalChar_printMagnitude p |q|)
    rw [scanDecimal_printMagnitude hp (abs_nonneg q)] at hscan
    have hskip : ∀ d s, isSpace d = false → skipSpaces (32 :: d :: s) = d :: s := fun d s hd => by
      rw [skipSpaces, List.dropWhile_cons_of_pos (by decide),
        List.dropWhile_cons_of_neg (by simpa using hd)]
    by_cases hneg : q < 0
    · rw [printG, if_pos hneg, List.singleton_append, strtod, hskip _ _ (by decide)]
      simp only [scanSign, hscan, signed, if_true, rereadG]
      rw [abs_of_neg hneg, roundDigits_neg, neg_neg]
    · have hsign : scanSign (c :: t) = (false, c :: t) := by
        rw [scanSign]
        · exact fun _ h => hplus (List.cons.inj h).1
        · exact fun _ h => hminus (List.cons.inj h).1
      rw [printG, if_neg hneg, List.nil_append, hct, strtod, hskip _ _ hspace, hsign]
      simp only [← hct, hscan, signed, rereadG]
      rw [abs_of_nonneg (not_lt.mp hneg)]
      rfl

/-! ## Size and characters of a line's value -/

/-- **No octet of a printed value ends a C string or a line.** -/
theorem printG_no_stop (p : ℕ) (v : binary64.Value) : ∀ c ∈ printG p v, c ≠ 0 ∧ c ≠ 10 := by
  have hword : ∀ (negative : Bool) (w : List UInt8), (∀ c ∈ w, c ≠ 0 ∧ c ≠ 10) →
      ∀ c ∈ (if negative then [45] else []) ++ w, c ≠ 0 ∧ c ≠ 10 := by
    intro negative w hw c hc
    rcases List.mem_append.mp hc with hc | hc
    · split at hc
      · rw [List.mem_singleton.mp hc]
        decide
      · exact absurd hc List.not_mem_nil
    · exact hw c hc
  cases v with
  | finite q h =>
    have := hword (decide (q < 0)) (printMagnitude p |q|) fun c hc => by
      have hchar := isDecimalChar_printMagnitude p |q| c hc
      refine ⟨?_, ?_⟩ <;> rintro rfl <;> exact absurd hchar (by decide)
    simpa [printG] using this
  | inf negative =>
    have hinf : ascii "inf" = [105, 110, 102] := by decide
    exact hword negative _ (by rw [hinf]; simp)
  | nan =>
    have hnan : ascii "nan" = [110, 97, 110] := by decide
    rw [printG, hnan]
    simp

theorem length_withFraction_le (int frac : List UInt8) :
    (withFraction int frac).length ≤ int.length + frac.length + 1 := by
  have hkept := (List.rdropWhile_prefix (· == 48) frac).length_le
  rw [withFraction]
  split
  · omega
  · rw [List.length_append, List.length_cons]
    omega

theorem length_exponentText_le {X : ℤ} (hX : X.natAbs < 10 ^ 3) :
    (exponentText X).length ≤ 5 := by
  have hdigits := length_printUnsigned_le (p := 3) (by norm_num) hX
  rw [exponentText, List.length_cons, List.length_cons]
  split
  · rw [List.length_cons]
    omega
  · omega

/-- The decimal exponent of a nonzero binary64 value has at most three digits. -/
theorem natAbs_log_lt {q : ℚ} (h : binary64.IsFinite q) (hq : q ≠ 0) :
    (Int.log 10 |q|).natAbs < 400 := by
  have hpos := abs_pos.mpr hq
  have hlo : (2 : ℚ) ^ (-1074 : ℤ) ≤ |q| := by
    obtain ⟨m, e, -, he, rfl⟩ := h.1
    have hm : m ≠ 0 := fun hm => hq (by simp [hm])
    have hm1 : (1 : ℚ) ≤ |(m : ℚ)| := by exact_mod_cast Int.one_le_abs hm
    rw [abs_mul, abs_of_pos (zpow_pos (two_pos (α := ℚ)) e)]
    exact (zpow_le_zpow_right₀ one_le_two he).trans
      (le_mul_of_one_le_left (zpow_pos two_pos e).le hm1)
  have hhi : |q| < (2 : ℚ) ^ (1024 : ℤ) := h.2
  have hten : (2 : ℚ) ^ (1197 : ℤ) ≤ 10 ^ (399 : ℤ) := by
    rw [show (1197 : ℤ) = 3 * 399 by norm_num, zpow_mul]
    exact zpow_le_zpow_left₀ (by norm_num) (by norm_num) (by norm_num)
  have hstep : ∀ e : ℤ, e ≤ 1197 → (2 : ℚ) ^ e ≤ 10 ^ (399 : ℤ) := fun e he =>
    (zpow_le_zpow_right₀ one_le_two he).trans hten
  have h1 : (-399 : ℤ) ≤ Int.log 10 |q| := by
    refine (Int.zpow_le_iff_le_log (by norm_num) hpos).mp (le_trans ?_ hlo)
    rw [Nat.cast_ofNat, zpow_neg, zpow_neg]
    exact inv_anti₀ (zpow_pos two_pos _) (hstep _ (by norm_num))
  have h2 : Int.log 10 |q| < 399 :=
    (Int.lt_zpow_iff_log_lt (by norm_num) hpos).mp (hhi.trans_le (hstep _ (by norm_num)))
  omega

theorem significand_exp (p : ℕ) (q : ℚ) :
    (significand p q).2 = digitExp p q ∨ (significand p q).2 = digitExp p q + 1 := by
  simp only [significand]
  split
  · exact Or.inr rfl
  · exact Or.inl rfl

/-- **A printed value is short**: its digits, and at most eight octets around them. -/
theorem length_printG_le (hp : 0 < p) (v : binary64.Value) : (printG p v).length ≤ p + 8 := by
  cases v with
  | inf negative => cases negative <;> simp [printG, ascii]
  | nan => simp [printG, ascii]
  | finite q h =>
    have hmagnitude : (printMagnitude p |q|).length ≤ p + 7 := by
      rw [printMagnitude]
      split
      · exact Nat.le_add_left 1 (p + 6)
      rename_i hq
      have hq0 : q ≠ 0 := fun h0 => hq (by rw [h0, abs_zero])
      have hlog := natAbs_log_lt h hq0
      have hlen := length_significand hp (abs_pos.mpr hq0)
      have hexp := significand_exp p |q|
      have hdigit : digitExp p |q| = Int.log 10 |q| - (p - 1) := by rw [digitExp, abs_abs]
      generalize significand p |q| = s at *
      obtain ⟨n, E⟩ := s
      simp only at hlen hexp ⊢
      split_ifs with hrange hX
      · have := length_withFraction_le ((digitText n).take (E + p - 1 + 1).toNat)
          ((digitText n).drop (E + p - 1 + 1).toNat)
        rw [List.length_take, List.length_drop, hlen] at this
        omega
      · have := length_withFraction_le [48]
          (List.replicate (-(E + p - 1) - 1).toNat 48 ++ digitText n)
        rw [List.length_append, List.length_replicate, List.length_singleton, hlen] at this
        omega
      · have := length_withFraction_le ((digitText n).take 1) ((digitText n).drop 1)
        have hX3 := length_exponentText_le (X := E + p - 1) (by omega)
        rw [List.length_take, List.length_drop, hlen] at this
        rw [List.length_append]
        omega
    rw [printG, List.length_append]
    split
    · rw [List.length_singleton]
      omega
    · rw [List.length_nil]
      omega

end Text
