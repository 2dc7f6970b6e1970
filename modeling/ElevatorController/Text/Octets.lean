import Mathlib

/-!
# Text/Octets — octet texts and the decimal digits in them

A C string is a list of octets read up to its first NUL; a `std::string` may hold NULs.  Character
classes are those of the C locale.  `readDigits` and `digitText` are the two directions of
unsigned decimal, and `readDigits_digitText` says they are inverse.
-/

namespace Text

/-- The octets of an ASCII text. -/
def ascii (s : String) : List UInt8 := s.toList.map fun c => UInt8.ofNat c.toNat

/-- `c_str()`: the octets up to the first NUL. -/
def cString (s : List UInt8) : List UInt8 := s.takeWhile (· != 0)

/-- `isspace`. -/
def isSpace (c : UInt8) : Bool := c == 32 || (9 ≤ c && c ≤ 13)

/-- `isdigit`. -/
def isDigit (c : UInt8) : Bool := 48 ≤ c && c ≤ 57

/-- `tolower`. -/
def toLower (c : UInt8) : UInt8 := if 65 ≤ c && c ≤ 90 then c + 32 else c

/-- The value of a decimal or hexadecimal digit. -/
def digitVal (c : UInt8) : ℕ :=
  if isDigit c then c.toNat - 48 else (toLower c).toNat - 87

/-- `isxdigit`. -/
def isHexDigit (c : UInt8) : Bool := isDigit c || (97 ≤ toLower c && toLower c ≤ 102)

/-- Skip leading white space. -/
def skipSpaces (s : List UInt8) : List UInt8 := s.dropWhile isSpace

/-- An optional sign: whether it is a minus, and what follows. -/
def scanSign : List UInt8 → Bool × List UInt8
  | 43 :: t => (false, t)
  | 45 :: t => (true, t)
  | t => (false, t)

/-! ## Digits -/

/-- The digit octet of a number below ten. -/
def digitOctet (d : ℕ) : UInt8 := UInt8.ofNat (48 + d)

/-- The value of a run of digits in a radix. -/
def readDigits (radix : ℕ) (s : List UInt8) : ℕ :=
  s.foldl (fun acc c => radix * acc + digitVal c) 0

/-- The decimal digits of `n`, none for zero. -/
def digitText (n : ℕ) : List UInt8 := (Nat.digits 10 n).reverse.map digitOctet

theorem toNat_digitOctet {d : ℕ} (h : d < 10) : (digitOctet d).toNat = 48 + d := by
  rw [digitOctet, UInt8.toNat_ofNat']
  omega

theorem isDigit_iff {c : UInt8} : isDigit c = true ↔ 48 ≤ c.toNat ∧ c.toNat ≤ 57 := by
  simp [isDigit, UInt8.le_iff_toNat_le]

theorem isDigit_digitOctet {d : ℕ} (h : d < 10) : isDigit (digitOctet d) = true := by
  rw [isDigit_iff, toNat_digitOctet h]
  omega

theorem digitVal_digitOctet {d : ℕ} (h : d < 10) : digitVal (digitOctet d) = d := by
  rw [digitVal, if_pos (isDigit_digitOctet h), toNat_digitOctet h]
  omega

/-- A run of digits is a list of digit octets. -/
def IsDigits (s : List UInt8) : Prop := ∀ c ∈ s, isDigit c = true

theorem isDigits_append {s t : List UInt8} : IsDigits (s ++ t) ↔ IsDigits s ∧ IsDigits t := by
  simp [IsDigits, or_imp, forall_and]

theorem isDigits_replicate_zero (k : ℕ) : IsDigits (List.replicate k 48) := fun c hc => by
  rw [List.eq_of_mem_replicate hc]
  rfl

theorem isDigits_digitText (n : ℕ) : IsDigits (digitText n) := by
  intro c hc
  obtain ⟨d, hd, rfl⟩ := List.mem_map.mp hc
  exact isDigit_digitOctet (Nat.digits_lt_base (by norm_num) (List.mem_reverse.mp hd))

theorem readDigits_append (radix : ℕ) (s t : List UInt8) :
    readDigits radix (s ++ t) = readDigits radix s * radix ^ t.length + readDigits radix t := by
  induction t using List.reverseRecOn with
  | nil => simp [readDigits]
  | append_singleton t c ih =>
    have hpeel : ∀ u, readDigits radix (u ++ [c]) = radix * readDigits radix u + digitVal c :=
      fun u => by simp [readDigits, List.foldl_append]
    rw [← List.append_assoc, hpeel, hpeel, ih, List.length_append, List.length_singleton, pow_succ]
    ring

theorem readDigits_replicate_zero (radix k : ℕ) : readDigits radix (List.replicate k 48) = 0 := by
  induction k with
  | zero => rfl
  | succ k ih =>
    rw [List.replicate_succ', readDigits_append, ih]
    simp [readDigits, digitVal, isDigit]

/-- **Reading back the digits of `n` gives `n`.** -/
@[simp] theorem readDigits_digitText (n : ℕ) : readDigits 10 (digitText n) = n := by
  have h : ∀ ds : List ℕ, (∀ d ∈ ds, d < 10) →
      readDigits 10 (ds.reverse.map digitOctet) = Nat.ofDigits 10 ds := by
    intro ds
    induction ds with
    | nil => intro _; rfl
    | cons d ds ih =>
      intro hlt
      have hd := digitVal_digitOctet (hlt d List.mem_cons_self)
      rw [List.reverse_cons, List.map_append, readDigits_append,
        ih fun e he => hlt e (List.mem_cons_of_mem _ he), Nat.ofDigits_cons]
      simp only [readDigits, List.map_cons, List.map_nil, List.foldl_cons, List.foldl_nil, hd,
        List.length_singleton, pow_one, mul_zero, zero_add]
      ring
  rw [digitText, h _ fun d hd => Nat.digits_lt_base (by norm_num) hd, Nat.ofDigits_digits]

theorem length_digitText {n p : ℕ} (hlo : 10 ^ p ≤ n) (hhi : n < 10 ^ (p + 1)) :
    (digitText n).length = p + 1 := by
  have hn : n ≠ 0 := (lt_of_lt_of_le (by positivity) hlo).ne'
  rw [digitText, List.length_map, List.length_reverse, Nat.length_digits 10 n (by norm_num) hn,
    Nat.log_eq_of_pow_le_of_lt_pow hlo hhi]

theorem length_digitText_le {n p : ℕ} (h : n < 10 ^ p) : (digitText n).length ≤ p := by
  rw [digitText, List.length_map, List.length_reverse]
  exact (Nat.digits_length_le_iff (by norm_num) n).mpr h

/-! ## Runs of characters -/

/-- A scan stops exactly where the run does, if what follows starts with another character. -/
theorem takeWhile_append_stop {p : UInt8 → Bool} {s t : List UInt8} (hs : ∀ c ∈ s, p c = true)
    (ht : ∀ c ∈ t.head?, p c = false) : (s ++ t).takeWhile p = s := by
  rw [List.takeWhile_append_of_pos hs]
  cases t with
  | nil => simp
  | cons c t => rw [List.takeWhile_cons_of_neg (by simpa using ht c rfl), List.append_nil]

theorem dropWhile_append_stop {p : UInt8 → Bool} {s t : List UInt8} (hs : ∀ c ∈ s, p c = true)
    (ht : ∀ c ∈ t.head?, p c = false) : (s ++ t).dropWhile p = t := by
  rw [List.dropWhile_append_of_pos hs]
  cases t with
  | nil => rfl
  | cons c t => exact List.dropWhile_cons_of_neg (by simpa using ht c rfl)

/-- A text with no NUL is its own C string. -/
theorem cString_of_no_nul {s : List UInt8} (h : (0 : UInt8) ∉ s) : cString s = s :=
  List.takeWhile_eq_self_iff.mpr fun c hc => by
    simpa using fun h0 : c = 0 => h (h0 ▸ hc)

theorem isSpace_of_isDigit {c : UInt8} (h : isDigit c = true) : isSpace c = false := by
  have := isDigit_iff.mp h
  simp only [isSpace, Bool.or_eq_false_iff, beq_eq_false_iff_ne, ne_eq, Bool.and_eq_false_iff,
    decide_eq_false_iff_not, UInt8.le_iff_toNat_le, not_le]
  refine ⟨fun h32 => ?_, Or.inr ?_⟩
  · rw [h32] at this
    exact absurd this.1 (by decide)
  · exact lt_of_lt_of_le (by decide) this.1

/-- A digit starts no sign. -/
theorem scanSign_of_isDigit {c : UInt8} (h : isDigit c = true) (t : List UInt8) :
    scanSign (c :: t) = (false, c :: t) := by
  rw [scanSign]
  all_goals
    intro _ ht
    rw [(List.cons.inj ht).1] at h
    exact absurd h (by decide)

/-! ## Unsigned integers -/

/-- `ULONG_MAX`, for the 64-bit `unsigned long` of an LP64 host. -/
def ulongMax : ℕ := 2 ^ 64 - 1

/-- `strtoul(text, &end, 10)`: the value, and the text from `end` on — all of it when no digits
were found.  An overflow saturates, and a minus negates in `unsigned long`. -/
def strtoul (text : List UInt8) : ℕ × List UInt8 :=
  let (negative, body) := scanSign (skipSpaces text)
  let digits := body.takeWhile isDigit
  if digits = [] then (0, text)
  else
    let m := readDigits 10 digits
    (if ulongMax < m then ulongMax else if negative then (2 ^ 64 - m) % 2 ^ 64 else m,
      body.dropWhile isDigit)

/-- `%u`. -/
def printUnsigned (n : ℕ) : List UInt8 := if n = 0 then [48] else digitText n

theorem isDigits_printUnsigned (n : ℕ) : IsDigits (printUnsigned n) := by
  rw [printUnsigned]
  split
  · exact isDigits_replicate_zero 1
  · exact isDigits_digitText n

theorem readDigits_printUnsigned (n : ℕ) : readDigits 10 (printUnsigned n) = n := by
  rw [printUnsigned]
  split
  · rename_i h
    rw [h]
    rfl
  · exact readDigits_digitText n

theorem printUnsigned_ne_nil (n : ℕ) : printUnsigned n ≠ [] := by
  rw [printUnsigned]
  split
  · exact List.cons_ne_nil _ _
  · rename_i h
    simpa [digitText, Nat.digits_eq_nil_iff_eq_zero] using h

theorem length_printUnsigned_le {n p : ℕ} (hp : 0 < p) (h : n < 10 ^ p) :
    (printUnsigned n).length ≤ p := by
  rw [printUnsigned]
  split
  · exact hp
  · exact length_digitText_le h

/-- **`strtoul` reads back what `%u` printed**, whatever non-digit follows. -/
theorem strtoul_printUnsigned {n : ℕ} (hn : n ≤ ulongMax) {rest : List UInt8}
    (hrest : ∀ c ∈ rest.head?, isDigit c = false) :
    strtoul (32 :: (printUnsigned n ++ rest)) = (n, rest) := by
  have hdigits := isDigits_printUnsigned n
  obtain ⟨c, t, hct⟩ := List.exists_cons_of_ne_nil (printUnsigned_ne_nil n)
  have hc : isDigit c = true := hdigits c (hct ▸ List.mem_cons_self)
  have hskip : skipSpaces (32 :: (printUnsigned n ++ rest)) = printUnsigned n ++ rest := by
    rw [skipSpaces, List.dropWhile_cons_of_pos (by decide), hct, List.cons_append,
      List.dropWhile_cons_of_neg (by simpa using isSpace_of_isDigit hc)]
  have hsign : scanSign (printUnsigned n ++ rest) = (false, printUnsigned n ++ rest) := by
    rw [hct, List.cons_append]
    exact scanSign_of_isDigit hc _
  rw [strtoul, hskip, hsign]
  simp only [takeWhile_append_stop hdigits hrest, dropWhile_append_stop hdigits hrest,
    if_neg (printUnsigned_ne_nil n), readDigits_printUnsigned, if_neg (not_lt.mpr hn),
    Bool.false_eq_true, if_false]

end Text
