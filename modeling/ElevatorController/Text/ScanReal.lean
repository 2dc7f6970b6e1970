import ElevatorController.Text.Octets
import ElevatorController.Numbers.BinaryFormat

/-!
# Text/ScanReal — `strtod` in the C locale

    [spaces] [sign] ( inf[inity] | nan[(chars)] | 0x hex [p exp] | decimal [e exp] )

The number a text denotes is scanned as an exact rational and rounded once, to binary64.
`scanDecimal_append` is the spec lemma for decimal texts: digits, an optional fraction, and what
`scanExponent` makes of the rest.
-/

namespace Text

open BinaryFormat

/-- What a number text denotes, before its sign. -/
inductive Magnitude where
  | number (q : ℚ)
  | infinity
  | nan

/-- The text after a word, compared without case, if it starts with it. -/
def stripWord (word s : List UInt8) : Option (List UInt8) :=
  if (s.take word.length).map toLower = word then some (s.drop word.length) else none

/-- The text after a parenthesised character sequence, if it starts with one. -/
def stripParens : List UInt8 → Option (List UInt8)
  | 40 :: t =>
    match t.dropWhile fun c => isDigit c || (97 ≤ toLower c && toLower c ≤ 122) || c == 95 with
    | 41 :: rest => some rest
    | _ => none
  | _ => none

/-- Digits with an optional point: the number they spell without the point, how many of them
follow it, and the rest.  At least one digit is needed. -/
def scanSignificand (digit : UInt8 → Bool) (radix : ℕ) (s : List UInt8) :
    Option (ℕ × ℕ × List UInt8) :=
  let int := s.takeWhile digit
  match s.dropWhile digit with
  | 46 :: t =>
    let frac := t.takeWhile digit
    if int = [] ∧ frac = [] then none
    else some (readDigits radix (int ++ frac), frac.length, t.dropWhile digit)
  | rest => if int = [] then none else some (readDigits radix int, 0, rest)

/-- An exponent after its marker; without digits there is none and nothing is consumed. -/
def scanExponent (marker : UInt8) : List UInt8 → ℤ × List UInt8
  | [] => (0, [])
  | c :: t =>
    let (negative, body) := scanSign t
    let digits := body.takeWhile isDigit
    if toLower c = marker ∧ digits ≠ [] then
      (if negative then -(readDigits 10 digits : ℤ) else readDigits 10 digits,
        body.dropWhile isDigit)
    else (0, c :: t)

/-- A decimal number. -/
def scanDecimal (s : List UInt8) : Option (Magnitude × List UInt8) :=
  match scanSignificand isDigit 10 s with
  | none => none
  | some (m, fracLength, rest) =>
    let (e, rest) := scanExponent 101 rest
    some (.number (m * 10 ^ (e - fracLength)), rest)

/-- A hexadecimal number. -/
def scanHex (s : List UInt8) : Option (Magnitude × List UInt8) :=
  match (stripWord (ascii "0x") s).bind (scanSignificand isHexDigit 16) with
  | none => none
  | some (m, fracLength, rest) =>
    let (e, rest) := scanExponent 112 rest
    some (.number (m * 2 ^ (e - 4 * fracLength)), rest)

/-- An infinity or a not-a-number. -/
def scanWord (s : List UInt8) : Option (Magnitude × List UInt8) :=
  match stripWord (ascii "inf") s with
  | some t => some (.infinity, (stripWord (ascii "inity") t).getD t)
  | none =>
    match stripWord (ascii "nan") s with
    | some t => some (.nan, (stripParens t).getD t)
    | none => none

/-- The subject sequence of `strtod` after its sign. -/
def scanMagnitude (s : List UInt8) : Option (Magnitude × List UInt8) :=
  match scanWord s with
  | some r => some r
  | none =>
    match scanHex s with
    | some r => some r
    | none => scanDecimal s

/-- A magnitude with its sign, as a `double`. -/
def signed (negative : Bool) : Magnitude → binary64.Value
  | .number q => binary64.round (if negative then -q else q)
  | .infinity => .inf negative
  | .nan => .nan

/-- `strtod(text, &end)`: the value, and the text from `end` on — all of it when there is no
number. -/
def strtod (text : List UInt8) : binary64.Value × List UInt8 :=
  let (negative, body) := scanSign (skipSpaces text)
  match scanMagnitude body with
  | none => (binary64.round 0, text)
  | some (magnitude, rest) => (signed negative magnitude, rest)

/-! ## Decimal texts -/

/-- A word with a letter the text lacks does not match. -/
theorem stripWord_eq_none {word s : List UInt8} {a : UInt8} (ha : a ∈ word)
    (h : ∀ c ∈ s, toLower c ≠ a) : stripWord word s = none := by
  refine if_neg fun hw => ?_
  rw [← hw] at ha
  obtain ⟨c, hc, rfl⟩ := List.mem_map.mp ha
  exact h c (List.mem_of_mem_take hc) rfl

/-- A character of a decimal number. -/
def isDecimalChar (c : UInt8) : Bool := isDigit c || c == 46 || c == 101 || c == 43 || c == 45

theorem isDecimalChar_of_isDigit {c : UInt8} (h : isDigit c = true) : isDecimalChar c = true := by
  simp [isDecimalChar, h]

/-- No decimal character is one of the letters that start a word or a hexadecimal number. -/
theorem toLower_of_isDecimalChar {c : UInt8} (h : isDecimalChar c = true) :
    toLower c ≠ 105 ∧ toLower c ≠ 110 ∧ toLower c ≠ 120 := by
  simp only [isDecimalChar, Bool.or_eq_true, beq_iff_eq] at h
  rcases h with (((h | rfl) | rfl) | rfl) | rfl
  · have hd := isDigit_iff.mp h
    have hlow : toLower c = c := by
      rw [toLower, if_neg]
      simp only [Bool.and_eq_true, decide_eq_true_eq, UInt8.le_iff_toNat_le, not_and, not_le]
      exact fun h65 => absurd (le_trans h65 hd.2) (by decide)
    rw [hlow]
    refine ⟨?_, ?_, ?_⟩ <;> rintro rfl <;> exact absurd hd.2 (by decide)
  all_goals decide

/-- On decimal characters only the decimal form can match. -/
theorem scanMagnitude_of_decimal {s : List UInt8} (h : ∀ c ∈ s, isDecimalChar c = true) :
    scanMagnitude s = scanDecimal s := by
  have hi : stripWord (ascii "inf") s = none :=
    stripWord_eq_none (a := 105) (by decide) fun c hc => (toLower_of_isDecimalChar (h c hc)).1
  have hn : stripWord (ascii "nan") s = none :=
    stripWord_eq_none (a := 110) (by decide) fun c hc => (toLower_of_isDecimalChar (h c hc)).2.1
  have hx : stripWord (ascii "0x") s = none :=
    stripWord_eq_none (a := 120) (by decide) fun c hc => (toLower_of_isDecimalChar (h c hc)).2.2
  simp [scanMagnitude, scanWord, scanHex, hi, hn, hx]

/-- What may follow a significand: neither a digit nor a point. -/
def EndsSignificand (t : List UInt8) : Prop := ∀ c ∈ t.head?, isDigit c = false ∧ c ≠ 46

theorem scanSignificand_int {int t : List UInt8} (hint : IsDigits int) (hne : int ≠ [])
    (ht : EndsSignificand t) :
    scanSignificand isDigit 10 (int ++ t) = some (readDigits 10 int, 0, t) := by
  have htake := takeWhile_append_stop hint fun c hc => (ht c hc).1
  have hdrop := dropWhile_append_stop hint fun c hc => (ht c hc).1
  rw [scanSignificand, htake, hdrop]
  cases t with
  | nil => simp [hne]
  | cons c t =>
    have hc := (ht c rfl).2
    simp only [hne, if_false]
    split
    · rename_i heq
      exact absurd (List.cons.inj heq).1 hc
    · rfl

theorem scanSignificand_frac {int frac t : List UInt8} (hint : IsDigits int) (hne : int ≠ [])
    (hfrac : IsDigits frac) (ht : EndsSignificand t) :
    scanSignificand isDigit 10 (int ++ 46 :: (frac ++ t))
      = some (readDigits 10 (int ++ frac), frac.length, t) := by
  have hpoint : ∀ c ∈ (46 :: (frac ++ t)).head?, isDigit c = false := by
    rintro c ⟨⟩
    rfl
  have htake := takeWhile_append_stop hfrac fun c hc => (ht c hc).1
  have hdrop := dropWhile_append_stop hfrac fun c hc => (ht c hc).1
  rw [scanSignificand, takeWhile_append_stop hint hpoint, dropWhile_append_stop hint hpoint]
  simp only [htake, hdrop, hne, false_and, if_false]

/-- **A decimal number is its digits, scaled by the exponent less the fraction's length.** -/
theorem scanDecimal_eq {s : List UInt8} {m k : ℕ} {t rest : List UInt8} {e : ℤ}
    (hs : scanSignificand isDigit 10 s = some (m, k, t)) (ht : scanExponent 101 t = (e, rest)) :
    scanDecimal s = some (.number (m * 10 ^ (e - k)), rest) := by
  simp only [scanDecimal, hs, ht]

end Text
