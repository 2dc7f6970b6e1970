import ElevatorController.Backup.Parse

/-!
# Backup/Grammar — the image grammar, and the lines the parser reads besides

    analog-value␣100␣42.5          the grammar: one space, digits, one space, a number, the end
    analog-value␣␣+100␣42.5\0…     read all the same

The parser leaves the separation of the fields to `strtoul` and `strtod`, which skip white space
(also where there is none), take a sign and stop at a NUL.  `ReadableLine` is what comes of it,
`ImageLine` what an image has.
-/

namespace Controller

open BinaryFormat Text

/-! ## Two grammars for a line -/

/-- `strtod` reads the text whole. -/
structure IsNumber (text : List UInt8) (value : binary64.Value) : Prop where
  ne_nil : text ≠ []
  no_nul : (0 : UInt8) ∉ text
  whole : strtod text = (value, [])

/-- A line of an image: the word, a space, an unsigned decimal instance, a space, a number. -/
def ImageLine (line : List UInt8) (v : RestoredAnalogValue) : Prop :=
  ∃ digits number value,
    line = configurationImageAnalogValue ++ 32 :: (digits ++ 32 :: number)
    ∧ digits ≠ [] ∧ IsDigits digits ∧ readDigits 10 digits ≤ 4194302
    ∧ IsNumber number value ∧ (∀ c ∈ number.head?, isSpace c = false)
    ∧ v = ⟨readDigits 10 digits, value.convert binary32⟩

/-- The `unsigned long` that a sign and digits stand for. -/
def signedInstance (sign digits : List UInt8) : ℕ :=
  if sign = [45] then (2 ^ 64 - readDigits 10 digits) % 2 ^ 64 else readDigits 10 digits

/-- A line the parser reads: any white space or none before the instance, a sign, a number that may
begin with white space or at once, and after a NUL anything. -/
def ReadableLine (line : List UInt8) (v : RestoredAnalogValue) : Prop :=
  ∃ spaces sign digits number rest value,
    line = configurationImageAnalogValue ++ (spaces ++ (sign ++ (digits ++ number)) ++ rest)
    ∧ (∀ c ∈ spaces, isSpace c = true) ∧ sign ∈ [[], [43], [45]]
    ∧ digits ≠ [] ∧ IsDigits digits ∧ readDigits 10 digits ≤ ulongMax
    ∧ signedInstance sign digits ≤ 4194302
    ∧ IsNumber number value ∧ (∀ c ∈ number.head?, isDigit c = false)
    ∧ (∀ c ∈ rest.head?, c = 0)
    ∧ v = ⟨signedInstance sign digits, value.convert binary32⟩

/-! ## What the scanners read -/

theorem head?_dropWhile (p : UInt8 → Bool) (s : List UInt8) :
    ∀ c ∈ (s.dropWhile p).head?, p c = false := fun c hc => by
  have h := List.head?_dropWhile_not p s
  rw [Option.mem_def.mp hc] at h
  simpa using h

/-- A sign, or none, before what follows. -/
theorem scanSign_split (s : List UInt8) : ∃ sign, sign ∈ [[], [43], [45]]
    ∧ s = sign ++ (scanSign s).2 ∧ (scanSign s).1 = decide (sign = [45]) := by
  rw [scanSign.eq_def]
  split
  · exact ⟨[43], by simp, rfl, rfl⟩
  · exact ⟨[45], by simp, rfl, rfl⟩
  · exact ⟨[], by simp, rfl, rfl⟩

/-- A sign before a digit is read as the sign. -/
theorem scanSign_append {sign : List UInt8} (hsign : sign ∈ [[], [43], [45]]) {c : UInt8}
    (hc : isDigit c = true) (t : List UInt8) :
    scanSign (sign ++ c :: t) = (decide (sign = [45]), c :: t) := by
  simp only [List.mem_cons, List.not_mem_nil, or_false] at hsign
  rcases hsign with rfl | rfl | rfl
  · exact scanSign_of_isDigit hc t
  · rfl
  · rfl

/-- A sign or a digit is no white space. -/
theorem head?_sign {sign : List UInt8} (hsign : sign ∈ [[], [43], [45]]) {c : UInt8}
    (hc : isDigit c = true) (t : List UInt8) :
    ∀ b ∈ (sign ++ c :: t).head?, isSpace b = false := by
  simp only [List.mem_cons, List.not_mem_nil, or_false] at hsign
  rcases hsign with rfl | rfl | rfl
  all_goals rintro b ⟨⟩
  · exact isSpace_of_isDigit hc
  · rfl
  · rfl

/-- **What `strtoul` reads**: white space, a sign, and at least one digit. -/
theorem strtoul_iff {text rest : List UInt8} {n : ℕ} :
    strtoul text = (n, rest) ∧ rest ≠ text ↔ ∃ spaces sign digits,
      text = spaces ++ (sign ++ (digits ++ rest)) ∧ (∀ c ∈ spaces, isSpace c = true)
      ∧ sign ∈ [[], [43], [45]] ∧ digits ≠ [] ∧ IsDigits digits
      ∧ (∀ c ∈ rest.head?, isDigit c = false)
      ∧ n = if ulongMax < readDigits 10 digits then ulongMax else signedInstance sign digits := by
  constructor
  · rintro ⟨hread, hne⟩
    obtain ⟨sign, hsign, hsplit, hnegative⟩ := scanSign_split (skipSpaces text)
    have hbody :=
      List.takeWhile_append_dropWhile (p := isDigit) (l := (scanSign (skipSpaces text)).2)
    rw [strtoul] at hread
    generalize (scanSign (skipSpaces text)) = scanned at hread hsplit hnegative hbody
    obtain ⟨negative, body⟩ := scanned
    simp only at hread hsplit hnegative hbody
    by_cases hdigits : body.takeWhile isDigit = []
    · rw [if_pos hdigits] at hread
      exact absurd (Prod.mk.inj hread).2.symm hne
    rw [if_neg hdigits] at hread
    obtain ⟨hn, hrest⟩ := Prod.mk.inj hread
    refine ⟨text.takeWhile isSpace, sign, body.takeWhile isDigit, ?_, ?_, hsign, hdigits, ?_, ?_,
      ?_⟩
    · rw [← hrest, hbody, ← hsplit]
      exact List.takeWhile_append_dropWhile.symm
    · exact fun c hc => List.mem_takeWhile_imp hc
    · exact fun c hc => List.mem_takeWhile_imp hc
    · rw [← hrest]
      exact head?_dropWhile _ _
    · rw [← hn, signedInstance, hnegative]
      simp only [decide_eq_true_eq]
  · rintro ⟨spaces, sign, digits, rfl, hspaces, hsign, hne, hdigits, hrest, rfl⟩
    obtain ⟨c, ds, rfl⟩ := List.exists_cons_of_ne_nil hne
    have hc := hdigits c List.mem_cons_self
    have hskip : skipSpaces (spaces ++ (sign ++ (c :: ds ++ rest))) = sign ++ (c :: ds ++ rest) :=
      dropWhile_append_stop hspaces (head?_sign hsign hc _)
    rw [strtoul, hskip, List.cons_append, scanSign_append hsign hc]
    simp only [← List.cons_append, takeWhile_append_stop hdigits hrest,
      dropWhile_append_stop hdigits hrest, if_neg hne, signedInstance, decide_eq_true_eq]
    refine ⟨trivial, fun heq => ?_⟩
    have hlength := congrArg List.length heq
    simp only [List.length_append, List.length_cons] at hlength
    omega

/-- A C string, and from its NUL on what it hides. -/
theorem cString_split (s : List UInt8) :
    ∃ rest, s = cString s ++ rest ∧ ∀ c ∈ rest.head?, c = 0 := by
  refine ⟨s.dropWhile (· != 0), List.takeWhile_append_dropWhile.symm, fun c hc => ?_⟩
  simpa using head?_dropWhile _ s c hc

theorem cString_append {s rest : List UInt8} (hs : (0 : UInt8) ∉ s)
    (hrest : ∀ c ∈ rest.head?, c = 0) : cString (s ++ rest) = s := by
  refine takeWhile_append_stop (fun c hc => ?_) fun c hc => ?_
  · simpa using fun h0 : c = 0 => hs (h0 ▸ hc)
  · simpa using hrest c hc

theorem no_nul_fields {spaces sign digits number : List UInt8}
    (hspaces : ∀ c ∈ spaces, isSpace c = true) (hsign : sign ∈ [[], [43], [45]])
    (hdigits : IsDigits digits) (hnumber : (0 : UInt8) ∉ number) :
    (0 : UInt8) ∉ spaces ++ (sign ++ (digits ++ number)) := by
  simp only [List.mem_append, not_or]
  refine ⟨fun h => ?_, fun h => ?_, fun h => ?_, hnumber⟩
  · exact absurd (hspaces 0 h) (by decide)
  · simp only [List.mem_cons, List.not_mem_nil, or_false] at hsign
    rcases hsign with rfl | rfl | rfl <;> exact absurd h (by decide)
  · exact absurd (hdigits 0 h) (by decide)

/-- **The lines the parser reads** are the readable ones. -/
theorem parseImageLine_iff {line : List UInt8} {v : RestoredAnalogValue} :
    parseImageLine line = some v ↔ ReadableLine line v := by
  constructor
  · intro h
    rw [parseImageLine] at h
    split at h
    · exact absurd h nofun
    rename_i hword
    obtain ⟨rest, hrest, hnul⟩ := cString_split (line.drop configurationImageAnalogValue.length)
    have hclean : (0 : UInt8) ∉ cString (line.drop configurationImageAnalogValue.length) :=
      fun h0 => absurd (List.mem_takeWhile_imp h0) (by decide)
    generalize cString (line.drop configurationImageAnalogValue.length) = text at h hrest hclean
    cases hinstance : strtoul text with | mk n valueText => ?_
    cases hvalue : strtod valueText with | mk value parseEnd => ?_
    simp only [hinstance, hvalue] at h
    split at h
    · exact absurd h nofun
    rename_i hread
    obtain ⟨hmore, hsome, hwhole, hrange⟩ : _ ∧ _ ∧ _ ∧ _ := by
      simpa only [not_or, not_not] using hread
    obtain rfl := hwhole
    obtain ⟨spaces, sign, digits, rfl, hspaces, hsign, hne, hdigits, hstop, hn⟩ :=
      strtoul_iff.mp ⟨hinstance, hmore⟩
    have hfits : ¬ ulongMax < readDigits 10 digits := fun hover => by
      rw [if_pos hover] at hn
      exact hrange (hn ▸ by decide)
    rw [if_neg hfits] at hn
    refine ⟨spaces, sign, digits, valueText, rest, value, ?_, hspaces, hsign, hne, hdigits,
      not_lt.mp hfits, hn ▸ not_lt.mp hrange, ⟨Ne.symm hsome, ?_, hvalue⟩, hstop, hnul, ?_⟩
    · have hline := List.take_append_drop configurationImageAnalogValue.length line
      rw [not_not.mp hword, hrest] at hline
      exact hline.symm
    · exact fun h0 => hclean (by simp [h0])
    · rw [← hn]
      exact (Option.some.inj h).symm
  · rintro ⟨spaces, sign, digits, number, rest, value, rfl, hspaces, hsign, hne, hdigits, hfits,
      hrange, hnumber, hstop, hnul, rfl⟩
    have htext := cString_append (no_nul_fields hspaces hsign hdigits hnumber.no_nul) hnul
    obtain ⟨hread, hmore⟩ := strtoul_iff.mpr ⟨spaces, sign, digits, rfl, hspaces, hsign, hne,
      hdigits, hstop, rfl⟩
    rw [if_neg (not_lt.mpr hfits)] at hread
    rw [parseImageLine, List.take_left, if_neg (not_not.mpr rfl), List.drop_left]
    simp only [htext, hread, hnumber.whole]
    rw [if_neg]
    rintro (h | h | h | h)
    · exact hmore h
    · exact hnumber.ne_nil h.symm
    · exact h rfl
    · exact absurd hrange (not_le.mpr h)

/-- A space before a number is read with it. -/
theorem IsNumber.cons_space {text : List UInt8} {value : binary64.Value} (h : IsNumber text value) :
    IsNumber (32 :: text) value where
  ne_nil := List.cons_ne_nil _ _
  no_nul := by
    simp only [List.mem_cons, not_or]
    exact ⟨by decide, h.no_nul⟩
  whole := by
    have hwhole := h.whole
    have hskip : skipSpaces (32 :: text) = skipSpaces text := rfl
    rw [strtod] at hwhole ⊢
    rw [hskip]
    cases hscan : scanMagnitude (scanSign (skipSpaces text)).2 with
    | none =>
      simp only [hscan] at hwhole
      exact absurd (Prod.mk.inj hwhole).2 h.ne_nil
    | some r =>
      simp only [hscan] at hwhole ⊢
      exact hwhole

/-- A line of the grammar is readable. -/
theorem ImageLine.readable {line : List UInt8} {v : RestoredAnalogValue} (h : ImageLine line v) :
    ReadableLine line v := by
  obtain ⟨digits, number, value, rfl, hne, hdigits, hrange, hnumber, -, rfl⟩ := h
  refine ⟨[32], [], digits, 32 :: number, [], value, ?_, by simp [isSpace], by simp, hne, hdigits,
    hrange.trans (by norm_num [ulongMax]), hrange, hnumber.cons_space, ?_, by simp, rfl⟩
  · simp
  · rintro c ⟨⟩
    rfl

/-! ## Images -/

/-- The content is the header line and at most eight nonempty lines, each with its value. -/
def IsImage (line : List UInt8 → RestoredAnalogValue → Prop) (content : List UInt8)
    (vs : List RestoredAnalogValue) : Prop :=
  ∃ body, content = configurationImageHeader ++ body
    ∧ (lines body).length ≤ maxCreatedAnalogValues ∧ List.Forall₂ line (lines body) vs

/-- The parser accepts exactly the contents of the grammar, and stages their values in order. -/
def ParsesGrammar (content : List UInt8) (staged : RestoredAnalogValues) : Prop :=
  let r := parseConfigurationImage content staged
  (r.1 = true ↔ ∃ vs, IsImage ImageLine content vs)
    ∧ ∀ vs, IsImage ImageLine content vs → r.2.toList = vs

theorem readLines_iff : ∀ {room : ℕ} {ls : List (List UInt8)} {vs : List RestoredAnalogValue},
    readLines room ls = (vs, true) ↔ ls.length ≤ room ∧ List.Forall₂ ReadableLine ls vs
  | room, [], vs => by cases room <;> simp [readLines, eq_comm]
  | 0, _ :: _, vs => by simp [readLines]
  | room + 1, line :: rest, vs => by
    rw [readLines]
    cases hline : parseImageLine line with
    | none =>
      refine iff_of_false (by simp) fun h => ?_
      obtain ⟨v, _, hv, -, -⟩ := List.forall₂_cons_left_iff.mp h.2
      rw [parseImageLine_iff.mpr hv] at hline
      cases hline
    | some v =>
      cases vs with
      | nil => simp
      | cons w ws =>
        rw [List.forall₂_cons, ← parseImageLine_iff, hline, List.length_cons,
          Nat.add_le_add_iff_right, Option.some.injEq]
        have ih : readLines room rest = (ws, true)
            ↔ rest.length ≤ room ∧ List.Forall₂ ReadableLine rest ws := readLines_iff
        rw [Prod.mk.injEq] at ih
        rw [Prod.mk.injEq, List.cons.injEq, and_assoc, ih]
        tauto

/-- **The readable contents** are what the parser accepts, with their values. -/
theorem readImage_iff {content : List UInt8} {vs : List RestoredAnalogValue} :
    readImage content = (vs, true) ↔ IsImage ReadableLine content vs := by
  rw [readImage, IsImage]
  constructor
  · intro h
    split at h
    · exact absurd h (by simp)
    rename_i hheader
    refine ⟨content.drop configurationImageHeader.length, ?_, readLines_iff.mp h⟩
    conv_lhs => rw [← List.take_append_drop configurationImageHeader.length content,
      not_not.mp hheader]
  · rintro ⟨body, rfl, h⟩
    rw [List.take_left, if_neg (not_not.mpr rfl), List.drop_left]
    exact readLines_iff.mpr h

theorem IsImage.readable {content : List UInt8} {vs : List RestoredAnalogValue}
    (h : IsImage ImageLine content vs) : IsImage ReadableLine content vs := by
  obtain ⟨body, hcontent, hlen, hlines⟩ := h
  exact ⟨body, hcontent, hlen, hlines.imp fun _ _ => ImageLine.readable⟩

theorem parseConfigurationImage_accepts (content : List UInt8) (staged : RestoredAnalogValues) :
    (parseConfigurationImage content staged).1 = true
      ↔ ∃ vs, IsImage ReadableLine content vs := by
  rw [(parseConfigurationImage_eq content staged).1]
  refine ⟨fun h => ⟨(readImage content).1, readImage_iff.mp (Prod.ext rfl h)⟩, fun ⟨vs, hvs⟩ => ?_⟩
  rw [readImage_iff.mpr hvs]

/-- **The parser accepts exactly the grammar**, unless every line can be read and one is not in
it. -/
theorem parsesGrammar_iff (content : List UInt8) (staged : RestoredAnalogValues) :
    ParsesGrammar content staged ↔ ((∃ vs, IsImage ReadableLine content vs) →
      ∃ vs, IsImage ImageLine content vs) := by
  rw [ParsesGrammar, parseConfigurationImage_accepts]
  refine ⟨fun h => h.1.mp, fun h => ⟨⟨h, fun ⟨vs, hvs⟩ => ⟨vs, hvs.readable⟩⟩, fun vs hvs => ?_⟩⟩
  rw [(parseConfigurationImage_eq content staged).2, readImage_iff.mpr hvs.readable]
  rfl

/-- A line with a sign before its instance. -/
def signedLine : List UInt8 := ascii "analog-value +5 1"

/-- **A signed instance is read**, and its line is not in the grammar. -/
theorem not_parsesGrammar_signed : ¬ ParsesGrammar (configurationImageHeader ++ signedLine)
    (.empty fun _ => ⟨0, binary32.round 0⟩) := by
  intro h
  have hlines : lines signedLine = [signedLine] := by
    rw [lines_of_no_newline (by decide)]
    exact if_neg (by decide)
  have hreadable : ReadableLine signedLine ⟨5, (strtod [32, 49]).1.convert binary32⟩ :=
    ⟨[32], [43], [53], [32, 49], [], (strtod [32, 49]).1, by decide, by simp [isSpace], by simp,
      by simp, by simp [IsDigits, isDigit], by simp [readDigits, digitVal, isDigit, ulongMax],
      by simp [signedInstance, readDigits, digitVal, isDigit],
      ⟨by simp, by simp, Prod.ext rfl (by decide +kernel)⟩, by simp [isDigit], by simp,
      by simp [signedInstance, readDigits, digitVal, isDigit]⟩
  have hread : IsImage ReadableLine (configurationImageHeader ++ signedLine) [_] :=
    ⟨signedLine, rfl, by rw [hlines]; decide, by
      rw [hlines]
      exact .cons hreadable .nil⟩
  obtain ⟨vs, body, hcontent, -, himage⟩ :=
    h.1.mp ((parseConfigurationImage_accepts _ _).mpr ⟨_, hread⟩)
  obtain rfl := List.append_cancel_left hcontent
  rw [hlines] at himage
  obtain ⟨v, _, hline, -, -⟩ := List.forall₂_cons_left_iff.mp himage
  obtain ⟨digits, number, value, htext, hne, hdigits, -⟩ := hline
  obtain ⟨c, ds, rfl⟩ := List.exists_cons_of_ne_nil hne
  have hplus : c = 43 := by
    have := congrArg (fun s => s[13]?) htext
    simpa [signedLine, configurationImageAnalogValue, ascii] using this.symm
  exact absurd (hdigits c List.mem_cons_self) (by rw [hplus]; decide)

end Controller
