import ElevatorController.Backup.Parse
import ElevatorController.Numbers.SixDigits

/-!
# Backup/Image — the image of a table, and what it reads back as

    header ++ line of slot 0 ++ line of slot 1 ++ …            (the slots in use)

`BuildConfigurationImage` prints `imageText` whatever the file held before, never short of room;
and `readImage` of that text is every value in use, in slot order, each through its six digits.  So
a backup preserves a table *exactly when* six digits are enough for its values.
-/

namespace Controller

open BinaryFormat Text

/-! ## The text -/

/-- The values in use, in slot order. -/
def CreatedAnalogValues.entries (t : CreatedAnalogValues) : List CreatedAnalogValue :=
  ((List.finRange maxCreatedAnalogValues).map t).filter (·.inUse)

/-- The image of a table. -/
def imageText (t : CreatedAnalogValues) : List UInt8 :=
  configurationImageHeader ++ t.entries.flatMap imageLine

/-- An image line without its newline. -/
def imageLineText (v : CreatedAnalogValue) : List UInt8 :=
  configurationImageAnalogValue ++ 32 :: printUnsigned v.objectInstance
    ++ 32 :: printG 6 (v.presentValue.convert binary64)

theorem imageLine_eq (v : CreatedAnalogValue) : imageLine v = imageLineText v ++ [10] := rfl

theorem mem_entries {t : CreatedAnalogValues} {v : CreatedAnalogValue} :
    v ∈ t.entries ↔ ∃ i, t i = v ∧ v.inUse = true := by
  simp [CreatedAnalogValues.entries]

theorem length_entries_le (t : CreatedAnalogValues) :
    t.entries.length ≤ maxCreatedAnalogValues :=
  (List.length_filter_le _ _).trans (by simp)

/-- A line is short: a `uint32_t` has at most ten digits, and a `%.6g` text at most fourteen
characters. -/
theorem length_imageLine_le {v : CreatedAnalogValue} (h : v.objectInstance < 10 ^ 10) :
    (imageLine v).length ≤ 39 := by
  have hinst := length_printUnsigned_le (p := 10) (by norm_num) h
  have hvalue := length_printG_le (p := 6) (by norm_num) (v.presentValue.convert binary64)
  have hword : configurationImageAnalogValue.length = 12 := by decide
  simp only [imageLine, List.length_append, List.length_cons, List.length_nil, hword]
  omega

/-- **The image has room to spare.** -/
theorem length_imageText_lt {t : CreatedAnalogValues}
    (h : ∀ i, (t i).inUse = true → (t i).objectInstance < 10 ^ 10) :
    (imageText t).length < fileMaxSize := by
  have hlines : ∀ l : List CreatedAnalogValue, (∀ v ∈ l, v.objectInstance < 10 ^ 10) →
      (l.flatMap imageLine).length ≤ l.length * 39 := by
    intro l
    induction l with
    | nil => exact fun _ => le_rfl
    | cons v l ih =>
      intro hl
      have hv := length_imageLine_le (hl v List.mem_cons_self)
      have hrest := ih fun w hw => hl w (List.mem_cons_of_mem _ hw)
      rw [List.flatMap_cons, List.length_append, List.length_cons]
      omega
  have hentries := hlines t.entries fun v hv => by
    obtain ⟨i, rfl, hi⟩ := mem_entries.mp hv
    exact h i hi
  have hcount := length_entries_le t
  have hheader : configurationImageHeader.length = 22 := by decide
  rw [imageText, List.length_append, hheader]
  simp only [maxCreatedAnalogValues] at hcount
  simp only [fileMaxSize]
  omega

/-! ## Printing it -/

/-- The octets and length printed so far are this text. -/
def Printed (s : (Fin fileMaxSize → UInt8) × ℕ) (text : List UInt8) : Prop :=
  s.2 = text.length ∧ ∀ h : s.2 ≤ fileMaxSize, Buffer.toList ⟨s.1, s.2, h⟩ = text

/-- **One `snprintf` with room for its text and the NUL appends the text.** -/
theorem Printed.printInto {s : (Fin fileMaxSize → UInt8) × ℕ} {before text : List UInt8}
    (hs : Printed s before) (hroom : before.length + text.length < fileMaxSize) :
    Printed (printInto s text) (before ++ text) := by
  obtain ⟨hlen, hcontent⟩ := hs
  have hwhole : text.take (fileMaxSize - s.2 - 1) = text :=
    List.take_of_length_le (by omega)
  refine ⟨by simp [Controller.printInto, hlen], fun h => ?_⟩
  have hbuf := Buffer.toList_splice_end ⟨s.1, s.2, by omega⟩ text (by simp; omega)
  rw [hcontent] at hbuf
  rw [← hbuf]
  refine Buffer.toList_congr (by rw [Buffer.len_splice]; simp [Controller.printInto]) fun j hj => ?_
  simp only [Controller.printInto, hwhole] at hj ⊢
  change Buffer.storeBlock s.1 s.2 (text ++ [0]) j = Buffer.storeBlock s.1 s.2 text j
  rcases lt_or_ge (j : ℕ) s.2 with hlt | hge
  · rw [Buffer.storeBlock_of_lt hlt, Buffer.storeBlock_of_lt hlt]
  · rw [Buffer.storeBlock_of_mem hge (by simp; omega), Buffer.storeBlock_of_mem hge (by omega),
      List.getElem_append_left]

/-- The slots visited so far have printed their lines. -/
theorem printed_foldl_buildStep (t : CreatedAnalogValues) :
    ∀ (l : List (Fin maxCreatedAnalogValues)) (s : (Fin fileMaxSize → UInt8) × ℕ)
    (before : List UInt8), Printed s before →
    before.length + (((l.map t).filter (·.inUse)).flatMap imageLine).length < fileMaxSize →
    Printed (l.foldl (buildStep t) s) (before ++ ((l.map t).filter (·.inUse)).flatMap imageLine)
  | [], s, before, hs, _ => by simpa using hs
  | i :: l, s, before, hs, hroom => by
    rw [List.foldl_cons, buildStep]
    by_cases hi : (t i).inUse = true
    · simp only [List.map_cons, List.filter_cons, hi, if_true, List.flatMap_cons,
        List.length_append] at hroom ⊢
      rw [if_pos ⟨trivial, by rw [hs.1]; omega⟩, ← List.append_assoc]
      exact printed_foldl_buildStep t l _ _ (hs.printInto (by omega))
        (by rw [List.length_append]; omega)
    · simp only [List.map_cons, List.filter_cons, hi, Bool.false_eq_true, if_false] at hroom ⊢
      rw [if_neg fun h => absurd h.1 (by simp)]
      exact printed_foldl_buildStep t l s before hs hroom

/-- **`BuildConfigurationImage` prints the image**, whole, whatever the file held. -/
theorem printed_buildLoop {t : CreatedAnalogValues} (h : (imageText t).length < fileMaxSize)
    (slots : Fin fileMaxSize → UInt8) : Printed (buildLoop t slots) (imageText t) := by
  have hheader : Printed (printInto (slots, 0) configurationImageHeader)
      ([] ++ configurationImageHeader) :=
    Printed.printInto ⟨rfl, fun _ => rfl⟩ (by decide)
  exact printed_foldl_buildStep t _ _ _ hheader (by rwa [imageText, List.length_append] at h)

theorem toList_buildConfigurationImage {t : CreatedAnalogValues}
    (h : (imageText t).length < fileMaxSize) (data : Buffer UInt8 fileMaxSize) :
    (buildConfigurationImage t data).toList = imageText t := by
  obtain ⟨hlen, hcontent⟩ := printed_buildLoop h data.slots
  have hlt : (buildLoop t data.slots).2 < fileMaxSize := by rwa [hlen]
  rw [← hcontent hlt.le]
  exact Buffer.toList_congr (if_pos hlt) fun j _ => rfl

/-! ## Reading it -/

/-- What a value's line reads back as. -/
def CreatedAnalogValue.reread (v : CreatedAnalogValue) : RestoredAnalogValue :=
  ⟨v.objectInstance, (rereadG 6 (v.presentValue.convert binary64)).convert binary32⟩

/-- No octet of a line ends it, or the C string in it. -/
theorem imageLineText_no_stop (v : CreatedAnalogValue) : ∀ c ∈ imageLineText v, c ≠ 0 ∧ c ≠ 10 := by
  have hword : ∀ c ∈ configurationImageAnalogValue, c ≠ 0 ∧ c ≠ 10 := by
    decide +kernel
  have hdigit : ∀ c, isDigit c = true → c ≠ 0 ∧ c ≠ 10 := fun c hc =>
    ⟨fun h => absurd (h ▸ hc) (by decide), fun h => absurd (h ▸ hc) (by decide)⟩
  intro c hc
  simp only [imageLineText, List.mem_append, List.mem_cons] at hc
  rcases hc with (hc | rfl | hc) | rfl | hc
  · exact hword c hc
  · decide
  · exact hdigit c (isDigits_printUnsigned _ c hc)
  · decide
  · exact printG_no_stop 6 _ c hc

/-- **The parser reads every line that was printed.** -/
theorem parseImageLine_imageLineText {v : CreatedAnalogValue} (h : v.objectInstance ≤ 4194302) :
    parseImageLine (imageLineText v) = some v.reread := by
  set rest := 32 :: printG 6 (v.presentValue.convert binary64) with hrest
  have htail : imageLineText v
      = configurationImageAnalogValue ++ 32 :: (printUnsigned v.objectInstance ++ rest) := by
    simp [imageLineText, hrest]
  have hnul : (0 : UInt8) ∉ 32 :: (printUnsigned v.objectInstance ++ rest) := fun hmem =>
    (imageLineText_no_stop v 0 (htail ▸ List.mem_append_right _ hmem)).1 rfl
  have hlong : rest ≠ 32 :: (printUnsigned v.objectInstance ++ rest) := fun heq => by
    have hlen := congrArg List.length heq
    simp only [List.length_cons, List.length_append] at hlen
    omega
  have hscan :
      strtoul (32 :: (printUnsigned v.objectInstance ++ rest)) = (v.objectInstance, rest) :=
    strtoul_printUnsigned (h.trans (by decide)) (by rintro c ⟨⟩; decide)
  have hvalue : strtod rest = _ := strtod_printG (p := 6) (by norm_num) _
  rw [parseImageLine, htail, List.take_left, List.drop_left, if_neg (not_not.mpr rfl),
    cString_of_no_nul hnul]
  simp only [hscan, hvalue]
  rw [if_neg]
  · rfl
  · rintro (heq | heq | heq | heq)
    · exact hlong heq
    · exact absurd heq (List.cons_ne_nil _ _).symm
    · exact heq rfl
    · omega

/-- **Printed lines come off the front, one value each.** -/
theorem readLines_printed (room : ℕ) (rest : List UInt8) : ∀ l : List CreatedAnalogValue,
    (∀ v ∈ l, v.objectInstance ≤ 4194302) →
    readLines (room + l.length) (lines (l.flatMap imageLine ++ rest))
      = (l.map (·.reread) ++ (readLines room (lines rest)).1, (readLines room (lines rest)).2)
  | [], _ => rfl
  | v :: l, hinst => by
    have hne : imageLineText v ≠ [] := by simp [imageLineText]
    have hread := readLines_printed room rest l fun w hw => hinst w (List.mem_cons_of_mem _ hw)
    rw [List.flatMap_cons, imageLine_eq, List.append_assoc, List.append_assoc,
      List.singleton_append, lines_line (fun h => (imageLineText_no_stop v 10 h).2 rfl) hne,
      List.length_cons, ← Nat.add_assoc, readLines,
      parseImageLine_imageLineText (hinst v List.mem_cons_self), hread]
    rfl

/-- The instances in use are BACnet instances. -/
def CreatedAnalogValues.InstancesValid (t : CreatedAnalogValues) : Prop :=
  ∀ i, (t i).inUse = true → (t i).objectInstance ≤ 4194302

/-- **The image of a table reads back as its values in slot order, each through its six digits** —
and then whatever follows it is read. -/
theorem readImage_imageText_append {t : CreatedAnalogValues} (h : t.InstancesValid)
    (rest : List UInt8) : readImage (imageText t ++ rest)
      = (t.entries.map (·.reread)
        ++ (readLines (maxCreatedAnalogValues - t.entries.length) (lines rest)).1,
        (readLines (maxCreatedAnalogValues - t.entries.length) (lines rest)).2) := by
  have hroom := Nat.sub_add_cancel (length_entries_le t)
  rw [readImage, imageText, List.append_assoc, List.take_left, List.drop_left,
    if_neg (not_not.mpr rfl)]
  conv_lhs => rw [← hroom]
  refine readLines_printed _ _ _ fun v hv => ?_
  obtain ⟨i, rfl, hi⟩ := mem_entries.mp hv
  exact h i hi

theorem readImage_imageText {t : CreatedAnalogValues} (h : t.InstancesValid) :
    readImage (imageText t) = (t.entries.map (·.reread), true) := by
  have hread := readImage_imageText_append h []
  rw [List.append_nil, lines_nil, readLines, List.append_nil] at hread
  exact hread

theorem CreatedAnalogValues.InstancesValid.length_imageText_lt {t : CreatedAnalogValues}
    (h : t.InstancesValid) : (imageText t).length < fileMaxSize :=
  Controller.length_imageText_lt fun i hi => (h i hi).trans_lt (by norm_num)

/-! ## Which tables a backup preserves -/

/-- The table's (instance, Present_Value) pairs, in slot order. -/
def CreatedAnalogValues.pairs (t : CreatedAnalogValues) : List RestoredAnalogValue :=
  t.entries.map fun v => ⟨v.objectInstance, v.presentValue⟩

/-- The value is the REAL that some decimal number of at most six significant digits reads as. -/
def HasSixDigits (v : binary32.Value) : Prop := ∃ d, HasDigits 6 d ∧ readReal d = v

/-- What a backup of a table promises, over any file and any staging array: the printed length stays
below the buffer's size, the file is the image, the parser accepts it and stages the table's
pairs. -/
def BackupPreserves (t : CreatedAnalogValues) : Prop :=
  ∀ (data : Buffer UInt8 fileMaxSize) (staged : RestoredAnalogValues),
    (buildLoop t data.slots).2 < fileMaxSize
      ∧ (buildConfigurationImage t data).toList = imageText t
      ∧ (parseConfigurationImage (buildConfigurationImage t data).toList staged).1 = true
      ∧ (parseConfigurationImage (buildConfigurationImage t data).toList staged).2.toList = t.pairs

/-- **Everything but the values is always preserved**: what is staged is the table's values in slot
order, each through its six digits. -/
theorem backup_spec {t : CreatedAnalogValues} (h : t.InstancesValid)
    (data : Buffer UInt8 fileMaxSize) (staged : RestoredAnalogValues) :
    (buildLoop t data.slots).2 < fileMaxSize
      ∧ (buildConfigurationImage t data).toList = imageText t
      ∧ (parseConfigurationImage (buildConfigurationImage t data).toList staged).1 = true
      ∧ (parseConfigurationImage (buildConfigurationImage t data).toList staged).2.toList
        = t.entries.map (·.reread) := by
  have hfits := h.length_imageText_lt
  have htext := toList_buildConfigurationImage hfits data
  obtain ⟨hverdict, hstaged⟩ :=
    parseConfigurationImage_eq (buildConfigurationImage t data).toList staged
  rw [htext, readImage_imageText h] at hverdict hstaged
  refine ⟨?_, htext, ?_, ?_⟩
  · rw [(printed_buildLoop hfits data.slots).1]
    exact hfits
  · rw [htext, hverdict]
  · rw [htext, hstaged, if_pos rfl]

/-- A finite value rereads as the decimal it was printed as. -/
theorem reread_presentValue {v : CreatedAnalogValue} {q : ℚ} {h : binary32.IsFinite q}
    (hv : v.presentValue = .finite q h) : v.reread.presentValue = readReal (roundDigits 6 q) := by
  rw [CreatedAnalogValue.reread, hv, Value.convert,
    round_of_isFinite (widens_binary32_binary64.isFinite h)]
  rfl

/-- **A backup preserves a table exactly when every value is the REAL of a six-digit decimal.**  The
image is never cut short and always accepted; it is the `%.6g` text that loses the rest. -/
theorem backup_preserves_iff (t : CreatedAnalogValues) (hinst : t.InstancesValid)
    (hfin : ∀ i, (t i).inUse = true → ∃ q h, (t i).presentValue = .finite q h) :
    BackupPreserves t ↔ ∀ i, (t i).inUse = true → HasSixDigits (t i).presentValue := by
  have hvalue : ∀ i, (t i).inUse = true →
      ((t i).reread = ⟨(t i).objectInstance, (t i).presentValue⟩
        ↔ HasSixDigits (t i).presentValue) := fun i hi => by
    obtain ⟨q, hq, hv⟩ := hfin i hi
    have hread := reread_presentValue hv
    rw [HasSixDigits, hv, ← readReal_roundDigits_iff hq, ← hread]
    exact ⟨fun heq => congrArg RestoredAnalogValue.presentValue heq, fun heq => congrArg _ heq⟩
  have hpairs : t.entries.map (·.reread) = t.pairs
      ↔ ∀ i, (t i).inUse = true → HasSixDigits (t i).presentValue := by
    rw [CreatedAnalogValues.pairs, List.map_inj_left]
    constructor
    · exact fun heq i hi => (hvalue i hi).mp (heq _ (mem_entries.mpr ⟨i, rfl, hi⟩))
    · intro hsix v hv
      obtain ⟨i, rfl, hi⟩ := mem_entries.mp hv
      exact (hvalue i hi).mpr (hsix i hi)
  rw [← hpairs]
  constructor
  · intro h
    have hspec := backup_spec hinst (.empty fun _ => 0) (.empty fun _ => ⟨0, binary32.round 0⟩)
    exact hspec.2.2.2.symm.trans (h _ _).2.2.2
  · intro h data staged
    obtain ⟨h1, h2, h3, h4⟩ := backup_spec hinst data staged
    exact ⟨h1, h2, h3, h4.trans h⟩

/-- One Analog Value, and every other slot free. -/
def CreatedAnalogValues.single (objectInstance : ℕ) (presentValue : binary32.Value) :
    CreatedAnalogValues :=
  fun i => if (i : ℕ) = 0 then ⟨true, objectInstance, presentValue⟩
    else CreatedAnalogValues.atPowerOn i

theorem entries_single (objectInstance : ℕ) (presentValue : binary32.Value) :
    (CreatedAnalogValues.single objectInstance presentValue).entries
      = [⟨true, objectInstance, presentValue⟩] := rfl

theorem instancesValid_single {objectInstance : ℕ} (h : objectInstance ≤ 4194302)
    (presentValue : binary32.Value) :
    (CreatedAnalogValues.single objectInstance presentValue).InstancesValid := by
  intro i hi
  rw [CreatedAnalogValues.single] at hi ⊢
  split
  · exact h
  · rename_i hne
    rw [if_neg hne] at hi
    exact absurd hi (by simp [CreatedAnalogValues.atPowerOn])

/-- 42.5 is a six-digit decimal, and a backup preserves it. -/
theorem backup_preserves_iff_42_5 :
    BackupPreserves (.single 100 (binary32.round (85 / 2))) := by
  have hfinite : binary32.IsFinite (85 / 2) :=
    ⟨⟨85, -1, by norm_num [binary32], by decide, by norm_num⟩, by norm_num [binary32]⟩
  have hvalue : ∀ i, (CreatedAnalogValues.single 100 (binary32.round (85 / 2)) i).inUse = true →
      (CreatedAnalogValues.single 100 (binary32.round (85 / 2)) i).presentValue
        = .finite (85 / 2) hfinite := by
    intro i hi
    rw [CreatedAnalogValues.single] at hi ⊢
    split
    · exact round_of_isFinite hfinite
    · rename_i hne
      rw [if_neg hne] at hi
      exact absurd hi (by simp [CreatedAnalogValues.atPowerOn])
  refine (backup_preserves_iff _ (instancesValid_single (by norm_num) _)
    fun i hi => ⟨_, hfinite, hvalue i hi⟩).mpr fun i hi => ?_
  rw [hvalue i hi]
  refine ⟨85 / 2, ⟨425, -1, by norm_num, by norm_num⟩, ?_⟩
  exact readReal_eq_finite_iff.mpr (readFinite_of_isFinite hfinite)

/-- 1234567 is a REAL, and it is backed up as 1.23457e+06. -/
theorem not_backupPreserves_1234567 :
    ¬ BackupPreserves (.single 100 (binary32.round 1234567)) := by
  intro h
  have hspec := backup_spec (instancesValid_single (by norm_num : 100 ≤ 4194302)
    (binary32.round 1234567)) (.empty fun _ => 0) (.empty fun _ => ⟨0, binary32.round 0⟩)
  have hpairs := hspec.2.2.2.symm.trans (h _ _).2.2.2
  rw [CreatedAnalogValues.pairs, entries_single] at hpairs
  exact absurd (congrArg (List.map RestoredAnalogValue.presentValue) hpairs) (by decide +kernel)

end Controller
