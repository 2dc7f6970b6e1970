import ElevatorController.Backup.Parse

/-!
# Backup/Visits — the line loop, round by round

    lineStart ──find '\n'──▸ lineEnd,        lineStart = lineEnd + 1

`lineVisits` is the loop of `parseLoop` with its rounds kept: which line each looked at, and what it
stored at which index.  The count is a bare number there, so that no store is inside the array by
construction.  What a line is, is said apart (`IsLine`): from after a newline up to the next one or
the end.
-/

namespace Controller

open Text

/-- A round of the line loop: the line it looked at, and what it stored, with the index. -/
structure LineVisit where
  lineStart : ℕ
  lineEnd : ℕ
  stored : Option (ℕ × RestoredAnalogValue)

/-- The rounds of the line loop, and its verdict. -/
def lineVisits (image : List UInt8) (lineStart parsedCount : ℕ) : List LineVisit × Bool :=
  if lineStart < image.length then
    let lineEnd := lineStart + (image.drop lineStart).findIdx (· == 10)
    let line := (image.drop lineStart).take (lineEnd - lineStart)
    if line = [] then
      let later := lineVisits image (lineEnd + 1) parsedCount
      (⟨lineStart, lineEnd, none⟩ :: later.1, later.2)
    else if parsedCount < maxCreatedAnalogValues then
      match parseImageLine line with
      | none => ([⟨lineStart, lineEnd, none⟩], false)
      | some v =>
        let later := lineVisits image (lineEnd + 1) (parsedCount + 1)
        (⟨lineStart, lineEnd, some (parsedCount, v)⟩ :: later.1, later.2)
    else ([⟨lineStart, lineEnd, none⟩], false)
  else ([], true)
termination_by image.length - lineStart

/-- The rounds of the parser: none without the header. -/
def imageVisits (image : List UInt8) : List LineVisit × Bool :=
  if image.take configurationImageHeader.length ≠ configurationImageHeader then ([], false)
  else lineVisits image configurationImageHeader.length 0

/-- What the rounds leave in the array, one store after another. -/
def storeVisits (staged : RestoredAnalogValues) (visits : List LineVisit) : RestoredAnalogValues :=
  visits.foldl
    (fun b v => match v.stored with
      | none => b
      | some s => b.put s.1 s.2)
    staged

/-- The entries the rounds stored. -/
def storedEntries (visits : List LineVisit) : List (ℕ × RestoredAnalogValue) :=
  visits.filterMap LineVisit.stored

/-! ## The rounds are the parser's -/

/-- **The loop does what its rounds say**: the verdict, the array, and the count, which is set only
where every line was read. -/
theorem parseLoop_visits (image : List UInt8) (lineStart : ℕ) (staged : RestoredAnalogValues)
    (n : ℕ) (h : n ≤ maxCreatedAnalogValues) :
    let rounds := lineVisits image lineStart n
    let parsed := parseLoop image lineStart staged n h
    parsed.1 = rounds.2
      ∧ parsed.2.slots = (storeVisits staged rounds.1).slots
      ∧ parsed.2.len
        = if rounds.2 then n + (storedEntries rounds.1).length else staged.len := by
  fun_induction parseLoop image lineStart staged n h with
  | case1 lineStart staged n h hlt lineEnd line =>
    rename_i hempty ih
    rw [lineVisits, if_pos hlt]
    dsimp only
    rw [if_pos hempty]
    exact ih
  | case2 lineStart staged n h hlt lineEnd line =>
    rename_i hne hroom hline
    rw [lineVisits, if_pos hlt]
    dsimp only
    rw [if_neg hne, if_pos hroom, hline]
    exact ⟨rfl, rfl, rfl⟩
  | case3 lineStart staged n h hlt lineEnd line =>
    rename_i hne hroom v hline ih
    rw [lineVisits, if_pos hlt]
    dsimp only
    rw [if_neg hne, if_pos hroom, hline]
    obtain ⟨hverdict, hslots, hlen⟩ := ih
    refine ⟨hverdict, hslots, hlen.trans ?_⟩
    split
    · exact Nat.succ_add_eq_add_succ n _
    · rfl
  | case4 lineStart staged n h hlt lineEnd line =>
    rename_i hne hfull
    rw [lineVisits, if_pos hlt]
    dsimp only
    rw [if_neg hne, if_neg hfull]
    exact ⟨rfl, rfl, rfl⟩
  | case5 lineStart staged n h hend =>
    rw [lineVisits, if_neg hend]
    exact ⟨rfl, rfl, rfl⟩

/-- **The parser does what its rounds say.** -/
theorem parseConfigurationImage_visits (image : List UInt8) (staged : RestoredAnalogValues) :
    let rounds := imageVisits image
    let parsed := parseConfigurationImage image staged
    parsed.1 = rounds.2
      ∧ parsed.2.slots = (storeVisits staged rounds.1).slots
      ∧ parsed.2.len = if rounds.2 then (storedEntries rounds.1).length else staged.len := by
  rw [imageVisits, parseConfigurationImage]
  split
  · exact ⟨rfl, rfl, rfl⟩
  · have h := parseLoop_visits image configurationImageHeader.length staged 0 (Nat.zero_le _)
    simp only [Nat.zero_add] at h
    exact h

/-! ## Lines -/

/-- A line of the text from `textStart` on: it starts there or after a newline, and ends before the
next newline or at the end. -/
structure IsLine (image : List UInt8) (textStart lineStart lineEnd : ℕ) : Prop where
  start : lineStart = textStart ∨ textStart < lineStart ∧ image[lineStart - 1]? = some 10
  lt_length : lineStart < image.length
  le_end : lineStart ≤ lineEnd
  no_newline : ∀ i, lineStart ≤ i → i < lineEnd → image[i]? ≠ some 10
  stop : lineEnd = image.length ∨ image[lineEnd]? = some 10

section Lines

variable {image : List UInt8} {textStart lineStart : ℕ}

theorem IsLine.textStart_le {lineEnd : ℕ} (hline : IsLine image textStart lineStart lineEnd) :
    textStart ≤ lineStart := by
  rcases hline.start with heq | h
  · exact Nat.le_of_eq heq.symm
  · exact Nat.le_of_lt h.1

/-- Where the loop looks for the end of the line. -/
theorem findIdx_round (hlt : lineStart < image.length) :
    let lineEnd := lineStart + (image.drop lineStart).findIdx (· == 10)
    (∀ i, lineStart ≤ i → i < lineEnd → image[i]? ≠ some 10)
      ∧ (lineEnd = image.length ∨ image[lineEnd]? = some 10) := by
  intro lineEnd
  have hlength : (image.drop lineStart).length = image.length - lineStart := List.length_drop
  constructor
  · intro i hlo hhi h10
    have hi : i - lineStart < (image.drop lineStart).findIdx (· == 10) := by omega
    have hread : (image.drop lineStart)[i - lineStart]? = some 10 := by
      rw [List.getElem?_drop, Nat.add_sub_cancel' hlo]
      exact h10
    obtain ⟨hbound, heq⟩ := List.getElem?_eq_some_iff.mp hread
    exact absurd (List.not_of_lt_findIdx hi) (by simp [heq])
  · rcases Nat.lt_or_ge ((image.drop lineStart).findIdx (· == 10)) (image.drop lineStart).length
      with hfound | hnone
    · right
      have h10 := List.findIdx_getElem (p := (· == (10 : UInt8))) (w := hfound)
      rw [show lineEnd = lineStart + (image.drop lineStart).findIdx (· == 10) from rfl,
        ← List.getElem?_drop, List.getElem?_eq_getElem hfound]
      exact congrArg some (beq_iff_eq.mp h10)
    · left
      have hle : (image.drop lineStart).findIdx (· == (10 : UInt8))
          ≤ (image.drop lineStart).length := List.findIdx_le_length
      omega

/-- Where the loop starts a line: at the start of the text, or past a newline. -/
abbrev AtLineStart (image : List UInt8) (textStart lineStart : ℕ) : Prop :=
  lineStart < image.length →
    lineStart = textStart ∨ textStart < lineStart ∧ image[lineStart - 1]? = some 10

/-- A round looks at a line. -/
theorem isLine_round (hat : AtLineStart image textStart lineStart)
    (hlt : lineStart < image.length) :
    IsLine image textStart lineStart
      (lineStart + (image.drop lineStart).findIdx (· == 10)) where
  start := hat hlt
  lt_length := hlt
  le_end := Nat.le_add_right _ _
  no_newline := (findIdx_round hlt).1
  stop := (findIdx_round hlt).2

/-- After a round the loop is past a newline. -/
theorem atLineStart_succ {lineEnd : ℕ} (hline : IsLine image textStart lineStart lineEnd) :
    AtLineStart image textStart (lineEnd + 1) := fun hlt => by
  refine Or.inr ⟨Nat.lt_succ_of_le (hline.textStart_le.trans hline.le_end), ?_⟩
  exact hline.stop.resolve_left (by omega)

/-- A line that does not start before another is that line, or starts past its end. -/
theorem IsLine.eq_or_past {lineEnd a b : ℕ} (hline : IsLine image textStart lineStart lineEnd)
    (hother : IsLine image textStart a b) (h : lineStart ≤ a) :
    a = lineStart ∧ b = lineEnd ∨ lineEnd + 1 ≤ a := by
  rcases Nat.eq_or_lt_of_le h with rfl | hlt
  · -- both end at the first newline
    refine Or.inl ⟨rfl, ?_⟩
    have hnone : ∀ i, image.length ≤ i → image[i]? ≠ some 10 := fun i hi => by
      rw [List.getElem?_eq_none hi]
      exact nofun
    rcases Nat.lt_trichotomy b lineEnd with hb | heq | hb
    · rcases hother.stop with rfl | h10
      · rcases hline.stop with rfl | h10'
        · rfl
        · exact absurd h10' (hnone _ (Nat.le_of_lt hb))
      · exact absurd h10 (hline.no_newline b hother.le_end hb)
    · exact heq
    · rcases hline.stop with rfl | h10
      · rcases hother.stop with rfl | h10'
        · rfl
        · exact absurd h10' (hnone _ (Nat.le_of_lt hb))
      · exact absurd h10 (hother.no_newline lineEnd hline.le_end hb)
  · -- the newline before the other line is not inside this one
    right
    by_contra hinside
    have hstart := hline.textStart_le
    rcases hother.start with heq | ⟨-, h10⟩
    · omega
    · exact hline.no_newline (a - 1) (by omega) (by omega) h10

end Lines

/-! ## What a run of rounds does -/

/-- What the rounds from a place on do: each looks at a line, in order and not twice, none stores
past the array, and no line before one that is looked at is passed over. -/
structure Rounds (image : List UInt8) (textStart lineStart : ℕ) (r : List LineVisit × Bool) :
    Prop where
  isLine : ∀ v ∈ r.1, IsLine image textStart v.lineStart v.lineEnd
  le_start : ∀ v ∈ r.1, lineStart ≤ v.lineStart
  ordered : r.1.Pairwise fun u v => u.lineEnd < v.lineStart
  inside : ∀ v ∈ r.1, ∀ s ∈ v.stored, s.1 < maxCreatedAnalogValues
  count_le : r.1.length ≤ image.length - lineStart
  complete : ∀ a b, lineStart ≤ a → IsLine image textStart a b →
    (r.2 = true ∨ ∃ v ∈ r.1, a ≤ v.lineStart) → ∃ v ∈ r.1, v.lineStart = a ∧ v.lineEnd = b

namespace Rounds

variable {image : List UInt8} {textStart lineStart lineEnd : ℕ}

theorem done (hend : image.length ≤ lineStart) : Rounds image textStart lineStart ([], true) where
  isLine := List.forall_mem_nil _
  le_start := List.forall_mem_nil _
  ordered := .nil
  inside := List.forall_mem_nil _
  count_le := Nat.zero_le _
  complete := fun _ _ hle hline _ => absurd hline.lt_length (by omega)

theorem refused (hline : IsLine image textStart lineStart lineEnd) :
    Rounds image textStart lineStart ([⟨lineStart, lineEnd, none⟩], false) where
  isLine := fun v hv => by
    rw [List.mem_singleton.mp hv]
    exact hline
  le_start := fun v hv => by rw [List.mem_singleton.mp hv]
  ordered := List.pairwise_singleton _ _
  inside := fun v hv s hs => by
    rw [List.mem_singleton.mp hv] at hs
    cases hs
  count_le := Nat.sub_pos_of_lt hline.lt_length
  complete := fun a b hle hother h => by
    obtain ⟨v, hv, hav⟩ := h.resolve_left (by simp)
    rw [List.mem_singleton.mp hv] at hav
    change a ≤ lineStart at hav
    obtain ⟨rfl, rfl⟩ := (hline.eq_or_past hother hle).resolve_right fun hpast =>
      absurd hline.le_end (by omega)
    exact ⟨_, List.mem_singleton_self _, rfl, rfl⟩

/-- A round before the rounds after its line. -/
theorem cons (hline : IsLine image textStart lineStart lineEnd)
    {stored : Option (ℕ × RestoredAnalogValue)}
    (hstored : ∀ s ∈ stored, s.1 < maxCreatedAnalogValues) {later : List LineVisit × Bool}
    (ih : Rounds image textStart (lineEnd + 1) later) :
    Rounds image textStart lineStart (⟨lineStart, lineEnd, stored⟩ :: later.1, later.2) where
  isLine := List.forall_mem_cons.mpr ⟨hline, ih.isLine⟩
  le_start := List.forall_mem_cons.mpr
    ⟨Nat.le_refl _, fun v hv => by have := ih.le_start v hv; have := hline.le_end; omega⟩
  ordered := List.pairwise_cons.mpr ⟨fun v hv => ih.le_start v hv, ih.ordered⟩
  inside := List.forall_mem_cons.mpr ⟨hstored, ih.inside⟩
  count_le := by
    have := ih.count_le
    have := hline.le_end
    have := hline.lt_length
    rw [List.length_cons]
    omega
  complete := fun a b hle hother h => by
    rcases hline.eq_or_past hother hle with ⟨rfl, rfl⟩ | hpast
    · exact ⟨_, List.mem_cons_self, rfl, rfl⟩
    · have hlater : later.2 = true ∨ ∃ v ∈ later.1, a ≤ v.lineStart :=
        h.imp_right fun ⟨v, hv, hav⟩ =>
          ⟨v, (List.mem_cons.mp hv).resolve_left fun heq => by
            rw [heq] at hav
            change a ≤ lineStart at hav
            exact absurd hline.le_end (by omega), hav⟩
      obtain ⟨v, hv, heq⟩ := ih.complete a b hpast hother hlater
      exact ⟨v, List.mem_cons_of_mem _ hv, heq⟩

end Rounds

/-- **Every run of the line loop looks at the lines in order, each once.** -/
theorem lineVisits_rounds (image : List UInt8) (textStart lineStart n : ℕ)
    (hat : AtLineStart image textStart lineStart) :
    Rounds image textStart lineStart (lineVisits image lineStart n) := by
  fun_induction lineVisits image lineStart n with
  | case1 lineStart n hlt lineEnd line =>
    rename_i ih
    have hline := isLine_round hat hlt
    exact .cons hline (by simp) (ih (atLineStart_succ hline))
  | case2 lineStart n hlt lineEnd line => exact .refused (isLine_round hat hlt)
  | case3 lineStart n hlt lineEnd line =>
    rename_i hroom v hparse later ih
    have hline := isLine_round hat hlt
    refine .cons hline (fun s hs => ?_) (ih (atLineStart_succ hline))
    rw [← Option.some.inj hs]
    exact hroom
  | case4 lineStart n hlt lineEnd line => exact .refused (isLine_round hat hlt)
  | case5 lineStart n hend => exact .done (not_lt.mp hend)

/-- An instance that is staged is a valid one. -/
theorem parseImageLine_objectInstance_le {line : List UInt8} {v : RestoredAnalogValue}
    (h : parseImageLine line = some v) : v.objectInstance ≤ 4194302 := by
  rw [parseImageLine] at h
  dsimp only at h
  split_ifs at h with _ hrefused
  rw [← Option.some.inj h]
  exact not_lt.mp fun hlarge => hrefused (Or.inr (Or.inr (Or.inr hlarge)))

theorem readLines_objectInstance_le : ∀ (room : ℕ) (ls : List (List UInt8)),
    ∀ v ∈ (readLines room ls).1, v.objectInstance ≤ 4194302
  | 0, [] => List.forall_mem_nil _
  | _ + 1, [] => List.forall_mem_nil _
  | 0, _ :: _ => List.forall_mem_nil _
  | room + 1, line :: rest => by
    rw [readLines]
    cases hline : parseImageLine line with
    | none => exact List.forall_mem_nil _
    | some v =>
      exact List.forall_mem_cons.mpr
        ⟨parseImageLine_objectInstance_le hline, readLines_objectInstance_le room rest⟩

/-- **The image parser is safe on any content.**  Its rounds, at most one an octet, look at lines
after the header, in order and each once; they store only inside the array, and the array, the count
and the verdict are what they leave.  Where the verdict is good every line was looked at, at most
eight values are staged, and each instance is a valid one. -/
theorem parser_terminates_safely (image : List UInt8) (staged : RestoredAnalogValues) :
    let rounds := imageVisits image
    let parsed := parseConfigurationImage image staged
    (parsed.1 = rounds.2
        ∧ parsed.2.slots = (storeVisits staged rounds.1).slots
        ∧ parsed.2.len = if rounds.2 then (storedEntries rounds.1).length else staged.len)
      ∧ rounds.1.length ≤ image.length
      ∧ (∀ v ∈ rounds.1, IsLine image configurationImageHeader.length v.lineStart v.lineEnd)
      ∧ rounds.1.Pairwise (fun u v => u.lineEnd < v.lineStart)
      ∧ (∀ v ∈ rounds.1, ∀ s ∈ v.stored, s.1 < maxCreatedAnalogValues)
      ∧ (parsed.1 = true →
        (∀ a b, IsLine image configurationImageHeader.length a b →
          ∃ v ∈ rounds.1, v.lineStart = a ∧ v.lineEnd = b)
        ∧ parsed.2.len ≤ maxCreatedAnalogValues
        ∧ ∀ v ∈ parsed.2.toList, v.objectInstance ≤ 4194302) := by
  intro rounds parsed
  have hdo := parseConfigurationImage_visits image staged
  refine ⟨hdo, ?_⟩
  by_cases hheader : image.take configurationImageHeader.length ≠ configurationImageHeader
  · have hnone : rounds = ([], false) := if_pos hheader
    rw [hnone]
    refine ⟨Nat.zero_le _, List.forall_mem_nil _, .nil, List.forall_mem_nil _, fun hok => ?_⟩
    exact absurd (hok.symm.trans (hdo.1.trans (congrArg Prod.snd hnone))) (by decide)
  · have hsome : rounds = lineVisits image configurationImageHeader.length 0 := if_neg hheader
    have hrounds : Rounds image configurationImageHeader.length configurationImageHeader.length
        rounds := by
      rw [hsome]
      exact lineVisits_rounds image _ _ 0 fun _ => Or.inl rfl
    refine ⟨hrounds.count_le.trans (Nat.sub_le _ _), hrounds.isLine, hrounds.ordered,
      hrounds.inside, fun hok => ⟨fun a b hline => ?_, parsed.2.len_le, ?_⟩⟩
    · exact hrounds.complete a b hline.textStart_le hline (Or.inl (hdo.1.symm.trans hok))
    · have hread := parseConfigurationImage_eq image staged
      rw [if_pos (hread.1.symm.trans hok), readImage, if_neg hheader] at hread
      rw [hread.2]
      exact readLines_objectInstance_le _ _

end Controller
