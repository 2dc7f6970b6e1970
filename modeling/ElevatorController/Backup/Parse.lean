import ElevatorController.Model.Image
import ElevatorController.Text.Lines

/-!
# Backup/Parse — what the parser reads off a file

`readImage` says what a file's octets mean: the values of its lines up to the first one it cannot
read, and whether the whole is an image.  `parseConfigurationImage_eq` is the parser's spec: the
verdict is `readImage`'s; an accepted image is staged whole, and **a refused one has already
overwritten the staging array as far as it could be read**.
-/

namespace Controller

open Text

/-- The values of the lines up to the first refused one, and whether there was none.  A line past
the room is refused. -/
def readLines : ℕ → List (List UInt8) → List RestoredAnalogValue × Bool
  | _, [] => ([], true)
  | 0, _ :: _ => ([], false)
  | room + 1, line :: rest =>
    match parseImageLine line with
    | none => ([], false)
    | some v => (v :: (readLines room rest).1, (readLines room rest).2)

/-- What a file's octets mean. -/
noncomputable def readImage (image : List UInt8) : List RestoredAnalogValue × Bool :=
  if image.take configurationImageHeader.length ≠ configurationImageHeader then ([], false)
  else readLines maxCreatedAnalogValues (lines (image.drop configurationImageHeader.length))

theorem length_readLines_le : ∀ (room : ℕ) (ls : List (List UInt8)),
    (readLines room ls).1.length ≤ room
  | 0, [] => Nat.zero_le _
  | _ + 1, [] => Nat.zero_le _
  | 0, _ :: _ => Nat.zero_le _
  | room + 1, line :: rest => by
    rw [readLines]
    cases parseImageLine line with
    | none => exact Nat.zero_le _
    | some v => exact Nat.succ_le_succ (length_readLines_le room rest)

theorem length_readImage_le (image : List UInt8) :
    (readImage image).1.length ≤ maxCreatedAnalogValues := by
  rw [readImage]
  split
  · exact Nat.zero_le _
  · exact length_readLines_le _ _

/-- One round of the line loop, on the text from `lineStart` on. -/
theorem lines_drop (image : List UInt8) (lineStart : ℕ) :
    let lineEnd := lineStart + (image.drop lineStart).findIdx (· == 10)
    let line := (image.drop lineStart).take (lineEnd - lineStart)
    lines (image.drop lineStart) = (if line = [] then [] else [line])
      ++ lines (image.drop (lineEnd + 1)) := by
  intro lineEnd line
  have hround := lines_cursor (image.drop lineStart)
  rw [List.drop_drop] at hround
  simpa only [line, lineEnd, Nat.add_sub_cancel_left, Nat.add_assoc] using hround

/-- **The line loop stages the values it reads, one after another**, and sets the count only when
every line was read. -/
theorem parseLoop_eq (image : List UInt8) (lineStart : ℕ) (staged : RestoredAnalogValues) (n : ℕ)
    (h : n ≤ maxCreatedAnalogValues) {vs : List RestoredAnalogValue} {ok : Bool}
    (hread : readLines (maxCreatedAnalogValues - n) (lines (image.drop lineStart)) = (vs, ok))
    (hlen : n + vs.length ≤ maxCreatedAnalogValues) :
    parseLoop image lineStart staged n h = (ok,
      if ok then (staged.putBlock n vs).setLen (n + vs.length) hlen
      else staged.putBlock n vs) := by
  have hsucc : ∀ n, n < maxCreatedAnalogValues →
      maxCreatedAnalogValues - (n + 1) + 1 = maxCreatedAnalogValues - n := fun n hn => by omega
  fun_induction parseLoop image lineStart staged n h generalizing vs ok with
  | case1 lineStart staged n h hlt lineEnd line =>
    rename_i hempty ih
    rw [lines_drop, if_pos hempty, List.nil_append] at hread
    exact ih hread hlen
  | case2 lineStart staged n h hlt lineEnd line =>
    rename_i hne hroom hline
    rw [lines_drop, if_neg hne, List.singleton_append, ← hsucc n hroom, readLines, hline] at hread
    obtain ⟨rfl, rfl⟩ := Prod.mk.inj hread
    rw [Buffer.putBlock_nil]
    rfl
  | case3 lineStart staged n h hlt lineEnd line =>
    rename_i hne hroom v hline ih
    rw [lines_drop, if_neg hne, List.singleton_append, ← hsucc n hroom, readLines, hline] at hread
    obtain ⟨rfl, rfl⟩ := Prod.mk.inj hread
    have hcount : ∀ l : List RestoredAnalogValue, n + 1 + l.length = n + (v :: l).length :=
      fun l => by rw [List.length_cons]; omega
    rw [ih rfl ((hcount _).trans_le hlen), Buffer.putBlock_put]
    split
    · exact congrArg (Prod.mk _) (Buffer.setLen_congr rfl (hcount _) _ _)
    · rfl
  | case4 lineStart staged n h hlt lineEnd line =>
    rename_i hne hfull
    have hroom : maxCreatedAnalogValues - n = 0 := by omega
    rw [lines_drop, if_neg hne, List.singleton_append, hroom, readLines] at hread
    obtain ⟨rfl, rfl⟩ := Prod.mk.inj hread
    rw [Buffer.putBlock_nil]
    rfl
  | case5 lineStart staged n h hend =>
    rw [List.drop_eq_nil_of_le (not_lt.mp hend), lines_nil, readLines] at hread
    obtain ⟨rfl, rfl⟩ := Prod.mk.inj hread
    exact congrArg (Prod.mk _) (Buffer.setLen_congr (Buffer.putBlock_nil _ _).symm rfl _ _)

/-- **The parser's verdict and what it leaves staged**: an accepted image is staged whole, a refused
one overwrites the start of what was staged by the values read before the refusal. -/
theorem parseConfigurationImage_eq (image : List UInt8) (staged : RestoredAnalogValues) :
    (parseConfigurationImage image staged).1 = (readImage image).2
      ∧ (parseConfigurationImage image staged).2.toList = if (readImage image).2 then
          (readImage image).1
        else (readImage image).1.take staged.len
          ++ staged.toList.drop (readImage image).1.length := by
  have hlen := length_readImage_le image
  rw [parseConfigurationImage, readImage] at *
  split
  · exact ⟨rfl, by simp⟩
  rw [if_neg ‹_›] at hlen
  rw [parseLoop_eq image _ staged 0 _ rfl (by simpa using hlen)]
  refine ⟨rfl, ?_⟩
  simp only [Nat.sub_zero]
  split
  · refine (congrArg Buffer.toList (Buffer.setLen_congr rfl (Nat.zero_add _) _ hlen)).trans ?_
    exact Buffer.toList_setLen_putBlock_zero _ _ hlen
  · exact Buffer.toList_putBlock_zero _ _

end Controller
