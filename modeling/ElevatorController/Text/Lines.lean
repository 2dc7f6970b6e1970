import ElevatorController.Text.Octets

/-!
# Text/Lines — the nonempty lines of a text

    end = text.find('\n', start);  line = text.substr(start, end - start);  start = end + 1;

`lines` splits a text at its newlines and drops the empty pieces.  `lines_cursor` is one round of
the loop above: the piece up to the next newline, then the lines after it.
-/

namespace Text

/-- The nonempty lines of a text; the last one needs no newline. -/
noncomputable def lines (s : List UInt8) : List (List UInt8) :=
  (s.splitOnP (· == 10)).filter (· ≠ [])

@[simp] theorem lines_nil : lines [] = [] := by simp [lines]

theorem lines_append_newline (s t : List UInt8) : lines (s ++ 10 :: t) = lines s ++ lines t := by
  rw [lines, List.splitOnP_append_cons s t (by decide), List.filter_append]
  rfl

theorem lines_of_no_newline {s : List UInt8} (h : (10 : UInt8) ∉ s) :
    lines s = if s = [] then [] else [s] := by
  have hsplit : s.splitOnP (· == 10) = [s] :=
    List.splitOnP_eq_singleton fun c hc => beq_eq_false_iff_ne.mpr fun h10 => h (h10 ▸ hc)
  rw [lines, hsplit]
  split <;> simp_all

/-- **A line and its newline come off the front.** -/
theorem lines_line {s t : List UInt8} (h : (10 : UInt8) ∉ s) (hne : s ≠ []) :
    lines (s ++ 10 :: t) = s :: lines t := by
  rw [lines_append_newline, lines_of_no_newline h, if_neg hne, List.singleton_append]

/-- **One round of the line loop**: up to the next newline, then past it. -/
theorem lines_cursor (s : List UInt8) :
    lines s = (if s.take (s.findIdx (· == 10)) = [] then [] else [s.take (s.findIdx (· == 10))])
      ++ lines (s.drop (s.findIdx (· == 10) + 1)) := by
  have hno : (10 : UInt8) ∉ s.take (s.findIdx (· == 10)) := fun hmem => by
    obtain ⟨i, hi, h10⟩ := List.mem_take_iff_getElem.mp hmem
    exact absurd (List.not_of_lt_findIdx (by omega : i < s.findIdx (· == 10))) (by simp [h10])
  rcases lt_or_ge (s.findIdx (· == 10)) s.length with hlt | hge
  · have h10 : s[s.findIdx (· == 10)] = 10 := by
      simpa using List.findIdx_getElem (p := (· == (10 : UInt8))) (w := hlt)
    have hsplit : s = s.take (s.findIdx (· == 10)) ++ 10 :: s.drop (s.findIdx (· == 10) + 1) := by
      conv_lhs => rw [← List.take_append_drop (s.findIdx (· == 10)) s]
      rw [List.drop_eq_getElem_cons hlt, h10]
    conv_lhs => rw [hsplit, lines_append_newline, lines_of_no_newline hno]
  · rw [List.drop_eq_nil_of_le (by omega), lines_nil, List.append_nil,
      ← lines_of_no_newline hno, List.take_of_length_le hge]

end Text
