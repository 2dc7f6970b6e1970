import ElevatorController.Text.Octets

/-!
# Text/Utf8 — where a UTF-8 text may be cut

Well-formedness is Lean's own, of the octets as a byte array.  A text may be cut exactly before the
first octet of a character: `isUtf8_take_iff` reads that off the octet after the cut.
-/

namespace Text

/-- The octets are well-formed UTF-8. -/
def IsUtf8 (s : List UInt8) : Prop := s.toByteArray.IsValidUTF8

instance : DecidablePred IsUtf8 := fun s => inferInstanceAs (Decidable s.toByteArray.IsValidUTF8)

theorem isUtf8_nil : IsUtf8 [] := ByteArray.isValidUTF8_empty

/-- The octets of a list of characters. -/
theorem isUtf8_flatMap_utf8EncodeChar (cs : List Char) :
    IsUtf8 (cs.flatMap String.utf8EncodeChar) := ⟨cs, rfl⟩

/-- An ASCII text is well formed. -/
theorem isUtf8_of_lt {s : List UInt8} (h : ∀ c ∈ s, c.toNat < 128) : IsUtf8 s := by
  induction s with
  | nil => exact isUtf8_nil
  | cons c s ih =>
    have hc : c.toNat < 128 := h c List.mem_cons_self
    have hval : (Char.ofNat c.toNat).val.toNat = c.toNat :=
      Char.toNat_ofNat _ |>.trans (if_pos (Or.inl (by omega)))
    have hchar : String.utf8EncodeChar (Char.ofNat c.toNat) = [c] := by
      rw [String.utf8EncodeChar, hval]
      simp [show c.toNat ≤ 127 by omega]
    have happend := (isUtf8_flatMap_utf8EncodeChar [Char.ofNat c.toNat]).append
      (ih fun d hd => h d (List.mem_cons_of_mem _ hd))
    rw [List.flatMap_singleton, hchar, ← List.toByteArray_append] at happend
    exact happend

theorem toByteArray_take (s : List UInt8) (k : ℕ) :
    (s.take k).toByteArray = s.toByteArray.extract 0 k := by
  apply ByteArray.ext
  rw [ByteArray.data_extract, List.data_toByteArray, List.data_toByteArray]
  simp

/-- **A well-formed text stays well formed exactly when it is cut before the first octet of a
character**, or not at all. -/
theorem isUtf8_take_iff {s : List UInt8} (h : IsUtf8 s) (k : ℕ) :
    IsUtf8 (s.take k) ↔ ∀ c ∈ s[k]?, c.IsUTF8FirstByte := by
  rcases Nat.lt_or_ge k s.length with hlt | hge
  · -- a position of the string that these octets are
    let t : String := ⟨s.toByteArray, h⟩
    have hsize : t.utf8ByteSize = s.length := List.size_toByteArray
    have hbefore : (⟨k⟩ : String.Pos.Raw) < t.rawEndPos := by
      rw [String.Pos.Raw.lt_iff, String.byteIdx_rawEndPos, hsize]
      exact hlt
    have hne : (⟨k⟩ : String.Pos.Raw) ≠ t.rawEndPos := fun heq => by
      rw [← heq] at hbefore
      exact absurd hbefore (Nat.lt_irrefl k)
    have hpos : (⟨k⟩ : String.Pos.Raw).IsValid t ↔ IsUtf8 (s.take k) := by
      rw [String.Pos.Raw.isValid_iff_isValidUTF8_extract_zero, IsUtf8, toByteArray_take]
      exact and_iff_right (Nat.le_of_lt hbefore)
    rw [← hpos, String.Pos.Raw.isValid_iff_isUTF8FirstByte, or_iff_right hne,
      List.getElem?_eq_getElem hlt]
    simp [hbefore, t, String.getUTF8Byte]
  · rw [List.take_of_length_le hge, List.getElem?_eq_none hge]
    exact iff_of_true h (by simp)

end Text
