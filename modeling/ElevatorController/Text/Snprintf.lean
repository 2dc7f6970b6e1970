import ElevatorController.Machinery.CheckedReads
import ElevatorController.Text.Octets

/-!
# Text/Snprintf — text appended to a buffer of fixed size

    used = strlen(buf);  snprintf(buf + used, bufLen - used, …)

A buffer is the octets a program may write.  `strlen` fails where they have no NUL, and `snprintf`
where it is told of no room, or of room past their end; so a computation that yields has written
inside the buffer.  `Terminated` is what such a program keeps: with a NUL in the buffer there is
room, and there is a NUL again afterwards.
-/

namespace Text

open CheckedReads

/-- `size_t` arithmetic. -/
def sizeT (n : ℕ) : ℕ := n % 2 ^ 64

/-- `bufLen - used`. -/
def room (bufLen used : ℕ) : ℕ := sizeT (bufLen + 2 ^ 64 - used)

/-- `buf[i] = c`. -/
def store (buf : List UInt8) (i : ℕ) (c : UInt8) : Option (List UInt8) :=
  if i < buf.length then some (buf.set i c) else none

def strlen (buf : List UInt8) : Option ℕ := if 0 ∈ buf then some (cString buf).length else none

/-- `snprintf(buf + start, size, …)` of a text: the buffer, and the length of the whole text. -/
def snprintf (buf : List UInt8) (start size : ℕ) (text : List UInt8) : Option (List UInt8 × ℕ) :=
  if 0 < size ∧ start + size ≤ buf.length then
    let written := text.take (size - 1) ++ [0]
    some (buf.take start ++ written ++ buf.drop (start + written.length), text.length)
  else none

/-- `snprintf(buf, bufLen, …)`. -/
def print (buf text : List UInt8) : Option (List UInt8) :=
  (snprintf buf 0 buf.length text).map Prod.fst

/-- `used = strlen(buf); snprintf(buf + used, bufLen - used, …)`. -/
def append (buf text : List UInt8) : Option (List UInt8) := do
  let used ← strlen buf
  (snprintf buf used (room buf.length used) text).map Prod.fst

/-- `%X` of a digit. -/
def hexDigit (n : UInt8) : UInt8 := if n < 10 then 48 + n else 55 + n

/-- `%02X`. -/
def printHex (c : UInt8) : List UInt8 := [hexDigit (c >>> 4), hexDigit (c &&& 0x0F)]

/-! ## What is kept -/

/-- A buffer of `n` octets with a NUL among them. -/
def Terminated (n : ℕ) (buf : List UInt8) : Prop := buf.length = n ∧ 0 ∈ buf

section Kept

variable {buf : List UInt8} {n used : ℕ}

theorem room_eq (h : used < n) (hn : n < 2 ^ 64) : room n used = n - used := by
  rw [room, sizeT]
  omega

/-- `buf[0] = '\0'`. -/
theorem yields_store (h : 0 < buf.length) :
    Yields (store buf 0 0) (Terminated buf.length) := by
  rw [store, if_pos h]
  exact yields_some ⟨List.length_set, List.mem_set h 0⟩

/-- The length of the text is below that of the buffer. -/
theorem yields_strlen (h : Terminated n buf) : Yields (strlen buf) (· < n) := by
  obtain ⟨rfl, hnul⟩ := h
  rw [strlen, if_pos hnul]
  refine yields_some (lt_of_le_of_ne (List.takeWhile_prefix _).length_le fun heq => ?_)
  have hall : cString buf = buf := (List.takeWhile_prefix _).eq_of_length heq
  exact absurd (List.takeWhile_eq_self_iff.mp hall 0 hnul) (by decide)

/-- **With an octet of room left**, the text is cut to it, and a NUL follows. -/
theorem yields_snprintf (hlength : buf.length = n) (hn : n < 2 ^ 64) (hused : used < n)
    (text : List UInt8) : Yields (snprintf buf used (room n used) text) fun r =>
      Terminated n r.1 ∧ r.2 = text.length := by
  subst hlength
  rw [room_eq hused hn, snprintf, if_pos ⟨by omega, by omega⟩]
  refine yields_some ⟨⟨?_, ?_⟩, rfl⟩
  · simp only [List.length_append, List.length_take, List.length_drop, List.length_singleton]
    omega
  · exact List.mem_append_left _ (List.mem_append_right _ (List.mem_append_right _
      List.mem_cons_self))

theorem yields_print (hlength : buf.length = n) (hpos : 0 < n) (hn : n < 2 ^ 64)
    (text : List UInt8) : Yields (print buf text) (Terminated n) := by
  have hroom : buf.length = room n 0 := by rw [room_eq hpos hn, hlength, Nat.sub_zero]
  obtain ⟨r, hr, hterm, -⟩ := yields_snprintf hlength hn hpos text
  rw [print, hroom, hr]
  exact yields_some hterm

/-- **An append** keeps the NUL, whatever the text. -/
theorem yields_append (h : Terminated n buf) (hn : n < 2 ^ 64) (text : List UInt8) :
    Yields (append buf text) (Terminated n) := by
  refine (yields_strlen h).bind fun used hused => ?_
  obtain ⟨r, hr, hterm, -⟩ := yields_snprintf h.1 hn hused text
  rw [h.1, hr]
  exact yields_some hterm

end Kept

end Text
