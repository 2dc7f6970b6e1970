import ElevatorController.Model.Summary
import ElevatorController.Wire.Bounds

/-!
# Wire/Summary — the summary of a frame never overruns its buffers

Every text is appended at the NUL of what is there, so what carries the proof is `Terminated`: a
buffer with a NUL has an octet of room at it, and `snprintf` leaves a NUL in the room it is given.
The digits of an address are appended without a `strlen`; there the cursor stays below the buffer's
length.
-/

namespace Controller

open CheckedReads Text

section Appends

variable {frame buf : List UInt8} {n : ℕ} (hn : n < 2 ^ 64)
include hn

/-- The digits stop where two more and a NUL do not fit. -/
theorem yields_appendHexFrom {data length used : ℕ} (hbuf : Terminated n buf) (hused : used < n)
    (hdata : data + length ≤ frame.length) :
    Yields (appendHexFrom frame data length used buf) (Terminated n) := by
  induction length generalizing data used buf with
  | zero => exact yields_some hbuf
  | succ length ih =>
    rw [appendHexFrom, hbuf.1]
    refine yields_ite (fun hroom => ?_) fun _ => yields_some hbuf
    refine yields_read (by omega) fun octet _ => ?_
    refine (yields_snprintf hbuf.1 hn hused _).bind ?_
    rintro ⟨buf, printed⟩ ⟨hbuf, rfl⟩
    exact ih hbuf hroom (by omega)

theorem yields_appendHex {data length : ℕ} (hbuf : Terminated n buf)
    (hdata : data + length ≤ frame.length) :
    Yields (appendHex frame buf data length) (Terminated n) :=
  (yields_strlen hbuf).bind fun _ hused => yields_appendHexFrom hn hbuf hused hdata

theorem yields_appendRouteSuffix {d : DecodedFrame} (hbuf : Terminated n buf)
    (hslice : SliceInside frame d.dadr d.dadrLength) :
    Yields (appendRouteSuffix frame buf d) (Terminated n) := by
  rw [appendRouteSuffix]
  refine yields_ite (fun _ => yields_some hbuf) fun _ => ?_
  refine (yields_append hbuf hn _).bind fun buf hbuf => ?_
  cases hdadr : d.dadr with
  | none => exact yields_some hbuf
  | some dadr =>
    refine yields_ite (fun _ => ?_) fun _ => yields_some hbuf
    exact (yields_append hbuf hn _).bind fun buf hbuf =>
      yields_appendHex hn hbuf (hslice.1 dadr hdadr)

theorem yields_summarizeBody {body : List UInt8} {d : DecodedFrame} (hlength : body.length = n)
    (hpos : 0 < n) : Yields (summarizeBody body d) (Terminated n) := by
  subst hlength
  refine (yields_store hpos).bind fun body hbody => ?_
  refine (yields_print hbody.1 hpos hn _).bind fun body hbody => ?_
  exact yields_ite (fun _ => yields_append hbody hn _) fun _ => yields_some hbody

end Appends

/-- **The summary never overruns its buffers.**  For every frame that a datagram can hold, and
whatever the caller's buffer of an octet or more and the function's own of 128 hold before, the
function yields: each write and each read is inside, and each remaining size is one octet at least.
Both buffers keep their length, and a NUL is left in each that is used. -/
theorem summary_stays_inside {frame outSummary body : List UInt8} (hlen : frame.length ≤ 65535)
    (hpos : 1 ≤ outSummary.length) (hsize : outSummary.length < 2 ^ 64)
    (hbody : body.length = 128) :
    ∃ outSummary' body', summarizeBacnetFrame frame outSummary body = some (outSummary', body')
      ∧ outSummary'.length = outSummary.length ∧ 0 ∈ outSummary'
      ∧ ∀ b ∈ body', b.length = 128 ∧ 0 ∈ b := by
  have hyields : Yields (summarizeBacnetFrame frame outSummary body) fun r =>
      Terminated outSummary.length r.1 ∧ ∀ b ∈ r.2, Terminated 128 b := by
    rw [summarizeBacnetFrame, if_neg (by omega)]
    refine (yields_store hpos).bind fun out hout => ?_
    refine (yields_decodeBacnetFrame hlen).bind fun d hslices => ?_
    have hprint : ∀ text, Yields (print out text) (Terminated outSummary.length) :=
      yields_print hout.1 hpos hsize
    have hnone : ∀ text, Yields (print out text >>= fun out => some (out, none)) fun r =>
        Terminated outSummary.length r.1 ∧ ∀ b ∈ r.2, Terminated 128 b := fun text =>
      (hprint text).bind fun out hout => yields_some ⟨hout, nofun⟩
    refine yields_ite (fun _ => hnone _) fun _ => yields_ite (fun _ => hnone _) fun _ =>
      yields_ite (fun _ => ?_) fun _ => yields_ite (fun _ => hnone _) fun _ => ?_
    · refine (hprint _).bind fun out hout => ?_
      exact (yields_appendRouteSuffix hsize hout hslices.1).bind fun out hout =>
        yields_some ⟨hout, nofun⟩
    · refine (yields_summarizeBody (by norm_num) hbody (by norm_num)).bind fun body hbody => ?_
      refine (yields_strlen hbody).bind fun length _ => ?_
      refine (hprint _).bind fun out hout => ?_
      refine (yields_appendRouteSuffix hsize hout hslices.1).bind fun out hout =>
        yields_some ⟨hout, ?_⟩
      rintro _ ⟨⟩
      exact hbody
  obtain ⟨⟨out, body'⟩, heq, hout, hbody'⟩ := hyields
  exact ⟨out, body', heq, hout.1, hout.2, hbody'⟩

/-- A routed ReadProperty, summarized into a buffer that its address does not fit in. -/
def routedReadProperty : List UInt8 :=
  [0x81, 0x0A, 0, 25, 0x01, 0x24, 0x00, 0x05, 3, 0xAA, 0xBB, 0xCC, 0xFF, 0x00, 0x05, 1, 12, 0x0C,
    0x02, 0x00, 0x00, 0x05, 0x19, 77]

/-- The cut summary keeps its NUL. -/
theorem summary_stays_inside_cut : ∃ outSummary' body',
    summarizeBacnetFrame routedReadProperty (List.replicate 65 7) (List.replicate 128 9)
      = some (outSummary', body')
      ∧ outSummary'.length = (List.replicate 65 (7 : UInt8)).length ∧ 0 ∈ outSummary'
      ∧ ∀ b ∈ body', b.length = 128 ∧ 0 ∈ b :=
  summary_stays_inside (by decide) (by simp) (by simp) List.length_replicate

end Controller
