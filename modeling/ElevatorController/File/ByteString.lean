import ElevatorController.Machinery.Answers
import ElevatorController.Backup.Transfer
import ElevatorController.File.Bounds

/-!
# File/ByteString — File 1 is a string of at most 4096 octets

    content ──write at p──▸ content[0..p) ++ block ++ content[p + |block|..)
    content ──File_Size n──▸ content[0..n) ++ zeros

`FileOp.specify` is the string's own account of the four operations.  `ivory_refines` says that the
array, its length and its callbacks give exactly those answers, over any run of operations that
write inside the file or at its end.
-/

namespace Controller

open Answers

/-! ## Operations -/

/-- A call on File 1 of this device, with the wall-clock time where it reads one. -/
inductive FileOp where
  | writeFile (now : ℤ) (fileStart : ℤ) (fileData : List UInt8)
  | setFileSize (now : ℤ) (newSize : ℕ)
  | prepareRestore
  | readFile (fileStart requestedCount maxFileDataLength : ℕ)

inductive FileAnswer where
  | reply (r : Reply)
  | write (r : Reply) (ackFileStart : Option ℤ)
  | read (octets : List UInt8) (endOfFile : Bool)
  deriving DecidableEq

/-- The callbacks. -/
def FileOp.perform (cfg : Config) (s : State) : FileOp → Option (FileAnswer × State)
  | .writeFile now fileStart fileData =>
    (Controller.writeFile cfg now cfg.deviceInstance fileInstance fileStart fileData s).map
      fun r => (.write r.1 r.2.1, r.2.2)
  | .setFileSize now newSize =>
    let r := setIvoryFileSize cfg now newSize s
    some (.reply r.1, r.2)
  | .prepareRestore =>
    let r := Controller.prepareRestore cfg cfg.deviceInstance s
    some (.reply r.1, r.2)
  | .readFile fileStart requestedCount maxFileDataLength =>
    (Controller.readFile cfg cfg.deviceInstance fileInstance fileStart requestedCount
      maxFileDataLength s).map fun r => (.read r.1 r.2, s)

/-! ## The string -/

/-- What an operation does to the string, and its answer. -/
def FileOp.specify (content : List UInt8) : FileOp → FileAnswer × List UInt8
  | .writeFile _ fileStart fileData =>
    let start := if fileStart = -1 then content.length else fileStart.toNat
    let spliced := content.take start ++ fileData ++ content.drop (start + fileData.length)
    if spliced.length ≤ fileMaxSize then (.write .accept (some start), spliced)
    else (.write .decline none, content)
  | .setFileSize _ newSize =>
    if newSize ≤ fileMaxSize then
      (.reply .accept, content.take newSize ++ List.replicate (newSize - content.length) 0)
    else (.reply (.declineWith errorCodeValueOutOfRange), content)
  | .prepareRestore => (.reply .accept, [])
  | .readFile fileStart requestedCount maxFileDataLength =>
    let count := min requestedCount maxFileDataLength
    (.read ((content.drop fileStart).take count) (decide (content.length ≤ fileStart + count)),
      content)

/-- A write of fewer than 2³¹ octets that begins inside the string or at its end. -/
def FileOp.Admissible (content : List UInt8) : FileOp → Prop
  | .writeFile _ fileStart fileData =>
    (fileStart = -1 ∨ 0 ≤ fileStart ∧ fileStart ≤ content.length) ∧ fileData.length < 2 ^ 31
  | _ => True

/-! ## Reading -/

/-- **`ReadFile` is a slice**: the least of what is asked for, what there is room for and what there
is, and the end of the file exactly where the slice would reach it. -/
theorem readFileData_eq (data : Buffer UInt8 fileMaxSize)
    (fileStart requestedCount maxFileDataLength : ℕ) :
    readFileData data fileStart requestedCount maxFileDataLength
      = ((data.toList.drop fileStart).take (min requestedCount maxFileDataLength),
        decide (data.len ≤ fileStart + min requestedCount maxFileDataLength)) := by
  rw [readFileData]
  split
  · rename_i hend
    rw [List.drop_eq_nil_of_le (by simpa using hend), List.take_nil,
      decide_eq_true (by omega : data.len ≤ fileStart + _)]
  · refine Prod.ext (List.take_eq_take_iff.mpr ?_) (decide_eq_decide.mpr (by omega))
    rw [List.length_drop, Buffer.length_toList]
    omega

/-- Reads one after another, each of what is asked for and there is room for, from where the one
before ended. -/
def readChunks (cfg : Config) (s : State) : ℕ → List (ℕ × ℕ) → Option (List (List UInt8 × Bool))
  | _, [] => some []
  | fileStart, (requestedCount, maxFileDataLength) :: chunks =>
    (Controller.readFile cfg cfg.deviceInstance fileInstance fileStart requestedCount
        maxFileDataLength s).bind fun r =>
      (readChunks cfg s (fileStart + r.1.length) chunks).map (r :: ·)

/-- The octets a list of chunks has room for. -/
def chunkTotal (chunks : List (ℕ × ℕ)) : ℕ := (chunks.map fun c => min c.1 c.2).sum

/-- What reading a string chunk by chunk yields: consecutive slices. -/
def slices (content : List UInt8) : ℕ → List (ℕ × ℕ) → List (List UInt8 × Bool)
  | _, [] => []
  | fileStart, c :: chunks =>
    ((content.drop fileStart).take (min c.1 c.2),
        decide (content.length ≤ fileStart + min c.1 c.2))
      :: slices content (fileStart + min c.1 c.2) chunks

theorem readFile_eq (cfg : Config) (s : State) (fileStart requestedCount maxFileDataLength : ℕ) :
    Controller.readFile cfg cfg.deviceInstance fileInstance fileStart requestedCount
        maxFileDataLength s
      = some ((s.ivory.data.toList.drop fileStart).take (min requestedCount maxFileDataLength),
        decide (s.ivory.data.toList.length
          ≤ fileStart + min requestedCount maxFileDataLength)) := by
  rw [Controller.readFile, if_neg (not_or.mpr ⟨not_not.mpr rfl, not_not.mpr rfl⟩), readFileData_eq,
    Buffer.length_toList]

/-- A slice that begins past the end is no different from one that begins at it. -/
theorem slices_past (content : List UInt8) {i j : ℕ} (hi : content.length ≤ i)
    (hj : content.length ≤ j) : ∀ chunks, slices content i chunks = slices content j chunks
  | [] => rfl
  | c :: chunks => by
    rw [slices, slices, List.drop_eq_nil_of_le hi, List.drop_eq_nil_of_le hj,
      decide_eq_true (by omega : content.length ≤ i + _),
      decide_eq_true (by omega : content.length ≤ j + _),
      slices_past content (i := i + min c.1 c.2) (j := j + min c.1 c.2) (by omega) (by omega)
        chunks]

/-- **Reading chunk by chunk returns the slices.** -/
theorem readChunks_eq (cfg : Config) (s : State) : ∀ (chunks : List (ℕ × ℕ)) (fileStart : ℕ),
    readChunks cfg s fileStart chunks = some (slices s.ivory.data.toList fileStart chunks)
  | [], _ => rfl
  | (requestedCount, maxFileDataLength) :: chunks, fileStart => by
    rw [readChunks, readFile_eq, Option.bind_some, readChunks_eq cfg s chunks, Option.map_some,
      slices]
    refine congrArg some (congrArg _ ?_)
    rw [List.length_take, List.length_drop]
    rcases le_total s.ivory.data.toList.length (fileStart + min requestedCount maxFileDataLength)
      with hend | hmore
    · exact slices_past _ (by omega) hend chunks
    · rw [min_eq_left (by omega)]

theorem flatten_slices (content : List UInt8) : ∀ (chunks : List (ℕ × ℕ)) (fileStart : ℕ),
    ((slices content fileStart chunks).map Prod.fst).flatten
      = (content.drop fileStart).take (chunkTotal chunks)
  | [], _ => (List.take_zero).symm
  | c :: chunks, fileStart => by
    have htotal : chunkTotal (c :: chunks) = min c.1 c.2 + chunkTotal chunks := List.sum_cons
    rw [slices, List.map_cons, List.flatten_cons, flatten_slices content chunks, htotal,
      List.take_add, List.drop_drop]

theorem getElem_slices (content : List UInt8) : ∀ (chunks : List (ℕ × ℕ)) (fileStart k : ℕ)
    (c : ℕ × ℕ), chunks[k]? = some c → (slices content fileStart chunks)[k]?
      = some ((content.drop (fileStart + chunkTotal (chunks.take k))).take (min c.1 c.2),
        decide (content.length ≤ fileStart + chunkTotal (chunks.take k) + min c.1 c.2))
  | [], _, _, _, h => absurd h nofun
  | c :: chunks, fileStart, 0, _, h => by
    obtain rfl := Option.some.inj h
    rfl
  | c :: chunks, fileStart, k + 1, c', h => by
    have htotal : chunkTotal ((c :: chunks).take (k + 1))
        = min c.1 c.2 + chunkTotal (chunks.take k) := List.sum_cons
    rw [slices, List.getElem?_cons_succ, getElem_slices content chunks _ k c' h, htotal,
      ← add_assoc]

/-! ## The refinement -/

/-- The spliced content is as long as the write makes it. -/
theorem length_spliced (content fileData : List UInt8) {start : ℕ} (h : start ≤ content.length) :
    (content.take start ++ fileData ++ content.drop (start + fileData.length)).length
      = max content.length (start + fileData.length) := by
  simp only [List.length_append, List.length_take, List.length_drop]
  omega

theorem writeStart_of_admissible {data : Buffer UInt8 fileMaxSize} {fileStart : ℤ}
    (h : fileStart = -1 ∨ 0 ≤ fileStart ∧ fileStart ≤ data.toList.length) :
    writeStart data fileStart = (if fileStart = -1 then data.toList.length else fileStart.toNat)
      ∧ writeStart data fileStart ≤ data.len := by
  have hlen : data.len ≤ 4096 := data.len_le
  rw [Buffer.length_toList] at h ⊢
  rw [writeStart]
  split <;> omega

/-- `WriteFile` where the sum does not wrap. -/
theorem writeFile_splice (cfg : Config) (now : ℤ) (s : State) {fileStart : ℤ}
    {fileData : List UInt8} (hlen : fileData.length < 2 ^ 31)
    (hstart : writeStart s.ivory.data fileStart ≤ s.ivory.data.len) :
    let start := writeStart s.ivory.data fileStart
    let spliced := s.ivory.data.toList.take start ++ fileData
      ++ s.ivory.data.toList.drop (start + fileData.length)
    (spliced.length ≤ fileMaxSize → ∃ s',
      Controller.writeFile cfg now cfg.deviceInstance fileInstance fileStart fileData s
          = some (.accept, some (start : ℤ), s')
        ∧ s'.ivory.data.toList = spliced)
    ∧ (¬ spliced.length ≤ fileMaxSize →
      Controller.writeFile cfg now cfg.deviceInstance fileInstance fileStart fileData s
        = some (.decline, none, s)) := by
  intro start spliced
  have hmax : s.ivory.data.len ≤ fileMaxSize := s.ivory.data.len_le
  have hspliced : spliced.length = max s.ivory.data.len (start + fileData.length) := by
    rw [length_spliced _ _ (by rwa [Buffer.length_toList]), Buffer.length_toList]
  rw [hspliced, writeFile_ours]
  rcases writeFileData_cases s.ivory.data fileStart (show fileData.length < 2 ^ 32 by omega) with
    ⟨hfits, hdata⟩ | ⟨hwraps, -⟩ | ⟨hover, -, hdata⟩
  · rw [hdata]
    exact ⟨fun _ => ⟨_, rfl, Buffer.toList_splice _ _ _ hfits hstart⟩,
      fun h => absurd (max_le hmax hfits) h⟩
  · have hlong := hwraps.1
    have : fileMaxSize = 4096 := rfl
    omega
  · rw [hdata]
    exact ⟨fun h => absurd (le_of_max_le_right h) (not_le.mpr hover), fun _ => rfl⟩

/-- **Each callback answers as the string does**, and leaves the string's octets. -/
theorem FileOp.perform_refines (cfg : Config) (s : State) (op : FileOp)
    (h : op.Admissible s.ivory.data.toList) :
    ∃ s', op.perform cfg s = some ((op.specify s.ivory.data.toList).1, s')
      ∧ s'.ivory.data.toList = (op.specify s.ivory.data.toList).2 := by
  cases op with
  | writeFile now fileStart fileData =>
    obtain ⟨hstart, hle⟩ := writeStart_of_admissible h.1
    obtain ⟨haccept, hdecline⟩ := writeFile_splice cfg now s h.2 hle
    rw [FileOp.perform, FileOp.specify, ← hstart]
    split
    · obtain ⟨s', hs', hcontent⟩ := haccept ‹_›
      exact ⟨s', by rw [hs']; rfl, hcontent⟩
    · exact ⟨s, by rw [hdecline ‹_›]; rfl, rfl⟩
  | setFileSize now newSize =>
    rw [FileOp.perform, setIvoryFileSize, Controller.setFileSize, FileOp.specify]
    by_cases hsize : newSize ≤ fileMaxSize
    · rw [dif_pos hsize, if_pos hsize, Buffer.length_toList]
      exact ⟨_, rfl, s.ivory.data.toList_resize newSize 0 hsize⟩
    · rw [dif_neg hsize, if_neg hsize]
      exact ⟨_, rfl, rfl⟩
  | prepareRestore =>
    rw [FileOp.perform, Controller.prepareRestore, if_neg (not_not.mpr rfl)]
    exact ⟨_, rfl, rfl⟩
  | readFile fileStart requestedCount maxFileDataLength =>
    exact ⟨s, by rw [FileOp.perform, readFile_eq]; rfl, rfl⟩

/-- File_Size of File 1. -/
def fileSizeReference (cfg : Config) : PropertyReference :=
  ⟨cfg.deviceInstance, objectTypeFile, fileInstance, propertyIdentifierFileSize, none⟩

theorem getProperty_fileSize (cfg : Config) (s : State) :
    getPropertyUnsignedInteger cfg s (fileSizeReference cfg) = some s.ivory.data.len := by
  simp [fileSizeReference, getPropertyUnsignedInteger, PropertyReference.names, State.serveOutput,
    objectTypeFile, objectTypeLift, objectTypeMultiStateInput, objectTypeMultiStateOutput,
    objectTypeDevice, objectTypeNetworkPort, objectTypePositiveIntegerValue]

/-- **Ivory behaves as a string of at most 4096 octets.**  A run of operations, of which each write
begins inside the file or at its end, is answered as the string answers it, and leaves the string's
octets in the file: File_Size is their number, and a client that reads them chunk by chunk gets
consecutive slices, of which the last tells it has reached the end. -/
theorem ivory_refines (cfg : Config) (ops : List FileOp) (s : State)
    (hops : ∀ x ∈ Runs.steps (fun content op => (FileOp.specify content op).2) ops
      s.ivory.data.toList, x.2.Admissible x.1) :
    let content := Runs.run (fun content op => (FileOp.specify content op).2) ops
      s.ivory.data.toList
    ∃ t, answers (FileOp.perform cfg) ops s
        = some (specified FileOp.specify ops s.ivory.data.toList, t)
      ∧ t.ivory.data.toList = content ∧ content.length ≤ fileMaxSize
      ∧ getPropertyUnsignedInteger cfg t (fileSizeReference cfg) = some content.length
      ∧ ∀ chunks : List (ℕ × ℕ), ∃ reads, readChunks cfg t 0 chunks = some reads
        ∧ (reads.map Prod.fst).flatten = content.take (chunkTotal chunks)
        ∧ ∀ k c, chunks[k]? = some c → ∃ r, reads[k]? = some r
          ∧ r.1 = (content.drop (chunkTotal (chunks.take k))).take (min c.1 c.2)
          ∧ (r.2 = true ↔ content.length ≤ chunkTotal (chunks.take k) + min c.1 c.2) := by
  intro content
  have hstep : ∀ (s : State) (content : List UInt8) (op : FileOp), s.ivory.data.toList = content →
      op.Admissible content → ∃ s', FileOp.perform cfg s op = some ((op.specify content).1, s')
        ∧ s'.ivory.data.toList = (op.specify content).2 := fun s _ op hcontent hop => by
    subst hcontent
    exact op.perform_refines cfg s hop
  obtain ⟨t, hanswers, (hcontent : _ = content)⟩ := answers_refine
    (R := fun (s : State) content => s.ivory.data.toList = content)
    (C := fun content op => FileOp.Admissible content op) hstep ops rfl hops
  have hlen : content.length = t.ivory.data.len := by
    rw [← hcontent, Buffer.length_toList]
  refine ⟨t, hanswers, hcontent, hlen ▸ t.ivory.data.len_le, ?_, fun chunks => ?_⟩
  · rw [getProperty_fileSize, hlen]
  · refine ⟨_, readChunks_eq cfg t chunks 0, ?_, fun k c hc => ?_⟩
    · rw [flatten_slices, hcontent, List.drop_zero]
    · refine ⟨_, getElem_slices _ chunks 0 k c hc, ?_, ?_⟩
      · rw [Nat.zero_add, hcontent]
      · rw [Nat.zero_add, hcontent]
        exact decide_eq_true_iff

/-- Three zeros, two octets after them, and the last three of the five read back. -/
theorem ivory_refines_append :
    let ops : List FileOp := [.setFileSize 0 3, .writeFile 0 (-1) [65, 66], .readFile 2 10 10]
    ∃ t, answers (FileOp.perform (.standard .utc)) ops (.powerOn (.standard .utc) 0)
        = some ([.reply .accept, .write .accept (some 3), .read [0, 65, 66] true], t)
      ∧ t.ivory.data.toList = [0, 0, 0, 65, 66] := by
  obtain ⟨t, hanswers, hcontent, -⟩ := ivory_refines (.standard .utc)
    [.setFileSize 0 3, .writeFile 0 (-1) [65, 66], .readFile 2 10 10] (.powerOn (.standard .utc) 0)
    (by simp [Runs.steps, FileOp.Admissible])
  exact ⟨t, hanswers, hcontent⟩

end Controller
