import ElevatorController.Device.Frame

/-!
# File/Bounds — where a WriteFile writes

    start = (fileStart == -1) ? g_fileDataLength : (uint32_t)fileStart
    refused  ⟺  (start + fileDataLength) mod 2³² > 4096

The sum wraps: a negative position and a block long enough to carry it past 2³² pass the check, and
the copy begins far outside the array.
-/

namespace Controller

variable {data : Buffer UInt8 fileMaxSize} {fileStart : ℤ} {fileData : List UInt8}

/-- `start` in `WriteFile`. -/
def writeStart (data : Buffer UInt8 fileMaxSize) (fileStart : ℤ) : ℕ :=
  if fileStart = -1 then data.len else (fileStart % 2 ^ 32).toNat

/-- The sum of start and length is one that wraps to a position in the file. -/
def Wraps (data : Buffer UInt8 fileMaxSize) (fileStart : ℤ) (fileData : List UInt8) : Prop :=
  2 ^ 32 ≤ writeStart data fileStart + fileData.length
    ∧ writeStart data fileStart + fileData.length ≤ 2 ^ 32 + fileMaxSize

theorem writeStart_lt (data : Buffer UInt8 fileMaxSize) (fileStart : ℤ) :
    writeStart data fileStart < 2 ^ 32 := by
  have hlen : data.len ≤ 4096 := data.len_le
  rw [writeStart]
  split <;> omega

/-- A start inside the file is the position given. -/
theorem writeStart_cast (hlo : -2 ^ 31 ≤ fileStart) (hhi : fileStart < 2 ^ 31)
    (h : writeStart data fileStart ≤ fileMaxSize) :
    (writeStart data fileStart : ℤ) = if fileStart = -1 then (data.len : ℤ) else fileStart := by
  have hmax : fileMaxSize = 4096 := rfl
  rw [writeStart] at h ⊢
  split <;> rename_i hend
  · rfl
  · rw [if_neg hend] at h
    omega

theorem writeFileData_eq (data : Buffer UInt8 fileMaxSize) (fileStart : ℤ)
    (fileData : List UInt8) : writeFileData data fileStart fileData
      = if (writeStart data fileStart + fileData.length) % 2 ^ 32 > fileMaxSize then .fileFull
        else if h : writeStart data fileStart + fileData.length ≤ fileMaxSize then
          .written (data.splice _ fileData h) (writeStart data fileStart)
        else .overrun := rfl

/-- What the check decides, by the exact sum. -/
theorem writeFileData_cases (data : Buffer UInt8 fileMaxSize) (fileStart : ℤ)
    (hlen : fileData.length < 2 ^ 32) :
    (∃ h : writeStart data fileStart + fileData.length ≤ fileMaxSize,
      writeFileData data fileStart fileData
        = .written (data.splice (writeStart data fileStart) fileData h) (writeStart data fileStart))
    ∨ (Wraps data fileStart fileData ∧ writeFileData data fileStart fileData = .overrun)
    ∨ (fileMaxSize < writeStart data fileStart + fileData.length ∧ ¬ Wraps data fileStart fileData
      ∧ writeFileData data fileStart fileData = .fileFull) := by
  have hstart := writeStart_lt data fileStart
  have hmax : fileMaxSize = 4096 := rfl
  rw [writeFileData_eq, Wraps]
  generalize writeStart data fileStart = start at hstart
  by_cases hfits : start + fileData.length ≤ fileMaxSize
  · exact .inl ⟨hfits, by rw [if_neg (by omega), dif_pos hfits]⟩
  by_cases hfull : (start + fileData.length) % 2 ^ 32 > fileMaxSize
  · exact .inr (.inr ⟨by omega, by omega, if_pos hfull⟩)
  · exact .inr (.inl ⟨by omega, by rw [if_neg hfull, dif_neg hfits]⟩)

/-- The state with other octets in the file, stamped. -/
def State.withFile (cfg : Config) (now : ℤ) (s : State) (data : Buffer UInt8 fileMaxSize) : State :=
  { s with
    ivory := { s.ivory with
      data := data
      modificationDate := readDeviceDateTime cfg.host now s.clockOffsetSeconds
        s.ivory.modificationDate } }

/-- `WriteFile` to this device's file. -/
theorem writeFile_ours (cfg : Config) (now : ℤ) (fileStart : ℤ) (fileData : List UInt8)
    (s : State) : writeFile cfg now cfg.deviceInstance fileInstance fileStart fileData s
      = match writeFileData s.ivory.data fileStart fileData with
        | .fileFull => some (.decline, none, s)
        | .written data ackFileStart =>
          some (.accept, some ackFileStart, s.withFile cfg now data)
        | .overrun => none :=
  if_neg (not_or.mpr ⟨not_not.mpr rfl, not_not.mpr rfl⟩)

/-- A call of `WriteFile` that is refused and changes nothing, or writes inside the file: with the
position as the integer it is, `-1` for the end of the file. -/
def WritesInside (cfg : Config) (now : ℤ) (deviceInstance file : ℕ) (fileStart : ℤ)
    (fileData : List UInt8) (s : State) : Prop :=
  let start := if fileStart = -1 then (s.ivory.data.len : ℤ) else fileStart
  ∃ reply ack s', writeFile cfg now deviceInstance file fileStart fileData s = some (reply, ack, s')
    ∧ ((reply.accepted = false ∧ s'.ivory = s.ivory)
      ∨ (reply.accepted = true ∧ 0 ≤ start ∧ start + fileData.length ≤ fileMaxSize
        ∧ (∀ j : Fin fileMaxSize, ((j : ℤ) < start ∨ start + fileData.length ≤ j) →
          s'.ivory.data.slots j = s.ivory.data.slots j)
        ∧ (s'.ivory.data.len : ℤ) = max ↑s.ivory.data.len (start + fileData.length)
        ∧ s'.ivory.data.len ≤ fileMaxSize ∧ ack = some start))

variable {cfg : Config} {now : ℤ} {deviceInstance file : ℕ} {s : State}

/-- **`WriteFile` stays inside the file unless the sum wraps.**  For every state of the file, every
`int32_t` position and every block of `uint32_t` length, the call is refused and changes nothing, or
writes inside the file, exactly when it is for another device or file or the sum of start and length
does not wrap to a position in the file. -/
theorem writesInside_iff (hlo : -2 ^ 31 ≤ fileStart) (hhi : fileStart < 2 ^ 31)
    (hlen : fileData.length < 2 ^ 32) :
    WritesInside cfg now deviceInstance file fileStart fileData s
      ↔ (deviceInstance = cfg.deviceInstance ∧ file = fileInstance →
          ¬ Wraps s.ivory.data fileStart fileData) := by
  by_cases hours : deviceInstance = cfg.deviceInstance ∧ file = fileInstance
  swap
  · refine iff_of_true ⟨_, _, _, if_pos ?_, .inl ⟨rfl, rfl⟩⟩ fun h => absurd h hours
    exact not_and_or.mp hours
  obtain ⟨rfl, rfl⟩ := hours
  rw [imp_iff_right ⟨rfl, rfl⟩, WritesInside, writeFile_ours]
  rcases writeFileData_cases s.ivory.data fileStart hlen with
    ⟨hfits, hdata⟩ | ⟨hwraps, hdata⟩ | ⟨hover, hwraps, hdata⟩
  · have hstart := writeStart_cast hlo hhi (le_of_add_le_left hfits)
    rw [hdata]
    refine iff_of_true ⟨_, _, _, rfl, .inr ?_⟩ fun hwraps => ?_
    · rw [← hstart]
      refine ⟨rfl, Int.natCast_nonneg _, by exact_mod_cast hfits, fun j hj => ?_, ?_,
        (s.ivory.data.splice _ fileData hfits).len_le, rfl⟩
      · rcases hj with hbefore | hafter
        · exact Buffer.storeBlock_of_lt (by exact_mod_cast hbefore)
        · exact Buffer.storeBlock_of_ge (by exact_mod_cast hafter)
      · exact_mod_cast s.ivory.data.len_splice _ fileData hfits
    · have hmax : fileMaxSize = 4096 := rfl
      have := hwraps.1
      omega
  · rw [hdata]
    exact iff_of_false (by rintro ⟨_, _, _, ⟨⟩, _⟩) (not_not.mpr hwraps)
  · rw [hdata]
    exact iff_of_true ⟨_, _, _, rfl, .inl ⟨rfl, rfl⟩⟩ hwraps

/-- Ten octets appended to the file as it is at power-on. -/
theorem writesInside_append :
    WritesInside (.standard .utc) 0 389014 1 (-1) (List.replicate 10 65)
      (.powerOn (.standard .utc) 0) :=
  (writesInside_iff (by norm_num) (by norm_num) (by decide)).mpr fun _ h => absurd h.1 (by decide)

/-- **Ten octets at position −2** pass the check and are copied to 2³² − 2. -/
theorem not_writesInside_minus_two :
    ¬ WritesInside (.standard .utc) 0 389014 1 (-2) (List.replicate 10 65)
      (.powerOn (.standard .utc) 0) := by
  rintro ⟨_, _, _, h, -⟩
  exact absurd h nofun

end Controller
