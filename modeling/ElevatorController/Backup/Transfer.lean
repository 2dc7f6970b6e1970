import ElevatorController.Device.Frame

/-!
# Backup/Transfer — a client copies File 1 out, and back in, chunk by chunk

    read at 0, read at |c₁|, …  until endOfFile          write c₁ at 0, write c₂ at |c₁|, …

Whatever the chunk sizes, the reader collects the whole file as long as nothing writes it meanwhile,
and the writer leaves the concatenation of its chunks.
-/

namespace Controller

/-! ## Reading -/

/-- **One `ReadFile` extends what was read of the file**, and completes it when it reports the
end. -/
theorem readFileData_spec (data : Buffer UInt8 fileMaxSize) {collected : List UInt8}
    (requestedCount maxFileDataLength : ℕ) (h : collected <+: data.toList) :
    let r := readFileData data collected.length requestedCount maxFileDataLength
    collected ++ r.1 <+: data.toList ∧ (r.2 = true → collected ++ r.1 = data.toList) := by
  have htake := List.prefix_iff_eq_take.mp h
  rw [readFileData]
  split
  · rename_i hend
    simp only [List.append_nil]
    exact ⟨h, fun _ => h.eq_of_length_le (by simpa using hend)⟩
  · generalize min (min (data.len - collected.length) requestedCount) maxFileDataLength = toCopy
    have hgrow : collected ++ (data.toList.drop collected.length).take toCopy
        = data.toList.take (collected.length + toCopy) := by
      rw [List.take_add, ← htake]
    simp only [hgrow]
    refine ⟨List.take_prefix _ _, fun hend => ?_⟩
    exact List.take_of_length_le (by simpa using hend)

/-- A client that copies the file out: the device, the octets so far, and whether the last read
reported the end of the file. -/
structure BackupClient where
  state : State
  collected : List UInt8
  endOfFile : Bool

/-- While the client reads, other things happen. -/
inductive BackupEvent where
  /-- The client reads where it left off, this many octets at most. -/
  | read (requestedCount maxFileDataLength : ℕ)
  | event (e : Event)

def BackupClient.step (cfg : Config) (c : BackupClient) : BackupEvent → BackupClient
  | .read requestedCount maxFileDataLength =>
    if c.endOfFile then c
    else
      match readFile cfg cfg.deviceInstance fileInstance c.collected.length requestedCount
          maxFileDataLength c.state with
      | none => c
      | some (octets, endOfFile) =>
        { c with collected := c.collected ++ octets, endOfFile := endOfFile }
  | .event e => { c with state := e.step cfg c.state }

/-- The event is no write to File 1. -/
def Event.KeepsFile : Event → Prop
  | .request r => r.component ≠ some .file
  | .action _ => True

theorem Action.perform_ivory (cfg : Config) (s : State) (a : Action) :
    (a.perform cfg s).1.ivory = s.ivory := by
  cases a with
  | restore addObject =>
    rw [Action.perform, restoreBlock]
    split <;> rfl
  | liftCarTick now => rfl
  | passengerAlarm now =>
    rw [Action.perform, passengerAlarmBlock]
    split <;> rfl
  | restart nowMs =>
    rw [Action.perform, restartBlock]
    split <;> rfl
  | key command => cases command <;> rfl

theorem Event.ivory_step (cfg : Config) (s : State) {e : Event} (he : e.KeepsFile) :
    (e.step cfg s).ivory = s.ivory := by
  cases e with
  | action a => exact a.perform_ivory cfg s
  | request r =>
    obtain h | h | ⟨_, _, _, _, -, h⟩ := r.step_cases cfg s
    · exact h.kept.ivory he
    · rw [h]
    · rw [h]

/-- What a client has collected is a prefix of the file — the whole of it at the end. -/
structure BackupClient.Reads (c : BackupClient) (image : List UInt8) : Prop where
  file : c.state.ivory.data.toList = image
  isPrefix : c.collected <+: image
  whole : c.endOfFile = true → c.collected = image

/-- **A client that reads to the end has the file**, whatever happens meanwhile that writes no
file. -/
theorem BackupClient.reads_run (cfg : Config) {image : List UInt8} {es : List BackupEvent}
    (hes : ∀ e, BackupEvent.event e ∈ es → e.KeepsFile) {c : BackupClient} (hc : c.Reads image) :
    (Runs.run (BackupClient.step cfg) es c).Reads image := by
  induction es generalizing c with
  | nil => exact hc
  | cons e es ih =>
    refine ih (fun e' he' => hes e' (List.mem_cons_of_mem _ he')) ?_
    cases e with
    | event e =>
      refine ⟨?_, hc.isPrefix, hc.whole⟩
      rw [← hc.file]
      exact congrArg (Buffer.toList ∘ Ivory.data)
        (Event.ivory_step cfg c.state (hes e List.mem_cons_self))
    | read requestedCount maxFileDataLength =>
      have hspec := readFileData_spec c.state.ivory.data requestedCount maxFileDataLength
        (hc.file.symm ▸ hc.isPrefix)
      rw [hc.file] at hspec
      rw [BackupClient.step]
      split
      · exact hc
      · rw [readFile, if_neg (not_or.mpr ⟨not_not.mpr rfl, not_not.mpr rfl⟩)]
        exact ⟨hc.file, hspec.1, hspec.2⟩

/-! ## Writing -/

/-- **A `WriteFile` where the file ends appends its octets.** -/
theorem writeFile_append (cfg : Config) (now : ℤ) (s : State) {chunk : List UInt8}
    (h : s.ivory.data.len + chunk.length ≤ fileMaxSize) :
    ∃ ivory, writeFile cfg now cfg.deviceInstance fileInstance s.ivory.data.len chunk s
        = some (Reply.accept, some (s.ivory.data.len : ℤ), { s with ivory := ivory })
      ∧ ivory.data.toList = s.ivory.data.toList ++ chunk := by
  have hlen : s.ivory.data.len ≤ 4096 := s.ivory.data.len_le
  have hmax : fileMaxSize = 4096 := rfl
  have hneg : (s.ivory.data.len : ℤ) ≠ -1 := by omega
  have hstart : ((s.ivory.data.len : ℤ) % 2 ^ 32).toNat = s.ivory.data.len := by omega
  have hdata : writeFileData s.ivory.data s.ivory.data.len chunk
      = .written (s.ivory.data.splice s.ivory.data.len chunk h) s.ivory.data.len := by
    have hfits : ¬ (s.ivory.data.len + chunk.length) % 2 ^ 32 > fileMaxSize := by omega
    simp only [writeFileData, hneg, if_false, hstart, if_neg hfits, dif_pos h]
  refine ⟨{ s.ivory with
    data := s.ivory.data.splice s.ivory.data.len chunk h
    modificationDate := readDeviceDateTime cfg.host now s.clockOffsetSeconds
      s.ivory.modificationDate }, ?_, s.ivory.data.toList_splice_end chunk h⟩
  rw [writeFile, if_neg (not_or.mpr ⟨not_not.mpr rfl, not_not.mpr rfl⟩), hdata]

/-- The requests that write chunks, each with the time it is written at, one after another. -/
def writeRequests (cfg : Config) : ℕ → List (ℤ × List UInt8) → List Request
  | _, [] => []
  | start, (now, chunk) :: rest =>
    .writeFile now cfg.deviceInstance fileInstance start chunk
      :: writeRequests cfg (start + chunk.length) rest

/-- The octets of the chunks. -/
def octets (chunks : List (ℤ × List UInt8)) : List UInt8 := (chunks.map Prod.snd).flatten

/-- **Chunks written one after another leave their concatenation in the file** and touch nothing
else. -/
theorem run_writeRequests (cfg : Config) : ∀ (chunks : List (ℤ × List UInt8)) (s : State),
    s.ivory.data.len + (octets chunks).length ≤ fileMaxSize →
    ∃ ivory, Runs.run (Event.step cfg)
        ((writeRequests cfg s.ivory.data.len chunks).map .request) s = { s with ivory := ivory }
      ∧ ivory.data.toList = s.ivory.data.toList ++ octets chunks
  | [], s, _ => ⟨s.ivory, rfl, (List.append_nil _).symm⟩
  | (now, chunk) :: rest, s, hroom => by
    have hsplit : octets ((now, chunk) :: rest) = chunk ++ octets rest := rfl
    rw [hsplit, List.length_append] at hroom
    obtain ⟨ivory, hwrite, hcontent⟩ :=
      @writeFile_append cfg now s chunk (by omega)
    have hlen : ivory.data.len = s.ivory.data.len + chunk.length := by
      have := congrArg List.length hcontent
      simpa using this
    obtain ⟨ivory', hrun, hrest⟩ := run_writeRequests cfg rest { s with ivory := ivory }
      (by rw [hlen]; omega)
    refine ⟨ivory', ?_, ?_⟩
    · rw [writeRequests, List.map_cons, Runs.run_cons, ← hlen, Event.step, Request.perform, hwrite]
      exact hrun
    · rw [hrest, hsplit, ← List.append_assoc]
      exact congrArg (· ++ octets rest) hcontent

end Controller
