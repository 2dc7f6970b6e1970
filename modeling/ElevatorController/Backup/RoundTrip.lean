import ElevatorController.Backup.Staging
import ElevatorController.Values.Database

/-!
# Backup/RoundTrip — a backup, anything, and the restore of the backup

    PrepareBackup   ReadFile …         anything        PrepareRestore  WriteFile …  CompleteRestore
    ●───────────────●──────────────────●───────────────●───────────────────────────●──────▸ pass
    T                                                                               T, reread

The reads may be interleaved with anything that does not write the file.  The pass that follows
leaves exactly the objects `T` had when the backup was prepared, each with the value its text
denotes.
-/

namespace Controller

open BinaryFormat Text

/-! ## What a list of distinct instances installs -/

namespace CreatedAnalogValues

variable {t : CreatedAnalogValues}

/-- The table's value of an instance is that of its entry. -/
theorem valueOf_eq_find?_entries (t : CreatedAnalogValues) (n : ℕ) : t.valueOf n
    = (t.entries.find? fun v => v.objectInstance == n).map CreatedAnalogValue.presentValue := by
  rw [valueOf, findCreated, SlotTable.find, entries, List.find?_filter, List.find?_map,
    Option.map_map]
  refine congrArg (Option.map _) (congrArg₂ List.find? (funext fun i => ?_) rfl)
  exact Bool.eq_iff_iff.mpr (by simp)

/-- Distinct slots are distinct entries. -/
theorem Distinct.nodup_entries (h : t.Distinct) :
    (t.entries.map CreatedAnalogValue.objectInstance).Nodup := by
  rw [entries, List.filter_map, List.map_map]
  refine List.Nodup.map_on (fun i hi j hj hij => ?_) ((List.nodup_finRange _).filter _)
  exact h i j (List.mem_filter.mp hi).2 (List.mem_filter.mp hj).2 hij

end CreatedAnalogValues

/-- A value put into the map. -/
def putEntry (m : ValueMap) (r : RestoredAnalogValue) : ValueMap :=
  Function.update m r.objectInstance (some r.presentValue)

theorem foldl_putEntry : ∀ (vs : List RestoredAnalogValue) (m : ValueMap) (n : ℕ),
    (vs.map RestoredAnalogValue.objectInstance).Nodup →
    vs.foldl putEntry m n
      = ((vs.find? fun r => r.objectInstance == n).map RestoredAnalogValue.presentValue).or (m n)
  | [], _, _, _ => rfl
  | r :: vs, m, n, h => by
    obtain ⟨hr, h⟩ := List.nodup_cons.mp h
    rw [List.foldl_cons, foldl_putEntry vs _ n h, List.find?_cons]
    by_cases hn : r.objectInstance = n
    · have hnone : (vs.find? fun r => r.objectInstance == n) = none :=
        List.find?_eq_none.mpr fun r' hr' heq =>
          hr (List.mem_map.mpr ⟨r', hr', (beq_iff_eq.mp heq).trans hn.symm⟩)
      simp [putEntry, hn, hnone]
    · rw [beq_false_of_ne hn, putEntry, Function.update_of_ne (Ne.symm hn)]

/-- **A restored list of distinct instances becomes the map**, when every object can be added. -/
theorem restoreMap_of_nodup {vs : List RestoredAnalogValue} (m : ValueMap)
    (h : (vs.map RestoredAnalogValue.objectInstance).Nodup) :
    restoreMap (fun _ => true) vs m = fun n =>
      (vs.find? fun r => r.objectInstance == n).map RestoredAnalogValue.presentValue := by
  have hstep : restoreEntry (fun _ => true) = fun m r => putEntry m r.1 :=
    funext fun m => funext fun r => if_pos (Or.inr rfl)
  have hindex : ∀ m' : ValueMap,
      vs.zipIdx.foldl (restoreEntry fun _ => true) m' = vs.foldl putEntry m' := by
    intro m'
    conv_rhs => rw [← List.zipIdx_map_fst 0 vs]
    rw [List.foldl_map, hstep]
  funext n
  rw [restoreMap, hindex, foldl_putEntry vs _ n h, keepInstances]
  cases hfind : vs.find? fun r => r.objectInstance == n with
  | some r => rfl
  | none =>
    have hany : ¬ (vs.any fun r => r.objectInstance == n) = true := by
      simpa [List.find?_eq_none] using hfind
    rw [if_neg hany]
    rfl

/-! ## The value a text denotes -/

/-- The REAL that the image text of a value parses to. -/
def imageTextValue (v : binary32.Value) : binary32.Value :=
  (strtod (32 :: printG 6 (v.convert binary64))).1.convert binary32

theorem reread_eq (v : CreatedAnalogValue) :
    v.reread = ⟨v.objectInstance, imageTextValue v.presentValue⟩ := by
  rw [CreatedAnalogValue.reread, imageTextValue, strtod_printG (by norm_num)]

/-- The entries of a table, reread, are a list of distinct instances. -/
theorem find?_map_reread (t : CreatedAnalogValues) (n : ℕ) :
    ((t.entries.map (·.reread)).find? fun r => r.objectInstance == n).map
        RestoredAnalogValue.presentValue = (t.valueOf n).map imageTextValue := by
  rw [t.valueOf_eq_find?_entries, List.find?_map, Option.map_map, Option.map_map]
  refine congrArg₂ Option.map (funext fun v => ?_) rfl
  rw [Function.comp_apply, reread_eq]
  rfl

/-- **A pass that applies the entries of a table, reread, leaves its instances with the values their
texts denote.** -/
theorem restoreBlock_of_entries {t : CreatedAnalogValues} (ht : t.Distinct) {s : State}
    (hs : s.createdAnalogValues.Distinct) (hpending : s.restorePending = true)
    (hstaged : s.restoredAnalogValues.toList = t.entries.map (·.reread)) :
    (restoreBlock (fun _ => true) s).1.createdAnalogValues.Represents
      fun n => (t.valueOf n).map imageTextValue := by
  have hnodup : ((t.entries.map (·.reread)).map RestoredAnalogValue.objectInstance).Nodup := by
    rw [List.map_map]
    exact ht.nodup_entries
  have happly := (hs.represents.apply (fun _ => true) s.restoredAnalogValues).1
  rw [hstaged, restoreMap_of_nodup _ hnodup] at happly
  rw [restoreBlock, if_pos hpending]
  simpa only [find?_map_reread] using happly

/-! ## The sessions -/

theorem BackupClient.reachable_run {cfg : Config} : ∀ (es : List BackupEvent) {c : BackupClient},
    Reachable cfg c.state → Reachable cfg (Runs.run (BackupClient.step cfg) es c).state
  | [], _, h => h
  | e :: es, c, h => by
    refine reachable_run es ?_
    cases e with
    | event e => exact h.step e
    | read requestedCount maxFileDataLength =>
      rw [BackupClient.step]
      split
      · exact h
      split <;> exact h

theorem Reachable.run {cfg : Config} {s : State} (h : Reachable cfg s) (es : List Event) :
    Reachable cfg (Runs.run (Event.step cfg) es s) :=
  Runs.run_invariant (fun _ e hs => hs.step e) es h

/-- The requests of a restore session up to its end. -/
def restoreRequests (cfg : Config) (chunks : List (ℤ × List UInt8)) : List Request :=
  .prepareRestore cfg.deviceInstance :: writeRequests cfg 0 chunks

/-- A request of the session changes the file only. -/
theorem component_of_mem_restoreRequests {cfg : Config} {chunks : List (ℤ × List UInt8)}
    {r : Request} (hr : r ∈ restoreRequests cfg chunks) :
    (∃ deviceInstance, r = .prepareRestore deviceInstance)
      ∨ ∃ now deviceInstance file fileStart fileData,
        r = .writeFile now deviceInstance file fileStart fileData := by
  have hwrites : ∀ (chunks : List (ℤ × List UInt8)) (start : ℕ),
      r ∈ writeRequests cfg start chunks →
      ∃ now deviceInstance file fileStart fileData,
        r = .writeFile now deviceInstance file fileStart fileData := by
    intro chunks
    induction chunks with
    | nil => exact fun _ h => absurd h List.not_mem_nil
    | cons c chunks ih =>
      intro start h
      rcases List.mem_cons.mp h with h | h
      · exact ⟨_, _, _, _, _, h⟩
      · exact ih _ h
  rcases List.mem_cons.mp hr with h | h
  · exact Or.inl ⟨_, h⟩
  · exact Or.inr (hwrites chunks 0 h)

theorem createdAnalogValues_restoreRequest (cfg : Config) (s : State) {r : Request}
    {chunks : List (ℤ × List UInt8)} (hr : r ∈ restoreRequests cfg chunks) :
    (Event.step cfg s (.request r)).createdAnalogValues = s.createdAnalogValues := by
  rcases component_of_mem_restoreRequests hr with ⟨_, rfl⟩ | ⟨_, _, _, _, _, rfl⟩
  · rw [Event.step, Request.perform, prepareRestore]
    split <;> rfl
  · rw [Event.step, Request.perform, writeFile.eq_def]
    split
    · rfl
    split <;> rfl

/-- **A restore session changes no Analog Value**, at any point of it. -/
theorem createdAnalogValues_restoreRequests (cfg : Config) {chunks : List (ℤ × List UInt8)} :
    ∀ {rs : List Request} {s : State}, (∀ r ∈ rs, r ∈ restoreRequests cfg chunks) →
      (Runs.run (Event.step cfg) (rs.map .request) s).createdAnalogValues = s.createdAnalogValues
  | [], _, _ => rfl
  | r :: rs, s, h => by
    rw [List.map_cons, Runs.run_cons,
      createdAnalogValues_restoreRequests cfg fun r' hr' => h r' (List.mem_cons_of_mem _ hr')]
    exact createdAnalogValues_restoreRequest cfg s (h r List.mem_cons_self)

/-- The session leaves the octets of its chunks in the file. -/
theorem run_restoreRequests (cfg : Config) (chunks : List (ℤ × List UInt8)) (s : State)
    (h : (octets chunks).length ≤ fileMaxSize) :
    (Runs.run (Event.step cfg) ((restoreRequests cfg chunks).map .request) s).ivory.data.toList
      = octets chunks := by
  obtain ⟨ivory, hrun, hcontent⟩ := run_writeRequests cfg chunks
    { s with ivory := { s.ivory with data := s.ivory.data.clear } } (by simpa using h)
  have hprepare : Event.step cfg s (.request (.prepareRestore cfg.deviceInstance))
      = { s with ivory := { s.ivory with data := s.ivory.data.clear } } := by
    rw [Event.step, Request.perform, prepareRestore, if_neg (not_not.mpr rfl)]
    rfl
  rw [restoreRequests, List.map_cons, Runs.run_cons, hprepare]
  refine (congrArg (fun s => s.ivory.data.toList) hrun).trans ?_
  simpa using hcontent

/-- **A backup, restored, brings the table back.**  The table `T` is that of any reachable state,
its instances BACnet instances.  The client reads File 1 in chunks of any sizes until the end of the
file, whatever else happens that writes no file; then anything happens; then the octets are written
back in chunks of any sizes.  So:

* the session changes no Analog Value at any point before its end, nor does its end;
* CompleteRestore accepts the image;
* the next pass, with AddObject succeeding, leaves exactly the instances of `T`, each with the value
  its image text parses to. -/
theorem backup_then_restore (cfg : Config) (s : State) (hreach : Reachable cfg s)
    (hinst : s.createdAnalogValues.InstancesValid) (now : ℤ) (reads : List BackupEvent)
    (hreads : ∀ e, BackupEvent.event e ∈ reads → e.KeepsFile) (between : List Event)
    (chunks : List (ℤ × List UInt8)) :
    let client := Runs.run (BackupClient.step cfg) reads
      ⟨(prepareBackup cfg now cfg.deviceInstance s).2, [], false⟩
    let s₁ := Runs.run (Event.step cfg) between client.state
    let s₂ := Runs.run (Event.step cfg) ((restoreRequests cfg chunks).map .request) s₁
    let completed := completeRestore cfg cfg.deviceInstance false s₂
    let s₃ := (restoreBlock (fun _ => true) completed.2).1
    client.endOfFile = true → octets chunks = client.collected →
    (∀ rs rs', restoreRequests cfg chunks = rs ++ rs' →
        (Runs.run (Event.step cfg) (rs.map .request) s₁).createdAnalogValues
          = s₁.createdAnalogValues)
      ∧ completed.1.accepted = true
      ∧ completed.2.createdAnalogValues = s₁.createdAnalogValues
      ∧ s₃.createdAnalogValues.Distinct
      ∧ s₃.createdAnalogValues.instances = s.createdAnalogValues.instances
      ∧ ∀ n, s₃.createdAnalogValues.valueOf n
        = (s.createdAnalogValues.valueOf n).map imageTextValue := by
  intro client s₁ s₂ completed s₃ hend hchunks
  have hprepared : Reachable cfg (prepareBackup cfg now cfg.deviceInstance s).2 :=
    hreach.step (.request (.prepareBackup now cfg.deviceInstance))
  have himage : (prepareBackup cfg now cfg.deviceInstance s).2.ivory.data.toList
      = imageText s.createdAnalogValues := by
    rw [prepareBackup, if_neg (not_not.mpr rfl)]
    exact toList_buildConfigurationImage hinst.length_imageText_lt _
  have hclient : client.Reads (imageText s.createdAnalogValues) :=
    BackupClient.reads_run cfg hreads ⟨himage, List.nil_prefix, by rintro ⟨⟩⟩
  have hoctets : octets chunks = imageText s.createdAnalogValues :=
    hchunks.trans (hclient.whole hend)
  have hreach₁ : Reachable cfg s₁ :=
    (BackupClient.reachable_run reads hprepared).run between
  have hkeep : ∀ rs rs', restoreRequests cfg chunks = rs ++ rs' →
      (Runs.run (Event.step cfg) (rs.map .request) s₁).createdAnalogValues
        = s₁.createdAnalogValues := fun rs rs' hsplit =>
    createdAnalogValues_restoreRequests cfg fun r hr => hsplit ▸ List.mem_append_left _ hr
  have hfile : s₂.ivory.data.toList = imageText s.createdAnalogValues := by
    rw [← hoctets]
    exact run_restoreRequests cfg chunks s₁ (hoctets ▸ hinst.length_imageText_lt.le)
  obtain ⟨hverdict, haccepted, -, hvalues⟩ := completeRestore_eq cfg s₂
  rw [hfile, readImage_imageText hinst] at hverdict haccepted
  obtain ⟨hstaged, hpending⟩ := haccepted hverdict
  have hvalues₁ : completed.2.createdAnalogValues = s₁.createdAnalogValues :=
    hvalues.trans (hkeep _ [] (List.append_nil _).symm)
  have hrestored := restoreBlock_of_entries hreach.distinct
    (hvalues₁ ▸ hreach₁.distinct) hpending hstaged
  refine ⟨hkeep, hverdict, hvalues₁, hrestored.distinct, ?_, congrFun hrestored.valueOf_eq⟩
  ext n
  rw [hrestored.mem_instances, hreach.distinct.represents.mem_instances, Option.isSome_map]

/-- Analog Value 100, created and set to 42.5. -/
def oneAnalogValue : State :=
  Runs.run (Event.step (.standard .utc))
    [.request (.createObject 389014 2 100),
      .request (.setPropertyReal ⟨389014, 2, 100, 85, none⟩ (binary32.round (85 / 2)) 16)]
    (.powerOn (.standard .utc) 0)

/-- A backup of it in two reads, the object deleted between them. -/
def readTwice : BackupClient :=
  Runs.run (BackupClient.step (.standard .utc))
    [.read 10 480, .event (.request (.deleteObject 389014 2 100)), .read 100 480]
    ⟨(prepareBackup (.standard .utc) 0 389014 oneAnalogValue).2, [], false⟩

/-- The device after a restore session with the octets read. -/
def restoredOnce : State :=
  Runs.run (Event.step (.standard .utc))
    ((restoreRequests (.standard .utc) [(0, readTwice.collected)]).map .request) readTwice.state

theorem instancesValid_oneAnalogValue : oneAnalogValue.createdAnalogValues.InstancesValid := by
  unfold CreatedAnalogValues.InstancesValid
  decide +kernel

theorem endOfFile_readTwice : readTwice.endOfFile = true := by decide +kernel

/-- The object is back, with its value. -/
theorem backup_then_restore_one :
    (completeRestore (.standard .utc) 389014 false restoredOnce).1.accepted = true
      ∧ ∀ n, (restoreBlock (fun _ => true) (completeRestore (.standard .utc) 389014 false
          restoredOnce).2).1.createdAnalogValues.valueOf n
        = (oneAnalogValue.createdAnalogValues.valueOf n).map imageTextValue := by
  have h := backup_then_restore (.standard .utc) oneAnalogValue ⟨0, _, rfl⟩
    instancesValid_oneAnalogValue 0 [.read 10 480,
      .event (.request (.deleteObject 389014 2 100)), .read 100 480]
    (by
      intro e he
      simp only [List.mem_cons, reduceCtorEq, BackupEvent.event.injEq, false_or,
        List.not_mem_nil, or_false] at he
      rw [he]
      exact nofun)
    [] [(0, readTwice.collected)] endOfFile_readTwice (List.append_nil _)
  exact ⟨h.2.1, h.2.2.2.2.2⟩

end Controller
