import ElevatorController.Backup.Image
import ElevatorController.Backup.Transfer

/-!
# Backup/Staging — what a restore leaves staged

Between two passes of the main loop the stack may deliver several restores.  What the next pass
should install is the last image CompleteRestore accepted.  But the parser stages each line as it
reads it, so a refused image overwrites the start of a list that may still be waiting:

    accepted   analog-value 1 1            staged  1 ↦ 1,  pending
    refused    analog-value 2 2, then ?    staged  2 ↦ 2,  pending

The list survives a refusal exactly when the lines read before it repeat the list.
-/

namespace Controller

/-! ## What a request accepts, and what it must keep -/

/-- The values of the image a request has accepted, if it is a CompleteRestore that did. -/
noncomputable def Request.acceptedImage (cfg : Config) (s : State) :
    Request → Option (List RestoredAnalogValue)
  | .completeRestore deviceInstance false =>
    if (Controller.completeRestore cfg deviceInstance false s).1.accepted then
      some (readImage s.ivory.data.toList).1
    else none
  | _ => none

/-- A CompleteRestore that is refused or aborted leaves the staged list and what is pending as they
were. -/
def Request.KeepsStaging (cfg : Config) (s : State) : Request → Prop
  | .completeRestore deviceInstance wasAborted =>
    (Controller.completeRestore cfg deviceInstance wasAborted s).1.accepted = false
        ∨ wasAborted = true →
      (Controller.completeRestore cfg deviceInstance wasAborted s).2.restoredAnalogValues.toList
          = s.restoredAnalogValues.toList
        ∧ (Controller.completeRestore cfg deviceInstance wasAborted s).2.restorePending
          = s.restorePending
  | _ => True

/-- If the file is no image, its lines up to the unreadable one repeat the staged list, as far as
both reach. -/
def Request.RepeatsStaged (cfg : Config) (s : State) : Request → Prop
  | .completeRestore deviceInstance false => deviceInstance = cfg.deviceInstance →
    (readImage s.ivory.data.toList).2 = false →
    (readImage s.ivory.data.toList).1.take s.restoredAnalogValues.len
      = s.restoredAnalogValues.toList.take (readImage s.ivory.data.toList).1.length
  | _ => True

/-- **`CompleteRestore` of a file on this device**: an image is staged whole and pending; anything
else is refused, what was pending stays pending, and the lines it could read are staged over the
list. -/
theorem completeRestore_eq (cfg : Config) (s : State) :
    let r := completeRestore cfg cfg.deviceInstance false s
    r.1.accepted = (readImage s.ivory.data.toList).2
      ∧ (r.1.accepted = true → r.2.restoredAnalogValues.toList = (readImage s.ivory.data.toList).1
        ∧ r.2.restorePending = true)
      ∧ (r.1.accepted = false → r.2.restoredAnalogValues.toList
          = (readImage s.ivory.data.toList).1.take s.restoredAnalogValues.len
            ++ s.restoredAnalogValues.toList.drop (readImage s.ivory.data.toList).1.length
        ∧ r.2.restorePending = s.restorePending)
      ∧ r.2.createdAnalogValues = s.createdAnalogValues := by
  obtain ⟨hverdict, hstaged⟩ :=
    parseConfigurationImage_eq s.ivory.data.toList s.restoredAnalogValues
  rw [completeRestore, if_neg (not_not.mpr rfl), if_neg (by simp)]
  rw [← hverdict] at hstaged ⊢
  dsimp only
  by_cases hok : (parseConfigurationImage s.ivory.data.toList s.restoredAnalogValues).1 = true
  · rw [if_pos hok] at hstaged
    simp [hok, hstaged]
  · rw [if_neg hok] at hstaged
    simp [hok, hstaged]

/-- Overwriting the start of a list leaves it exactly when it repeats it. -/
theorem overwrite_eq_self_iff {α : Type*} (xs l : List α) :
    xs.take l.length ++ l.drop xs.length = l ↔ xs.take l.length = l.take xs.length := by
  conv_lhs => rhs; rw [← List.take_append_drop xs.length l]
  rw [List.append_left_inj]

/-- **A request keeps the staging exactly when it repeats it.** -/
theorem Request.keepsStaging_iff (cfg : Config) (s : State) (r : Request) :
    r.KeepsStaging cfg s ↔ r.RepeatsStaged cfg s := by
  cases r with
  | completeRestore deviceInstance wasAborted =>
    by_cases hdev : deviceInstance = cfg.deviceInstance
    swap
    · have hkeep : Request.KeepsStaging cfg s (.completeRestore deviceInstance wasAborted) :=
        fun _ => by
          rw [Controller.completeRestore, if_pos hdev]
          exact ⟨rfl, rfl⟩
      cases wasAborted with
      | true => exact iff_of_true hkeep trivial
      | false => exact iff_of_true hkeep fun h => absurd h hdev
    subst hdev
    cases wasAborted with
    | true =>
      refine iff_of_true (fun _ => ?_) trivial
      rw [Controller.completeRestore, if_neg (not_not.mpr rfl), if_pos rfl]
      exact ⟨rfl, rfl⟩
    | false =>
      obtain ⟨hverdict, -, hrefused, -⟩ := completeRestore_eq cfg s
      have hself := overwrite_eq_self_iff (readImage s.ivory.data.toList).1
        s.restoredAnalogValues.toList
      rw [Buffer.length_toList] at hself
      constructor
      · intro hkeep _ hbad
        have hacc := hverdict.trans hbad
        exact hself.mp ((hrefused hacc).1.symm.trans (hkeep (Or.inl hacc)).1)
      · intro hrepeat hor
        have hacc := hor.resolve_right (by simp)
        obtain ⟨hlist, hpending⟩ := hrefused hacc
        exact ⟨hlist.trans (hself.mpr (hrepeat rfl (hverdict.symm.trans hacc))), hpending⟩
  | _ => exact Iff.rfl

/-! ## Runs of requests -/

/-- The application, and what the last accepted image since the last pass said. -/
structure Restoring where
  state : State
  accepted : Option (List RestoredAnalogValue)

noncomputable def Restoring.step (cfg : Config) (x : Restoring) (r : Request) : Restoring :=
  ⟨Event.step cfg x.state (.request r), (r.acceptedImage cfg x.state).or x.accepted⟩

/-- **The next pass installs what was accepted** — nothing, or the whole list. -/
def Restoring.InstallsAccepted (x : Restoring) : Prop :=
  match x.accepted with
  | none => ∀ addObject, restoreBlock addObject x.state = (x.state, [])
  | some vs => ∀ addObject (restored : RestoredAnalogValues), restored.toList = vs →
    restoreBlock addObject x.state =
      ({ x.state with
          restorePending := false
          createdAnalogValues :=
            (applyRestoredConfiguration addObject restored x.state.createdAnalogValues).1 },
        (applyRestoredConfiguration addObject restored x.state.createdAnalogValues).2)

/-- What is accepted is staged and pending. -/
structure Restoring.Staged (x : Restoring) : Prop where
  pending : x.state.restorePending = x.accepted.isSome
  staged : ∀ vs ∈ x.accepted, x.state.restoredAnalogValues.toList = vs

/-- A restore reads the staged list, not the slots past it. -/
theorem applyRestoredConfiguration_congr {a b : RestoredAnalogValues} (h : a.toList = b.toList)
    (addObject : ℕ → Bool) (t : CreatedAnalogValues) :
    applyRestoredConfiguration addObject a t = applyRestoredConfiguration addObject b t := by
  have hvisit : removeVisit a = removeVisit b := by
    funext v
    rw [removeVisit, removeVisit, Buffer.any, Buffer.any, h]
  rw [applyRestoredConfiguration, applyRestoredConfiguration, h, hvisit]

theorem Restoring.Staged.installsAccepted {x : Restoring} (h : x.Staged) : x.InstallsAccepted := by
  obtain ⟨hpending, hstaged⟩ := h
  rw [InstallsAccepted]
  cases hx : x.accepted with
  | none =>
    intro addObject
    rw [hx] at hpending
    rw [restoreBlock, hpending]
    rfl
  | some vs =>
    intro addObject restored hrestored
    rw [hx] at hpending
    have hsame := (hstaged vs hx).trans hrestored.symm
    rw [restoreBlock, hpending, if_pos (by rfl), applyRestoredConfiguration_congr hsame]

/-- A request that is no CompleteRestore keeps the staging. -/
theorem Request.staging_step (cfg : Config) (s : State) {r : Request}
    (hr : ∀ deviceInstance wasAborted, r ≠ .completeRestore deviceInstance wasAborted) :
    (Event.step cfg s (.request r)).restoredAnalogValues = s.restoredAnalogValues
      ∧ (Event.step cfg s (.request r)).restorePending = s.restorePending := by
  obtain h | h | ⟨deviceInstance, wasAborted, _, _, heq, -⟩ := r.step_cases cfg s
  · exact ⟨h.kept.restoredAnalogValues, h.kept.restorePending⟩
  · rw [h]
    exact ⟨rfl, rfl⟩
  · exact absurd heq (hr deviceInstance wasAborted)

/-- Where nothing is accepted and the staging is kept, what was accepted stays staged. -/
theorem Restoring.Staged.keep {cfg : Config} {x : Restoring} (h : x.Staged) {r : Request}
    (hnone : r.acceptedImage cfg x.state = none)
    (hlist : (Event.step cfg x.state (.request r)).restoredAnalogValues.toList
      = x.state.restoredAnalogValues.toList)
    (hpending : (Event.step cfg x.state (.request r)).restorePending = x.state.restorePending) :
    (x.step cfg r).Staged := by
  refine ⟨?_, fun vs hvs => ?_⟩
  · rw [Restoring.step, hnone, Option.none_or, hpending, h.pending]
  · rw [Restoring.step, hnone, Option.none_or] at hvs
    exact hlist.trans (h.staged vs hvs)

/-- An accepted image is staged, whatever was. -/
theorem Restoring.staged_of_accepted {cfg : Config} {x : Restoring} {deviceInstance : ℕ}
    (hacc : (Controller.completeRestore cfg deviceInstance false x.state).1.accepted = true) :
    (x.step cfg (.completeRestore deviceInstance false)).Staged := by
  obtain rfl : deviceInstance = cfg.deviceInstance := by
    by_contra hdev
    rw [Controller.completeRestore, if_pos hdev] at hacc
    exact absurd hacc (by simp)
  obtain ⟨-, haccepted, -, -⟩ := completeRestore_eq cfg x.state
  obtain ⟨hlist, hpending⟩ := haccepted hacc
  have himage : (Request.completeRestore cfg.deviceInstance false).acceptedImage cfg x.state
      = some (readImage x.state.ivory.data.toList).1 := by
    rw [Request.acceptedImage, hacc]
    rfl
  refine ⟨?_, fun vs hvs => ?_⟩
  · rw [Restoring.step, himage]
    exact hpending
  · rw [Restoring.step, himage] at hvs
    obtain rfl := Option.some.inj hvs
    exact hlist

/-- **A request that repeats what is staged, if it is refused, keeps the accepted image staged.** -/
theorem Restoring.Staged.step {cfg : Config} {x : Restoring} (h : x.Staged) (r : Request)
    (hr : r.RepeatsStaged cfg x.state) : (x.step cfg r).Staged := by
  by_cases hcomplete : ∃ deviceInstance wasAborted, r = .completeRestore deviceInstance wasAborted
  swap
  · have hne : ∀ deviceInstance wasAborted, r ≠ .completeRestore deviceInstance wasAborted :=
      fun deviceInstance wasAborted heq => hcomplete ⟨deviceInstance, wasAborted, heq⟩
    have hnone : r.acceptedImage cfg x.state = none := by
      cases r with
      | completeRestore deviceInstance wasAborted => exact absurd rfl (hne _ _)
      | _ => rfl
    obtain ⟨hlist, hpending⟩ := Request.staging_step cfg x.state hne
    exact h.keep hnone (by rw [hlist]) hpending
  obtain ⟨deviceInstance, wasAborted, rfl⟩ := hcomplete
  have hkeep := (Request.keepsStaging_iff cfg x.state _).mpr hr
  cases wasAborted with
  | true =>
    obtain ⟨hlist, hpending⟩ := hkeep (Or.inr rfl)
    exact h.keep rfl hlist hpending
  | false =>
    cases hacc : (Controller.completeRestore cfg deviceInstance false x.state).1.accepted with
    | false =>
      obtain ⟨hlist, hpending⟩ := hkeep (Or.inl hacc)
      refine h.keep ?_ hlist hpending
      rw [Request.acceptedImage, hacc]
      rfl
    | true => exact Restoring.staged_of_accepted hacc

/-- What restores promise between two passes: a refused or aborted one keeps the staging, and at
every point the next pass would install what was last accepted. -/
def InstallsLastAccepted (cfg : Config) (s : State) (rs : List Request) : Prop :=
  (∀ x ∈ Runs.steps (Restoring.step cfg) rs ⟨s, none⟩, x.2.KeepsStaging cfg x.1.state)
    ∧ ∀ rs₁ rs₂, rs = rs₁ ++ rs₂ →
      (Runs.run (Restoring.step cfg) rs₁ ⟨s, none⟩).InstallsAccepted

/-- **Restores between two passes install the last accepted image exactly when every refused one
repeats what is staged.** -/
theorem installs_last_accepted_iff (cfg : Config) (s : State) (hs : s.restorePending = false)
    (rs : List Request) : InstallsLastAccepted cfg s rs
      ↔ ∀ x ∈ Runs.steps (Restoring.step cfg) rs ⟨s, none⟩, x.2.RepeatsStaged cfg x.1.state := by
  constructor
  · exact fun h x hx => (Request.keepsStaging_iff cfg x.1.state x.2).mp (h.1 x hx)
  · intro h
    refine ⟨fun x hx => (Request.keepsStaging_iff cfg x.1.state x.2).mpr (h x hx), ?_⟩
    rintro rs₁ rs₂ rfl
    have hinit : Restoring.Staged ⟨s, none⟩ := ⟨hs, nofun⟩
    refine (Runs.run_invariant_of_steps (C := fun x r => r.RepeatsStaged cfg x.state)
      (fun x r hx hr => hx.step r hr) rs₁ hinit fun x hx => h x ?_).installsAccepted
    rw [Runs.steps_append]
    exact List.mem_append_left _ hx

/-- A restore of an empty file is refused, and stages nothing over nothing. -/
theorem installs_last_accepted_iff_empty_file : InstallsLastAccepted (.standard .utc)
    (.powerOn (.standard .utc) 0) [.completeRestore 389014 false] := by
  refine (installs_last_accepted_iff _ _ rfl _).mpr fun x hx => ?_
  obtain rfl := List.mem_singleton.mp hx
  have hempty : readImage [] = ([], false) := by
    rw [readImage, if_pos (by decide)]
  intro _ _
  change (readImage []).1.take 0 = List.take (readImage []).1.length []
  rw [hempty]
  rfl

/-! ## An order that does not -/

/-- The requests that put octets into File 1. -/
def upload (image : List UInt8) : List Request :=
  [.prepareRestore 389014, .writeFile 0 389014 1 0 image]

theorem run_upload (s : State) {image : List UInt8} (h : image.length ≤ fileMaxSize) :
    ∃ ivory, Runs.run (Event.step (.standard .utc)) ((upload image).map .request) s
        = { s with ivory := ivory } ∧ ivory.data.toList = image := by
  obtain ⟨ivory, hrun, hcontent⟩ := run_writeRequests (.standard .utc) [(0, image)]
    { s with ivory := { s.ivory with data := s.ivory.data.clear } } (by simpa [octets] using h)
  exact ⟨ivory, hrun, by simpa [octets] using hcontent⟩

theorem Restoring.state_run (cfg : Config) : ∀ (rs : List Request) (x : Restoring),
    (Runs.run (Restoring.step cfg) rs x).state
      = Runs.run (Event.step cfg) (rs.map .request) x.state
  | [], _ => rfl
  | r :: rs, x => state_run cfg rs (x.step cfg r)

/-- An image of Analog Value 1, accepted; then one of Analog Value 2 that ends in a line it does not
read. -/
def acceptedThenRefused : List Request :=
  upload (imageText (.single 1 (BinaryFormat.binary32.round 1))) ++ [.completeRestore 389014 false]
    ++ upload (imageText (.single 2 (BinaryFormat.binary32.round 2)) ++ Text.ascii "?")
    ++ [.completeRestore 389014 false]

/-- **The refused image has replaced the accepted one**, which is still pending. -/
theorem refused_image_replaces_accepted : ¬ InstallsLastAccepted (.standard .utc)
    (.powerOn (.standard .utc) 0) acceptedThenRefused := by
  intro h
  obtain ⟨rs₁, hrs₁⟩ : ∃ rs₁, rs₁ = upload (imageText (.single 1 (BinaryFormat.binary32.round 1)))
      ++ [.completeRestore 389014 false]
      ++ upload (imageText (.single 2 (BinaryFormat.binary32.round 2)) ++ Text.ascii "?") :=
    ⟨_, rfl⟩
  have hsplit : acceptedThenRefused = rs₁ ++ [.completeRestore 389014 false] := by rw [hrs₁]; rfl
  have hkeep : Request.KeepsStaging (.standard .utc)
      (Runs.run (Restoring.step (.standard .utc)) rs₁ ⟨.powerOn (.standard .utc) 0, none⟩).state
      (.completeRestore 389014 false) :=
    h.1 (_, .completeRestore 389014 false) ((Runs.mem_steps_iff _).mpr ⟨rs₁, [], hsplit, rfl⟩)
  rw [Restoring.state_run] at hkeep
  have hvalid : ∀ n v, n ≤ 2 → (CreatedAnalogValues.single n v).InstancesValid := fun n v hn =>
    instancesValid_single (hn.trans (by norm_num)) v
  have hshort : ∀ n v, n ≤ 2 → (imageText (.single n v)).length + 1 ≤ fileMaxSize := fun n v hn =>
    (hvalid n v hn).length_imageText_lt
  -- the first image is accepted, and Analog Value 1 is staged
  obtain ⟨ivory₁, hrun₁, hcontent₁⟩ := run_upload (.powerOn (.standard .utc) 0)
    (Nat.le_of_succ_le (hshort 1 (BinaryFormat.binary32.round 1) (by norm_num)))
  obtain ⟨hverdict, haccepted, -, -⟩ := completeRestore_eq (.standard .utc)
    { State.powerOn (.standard .utc) 0 with ivory := ivory₁ }
  rw [hcontent₁, readImage_imageText (hvalid _ _ (by norm_num)), entries_single]
    at hverdict haccepted
  obtain ⟨hstaged, -⟩ := haccepted hverdict
  -- the second one is refused at its last line, and Analog Value 2 is staged over it
  obtain ⟨ivory₂, hrun₂, hcontent₂⟩ := @run_upload
    (completeRestore (.standard .utc) 389014 false
      { State.powerOn (.standard .utc) 0 with ivory := ivory₁ }).2
    (imageText (.single 2 (BinaryFormat.binary32.round 2)) ++ Text.ascii "?")
    ((List.length_append ..).trans_le (hshort 2 (BinaryFormat.binary32.round 2) le_rfl))
  have hstate : Runs.run (Event.step (.standard .utc)) (rs₁.map .request)
      (.powerOn (.standard .utc) 0) = { (completeRestore (.standard .utc) 389014 false
        { State.powerOn (.standard .utc) 0 with ivory := ivory₁ }).2 with ivory := ivory₂ } := by
    rw [hrs₁, List.map_append, Runs.run_append, List.map_append, Runs.run_append, hrun₁]
    exact hrun₂
  rw [hstate, Request.keepsStaging_iff] at hkeep
  have hunread : readLines 7 (Text.lines (Text.ascii "?")) = ([], false) := by
    rw [Text.lines_of_no_newline (by decide)]
    rfl
  have hread := readImage_imageText_append (hvalid 2 (BinaryFormat.binary32.round 2) le_rfl)
    (Text.ascii "?")
  rw [entries_single, List.length_singleton, show maxCreatedAnalogValues - 1 = 7 from rfl,
    hunread] at hread
  have hrepeat := hkeep rfl (by rw [hcontent₂, hread])
  rw [hcontent₂, hread] at hrepeat
  rw [← Buffer.length_toList] at hrepeat
  have hlist : Buffer.toList
      (completeRestore (.standard .utc) 389014 false
        { State.powerOn (.standard .utc) 0 with ivory := ivory₁ }).2.restoredAnalogValues
      = [_] := hstaged
  rw [hlist] at hrepeat
  exact absurd (congrArg (List.map RestoredAnalogValue.objectInstance) hrepeat) (by decide)

end Controller
