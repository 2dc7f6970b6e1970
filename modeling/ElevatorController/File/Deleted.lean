import ElevatorController.File.ByteString

/-!
# File/Deleted — what a file held before it was emptied

    emptied          write at 5, File_Size was 0
    [old old old …]  [old old old old old new …]        the gap shows the old octets

`PrepareRestore` and File_Size 0 reset the length and leave the array.  File_Size zeroes what a
growth uncovers; `WriteFile` beyond the end does not.  `high` below is the longest the file has been
since it was emptied: what lies under it was written or zeroed since, what lies over it was not.
-/

namespace Controller

open Answers

/-! ## Two states -/

/-- The state with other octets in the array, used and unused. -/
def State.withSlots (s : State) (slots : Fin fileMaxSize → UInt8) : State :=
  { s with ivory := { s.ivory with data := { s.ivory.data with slots := slots } } }

/-- What a client can learn: the answers, the octets, and for every call of `CompleteRestore` its
verdict and what it leaves staged. -/
def observed (cfg : Config) (r : List FileAnswer × State) :
    List FileAnswer × List UInt8 × (ℕ → Bool → Reply × RestoredAnalogValues × Bool) :=
  (r.1, r.2.ivory.data.toList, fun deviceInstance wasAborted =>
    let c := completeRestore cfg deviceInstance wasAborted r.2
    (c.1, c.2.restoredAnalogValues, c.2.restorePending))

/-- The run is observed alike from both states. -/
def Alike (cfg : Config) (ops : List FileOp) (s s' : State) : Prop :=
  (answers (FileOp.perform cfg) ops s).map (observed cfg)
    = (answers (FileOp.perform cfg) ops s').map (observed cfg)

def FileOp.Empties : FileOp → Prop
  | .prepareRestore => True
  | .setFileSize _ newSize => newSize = 0
  | _ => False

/-- **What was deleted stays deleted** throughout a run of operations: after the file is emptied,
the run is observed alike, at every point of it, whatever the array held. -/
def StaysDeleted (cfg : Config) (ops : List FileOp) : Prop :=
  ∀ (s : State) (slots : Fin fileMaxSize → UInt8) (e : FileOp), e.Empties →
    ∀ ops', ops' <+: ops → Alike cfg (e :: ops') s (s.withSlots slots)

/-! ## The condition -/

/-- Where a write begins in a file of this length. -/
def startAt (len : ℕ) (fileStart : ℤ) : ℕ :=
  if fileStart = -1 then len else (fileStart % 2 ^ 32).toNat

/-- The write is accepted and inside the array only if it begins at or below `high`. -/
def FileOp.StartsBelow (len high : ℕ) : FileOp → Prop
  | .writeFile _ fileStart fileData =>
    startAt len fileStart + fileData.length ≤ fileMaxSize → startAt len fileStart ≤ high
  | _ => True

/-- The length of the file after an operation, and the longest it has been; `none` where the
operation overruns the array. -/
def FileOp.extent (len high : ℕ) : FileOp → Option (ℕ × ℕ)
  | .writeFile _ fileStart fileData =>
    let written := startAt len fileStart + fileData.length
    if written % 2 ^ 32 > fileMaxSize then some (len, high)
    else if written ≤ fileMaxSize then some (max len written, max high written)
    else none
  | .setFileSize _ newSize =>
    if newSize ≤ fileMaxSize then some (newSize, max high newSize) else some (len, high)
  | .prepareRestore => some (0, high)
  | .readFile _ _ _ => some (len, high)

/-- No accepted write of the run begins above the longest the file has been. -/
def NoGap : List FileOp → ℕ → ℕ → Prop
  | [], _, _ => True
  | op :: ops, len, high =>
    op.StartsBelow len high ∧ ∀ e ∈ op.extent len high, NoGap ops e.1 e.2

theorem perform_writeFile (cfg : Config) (s : State) (now fileStart : ℤ) (fileData : List UInt8) :
    (FileOp.writeFile now fileStart fileData).perform cfg s
      = if (startAt s.ivory.data.len fileStart + fileData.length) % 2 ^ 32 > fileMaxSize then
          some (.write .decline none, s)
        else if h : startAt s.ivory.data.len fileStart + fileData.length ≤ fileMaxSize then
          some (.write .accept (some (startAt s.ivory.data.len fileStart : ℤ)),
            s.withFile cfg now (s.ivory.data.splice _ fileData h))
        else none := by
  have hstart : writeStart s.ivory.data fileStart = startAt s.ivory.data.len fileStart := rfl
  rw [FileOp.perform, writeFile_ours, writeFileData_eq, hstart]
  split_ifs <;> rfl

theorem perform_writeFile_of_fits (cfg : Config) (s : State) (now fileStart : ℤ)
    (fileData : List UInt8)
    (h : startAt s.ivory.data.len fileStart + fileData.length ≤ fileMaxSize) :
    (FileOp.writeFile now fileStart fileData).perform cfg s
      = some (.write .accept (some (startAt s.ivory.data.len fileStart : ℤ)),
          s.withFile cfg now (s.ivory.data.splice _ fileData h)) := by
  rw [perform_writeFile, if_neg, dif_pos h]
  rw [Nat.mod_eq_of_lt (lt_of_le_of_lt h (by decide))]
  exact not_lt.mpr h

theorem perform_setFileSize (cfg : Config) (s : State) (now : ℤ) (newSize : ℕ) :
    (FileOp.setFileSize now newSize).perform cfg s
      = if h : newSize ≤ fileMaxSize then
          some (.reply .accept, s.withFile cfg now (s.ivory.data.resize newSize 0 h))
        else some (.reply (.declineWith errorCodeValueOutOfRange), s) := by
  rw [FileOp.perform, setIvoryFileSize, setFileSize]
  split_ifs <;> rfl

/-! ## One step from both -/

/-- What an operation does to the array, in a file of this length. -/
def FileOp.store (len : ℕ) (slots : Fin fileMaxSize → UInt8) : FileOp → Fin fileMaxSize → UInt8
  | .writeFile _ fileStart fileData =>
    if startAt len fileStart + fileData.length ≤ fileMaxSize then
      Buffer.storeBlock slots (startAt len fileStart) fileData
    else slots
  | .setFileSize _ newSize =>
    if newSize ≤ fileMaxSize ∧ newSize > len then
      Buffer.storeBlock slots len (List.replicate (newSize - len) 0)
    else slots
  | _ => slots

/-- The states differ in the array only, and there only from `high` on. -/
structure Twins (s : State) (slots : Fin fileMaxSize → UInt8) (high : ℕ) : Prop where
  len_le : s.ivory.data.len ≤ high
  agree : ∀ j : Fin fileMaxSize, (j : ℕ) < high → slots j = s.ivory.data.slots j

variable {cfg : Config} {s : State} {slots : Fin fileMaxSize → UInt8} {high : ℕ}

theorem Twins.toList_eq (h : Twins s slots high) :
    (s.withSlots slots).ivory.data.toList = s.ivory.data.toList :=
  Buffer.toList_congr rfl fun j hj => h.agree j (lt_of_lt_of_le hj h.len_le)

theorem Twins.observed_eq (h : Twins s slots high) (rs : List FileAnswer) :
    observed cfg (rs, s.withSlots slots) = observed cfg (rs, s) := by
  refine Prod.ext rfl (Prod.ext h.toList_eq (funext fun d => funext fun a => ?_))
  have hstaged : (s.withSlots slots).restoredAnalogValues = s.restoredAnalogValues := rfl
  simp only [observed, completeRestore, h.toList_eq, hstaged]
  split_ifs <;> rfl

/-- A block stored in both arrays extends what they agree on, if it leaves no gap. -/
theorem storeBlock_agree {slots slots' : Fin fileMaxSize → UInt8} {start : ℕ} {xs : List UInt8}
    (h : ∀ j : Fin fileMaxSize, (j : ℕ) < high → slots j = slots' j) (hstart : start ≤ high)
    (j : Fin fileMaxSize) (hj : (j : ℕ) < max high (start + xs.length)) :
    Buffer.storeBlock slots start xs j = Buffer.storeBlock slots' start xs j := by
  rcases lt_or_ge (j : ℕ) start with hbefore | hfrom
  · rw [Buffer.storeBlock_of_lt hbefore, Buffer.storeBlock_of_lt hbefore]
    exact h j (hbefore.trans_le hstart)
  rcases lt_or_ge ((j : ℕ) - start) xs.length with hin | hafter
  · rw [Buffer.storeBlock_of_mem hfrom hin, Buffer.storeBlock_of_mem hfrom hin]
  · rw [Buffer.storeBlock_of_ge (by omega), Buffer.storeBlock_of_ge (by omega)]
    exact h j (by omega)

/-- What one operation comes to from both states: the same answer, and states that differ in the
array only, from `high'` on, where the operation left the array as it was. -/
structure StepsAlike (cfg : Config) (s : State) (slots : Fin fileMaxSize → UInt8) (high : ℕ)
    (op : FileOp) (r : FileAnswer × State) (high' : ℕ) : Prop where
  extent : op.extent s.ivory.data.len high = some (r.2.ivory.data.len, high')
  twins : Twins r.2 (op.store s.ivory.data.len slots) high'
  perform : op.perform cfg (s.withSlots slots)
    = some (r.1, r.2.withSlots (op.store s.ivory.data.len slots))
  le : high ≤ high'
  store_eq : ∀ j : Fin fileMaxSize, high' ≤ (j : ℕ) → op.store s.ivory.data.len slots j = slots j
  slots_eq : ∀ j : Fin fileMaxSize, high' ≤ (j : ℕ) →
    r.2.ivory.data.slots j = s.ivory.data.slots j

/-- An operation that leaves the array. -/
theorem Twins.unstored (h : Twins s slots high) {op : FileOp} {answer : FileAnswer} {t : State}
    (hstore : op.store s.ivory.data.len slots = slots)
    (hslots : t.ivory.data.slots = s.ivory.data.slots)
    (hlen : t.ivory.data.len ≤ high)
    (hextent : op.extent s.ivory.data.len high = some (t.ivory.data.len, high))
    (hperform : op.perform cfg (s.withSlots slots) = some (answer, t.withSlots slots)) :
    StepsAlike cfg s slots high op (answer, t) high where
  extent := hextent
  twins := by
    rw [hstore]
    exact ⟨hlen, fun j hj => (h.agree j hj).trans (congrFun hslots j).symm⟩
  perform := by rw [hperform, hstore]
  le := le_rfl
  store_eq _ _ := by rw [hstore]
  slots_eq j _ := congrFun hslots j

/-- An operation that stores a block, no gap before it. -/
theorem Twins.stored (h : Twins s slots high) {op : FileOp} {answer : FileAnswer} {t : State}
    {start : ℕ} {xs : List UInt8} (hstart : start ≤ high)
    (hstore : op.store s.ivory.data.len slots = Buffer.storeBlock slots start xs)
    (hslots : t.ivory.data.slots = Buffer.storeBlock s.ivory.data.slots start xs)
    (hlen : t.ivory.data.len ≤ max high (start + xs.length))
    (hextent : op.extent s.ivory.data.len high
      = some (t.ivory.data.len, max high (start + xs.length)))
    (hperform : op.perform cfg (s.withSlots slots)
      = some (answer, t.withSlots (Buffer.storeBlock slots start xs))) :
    StepsAlike cfg s slots high op (answer, t) (max high (start + xs.length)) where
  extent := hextent
  twins := by
    rw [hstore]
    refine ⟨hlen, fun j hj => ?_⟩
    rw [hslots]
    exact storeBlock_agree h.agree hstart j hj
  perform := by rw [hperform, hstore]
  le := le_max_left _ _
  store_eq j hj := by
    rw [hstore]
    exact Buffer.storeBlock_of_ge (le_of_max_le_right hj)
  slots_eq j hj := by
    rw [hslots]
    exact Buffer.storeBlock_of_ge (le_of_max_le_right hj)

/-- A write from both states: refused for its length, stored, or undefined. -/
theorem Twins.writeFile (h : Twins s slots high) {now fileStart : ℤ} {fileData : List UInt8}
    (hop : (FileOp.writeFile now fileStart fileData).StartsBelow s.ivory.data.len high)
    {r : FileAnswer × State}
    (hr : FileOp.perform cfg s (.writeFile now fileStart fileData) = some r) :
    ∃ high', StepsAlike cfg s slots high (.writeFile now fileStart fileData) r high' := by
  have hperform := perform_writeFile cfg (s.withSlots slots) now fileStart fileData
  rw [perform_writeFile] at hr
  split_ifs at hr with hfull hfits
  · obtain rfl := Option.some.inj hr
    refine ⟨high, h.unstored (if_neg fun hfits => ?_) rfl h.len_le (if_pos hfull)
      (hperform.trans (if_pos hfull))⟩
    rw [Nat.mod_eq_of_lt (lt_of_le_of_lt hfits (by decide))] at hfull
    exact absurd hfits (not_le.mpr hfull)
  · obtain rfl := Option.some.inj hr
    have hlen' := s.ivory.data.len_splice _ fileData hfits
    refine ⟨_, h.stored (hop hfits) (if_pos hfits) rfl ?_ ?_
      (hperform.trans ((if_neg hfull).trans (dif_pos hfits)))⟩
    · exact hlen'.trans_le (max_le_max_right _ h.len_le)
    · refine (if_neg hfull).trans ((if_pos hfits).trans ?_)
      exact congrArg (fun n => some (n, _)) hlen'.symm

/-- A change of File_Size from both states: refused, zeros stored, or cut. -/
theorem Twins.setFileSize (h : Twins s slots high) {now : ℤ} {newSize : ℕ}
    {r : FileAnswer × State} (hr : FileOp.perform cfg s (.setFileSize now newSize) = some r) :
    ∃ high', StepsAlike cfg s slots high (.setFileSize now newSize) r high' := by
  have hlen := h.len_le
  have hperform := perform_setFileSize cfg (s.withSlots slots) now newSize
  rw [perform_setFileSize] at hr
  split_ifs at hr with hsize
  swap
  · obtain rfl := Option.some.inj hr
    exact ⟨high, h.unstored (if_neg fun hgrow => hsize hgrow.1) rfl hlen (if_neg hsize)
      (hperform.trans (dif_neg hsize))⟩
  obtain rfl := Option.some.inj hr
  have hsized : ∀ slots', (if newSize > s.ivory.data.len then Buffer.storeBlock slots
        s.ivory.data.len (List.replicate (newSize - s.ivory.data.len) 0) else slots) = slots' →
      FileOp.perform cfg (s.withSlots slots) (.setFileSize now newSize) = some (.reply .accept,
        (s.withFile cfg now (s.ivory.data.resize newSize 0 hsize)).withSlots slots') := by
    rintro _ rfl
    exact hperform.trans (dif_pos hsize)
  by_cases hgrow : newSize > s.ivory.data.len
  · have hend : s.ivory.data.len
        + (List.replicate (newSize - s.ivory.data.len) (0 : UInt8)).length = newSize := by
      rw [List.length_replicate]
      omega
    refine ⟨_, h.stored hlen (if_pos ⟨hsize, hgrow⟩) (if_pos hgrow) ?_ ?_
      (hsized _ (if_pos hgrow))⟩
    · rw [hend]
      exact le_max_right _ _
    · rw [hend]
      exact if_pos hsize
  · have hcut := le_trans (not_lt.mp hgrow) hlen
    refine ⟨high, h.unstored (if_neg fun hgrow' => hgrow hgrow'.2) (if_neg hgrow) hcut ?_
      (hsized _ (if_neg hgrow))⟩
    refine (if_pos hsize).trans ?_
    rw [max_eq_left hcut]
    rfl

/-- **One step from both states.** -/
theorem Twins.step (h : Twins s slots high) {op : FileOp}
    (hop : op.StartsBelow s.ivory.data.len high) {r : FileAnswer × State}
    (hr : op.perform cfg s = some r) : ∃ high', StepsAlike cfg s slots high op r high' := by
  cases op with
  | writeFile now fileStart fileData => exact h.writeFile hop hr
  | setFileSize now newSize => exact h.setFileSize hr
  | prepareRestore =>
    obtain rfl := Option.some.inj hr
    simp only [Controller.prepareRestore, ne_eq, not_true_eq_false, if_false]
    refine ⟨high, h.unstored rfl rfl (Nat.zero_le _) rfl ?_⟩
    rw [FileOp.perform, Controller.prepareRestore, if_neg (not_not.mpr rfl)]
    rfl
  | readFile fileStart requestedCount maxFileDataLength =>
    rw [FileOp.perform, readFile_eq] at hr
    obtain rfl := Option.some.inj hr
    refine ⟨high, h.unstored rfl rfl h.len_le rfl ?_⟩
    rw [FileOp.perform, readFile_eq, h.toList_eq]
    rfl

/-- An undefined step is undefined from both. -/
theorem perform_none {op : FileOp} (hr : op.perform cfg s = none)
    (slots : Fin fileMaxSize → UInt8) (high : ℕ) :
    op.extent s.ivory.data.len high = none ∧ op.perform cfg (s.withSlots slots) = none := by
  cases op with
  | writeFile now fileStart fileData =>
    have hperform := perform_writeFile cfg (s.withSlots slots) now fileStart fileData
    rw [perform_writeFile] at hr
    split_ifs at hr with hfull hfits
    exact ⟨(if_neg hfull).trans (if_neg hfits),
      hperform.trans ((if_neg hfull).trans (dif_neg hfits))⟩
  | readFile fileStart requestedCount maxFileDataLength =>
    rw [FileOp.perform, readFile_eq] at hr
    cases hr
  | _ => cases hr

/-! ## Runs -/

/-- The first answer, and what is observed after it. -/
theorem observed_cons {op : FileOp} {r : FileAnswer × State} (hr : op.perform cfg s = some r)
    (ops : List FileOp) :
    (answers (FileOp.perform cfg) (op :: ops) s).map (observed cfg)
      = ((answers (FileOp.perform cfg) ops r.2).map (observed cfg)).map fun o =>
        (r.1 :: o.1, o.2) := by
  rw [answers_cons hr, Option.map_map, Option.map_map]
  rfl

/-- Runs are alike after one answer from both exactly if they are alike with it. -/
theorem alike_cons {op : FileOp} {r : FileAnswer × State} {s' t' : State}
    (hr : op.perform cfg s = some r) (hr' : op.perform cfg s' = some (r.1, t'))
    (ops : List FileOp) : Alike cfg (op :: ops) s s' ↔ Alike cfg ops r.2 t' := by
  rw [Alike, Alike, observed_cons hr, observed_cons hr']
  refine (Option.map_injective fun o o' heq => ?_).eq_iff
  obtain ⟨hanswers, hrest⟩ := Prod.mk.inj heq
  exact Prod.ext (List.cons.inj hanswers).2 hrest

/-- **Without a gap, a run is observed alike from both states**, at every point of it. -/
theorem Twins.alike : ∀ {ops : List FileOp} {s : State} {slots : Fin fileMaxSize → UInt8}
    {high : ℕ}, Twins s slots high → NoGap ops s.ivory.data.len high →
    ∀ ops', ops' <+: ops → Alike cfg ops' s (s.withSlots slots)
  | _, s, slots, high, h, _, [], _ => congrArg some (h.observed_eq []).symm
  | [], _, _, _, _, _, _ :: _, hprefix => absurd (List.prefix_nil.mp hprefix) nofun
  | op :: ops, s, slots, high, h, hgap, op' :: ops', hprefix => by
    obtain ⟨rfl, htail⟩ := List.cons_prefix_cons.mp hprefix
    cases hr : op'.perform cfg s with
    | none =>
      rw [Alike, answers_cons_none hr, answers_cons_none (perform_none hr slots high).2]
    | some r =>
      obtain ⟨high', hstep⟩ := h.step hgap.1 hr
      exact (alike_cons hr hstep.perform ops').mpr
        (hstep.twins.alike (hgap.2 _ hstep.extent) ops' htail)

/-- A gap shows an octet of the array. -/
theorem not_alike_of_gap {op : FileOp}
    (hdiffer : ∀ j : Fin fileMaxSize, high ≤ (j : ℕ) → slots j ≠ s.ivory.data.slots j)
    (hgap : ¬ op.StartsBelow s.ivory.data.len high) : ¬ Alike cfg [op] s (s.withSlots slots) := by
  cases op with
  | writeFile now fileStart fileData =>
    obtain ⟨hfits, habove⟩ := Classical.not_imp.mp hgap
    have hlt : high < startAt s.ivory.data.len fileStart := not_le.mp habove
    have hlt' : high < fileMaxSize := by omega
    intro halike
    have hempty := (alike_cons (perform_writeFile_of_fits cfg s now fileStart fileData hfits)
      (perform_writeFile_of_fits cfg (s.withSlots slots) now fileStart fileData hfits) []).mp halike
    have hcontent : (s.ivory.data.splice _ fileData hfits).toList
        = ((s.withSlots slots).ivory.data.splice _ fileData hfits).toList :=
      congrArg (fun o => o.2.1) (Option.some.inj hempty)
    have hin : high < (s.ivory.data.splice _ fileData hfits).len := by
      rw [Buffer.len_splice]
      omega
    have hslot := Buffer.slots_eq_of_toList_eq hcontent (j := ⟨high, hlt'⟩) hin
    refine hdiffer ⟨high, hlt'⟩ le_rfl ?_
    exact (Buffer.storeBlock_of_lt hlt).symm.trans (hslot.symm.trans (Buffer.storeBlock_of_lt hlt))
  | _ => exact absurd trivial hgap

/-- **A run that is observed alike at every point has no gap**, if the arrays differ all over. -/
theorem Twins.noGap : ∀ {ops : List FileOp} {s : State} {slots : Fin fileMaxSize → UInt8}
    {high : ℕ}, Twins s slots high →
    (∀ j : Fin fileMaxSize, high ≤ (j : ℕ) → slots j ≠ s.ivory.data.slots j) →
    (∀ ops', ops' <+: ops → Alike cfg ops' s (s.withSlots slots)) →
    NoGap ops s.ivory.data.len high
  | [], _, _, _, _, _, _ => trivial
  | op :: ops, s, slots, high, h, hdiffer, halike => by
    have hop : op.StartsBelow s.ivory.data.len high := by
      by_contra hgap
      exact not_alike_of_gap hdiffer hgap (halike [op] ⟨ops, rfl⟩)
    refine ⟨hop, fun e he => ?_⟩
    cases hr : op.perform cfg s with
    | none =>
      rw [(perform_none hr slots high).1] at he
      exact absurd he nofun
    | some r =>
      obtain ⟨high', hstep⟩ := h.step hop hr
      obtain rfl := Option.some.inj (hstep.extent.symm.trans he)
      refine hstep.twins.noGap (fun j hj => ?_) fun ops' hprefix => ?_
      · rw [hstep.store_eq j hj, hstep.slots_eq j hj]
        exact hdiffer j (hstep.le.trans hj)
      · exact (alike_cons hr hstep.perform ops').mp
          (halike (op :: ops') (List.cons_prefix_cons.mpr ⟨rfl, hprefix⟩))

/-! ## From an emptied file -/

/-- Emptying the file leaves the array, and nothing of it is in use. -/
theorem FileOp.Empties.perform {e : FileOp} (he : e.Empties) (cfg : Config) (s : State)
    (slots : Fin fileMaxSize → UInt8) : ∃ r, e.perform cfg s = some r ∧ r.2.ivory.data.len = 0
      ∧ r.2.ivory.data.slots = s.ivory.data.slots
      ∧ e.perform cfg (s.withSlots slots) = some (r.1, r.2.withSlots slots) := by
  cases e with
  | setFileSize now newSize =>
    obtain rfl : newSize = 0 := he
    rw [perform_setFileSize, perform_setFileSize]
    exact ⟨_, rfl, rfl, rfl, rfl⟩
  | prepareRestore =>
    simp only [FileOp.perform, Controller.prepareRestore, ne_eq, not_true_eq_false, if_false]
    exact ⟨_, rfl, rfl, rfl, rfl⟩
  | _ => exact he.elim

/-- **What was deleted stays deleted exactly in the runs that leave no gap**: whose accepted writes
all begin at or below the longest the file has been since it was emptied. -/
theorem staysDeleted_iff (cfg : Config) (ops : List FileOp) :
    StaysDeleted cfg ops ↔ NoGap ops 0 0 := by
  constructor
  · intro h
    -- an array of zeros and an array of ones differ all over
    let s : State := .powerOn cfg 0
    obtain ⟨r, hr, hlen, hslots, hr'⟩ :=
      FileOp.Empties.perform (e := .prepareRestore) trivial cfg s fun _ => 1
    have htwins : Twins r.2 (fun _ => 1) 0 := ⟨hlen.le, fun j hj => absurd hj (Nat.not_lt_zero _)⟩
    have hgap : NoGap ops r.2.ivory.data.len 0 := by
      have halike : ∀ ops', ops' <+: ops → Alike cfg ops' r.2 (r.2.withSlots fun _ => 1) :=
        fun ops' hops' => (alike_cons hr hr' ops').mp (h s (fun _ => 1) .prepareRestore trivial
          ops' hops')
      refine htwins.noGap (fun j _ => ?_) halike
      rw [hslots]
      exact show (1 : UInt8) ≠ 0 by decide
    rwa [hlen] at hgap
  · intro hgap s slots e he ops' hprefix
    obtain ⟨r, hr, hlen, -, hr'⟩ := he.perform cfg s slots
    have htwins : Twins r.2 slots 0 := ⟨hlen.le, fun j hj => absurd hj (Nat.not_lt_zero _)⟩
    exact (alike_cons hr hr' ops').mpr (htwins.alike (by rwa [hlen]) ops' hprefix)

/-- **One octet written at position 5 of the emptied file** shows five octets of what it held. -/
theorem not_staysDeleted_gap : ¬ StaysDeleted (.standard .utc) [.writeFile 0 5 [66]] := fun h => by
  have halike := h (.powerOn (.standard .utc) 0) (fun _ => 1) .prepareRestore trivial _
    List.prefix_rfl
  have hcontent := congrArg (Option.map fun o => o.2.1) halike
  exact absurd hcontent (by decide +kernel)

end Controller
