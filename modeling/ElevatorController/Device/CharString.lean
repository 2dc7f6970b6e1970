import ElevatorController.Model.CharString
import ElevatorController.Text.Utf8

/-!
# Device/CharString — which served strings fit and stay UTF-8

    length ≥ max  ⟶  length = max − 1        counted in octets, labelled UTF-8

A text is shortened by octets, so a character of several octets may be cut, and a buffer of no
octets is not looked at.  Apart from these a served string is right:
`returnCharacterString_fits_iff` says so exactly, and texts in ASCII fit every buffer there is.
-/

namespace Controller

open Text

/-- What a served string promises of the text it is served from. -/
structure Fits (text octets : List UInt8) (maxElementCount : ℕ) : Prop where
  length_le : octets.length ≤ maxElementCount - 1
  isPrefix : octets <+: text
  whole : text.length < maxElementCount → octets = text
  isUtf8 : IsUtf8 octets

variable {text : List UInt8} {maxElementCount : ℕ}

/-- Where `ReturnCharacterString` cuts a text, for a buffer that has octets. -/
def servedLength (text : List UInt8) (maxElementCount : ℕ) : ℕ :=
  min (maxElementCount - 1) (text.length % 2 ^ 32)

theorem octets_of_pos (h : 0 < maxElementCount) :
    (returnCharacterString text maxElementCount).octets
      = text.take (servedLength text maxElementCount) := by
  rw [returnCharacterString, servedLength]
  split
  · rename_i hlong
    rw [Nat.min_eq_left (by omega)]
  · rename_i hshort
    rw [Nat.min_eq_right (by omega)]

/-- A buffer of no octets receives the whole text. -/
theorem octets_of_zero : (returnCharacterString text 0).octets
    = text.take (text.length % 2 ^ 32) := by
  rw [returnCharacterString, if_neg (by omega)]

/-- A prefix cut there fits whatever it is cut from. -/
theorem fits_of_pos (hpos : 0 < maxElementCount) (hmax : maxElementCount < 2 ^ 32)
    (hutf8 : IsUtf8 (text.take (servedLength text maxElementCount))) :
    Fits text (returnCharacterString text maxElementCount).octets maxElementCount := by
  rw [octets_of_pos hpos]
  refine ⟨?_, List.take_prefix _ _, fun hshort => List.take_of_length_le ?_, hutf8⟩
  · exact (List.length_take_le _ _).trans (Nat.min_le_left _ _)
  · rw [servedLength, Nat.mod_eq_of_lt (hshort.trans hmax), Nat.min_eq_right (by omega)]

/-- **A served string fits and stays UTF-8 exactly when** there is room for an octet, or nothing to
copy, and the cut is not inside a character. -/
theorem returnCharacterString_fits_iff (htext : IsUtf8 text) (hmax : maxElementCount < 2 ^ 32) :
    Fits text (returnCharacterString text maxElementCount).octets maxElementCount
      ↔ (maxElementCount = 0 → text.length % 2 ^ 32 = 0)
        ∧ ∀ c ∈ text[servedLength text maxElementCount]?, c.IsUTF8FirstByte := by
  rw [← isUtf8_take_iff htext]
  rcases Nat.eq_zero_or_pos maxElementCount with rfl | hpos
  · -- nothing may be copied, and the whole text is
    rw [octets_of_zero, servedLength, Nat.zero_sub, Nat.zero_min, List.take_zero,
      and_iff_left isUtf8_nil, forall_prop_of_true rfl]
    constructor
    · intro hfits
      have hle := hfits.length_le
      rw [List.length_take] at hle
      have := Nat.mod_le text.length (2 ^ 32)
      omega
    · intro hnone
      rw [hnone]
      exact ⟨Nat.le_refl _, List.nil_prefix, nofun, isUtf8_nil⟩
  · constructor
    · intro hfits
      rw [octets_of_pos hpos] at hfits
      exact ⟨fun h0 => absurd h0 (Nat.ne_of_gt hpos), hfits.isUtf8⟩
    · exact fun h => fits_of_pos hpos hmax h.2

/-- A name with an accent, in a buffer of one octet more than it has. -/
theorem accented_name_fits : Fits [0x43, 0x61, 0x66, 0xC3, 0xA9]
    (returnCharacterString [0x43, 0x61, 0x66, 0xC3, 0xA9] 6).octets 6 := by
  have hname : IsUtf8 [0x43, 0x61, 0x66, 0xC3, 0xA9] := ⟨['C', 'a', 'f', 'é'], rfl⟩
  exact (returnCharacterString_fits_iff hname (by decide)).mpr ⟨nofun, by simp [servedLength]⟩

/-- A device named on the command line, read into a small buffer: the accent is cut in half. -/
theorem device_name_cut_in_character :
    let name : List UInt8 := [0x43, 0x61, 0x66, 0xC3, 0xA9]
    let cfg := Config.standard .utc
    let identity : Identity :=
      ⟨parseDeviceNameArg (ascii defaultDeviceName) [ascii "--deviceName", name], []⟩
    let p : PropertyReference :=
      ⟨cfg.deviceInstance, objectTypeDevice, cfg.deviceInstance, propertyIdentifierObjectName, none⟩
    IsUtf8 name
      ∧ getPropertyCharString cfg identity p 5
        = .ok ⟨[0x43, 0x61, 0x66, 0xC3], characterStringEncodingUtf8⟩
      ∧ ¬ Fits name [0x43, 0x61, 0x66, 0xC3] 5 := by
  intro name cfg identity p
  have hname : IsUtf8 name := ⟨['C', 'a', 'f', 'é'], rfl⟩
  refine ⟨hname, rfl, fun hfits => ?_⟩
  exact absurd ((isUtf8_take_iff hname 4).mp hfits.isUtf8 0xA9 rfl) (by decide)

/-! ## Texts in ASCII

Every octet of an ASCII text is a character, so it may be cut anywhere. -/

/-- **A text in ASCII fits every buffer that has room.** -/
theorem fits_of_ascii (hascii : ∀ c ∈ text, c.toNat < 128) (hpos : 0 < maxElementCount)
    (hmax : maxElementCount < 2 ^ 32) :
    Fits text (returnCharacterString text maxElementCount).octets maxElementCount :=
  fits_of_pos hpos hmax (isUtf8_of_lt fun c hc => hascii c (List.mem_of_mem_take hc))

/-- The constant texts a callback may serve. -/
def constantTexts : List String :=
  fileType :: deviceDescription :: vendorName :: modelName :: appVersion
    :: (stateText ++ objectNames.map NamedObject.name)

def IsAscii (t : String) : Prop := ∀ c ∈ ascii t, c.toNat < 128

theorem isAscii_append {s t : String} (hs : IsAscii s) (ht : IsAscii t) : IsAscii (s ++ t) := by
  intro c hc
  rw [ascii, String.toList_append, List.map_append, List.mem_append] at hc
  exact hc.elim (hs c) (ht c)

theorem deviceDescription_ascii : IsAscii deviceDescription := by
  refine isAscii_append (isAscii_append ?_ ?_) ?_ <;> simp [IsAscii, ascii]

theorem stateText_ascii : ∀ t ∈ stateText, IsAscii t := by simp [IsAscii, ascii, stateText]

theorem objectNames_ascii : ∀ t ∈ objectNames.map NamedObject.name, IsAscii t := by
  simp [IsAscii, ascii, objectNames]

theorem constantTexts_ascii : ∀ t ∈ constantTexts, IsAscii t := by
  intro t ht
  simp only [constantTexts, List.mem_cons, List.mem_append] at ht
  rcases ht with rfl | rfl | rfl | rfl | rfl | ht | ht
  · simp [IsAscii, ascii, fileType]
  · exact deviceDescription_ascii
  · simp [IsAscii, ascii, vendorName]
  · simp [IsAscii, ascii, modelName]
  · simp [IsAscii, ascii, appVersion]
  · exact stateText_ascii t ht
  · exact objectNames_ascii t ht

/-- What the callback serves is a constant text, or the device's name or firmware revision. -/
theorem getPropertyCharString_serves {cfg : Config} {identity : Identity} {p : PropertyReference}
    {served : CharacterString}
    (h : getPropertyCharString cfg identity p maxElementCount = .ok served) :
    ∃ text ∈ identity.deviceName :: identity.firmwareRevision :: constantTexts.map ascii,
      served = returnCharacterString text maxElementCount := by
  have hconstant : ∀ t ∈ constantTexts, served = returnCharacterString (ascii t) maxElementCount →
      ∃ text ∈ identity.deviceName :: identity.firmwareRevision :: constantTexts.map ascii,
        served = returnCharacterString text maxElementCount := fun t ht heq =>
    ⟨ascii t, by simp only [List.mem_cons, List.mem_map_of_mem ht, or_true], heq⟩
  have hindex : ∀ i t, (if i ≥ 1 then stateText[i - 1]? else none) = some t → t ∈ stateText := by
    intro i t hi
    split at hi
    · exact List.mem_of_getElem? hi
    · cases hi
  have hlisted : ∀ t ∈ stateText ++ objectNames.map NamedObject.name, t ∈ constantTexts :=
    fun t ht => List.mem_of_mem_drop (i := 5) ht
  rw [getPropertyCharString.eq_def] at h
  dsimp only at h
  split_ifs at h
  · exact hconstant fileType (List.mem_of_getElem? (i := 0) rfl) (Except.ok.inj h).symm
  · split at h
    · rename_i t ht
      obtain ⟨i, -, hi⟩ := Option.bind_eq_some_iff.mp ht
      refine hconstant t ?_ (Except.ok.inj h).symm
      exact hlisted t (List.mem_append_left _ (hindex i t hi))
    · cases h
  · exact ⟨_, List.mem_cons_self, (Except.ok.inj h).symm⟩
  · split at h
    · rename_i o ho
      have hmem := List.mem_of_find?_eq_some ho
      refine hconstant o.name ?_ (Except.ok.inj h).symm
      exact hlisted o.name (List.mem_append_right _ (List.mem_map_of_mem hmem))
    · cases h
  · exact hconstant deviceDescription (List.mem_of_getElem? (i := 1) rfl) (Except.ok.inj h).symm
  · exact hconstant vendorName (List.mem_of_getElem? (i := 2) rfl) (Except.ok.inj h).symm
  · exact hconstant modelName (List.mem_of_getElem? (i := 3) rfl) (Except.ok.inj h).symm
  · exact ⟨_, List.mem_cons_of_mem _ List.mem_cons_self, (Except.ok.inj h).symm⟩
  · exact hconstant appVersion (List.mem_of_getElem? (i := 4) rfl) (Except.ok.inj h).symm

/-- **Every constant text is served whole or cut between characters**, and so are the device's name
and firmware revision where they are in ASCII. -/
theorem served_fits {cfg : Config} {identity : Identity} {p : PropertyReference}
    {served : CharacterString}
    (h : getPropertyCharString cfg identity p maxElementCount = .ok served)
    (hname : ∀ c ∈ identity.deviceName, c.toNat < 128)
    (hfirmware : ∀ c ∈ identity.firmwareRevision, c.toNat < 128)
    (hpos : 0 < maxElementCount) (hmax : maxElementCount < 2 ^ 32) :
    ∃ text ∈ identity.deviceName :: identity.firmwareRevision :: constantTexts.map ascii,
      Fits text served.octets maxElementCount := by
  obtain ⟨text, hmem, rfl⟩ := getPropertyCharString_serves h
  refine ⟨text, hmem, fits_of_ascii (fun c hc => ?_) hpos hmax⟩
  rcases List.mem_cons.mp hmem with rfl | hmem
  · exact hname c hc
  · rcases List.mem_cons.mp hmem with rfl | hmem
    · exact hfirmware c hc
    · obtain ⟨t, ht, rfl⟩ := List.mem_map.mp hmem
      exact constantTexts_ascii t ht c hc

end Controller
