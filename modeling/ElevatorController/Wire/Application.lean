import ElevatorController.Wire.RoundTrip
import ElevatorController.Wire.Tags

/-!
# Wire/Application — the values of properties, as octets and back

    [NULL, 42, "Car", (Lift, 1), …] ──▸ 00  21 2A  74 00 43 61 72  C4 0E C0 00 01 ──▸ the same

The functions of `wiretest/codec.py` that write an application-tagged value, and those that read a
run of them.  A REAL or a Double is its bits, a text its UTF-8 octets.  A value that `Fits` is read
back; the writers that put a length of 254 or more in one octet, or a BIT STRING of more than four
octets in the first, write what is read as something else.
-/

namespace Controller

open BigEndian Tokens

/-! ## Writing -/

/-- `_signed_octets`: as few octets as the value fits in, two's complement. -/
def signedOctets (value : ℤ) : Option (List UInt8) :=
  ([1, 2, 3, 4].find? fun length : ℕ => -(2 ^ (8 * length - 1) : ℤ) ≤ value
    ∧ value < 2 ^ (8 * length - 1)).map fun length =>
      octetsOf length (value % 256 ^ length).toNat

/-- `application_null`. -/
def applicationNull : List UInt8 := [0x00]

/-- `application_boolean`. -/
def applicationBoolean (value : Bool) : List UInt8 := [if value then 0x11 else 0x10]

/-- `application_unsigned`. -/
def applicationUnsigned (value : ℕ) : Option (List UInt8) := do
  let body ← unsignedOctets value
  let header ← packB (0x20 ||| body.length)
  some (header ++ body)

/-- `application_enumerated`. -/
def applicationEnumerated (value : ℕ) : Option (List UInt8) := do
  let body ← unsignedOctets value
  let header ← packB (0x90 ||| body.length)
  some (header ++ body)

/-- `application_signed`. -/
def applicationSigned (value : ℤ) : Option (List UInt8) := do
  let body ← signedOctets value
  let header ← packB (0x30 ||| body.length)
  some (header ++ body)

/-- `application_real`, of the bits of the value. -/
def applicationReal (bits : ℕ) : Option (List UInt8) := do
  let body ← packI bits
  some (0x44 :: body)

/-- `application_object_id`. -/
def applicationObjectId (objectType objectInstance : ℕ) : Option (List UInt8) := do
  let body ← objectId objectType objectInstance
  some (0xC4 :: body)

/-- `application_octet_string`. -/
def applicationOctetString (octets : List UInt8) : Option (List UInt8) :=
  if octets.length < 5 then do
    let header ← packB (0x60 ||| octets.length)
    some (header ++ octets)
  else if octets.length < 254 then do
    let length ← packB octets.length
    some (0x65 :: length ++ octets)
  else do
    let length ← packH octets.length
    some (0x65 :: 254 :: length ++ octets)

/-- `application_character_string`, of the UTF-8 octets of the text. -/
def applicationCharacterString (text : List UInt8) : Option (List UInt8) :=
  let body := 0x00 :: text
  if body.length < 5 then do
    let header ← packB (0x70 ||| body.length)
    some (header ++ body)
  else do
    let length ← packB body.length
    some (0x75 :: length ++ body)

/-- The octets of a BIT STRING, after the number of unused bits: `octets[index // 8] |= …`. -/
def bitOctets (bits : List Bool) : List UInt8 :=
  bits.zipIdx.foldl
    (fun octets (bit, index) =>
      if bit then octets.modify (index / 8) (· ||| 0x80 >>> UInt8.ofNat (index % 8)) else octets)
    (List.replicate ((bits.length + 7) / 8) 0)

/-- `application_bit_string`. -/
def applicationBitString (bits : List Bool) : Option (List UInt8) := do
  let octets := bitOctets bits
  let unused ← packB (octets.length * 8 - bits.length)
  let body := unused ++ octets
  let header ← packB (0x80 ||| body.length)
  some (header ++ body)

/-- `application_date`. -/
def applicationDate (year month day weekday : ℕ) : Option (List UInt8) :=
  if year < 1900 then none
  else do
    let y ← packB (year - 1900)
    let m ← packB month
    let d ← packB day
    let w ← packB weekday
    some (0xA4 :: y ++ m ++ d ++ w)

/-- `application_time`. -/
def applicationTime (hour minute second hundredths : ℕ) : Option (List UInt8) := do
  let h ← packB hour
  let m ← packB minute
  let s ← packB second
  let c ← packB hundredths
  some (0xB4 :: h ++ m ++ s ++ c)

/-! ## Reading -/

/-- What `decode_application` returns.  A text is its octets, before they are decoded. -/
inductive Decoded where
  | none
  | bool (value : Bool)
  | int (value : ℤ)
  | real (bits : ℕ)
  | double (bits : ℕ)
  | text (octets : List UInt8)
  | bits (bits : List Bool)
  | objectIdentifier (objectType objectInstance : ℕ)
  | octets (octets : List UInt8)
  deriving DecidableEq

/-- `int.from_bytes(body, "big", signed=True)`. -/
def signedValue (body : List UInt8) : ℤ :=
  if 256 ^ body.length ≤ 2 * value body then (value body : ℤ) - 256 ^ body.length else value body

/-- `bits[:len(bits) - unused] if unused else bits`, where a negative end counts from the end. -/
def dropUnused (unused : ℕ) (bits : List Bool) : List Bool :=
  if unused ≤ bits.length then bits.take (bits.length - unused)
  else bits.take (bits.length - (unused - bits.length))

/-- The bits of an octet, the most significant first. -/
def octetBits (octet : UInt8) : List Bool :=
  (List.range 8).map fun position => octet &&& 0x80 >>> UInt8.ofNat position != 0

/-- `MAX_INSTANCE`. -/
def maxInstance : ℕ := 0x3FFFFF

/-- What `decode_application` makes of an application-tagged primitive. -/
def Tag.decode (t : Tag) : Except Raised Decoded :=
  match t.number with
  | 0 => .ok .none
  | 1 => do
    let octet ← index t.body 0
    .ok (.bool (octet != 0))
  | 2 | 9 => .ok (.int (value t.body))
  | 3 => .ok (.int (signedValue t.body))
  | 4 => do
    let bits ← unpack 4 t.body
    .ok (.real bits)
  | 5 => do
    let bits ← unpack 8 t.body
    .ok (.double bits)
  | 7 => .ok (.text (t.body.drop 1))
  | 8 => do
    let unused ← index t.body 0
    .ok (.bits (dropUnused unused.toNat ((t.body.drop 1).flatMap octetBits)))
  | 12 => do
    let raw ← unpack 4 t.body
    .ok (.objectIdentifier (raw >>> 22) (raw &&& maxInstance))
  | _ => .ok (.octets t.body)

/-- `decode_application`. -/
def decodeApplication (octets : List UInt8) : Except Raised Decoded :=
  if octets = [] then .ok .none
  else do
    let (tag, _) ← readTag octets 0
    if tag.isContext ∨ tag.kind ≠ .value then .ok .none else tag.decode

/-- A pass of `decoded_values`. -/
def decodedValuesPass (octets : List UInt8) (values : List Decoded) (position : ℕ) :
    Except Raised (List Decoded × ℕ) := do
  let (tag, after) ← readTag octets position
  if tag.kind = .value ∧ ¬ tag.isContext then do
    let value ← decodeApplication (slice octets position after)
    .ok (values ++ [value], after)
  else .ok (values, after)

/-- `decoded_values`. -/
def decodedValues (octets : List UInt8) : Except Raised (List Decoded) :=
  loop octets.length (decodedValuesPass octets) [] 0

/-- A pass of `application_elements`. -/
def applicationElementsPass (octets : List UInt8) (elements : List (List UInt8)) (position : ℕ) :
    Except Raised (List (List UInt8) × ℕ) := do
  let (_, after) ← readTag octets position
  .ok (elements ++ [slice octets position after], after)

/-- `application_elements`. -/
def applicationElements (octets : List UInt8) : Except Raised (List (List UInt8)) :=
  loop octets.length (applicationElementsPass octets) [] 0

/-- What a pass of `application_values` adds. -/
def applicationValuesTake (values : List (ℕ × List UInt8)) (tag : Tag) :
    Except Raised (List (ℕ × List UInt8)) :=
  .ok (if tag.kind = .value ∧ ¬ tag.isContext then values ++ [(tag.number, tag.body)] else values)

/-- `application_values`. -/
def applicationValues (octets : List UInt8) : Except Raised (List (ℕ × List UInt8)) :=
  loop octets.length (take (readTag octets) applicationValuesTake) [] 0

/-- `application_tag`. -/
def applicationTag (octets : List UInt8) : Except Raised (Option ℕ) :=
  if octets = [] then .ok none
  else do
    let (tag, _) ← readTag octets 0
    .ok (if tag.isContext then none else some tag.number)

/-! ## Numbers -/

section Numbers

variable {xs : List UInt8}

theorem signedOctets_eq_some {z : ℤ} (h : signedOctets z = some xs) :
    ∃ n, 1 ≤ n ∧ n ≤ 4 ∧ -(2 ^ (8 * n - 1) : ℤ) ≤ z ∧ z < 2 ^ (8 * n - 1)
      ∧ xs = octetsOf n (z % 256 ^ n).toNat := by
  obtain ⟨n, hn, rfl⟩ := Option.map_eq_some_iff.mp h
  have hmem := List.mem_of_find?_eq_some hn
  have hfits := List.find?_some hn
  rw [decide_eq_true_eq] at hfits
  refine ⟨n, ?_, ?_, hfits.1, hfits.2, rfl⟩
  · fin_cases hmem <;> norm_num
  · fin_cases hmem <;> norm_num

/-- Two's complement is read back. -/
theorem signedValue_octetsOf {n : ℕ} {z : ℤ} (hn : 1 ≤ n) (hlow : -(2 ^ (8 * n - 1) : ℤ) ≤ z)
    (hhigh : z < 2 ^ (8 * n - 1)) : signedValue (octetsOf n (z % 256 ^ n).toNat) = z := by
  have hsplit : (256 : ℤ) ^ n = 2 * 2 ^ (8 * n - 1) := by
    rw [show (256 : ℤ) = 2 ^ 8 by norm_num, ← pow_mul, ← pow_succ']
    congr 1
    omega
  have hpos : (0 : ℤ) < 2 ^ (8 * n - 1) := by positivity
  have hmod : 0 ≤ z % 256 ^ n := Int.emod_nonneg _ (by positivity)
  have hlt : z % 256 ^ n < 256 ^ n := Int.emod_lt_of_pos _ (by positivity)
  have hfits : (z % 256 ^ n).toNat < 256 ^ n := by
    zify
    rwa [Int.toNat_of_nonneg hmod]
  rw [signedValue, value_octetsOf hfits, length_octetsOf, Int.toNat_of_nonneg hmod]
  have hcast : (256 ^ n ≤ 2 * (z % 256 ^ n).toNat) ↔ (256 : ℤ) ^ n ≤ 2 * (z % 256 ^ n) := by
    zify
    rw [Int.toNat_of_nonneg hmod]
  rw [if_congr hcast rfl rfl]
  rcases lt_or_ge z 0 with hneg | hnonneg
  · -- a negative number is above the middle
    have hz : z % 256 ^ n = z + 256 ^ n := by
      rw [← Int.add_emod_right, Int.emod_eq_of_lt (by omega) (by omega)]
    rw [hz, if_pos (by omega)]
    omega
  · have hz : z % 256 ^ n = z := Int.emod_eq_of_lt hnonneg (by omega)
    rw [hz, if_neg (by omega)]

end Numbers

/-! ## Bits -/

/-- Bit `i` of some octets, the most significant of each first. -/
def bitAt (octets : List UInt8) (i : ℕ) : Bool :=
  (octets[i / 8]?.getD 0) &&& 0x80 >>> UInt8.ofNat (i % 8) != 0

theorem or_and (x y z : UInt8) : (x ||| y) &&& z = (x &&& z) ||| (y &&& z) := by
  rw [← UInt8.toBitVec_inj]
  exact BitVec.and_or_distrib_right

/-- Setting one bit of an octet. -/
theorem octet_or_bit {i j : ℕ} (hi : i < 8) (hj : j < 8) (octet : UInt8) :
    ((octet ||| 0x80 >>> UInt8.ofNat j) &&& 0x80 >>> UInt8.ofNat i != 0)
      = ((octet &&& 0x80 >>> UInt8.ofNat i != 0) || i == j) := by
  have hmask : ∀ i < 8, ∀ j < 8,
      (0x80 >>> UInt8.ofNat j &&& 0x80 >>> UInt8.ofNat i : UInt8) = 0 ↔ i ≠ j := by decide
  rw [or_and, Bool.eq_iff_iff]
  simp only [bne_iff_ne, ne_eq, UInt8.or_eq_zero_iff, hmask i hi j hj, Bool.or_eq_true, beq_iff_eq]
  tauto

theorem bitAt_modify {octets : List UInt8} {i k : ℕ} (hk : k / 8 < octets.length) :
    bitAt (octets.modify (k / 8) (· ||| 0x80 >>> UInt8.ofNat (k % 8))) i
      = (bitAt octets i || k == i) := by
  rw [bitAt, bitAt, List.getElem?_modify]
  by_cases hsame : k / 8 = i / 8
  · have hi : i / 8 < octets.length := hsame ▸ hk
    have hindex : (i % 8 == k % 8) = (k == i) := by
      rw [Bool.eq_iff_iff, beq_iff_eq, beq_iff_eq]
      omega
    rw [List.getElem?_eq_getElem hi]
    simp only [hsame, if_true, Option.map_eq_map, Option.map_some, Option.getD_some]
    rw [octet_or_bit (Nat.mod_lt _ (by decide)) (Nat.mod_lt _ (by decide)), hindex]
  · have hne : (k == i) = false := by
      rw [beq_eq_false_iff_ne]
      rintro rfl
      exact hsame rfl
    simp only [hsame, if_false, hne, Bool.or_false, Option.map_eq_map, Option.map_id']

/-- The bits after some have been set. -/
theorem bitAt_foldl {octets : List UInt8} {i : ℕ} {marks : List (Bool × ℕ)}
    (h : ∀ x ∈ marks, x.2 / 8 < octets.length) :
    let after := marks.foldl (fun octets (bit, index) =>
      if bit then octets.modify (index / 8) (· ||| 0x80 >>> UInt8.ofNat (index % 8)) else octets)
      octets
    after.length = octets.length
      ∧ bitAt after i = (bitAt octets i || marks.any fun x => x.1 && x.2 == i) := by
  induction marks generalizing octets with
  | nil => exact ⟨rfl, (Bool.or_false _).symm⟩
  | cons x marks ih =>
    obtain ⟨bit, k⟩ := x
    have hk : k / 8 < octets.length := h (bit, k) List.mem_cons_self
    have hrest : ∀ x ∈ marks, x.2 / 8 < octets.length := fun x hx =>
      h x (List.mem_cons_of_mem _ hx)
    cases bit with
    | false =>
      obtain ⟨hlength, hbits⟩ := ih hrest
      refine ⟨hlength, hbits.trans ?_⟩
      rw [List.any_cons, Bool.false_and, Bool.false_or]
    | true =>
      have hsize : (octets.modify (k / 8) (· ||| 0x80 >>> UInt8.ofNat (k % 8))).length
          = octets.length := List.length_modify ..
      have hrest' : ∀ x ∈ marks, x.2 / 8
          < (octets.modify (k / 8) (· ||| 0x80 >>> UInt8.ofNat (k % 8))).length := by
        intro x hx
        rw [hsize]
        exact hrest x hx
      obtain ⟨hlength, hbits⟩ := ih hrest'
      refine ⟨hlength.trans hsize, hbits.trans ?_⟩
      rw [bitAt_modify hk, List.any_cons, Bool.true_and, Bool.or_assoc]

theorem length_bitOctets (bits : List Bool) : (bitOctets bits).length = (bits.length + 7) / 8 := by
  have hmarks : ∀ x ∈ bits.zipIdx, x.2 / 8 < (List.replicate ((bits.length + 7) / 8)
      (0 : UInt8)).length := by
    intro x hx
    have hlt := (List.getElem?_eq_some_iff.mp (List.mem_zipIdx_iff_getElem?.mp hx)).1
    rw [List.length_replicate]
    omega
  exact (bitAt_foldl (i := 0) hmarks).1.trans List.length_replicate

/-- The octets of a BIT STRING have its bits. -/
theorem bitAt_bitOctets (bits : List Bool) (i : ℕ) :
    bitAt (bitOctets bits) i = bits[i]?.getD false := by
  have hmarks : ∀ x ∈ bits.zipIdx, x.2 / 8 < (List.replicate ((bits.length + 7) / 8)
      (0 : UInt8)).length := by
    intro x hx
    have hlt := (List.getElem?_eq_some_iff.mp (List.mem_zipIdx_iff_getElem?.mp hx)).1
    rw [List.length_replicate]
    omega
  have hzero : bitAt (List.replicate ((bits.length + 7) / 8) 0) i = false := by
    rw [bitAt, List.getElem?_replicate]
    split <;> rw [bne_eq_false_iff_eq] <;> exact UInt8.zero_and
  refine (bitAt_foldl hmarks).2.trans ?_
  rw [hzero, Bool.false_or, Bool.eq_iff_iff, List.any_eq_true]
  constructor
  · rintro ⟨⟨bit, k⟩, hmem, hbit⟩
    obtain ⟨rfl, rfl⟩ : bit = true ∧ k = i := by simpa using hbit
    rw [List.mem_zipIdx_iff_getElem?.mp hmem]
    rfl
  · intro hbit
    cases hget : bits[i]? with
    | none =>
      rw [hget] at hbit
      cases hbit
    | some bit =>
      rw [hget] at hbit
      exact ⟨(bit, i), List.mem_zipIdx_iff_getElem?.mpr hget, by simpa using hbit⟩

/-- The bits of some octets, in order. -/
theorem flatMap_octetBits (octets : List UInt8) :
    octets.flatMap octetBits = (List.range (8 * octets.length)).map (bitAt octets) := by
  induction octets with
  | nil => rfl
  | cons octet octets ih =>
    have hsize : 8 * (octet :: octets).length = 8 + 8 * octets.length := by
      rw [List.length_cons]
      omega
    rw [List.flatMap_cons, ih, hsize, List.range_add, List.map_append, List.map_map]
    refine congrArg₂ (· ++ ·) ?_ ?_
    · refine List.map_congr_left fun i hi => ?_
      rw [List.mem_range] at hi
      rw [bitAt, Nat.div_eq_of_lt hi, Nat.mod_eq_of_lt hi]
      rfl
    · refine List.map_congr_left fun i _ => ?_
      have hdiv : (8 + i) / 8 = i / 8 + 1 := by omega
      have hmod : (8 + i) % 8 = i % 8 := by omega
      change bitAt octets i = bitAt (octet :: octets) (8 + i)
      rw [bitAt, bitAt, hdiv, hmod, List.getElem?_cons_succ]

/-- **A BIT STRING is read back.** -/
theorem dropUnused_bitOctets (bits : List Bool) :
    dropUnused ((bitOctets bits).length * 8 - bits.length) ((bitOctets bits).flatMap octetBits)
      = bits := by
  have hlength := length_bitOctets bits
  rw [flatMap_octetBits, dropUnused, List.length_map, List.length_range, if_pos (by omega),
    ← List.map_take, List.take_range]
  refine List.ext_getElem? fun i => ?_
  rw [List.getElem?_map]
  by_cases hi : i < bits.length
  · rw [List.getElem?_range (by omega), List.getElem?_eq_getElem hi, Option.map_some,
      bitAt_bitOctets, List.getElem?_eq_getElem hi]
    rfl
  · rw [List.getElem?_eq_none (not_lt.mp hi), List.getElem?_eq_none]
    · rfl
    · rw [List.length_range]
      omega

/-! ## Values -/

/-- A value that a test writes. -/
inductive Value where
  | null
  | boolean (value : Bool)
  | unsigned (value : ℕ)
  | signed (value : ℤ)
  | real (bits : ℕ)
  | octetString (octets : List UInt8)
  | characterString (text : List UInt8)
  | bitString (bits : List Bool)
  | enumerated (value : ℕ)
  | date (year month day weekday : ℕ)
  | time (hour minute second hundredths : ℕ)
  | objectIdentifier (objectType objectInstance : ℕ)

/-- The octets of a value. -/
def Value.encode : Value → Option (List UInt8)
  | .null => some applicationNull
  | .boolean value => some (applicationBoolean value)
  | .unsigned value => applicationUnsigned value
  | .signed value => applicationSigned value
  | .real bits => applicationReal bits
  | .octetString octets => applicationOctetString octets
  | .characterString text => applicationCharacterString text
  | .bitString bits => applicationBitString bits
  | .enumerated value => applicationEnumerated value
  | .date year month day weekday => applicationDate year month day weekday
  | .time hour minute second hundredths => applicationTime hour minute second hundredths
  | .objectIdentifier objectType objectInstance => applicationObjectId objectType objectInstance

/-- The application tag of a value. -/
def Value.number : Value → ℕ
  | .null => 0
  | .boolean _ => 1
  | .unsigned _ => 2
  | .signed _ => 3
  | .real _ => 4
  | .octetString _ => 6
  | .characterString _ => 7
  | .bitString _ => 8
  | .enumerated _ => 9
  | .date .. => 10
  | .time .. => 11
  | .objectIdentifier _ _ => 12

/-- What a reader makes of a value.  A date or a time is its four octets. -/
def Value.decoded : Value → Decoded
  | .null => .none
  | .boolean value => .bool value
  | .unsigned value => .int value
  | .signed value => .int value
  | .real bits => .real bits
  | .octetString octets => .octets octets
  | .characterString text => .text text
  | .bitString bits => .bits bits
  | .enumerated value => .int value
  | .date year month day weekday =>
    .octets [.ofNat (year - 1900), .ofNat month, .ofNat day, .ofNat weekday]
  | .time hour minute second hundredths =>
    .octets [.ofNat hour, .ofNat minute, .ofNat second, .ofNat hundredths]
  | .objectIdentifier objectType objectInstance => .objectIdentifier objectType objectInstance

/-- A value whose length the header can carry, and an instance in its 22 bits. -/
def Value.Fits : Value → Prop
  | .characterString text => text.length < 253
  | .bitString bits => bits.length ≤ 24
  | .objectIdentifier _ objectInstance => objectInstance ≤ maxInstance
  | _ => True

/-- Some octets are one application-tagged value. -/
structure IsValue (v : Value) (xs : List UInt8) (t : Tag) : Prop where
  tagged : Tagged xs [t]
  number : t.number = v.number
  isContext : t.isContext = false
  kind : t.kind = .value
  decode : t.decode = .ok v.decoded

section Value

variable {xs : List UInt8}

/-- The header of an unsigned or an enumerated, and its octets. -/
theorem exists_unsigned {n c v : ℕ} (hn : n < 15) (hc : c = n <<< 4) (hboolean : n ≠ 1)
    (h : (do
      let body ← unsignedOctets v
      let header ← packB (c ||| body.length)
      some (header ++ body)) = some xs) :
    ∃ body, value body = v ∧ Tagged xs [⟨n, false, .value, body⟩] := by
  simp only [Option.bind_eq_bind, Option.bind_eq_some_iff] at h
  obtain ⟨body, hbody, header, hheader, hxs⟩ := h
  obtain ⟨k, h1, h4, hfits, rfl⟩ := unsignedOctets_eq_some hbody
  obtain ⟨-, rfl⟩ := packB_eq_some hheader
  obtain rfl := Option.some.inj hxs
  refine ⟨octetsOf k v, value_octetsOf hfits, ?_⟩
  rw [hc]
  exact tagged_application n hn (octetsOf k v) hboolean (by rw [length_octetsOf]; exact h4)

theorem isValue_unsigned {v : ℕ} (h : applicationUnsigned v = some xs) :
    ∃ t, IsValue (.unsigned v) xs t := by
  obtain ⟨body, rfl, htagged⟩ := exists_unsigned (n := 2) (by decide) rfl (by decide) h
  exact ⟨_, htagged, rfl, rfl, rfl, rfl⟩

theorem isValue_enumerated {v : ℕ} (h : applicationEnumerated v = some xs) :
    ∃ t, IsValue (.enumerated v) xs t := by
  obtain ⟨body, rfl, htagged⟩ := exists_unsigned (n := 9) (by decide) rfl (by decide) h
  exact ⟨_, htagged, rfl, rfl, rfl, rfl⟩

theorem isValue_signed {z : ℤ} (h : applicationSigned z = some xs) :
    ∃ t, IsValue (.signed z) xs t := by
  simp only [applicationSigned, Option.bind_eq_bind, Option.bind_eq_some_iff] at h
  obtain ⟨body, hbody, header, hheader, hxs⟩ := h
  obtain ⟨k, h1, h4, hlow, hhigh, rfl⟩ := signedOctets_eq_some hbody
  obtain ⟨-, rfl⟩ := packB_eq_some hheader
  obtain rfl := Option.some.inj hxs
  have htagged := tagged_application 3 (by decide) (octetsOf k (z % 256 ^ k).toNat) (by decide)
    (by rw [length_octetsOf]; exact h4)
  exact ⟨_, htagged, rfl, rfl, rfl,
    congrArg (fun v => Except.ok (Decoded.int v)) (signedValue_octetsOf h1 hlow hhigh)⟩

/-- Four octets that `struct.pack(">I", …)` makes. -/
theorem packI_eq_some {n : ℕ} (h : packI n = some xs) : n < 2 ^ 32 ∧ xs = octetsOf 4 n := by
  rw [packI] at h
  split at h
  · exact ⟨‹_›, (Option.some.inj h).symm⟩
  · cases h

theorem unpack_octetsOf {size n : ℕ} (h : n < 256 ^ size) : unpack size (octetsOf size n) = .ok n :=
  unpack_eq_ok.mpr ⟨length_octetsOf size n, value_octetsOf h⟩

theorem isValue_real {bits : ℕ} (h : applicationReal bits = some xs) :
    ∃ t, IsValue (.real bits) xs t := by
  simp only [applicationReal, Option.bind_eq_bind, Option.bind_eq_some_iff] at h
  obtain ⟨body, hbody, hxs⟩ := h
  obtain ⟨hbits, rfl⟩ := packI_eq_some hbody
  obtain rfl := Option.some.inj hxs
  have htagged := tagged_application 4 (by decide) (octetsOf 4 bits) (by decide)
    (by rw [length_octetsOf])
  rw [length_octetsOf] at htagged
  refine ⟨_, htagged, rfl, rfl, rfl, ?_⟩
  change (unpack 4 (octetsOf 4 bits) >>= _) = _
  rw [unpack_octetsOf (by omega)]
  rfl

/-- The two parts of an object identifier. -/
theorem objectId_eq_some {objectType objectInstance : ℕ} (h : objectId objectType objectInstance = some xs)
    (hinstance : objectInstance ≤ maxInstance) :
    ∃ raw, raw < 256 ^ 4 ∧ xs = octetsOf 4 raw ∧ raw >>> 22 = objectType
      ∧ raw &&& maxInstance = objectInstance := by
  obtain ⟨hraw, rfl⟩ := packI_eq_some h
  refine ⟨_, by omega, rfl, ?_⟩
  have hmax : maxInstance = 2 ^ 22 - 1 := rfl
  rw [shiftLeft_or_instance objectType hinstance, hmax, Nat.and_two_pow_sub_one_eq_mod,
    Nat.shiftRight_eq_div_pow]
  have : objectInstance < 2 ^ 22 := Nat.lt_of_le_sub_one (by decide) hinstance
  constructor <;> omega

theorem isValue_objectIdentifier {objectType objectInstance : ℕ}
    (h : applicationObjectId objectType objectInstance = some xs)
    (hinstance : objectInstance ≤ maxInstance) :
    ∃ t, IsValue (.objectIdentifier objectType objectInstance) xs t := by
  simp only [applicationObjectId, Option.bind_eq_bind, Option.bind_eq_some_iff] at h
  obtain ⟨body, hbody, hxs⟩ := h
  obtain ⟨raw, hraw, rfl, rfl, rfl⟩ := objectId_eq_some hbody hinstance
  obtain rfl := Option.some.inj hxs
  have htagged := tagged_application 12 (by decide) (octetsOf 4 raw) (by decide)
    (by rw [length_octetsOf])
  rw [length_octetsOf] at htagged
  refine ⟨_, htagged, rfl, rfl, rfl, ?_⟩
  change (unpack 4 (octetsOf 4 raw) >>= _) = _
  rw [unpack_octetsOf hraw]
  rfl

theorem isValue_octetString {octets : List UInt8} (h : applicationOctetString octets = some xs) :
    ∃ t, IsValue (.octetString octets) xs t := by
  refine ⟨⟨6, false, .value, octets⟩, ?_, rfl, rfl, rfl, rfl⟩
  rw [applicationOctetString] at h
  split at h
  · rename_i hshort
    simp only [Option.bind_eq_bind, Option.bind_eq_some_iff] at h
    obtain ⟨header, hheader, hxs⟩ := h
    obtain ⟨-, rfl⟩ := packB_eq_some hheader
    obtain rfl := Option.some.inj hxs
    exact tagged_application 6 (by decide) octets (by decide) (Nat.le_of_lt_succ hshort)
  · split at h
    · rename_i hlong
      simp only [Option.bind_eq_bind, Option.bind_eq_some_iff] at h
      obtain ⟨length, hlength, hxs⟩ := h
      obtain ⟨-, rfl⟩ := packB_eq_some hlength
      obtain rfl := Option.some.inj hxs
      exact tagged_application_long 6 (by decide) octets (by decide) hlong
    · simp only [Option.bind_eq_bind, Option.bind_eq_some_iff] at h
      obtain ⟨length, hlength, hxs⟩ := h
      obtain ⟨hfits, rfl⟩ := packH_eq_some hlength
      obtain rfl := Option.some.inj hxs
      exact tagged_application_extended 6 (by decide) octets (by decide) hfits

theorem isValue_characterString {text : List UInt8}
    (h : applicationCharacterString text = some xs) (hfits : text.length < 253) :
    ∃ t, IsValue (.characterString text) xs t := by
  refine ⟨⟨7, false, .value, 0x00 :: text⟩, ?_, rfl, rfl, rfl, rfl⟩
  rw [applicationCharacterString] at h
  split at h
  · rename_i hshort
    simp only [Option.bind_eq_bind, Option.bind_eq_some_iff] at h
    obtain ⟨header, hheader, hxs⟩ := h
    obtain ⟨-, rfl⟩ := packB_eq_some hheader
    obtain rfl := Option.some.inj hxs
    exact tagged_application 7 (by decide) (0x00 :: text) (by decide) (Nat.le_of_lt_succ hshort)
  · simp only [Option.bind_eq_bind, Option.bind_eq_some_iff] at h
    obtain ⟨length, hlength, hxs⟩ := h
    obtain ⟨-, rfl⟩ := packB_eq_some hlength
    obtain rfl := Option.some.inj hxs
    exact tagged_application_long 7 (by decide) (0x00 :: text) (by decide)
      (by rw [List.length_cons]; omega)

theorem isValue_bitString {bits : List Bool} (h : applicationBitString bits = some xs)
    (hfits : bits.length ≤ 24) : ∃ t, IsValue (.bitString bits) xs t := by
  simp only [applicationBitString, Option.bind_eq_bind, Option.bind_eq_some_iff] at h
  obtain ⟨unused, hunused, header, hheader, hxs⟩ := h
  obtain ⟨hlt, rfl⟩ := packB_eq_some hunused
  obtain ⟨-, rfl⟩ := packB_eq_some hheader
  obtain rfl := Option.some.inj hxs
  have hlength := length_bitOctets bits
  refine ⟨_, tagged_application 8 (by decide)
    (UInt8.ofNat ((bitOctets bits).length * 8 - bits.length) :: bitOctets bits) (by decide)
    (by rw [List.length_cons]; omega), rfl, rfl, rfl, ?_⟩
  change Except.ok (Decoded.bits (dropUnused
    (UInt8.ofNat ((bitOctets bits).length * 8 - bits.length)).toNat
    ((bitOctets bits).flatMap octetBits))) = _
  rw [UInt8.toNat_ofNat_of_lt' hlt, dropUnused_bitOctets]
  rfl

/-- Four octets of data. -/
theorem tagged_four (n : ℕ) (hn : n < 15) (hboolean : n ≠ 1) (o0 o1 o2 o3 : UInt8) :
    Tagged [UInt8.ofNat (n <<< 4 ||| 4), o0, o1, o2, o3] [⟨n, false, .value, [o0, o1, o2, o3]⟩] :=
  tagged_application n hn [o0, o1, o2, o3] hboolean le_rfl

/-- **Every value that fits is read back as one tag.** -/
theorem Value.isValue {v : Value} (h : v.encode = some xs) (hfits : v.Fits) :
    ∃ t, IsValue v xs t := by
  cases v with
  | null =>
    obtain rfl := Option.some.inj h
    exact ⟨_, tagged_application 0 (by decide) [] (by decide) (by decide), rfl, rfl, rfl, rfl⟩
  | boolean b =>
    obtain rfl := Option.some.inj h
    cases b with
    | false => exact ⟨_, tagged_boolean (Nat.zero_le 4), rfl, rfl, rfl, rfl⟩
    | true => exact ⟨_, tagged_boolean (Nat.one_le_ofNat), rfl, rfl, rfl, rfl⟩
  | unsigned v => exact isValue_unsigned h
  | signed z => exact isValue_signed h
  | real bits => exact isValue_real h
  | octetString octets => exact isValue_octetString h
  | characterString text => exact isValue_characterString h hfits
  | bitString bits => exact isValue_bitString h hfits
  | enumerated v => exact isValue_enumerated h
  | date year month day weekday =>
    rw [Value.encode, applicationDate] at h
    split at h
    · cases h
    · simp only [Option.bind_eq_bind, Option.bind_eq_some_iff] at h
      obtain ⟨y, hy, m, hm, d, hd, w, hw, hxs⟩ := h
      obtain ⟨-, rfl⟩ := packB_eq_some hy
      obtain ⟨-, rfl⟩ := packB_eq_some hm
      obtain ⟨-, rfl⟩ := packB_eq_some hd
      obtain ⟨-, rfl⟩ := packB_eq_some hw
      obtain rfl := Option.some.inj hxs
      exact ⟨_, tagged_four 10 (by decide) (by decide) (.ofNat (year - 1900)) (.ofNat month)
        (.ofNat day) (.ofNat weekday), rfl, rfl, rfl, rfl⟩
  | time hour minute second hundredths =>
    simp only [Value.encode, applicationTime, Option.bind_eq_bind, Option.bind_eq_some_iff] at h
    obtain ⟨y, hy, m, hm, d, hd, w, hw, hxs⟩ := h
    obtain ⟨-, rfl⟩ := packB_eq_some hy
    obtain ⟨-, rfl⟩ := packB_eq_some hm
    obtain ⟨-, rfl⟩ := packB_eq_some hd
    obtain ⟨-, rfl⟩ := packB_eq_some hw
    obtain rfl := Option.some.inj hxs
    exact ⟨_, tagged_four 11 (by decide) (by decide) (.ofNat hour) (.ofNat minute) (.ofNat second)
      (.ofNat hundredths), rfl, rfl, rfl, rfl⟩
  | objectIdentifier objectType objectInstance => exact isValue_objectIdentifier h hfits

/-! ## Reading a value where it stands -/

section Read

variable {v : Value} {t : Tag}

/-- The tag of a value, where it stands. -/
theorem IsValue.readTag (h : IsValue v xs t) (a b : List UInt8) :
    Controller.readTag (a ++ xs ++ b) a.length = .ok (t, a.length + xs.length) :=
  reads_singleton.mp (h.tagged a b)

theorem IsValue.readTag_self (h : IsValue v xs t) :
    Controller.readTag xs 0 = .ok (t, xs.length) := reads_singleton.mp h.tagged.reads

theorem IsValue.ne_nil (h : IsValue v xs t) : xs ≠ [] := by
  rintro rfl
  have := advances_readTag [] 0 t 0 h.readTag_self
  omega

/-- `decode_application` reads a value. -/
theorem IsValue.decodeApplication (h : IsValue v xs t) :
    Controller.decodeApplication xs = .ok v.decoded := by
  rw [Controller.decodeApplication, if_neg h.ne_nil, h.readTag_self, ok_bind]
  simp only [h.isContext, h.kind, ne_eq, not_true_eq_false, or_self, if_false, Bool.false_eq_true,
    h.decode]

/-- `application_tag` reads its tag. -/
theorem IsValue.applicationTag (h : IsValue v xs t) :
    Controller.applicationTag xs = .ok (some v.number) := by
  rw [Controller.applicationTag, if_neg h.ne_nil, h.readTag_self, ok_bind]
  simp only [h.isContext, Bool.false_eq_true, if_false, h.number]

theorem passAdvances_decodedValues (octets : List UInt8) :
    PassAdvances (decodedValuesPass octets) := by
  intro values p values' q h
  rw [decodedValuesPass] at h
  obtain ⟨⟨tag, after⟩, hread, h⟩ := bind_eq_ok.mp h
  have hp := advances_readTag octets p tag after hread
  simp only at h
  split at h
  · obtain ⟨value, -, h⟩ := bind_eq_ok.mp h
    cases h
    exact hp
  · cases h
    exact hp

theorem passAdvances_applicationElements (octets : List UInt8) :
    PassAdvances (applicationElementsPass octets) := by
  intro elements p elements' q h
  rw [applicationElementsPass] at h
  obtain ⟨⟨tag, after⟩, hread, h⟩ := bind_eq_ok.mp h
  cases h
  exact advances_readTag octets p tag _ hread

/-- A value is one pass of `decoded_values`. -/
theorem IsValue.does_decodedValues (h : IsValue v xs t) (values : List Decoded) :
    Does decodedValuesPass xs values (values ++ [v.decoded]) := by
  refine does_of_pass passAdvances_decodedValues fun a b => ?_
  rw [decodedValuesPass, h.readTag a b, ok_bind]
  simp only [h.kind, h.isContext, Bool.false_eq_true, not_false_eq_true, and_self, if_true,
    slice_part, h.decodeApplication, ok_bind]

/-- A value is one pass of `application_elements`. -/
theorem IsValue.does_applicationElements (h : IsValue v xs t) (elements : List (List UInt8)) :
    Does applicationElementsPass xs elements (elements ++ [xs]) := by
  refine does_of_pass passAdvances_applicationElements fun a b => ?_
  rw [applicationElementsPass, h.readTag a b, ok_bind]
  simp only [slice_part]

end Read

/-! ## Texts whose length is mistaken -/

/-- A length octet of 254 or 255 is not the length: of what follows it, at most what is after two
more octets is the body. -/
theorem length_body_le {octet : UInt8} (hoctet : 254 ≤ octet.toNat) {rest : List UInt8} {t : Tag}
    {q : ℕ} (h : readTag (0x75 :: octet :: rest) 0 = .ok (t, q)) :
    t.number = 7 ∧ t.body.length ≤ rest.length - 2 := by
  have hheader : (0x75 : UInt8) = tagHeader 7 false 5 := by decide
  rw [hheader, readTag_tagHeader (by decide) (by decide), if_neg (by simp), if_neg (by simp)] at h
  obtain ⟨⟨n, p⟩, hlength, h⟩ := bind_eq_ok.mp h
  rw [if_neg (by simp)] at h
  cases h
  refine ⟨rfl, ?_⟩
  have hp : 4 ≤ p := by
    rw [readTagLength, if_pos (by decide)] at hlength
    obtain ⟨o, ho, hlength⟩ := bind_eq_ok.mp hlength
    cases ho
    simp only at hlength
    split at hlength
    · obtain ⟨n', -, hlength⟩ := bind_eq_ok.mp hlength
      cases hlength
      exact le_rfl
    · rename_i h4
      split at hlength
      · obtain ⟨n', -, hlength⟩ := bind_eq_ok.mp hlength
        cases hlength
        decide
      · rename_i h5
        -- an octet of at least 254 is one of the two
        have hlt := octet.toNat_lt
        have : octet.toNat ≠ 254 := fun heq => h4 (UInt8.toNat_inj.mp heq)
        have : octet.toNat ≠ 255 := fun heq => h5 (UInt8.toNat_inj.mp heq)
        omega
  simp only [length_slice, List.length_cons]
  omega

/-- An Unsigned, a text and an object identifier. -/
def threeValues : List Value :=
  [.unsigned 300, .characterString [0x6F, 0x6E], .objectIdentifier 58 1]

/-- The error class and the error code, as an Error and a failed property carry them. -/
def errorNumbers (errorClass errorCode : ℕ) : Option (List UInt8) := do
  let first ← applicationEnumerated errorClass
  let second ← applicationEnumerated errorCode
  some (first ++ second)

/-- They are two tags, and `application_values` gives the two numbers. -/
theorem exists_errorNumbers {errorClass errorCode : ℕ} (h : errorNumbers errorClass errorCode = some xs) :
    ∃ b₁ b₂, Tagged xs [⟨9, false, .value, b₁⟩, ⟨9, false, .value, b₂⟩]
      ∧ applicationValues xs = .ok [(9, b₁), (9, b₂)] ∧ value b₁ = errorClass
      ∧ value b₂ = errorCode := by
  simp only [errorNumbers, Option.bind_eq_bind, Option.bind_eq_some_iff] at h
  obtain ⟨first, hfirst, second, hsecond, hxs⟩ := h
  obtain rfl := Option.some.inj hxs
  obtain ⟨b₁, hb₁, hfirst⟩ := exists_unsigned (n := 9) (by decide) rfl (by decide) hfirst
  obtain ⟨b₂, hb₂, hsecond⟩ := exists_unsigned (n := 9) (by decide) rfl (by decide) hsecond
  have htagged := hfirst.append hsecond
  exact ⟨b₁, b₂, htagged, (does_tokens advances_readTag htagged rfl).loop_eq, hb₁, hb₂⟩

end Value

end Controller
