import ElevatorController.Machinery.Tokens
import ElevatorController.Wire.Codec

/-!
# Wire/Tags — `read_tag`, and the octets it reads

    | number : 4 | context : 1 | length : 3 |  [number]  [length …]  body        value
    | number : 4 |      1      |   6 or 7   |  [number]                          opening, closing

A tag is read by position.  Python raises where an index or a slice to unpack is out of range, but
cuts the slice of a body short; an application BOOLEAN has its value in the length.  `Tagged xs ts`
says that some octets are these tags, wherever they stand; there is a rule for each form of header.
-/

namespace Controller

open BigEndian Tokens

/-- What Python raises. -/
inductive Raised where
  | indexError
  | structError
  | valueError
  deriving DecidableEq

/-- `data[position]`. -/
def index (data : List UInt8) (position : ℕ) : Except Raised UInt8 :=
  match data[position]? with
  | some octet => .ok octet
  | none => .error .indexError

/-- `data[start:stop]`, which stops at the end. -/
def slice (data : List UInt8) (start stop : ℕ) : List UInt8 := (data.drop start).take (stop - start)

/-- `struct.unpack(">H", …)`, `struct.unpack(">I", …)`: of exactly so many octets. -/
def unpack (size : ℕ) (octets : List UInt8) : Except Raised ℕ :=
  if octets.length = size then .ok (value octets) else .error .structError

/-- A tag, as `read_tag` returns it. -/
structure Tag where
  number : ℕ
  isContext : Bool
  kind : Kind
  body : List UInt8
  deriving DecidableEq

/-- The tag number, which may be in the octet after the first. -/
def readTagNumber (data : List UInt8) (first : UInt8) (position : ℕ) : Except Raised (ℕ × ℕ) :=
  if first >>> 4 = 0x0F then do
    let octet ← index data position
    .ok (octet.toNat, position + 1)
  else .ok ((first >>> 4).toNat, position)

/-- The length, which may be in the octets after the number. -/
def readTagLength (data : List UInt8) (first : UInt8) (position : ℕ) : Except Raised (ℕ × ℕ) :=
  if first &&& 0x07 = 5 then do
    let octet ← index data position
    let position := position + 1
    if octet = 254 then do
      let length ← unpack 2 (slice data position (position + 2))
      .ok (length, position + 2)
    else if octet = 255 then do
      let length ← unpack 4 (slice data position (position + 4))
      .ok (length, position + 4)
    else .ok (octet.toNat, position)
  else .ok ((first &&& 0x07).toNat, position)

/-- `read_tag`: the tag, and the position after it. -/
def readTag (data : List UInt8) (position : ℕ) : Except Raised (Tag × ℕ) := do
  let first ← index data position
  let isContext : Bool := first &&& 0x08 ≠ 0
  let (number, position) ← readTagNumber data first (position + 1)
  if isContext ∧ first &&& 0x07 = 6 then .ok (⟨number, true, .opens, []⟩, position)
  else if isContext ∧ first &&& 0x07 = 7 then .ok (⟨number, true, .closes, []⟩, position)
  else do
    let (length, position) ← readTagLength data first position
    if ¬ isContext ∧ number = 1 then
      -- `bytes([length_value])`
      if length < 256 then .ok (⟨number, false, .value, [UInt8.ofNat length]⟩, position)
      else .error .valueError
    else
      .ok (⟨number, isContext, .value, slice data position (position + length)⟩, position + length)

/-! ## Reading moves on -/

@[simp] theorem ok_bind {α β : Type} (a : α) (f : α → Except Raised β) :
    (Except.ok a >>= f) = f a := rfl

theorem bind_eq_ok {α β : Type} {x : Except Raised α} {f : α → Except Raised β} {b : β} :
    (x >>= f) = .ok b ↔ ∃ a, x = .ok a ∧ f a = .ok b := by
  cases x with
  | error e =>
    refine iff_of_false (by rintro ⟨⟩) ?_
    rintro ⟨a, ⟨⟩, -⟩
  | ok a =>
    constructor
    · exact fun h => ⟨a, rfl, h⟩
    · rintro ⟨a', ha', h⟩
      cases ha'
      exact h

theorem index_eq_ok {data : List UInt8} {p : ℕ} {octet : UInt8} :
    index data p = .ok octet ↔ data[p]? = some octet := by
  rw [index]
  cases data[p]? with
  | none => exact iff_of_false (by rintro ⟨⟩) (by rintro ⟨⟩)
  | some o => exact ⟨fun h => congrArg some (Except.ok.inj h), fun h => congrArg _ (Option.some.inj h)⟩

theorem unpack_eq_ok {size : ℕ} {octets : List UInt8} {n : ℕ} :
    unpack size octets = .ok n ↔ octets.length = size ∧ value octets = n := by
  rw [unpack]
  split
  · rename_i h
    exact ⟨fun hok => ⟨h, Except.ok.inj hok⟩, fun hn => congrArg _ hn.2⟩
  · rename_i h
    exact iff_of_false (by rintro ⟨⟩) fun hn => h hn.1

theorem length_slice (data : List UInt8) (start stop : ℕ) :
    (slice data start stop).length = min (stop - start) (data.length - start) := by
  rw [slice, List.length_take, List.length_drop]

section InPlace

variable {xs : List UInt8} (a b : List UInt8) {p q : ℕ}

theorem index_inPlace {octet : UInt8} (h : index xs p = .ok octet) :
    index (a ++ xs ++ b) (a.length + p) = .ok octet := by
  rw [index_eq_ok] at h ⊢
  have hp := (List.getElem?_eq_some_iff.mp h).1
  rw [List.append_assoc, List.getElem?_append_right (Nat.le_add_right _ _),
    Nat.add_sub_cancel_left, List.getElem?_append_left hp, h]

theorem slice_inPlace (hq : q ≤ xs.length) :
    slice (a ++ xs ++ b) (a.length + p) (a.length + q) = slice xs p q := by
  rw [slice, slice, Nat.add_sub_add_left, List.append_assoc, List.drop_append, List.drop_append]
  have ha : a.drop (a.length + p) = [] := List.drop_eq_nil_of_le (Nat.le_add_right _ _)
  rw [ha, List.nil_append, Nat.add_sub_cancel_left, List.take_append_of_le_length]
  rw [List.length_drop]
  omega

/-- The octets of a part. -/
theorem slice_part (xs : List UInt8) :
    slice (a ++ xs ++ b) a.length (a.length + xs.length) = xs := by
  have h := slice_inPlace (p := 0) a b (le_refl xs.length)
  rw [Nat.add_zero] at h
  rw [h, slice, List.drop_zero, Nat.sub_zero, List.take_length]

/-- A slice that is unpacked is all there. -/
theorem unpack_inPlace {size n : ℕ} (h : unpack size (slice xs p (p + size)) = .ok n)
    (hsize : 0 < size) :
    unpack size (slice (a ++ xs ++ b) (a.length + p) (a.length + p + size)) = .ok n := by
  have hlength := (unpack_eq_ok.mp h).1
  rw [length_slice] at hlength
  rw [Nat.add_assoc, slice_inPlace a b (by omega), h]

theorem readTagNumber_inPlace {first : UInt8} {n : ℕ}
    (h : readTagNumber xs first p = .ok (n, q)) :
    p ≤ q ∧ readTagNumber (a ++ xs ++ b) first (a.length + p) = .ok (n, a.length + q) := by
  rw [readTagNumber] at h ⊢
  split at h
  · rename_i hlong
    obtain ⟨octet, hoctet, hok⟩ := bind_eq_ok.mp h
    cases hok
    rw [if_pos hlong, index_inPlace a b hoctet]
    exact ⟨Nat.le_succ p, rfl⟩
  · rename_i hshort
    cases h
    exact ⟨le_rfl, if_neg hshort⟩

theorem readTagLength_inPlace {first : UInt8} {n : ℕ}
    (h : readTagLength xs first p = .ok (n, q)) :
    p ≤ q ∧ readTagLength (a ++ xs ++ b) first (a.length + p) = .ok (n, a.length + q) := by
  rw [readTagLength] at h ⊢
  split at h
  · rename_i hlong
    obtain ⟨octet, hoctet, hok⟩ := bind_eq_ok.mp h
    rw [if_pos hlong, index_inPlace a b hoctet]
    change _ ∧ (if octet = 254 then _ else if octet = 255 then _ else _) = _
    split at hok
    · rename_i h4
      obtain ⟨length, hlength, hok⟩ := bind_eq_ok.mp hok
      cases hok
      rw [if_pos h4, Nat.add_assoc a.length, unpack_inPlace a b hlength (by decide)]
      exact ⟨by omega, rfl⟩
    · rename_i h4
      split at hok
      · rename_i h5
        obtain ⟨length, hlength, hok⟩ := bind_eq_ok.mp hok
        cases hok
        rw [if_neg h4, if_pos h5, Nat.add_assoc a.length,
          unpack_inPlace a b hlength (by decide)]
        exact ⟨by omega, rfl⟩
      · rename_i h5
        cases hok
        rw [if_neg h4, if_neg h5]
        exact ⟨by omega, rfl⟩
  · rename_i hshort
    cases h
    exact ⟨le_rfl, if_neg hshort⟩

/-- **A tag moves on, and one that lies inside some octets is read alike wherever they stand.** -/
theorem readTag_inPlace {t : Tag} (h : readTag xs p = .ok (t, q)) :
    p < q ∧ (q ≤ xs.length → readTag (a ++ xs ++ b) (a.length + p) = .ok (t, a.length + q)) := by
  rw [readTag] at h ⊢
  obtain ⟨first, hfirst, h⟩ := bind_eq_ok.mp h
  obtain ⟨⟨n, p'⟩, hnumber, h⟩ := bind_eq_ok.mp h
  obtain ⟨hp', hnumber'⟩ := readTagNumber_inPlace a b hnumber
  simp only [index_inPlace a b hfirst, Nat.add_assoc a.length, hnumber', ok_bind]
  simp only at h
  split at h
  · rename_i hopens
    cases h
    exact ⟨by omega, fun _ => by rw [if_pos hopens]⟩
  · rename_i hopens
    rw [if_neg hopens]
    split at h
    · rename_i hcloses
      cases h
      exact ⟨by omega, fun _ => by rw [if_pos hcloses]⟩
    · rename_i hcloses
      rw [if_neg hcloses]
      obtain ⟨⟨length, p''⟩, hlength, h⟩ := bind_eq_ok.mp h
      obtain ⟨hp'', hlength'⟩ := readTagLength_inPlace a b hlength
      simp only [hlength', ok_bind]
      simp only at h
      split at h
      · rename_i hboolean
        rw [if_pos hboolean]
        split at h
        · rename_i hsmall
          cases h
          exact ⟨by omega, fun _ => by rw [if_pos hsmall]⟩
        · cases h
      · rename_i hboolean
        rw [if_neg hboolean]
        cases h
        exact ⟨by omega, fun hq => by rw [Nat.add_assoc, slice_inPlace a b hq]⟩

end InPlace

theorem advances_readTag (data : List UInt8) : Advances (readTag data) := fun _ _ _ h =>
  (readTag_inPlace [] [] h).1

/-- A tag is read inside the octets. -/
theorem lt_length_of_readTag {data : List UInt8} {p : ℕ} {x : Tag × ℕ}
    (h : readTag data p = .ok x) : p < data.length := by
  rw [readTag] at h
  obtain ⟨first, hfirst, -⟩ := bind_eq_ok.mp h
  exact (List.getElem?_eq_some_iff.mp (index_eq_ok.mp hfirst)).1

theorem readsInPlace_readTag : ReadsInPlace readTag := fun a _ b _ _ _ h =>
  (readTag_inPlace a b h).2

/-! ## The forms of a tag -/

/-- Some octets are these tags, wherever they stand. -/
abbrev Tagged (xs : List UInt8) (ts : List Tag) : Prop := Spells readTag xs ts

/-- Octets that are read as one tag, to their end, are that tag. -/
theorem tagged_of_readTag {xs : List UInt8} {t : Tag} (h : readTag xs 0 = .ok (t, xs.length)) :
    Tagged xs [t] :=
  spells_of_reads readsInPlace_readTag advances_readTag (reads_singleton.mpr h)

/-- The first octet of a tag. -/
def tagHeader (number : ℕ) (isContext : Bool) (length : ℕ) : UInt8 :=
  UInt8.ofNat (number <<< 4 ||| (if isContext then 0x08 else 0) ||| length)

theorem tagHeader_fields : ∀ number < 15, ∀ isContext : Bool, ∀ length < 8,
    tagHeader number isContext length >>> 4 ≠ 0x0F
      ∧ (tagHeader number isContext length >>> 4).toNat = number
      ∧ decide (tagHeader number isContext length &&& 0x08 ≠ 0) = isContext
      ∧ (tagHeader number isContext length &&& 0x07).toNat = length
      ∧ (tagHeader number isContext length &&& 0x07 = 5 ↔ length = 5)
      ∧ (tagHeader number isContext length &&& 0x07 = 6 ↔ length = 6)
      ∧ (tagHeader number isContext length &&& 0x07 = 7 ↔ length = 7) := by
  decide

section Forms

variable {n : ℕ} (hn : n < 15) {isContext : Bool} {body : List UInt8}
include hn

/-- The head of a tag whose number is in its first octet. -/
theorem readTag_tagHeader {length : ℕ} (hlength : length < 8) (xs : List UInt8) :
    readTag (tagHeader n isContext length :: xs) 0
      = if isContext ∧ length = 6 then .ok (⟨n, true, .opens, []⟩, 1)
        else if isContext ∧ length = 7 then .ok (⟨n, true, .closes, []⟩, 1)
        else readTagLength (tagHeader n isContext length :: xs) (tagHeader n isContext length) 1
          >>= fun x =>
          if ¬ isContext ∧ n = 1 then
            if x.1 < 256 then .ok (⟨n, false, .value, [UInt8.ofNat x.1]⟩, x.2)
            else .error .valueError
          else .ok (⟨n, isContext, .value, slice (tagHeader n isContext length :: xs) x.2
            (x.2 + x.1)⟩, x.2 + x.1) := by
  obtain ⟨hshort, hnumber, hcontext, -, -, h6, h7⟩ :=
    tagHeader_fields n hn isContext length hlength
  have hfirst : index (tagHeader n isContext length :: xs) 0
      = .ok (tagHeader n isContext length) := rfl
  rw [readTag, hfirst]
  simp only [ok_bind, readTagNumber, if_neg hshort, hnumber, hcontext, h6, h7]

/-- An opening tag. -/
theorem tagged_opens : Tagged [tagHeader n true 6] [⟨n, true, .opens, []⟩] := by
  refine tagged_of_readTag ?_
  rw [readTag_tagHeader hn (by decide), if_pos ⟨rfl, rfl⟩]
  rfl

/-- A closing tag. -/
theorem tagged_closes : Tagged [tagHeader n true 7] [⟨n, true, .closes, []⟩] := by
  refine tagged_of_readTag ?_
  rw [readTag_tagHeader hn (by decide), if_neg (by simp), if_pos ⟨rfl, rfl⟩]
  rfl

/-- A tag whose length is read, and whose body is what is left. -/
theorem tagged_of_length {length : ℕ} (hlength : length ≤ 5) (rest : List UInt8)
    (hboolean : ¬ (isContext = false ∧ n = 1)) {p : ℕ}
    (hread : readTagLength (tagHeader n isContext length :: rest) (tagHeader n isContext length) 1
      = .ok (body.length, p))
    (hbody : (tagHeader n isContext length :: rest).drop p = body)
    (hp : p ≤ rest.length + 1) :
    Tagged (tagHeader n isContext length :: rest) [⟨n, isContext, .value, body⟩] := by
  have hsize : p + body.length = (tagHeader n isContext length :: rest).length := by
    rw [← hbody, List.length_drop, List.length_cons]
    omega
  have hslice : slice (tagHeader n isContext length :: rest) p (p + body.length) = body := by
    rw [slice, hbody, Nat.add_sub_cancel_left, List.take_length]
  refine tagged_of_readTag ?_
  rw [readTag_tagHeader hn (by omega), if_neg (by omega), if_neg (by omega), hread, ok_bind,
    if_neg (by simpa using hboolean)]
  simp only
  rw [hslice, hsize]

/-- A body of at most four octets. -/
theorem tagged_short (hbody : body.length ≤ 4) (hboolean : ¬ (isContext = false ∧ n = 1)) :
    Tagged (tagHeader n isContext body.length :: body) [⟨n, isContext, .value, body⟩] := by
  obtain ⟨-, -, -, hlow, h5, -⟩ := tagHeader_fields n hn isContext body.length (by omega)
  refine tagged_of_length hn (by omega) body hboolean ?_ List.drop_one (Nat.le_add_left _ _)
  rw [readTagLength, if_neg (fun h => by have := h5.mp h; omega), hlow]

/-- A body whose length is in one octet. -/
theorem tagged_long (hbody : body.length < 254) (hboolean : ¬ (isContext = false ∧ n = 1)) :
    Tagged (tagHeader n isContext 5 :: UInt8.ofNat body.length :: body)
      [⟨n, isContext, .value, body⟩] := by
  obtain ⟨-, -, -, -, h5, -⟩ := tagHeader_fields n hn isContext 5 (by decide)
  have hoctet : (UInt8.ofNat body.length).toNat = body.length :=
    UInt8.toNat_ofNat_of_lt' (lt_trans hbody (by decide))
  have hne : ∀ k : UInt8, 254 ≤ k.toNat → UInt8.ofNat body.length ≠ k := fun k hk heq => by
    rw [← heq, hoctet] at hk
    omega
  refine tagged_of_length hn le_rfl _ hboolean (p := 2) ?_ rfl (by simp)
  have hindex : index (tagHeader n isContext 5 :: UInt8.ofNat body.length :: body) 1
      = .ok (UInt8.ofNat body.length) := rfl
  rw [readTagLength, if_pos (h5.mpr rfl), hindex, ok_bind]
  simp only [if_neg (hne 254 (by decide)), if_neg (hne 255 (by decide)), hoctet]

/-- A body whose length is in two octets. -/
theorem tagged_extended (hbody : body.length < 2 ^ 16) (hboolean : ¬ (isContext = false ∧ n = 1)) :
    Tagged (tagHeader n isContext 5 :: 254 :: (octetsOf 2 body.length ++ body))
      [⟨n, isContext, .value, body⟩] := by
  obtain ⟨-, -, -, -, h5, -⟩ := tagHeader_fields n hn isContext 5 (by decide)
  refine tagged_of_length hn le_rfl _ hboolean (p := 4) ?_ rfl (by simp)
  have hindex : index (tagHeader n isContext 5 :: (254 :: octetsOf 2 body.length ++ body)) 1
      = .ok 254 := rfl
  rw [readTagLength, if_pos (h5.mpr rfl)]
  change (index (tagHeader n isContext 5 :: (254 :: octetsOf 2 body.length ++ body)) 1 >>= _) = _
  rw [hindex, ok_bind]
  have hunpack : unpack 2 (slice (tagHeader n isContext 5 :: (254 :: octetsOf 2 body.length ++ body))
      2 4) = .ok body.length :=
    unpack_eq_ok.mpr ⟨rfl, value_octetsOf (n := 2) (by omega)⟩
  simp only [if_true]
  change (unpack 2 (slice (tagHeader n isContext 5 :: (254 :: octetsOf 2 body.length ++ body))
      2 4) >>= _) = _
  rw [hunpack]
  rfl

end Forms

/-! The headers as the writers put them together. -/

section Headers

variable (n : ℕ)

theorem tagHeader_context (length : ℕ) :
    tagHeader n true length = UInt8.ofNat (n <<< 4 ||| 0x08 ||| length) := rfl

theorem tagHeader_application (length : ℕ) :
    tagHeader n false length = UInt8.ofNat (n <<< 4 ||| length) := by
  rw [tagHeader, if_neg Bool.false_ne_true, Nat.or_zero]

variable (hn : n < 15) (body : List UInt8)
include hn

theorem tagged_context (hbody : body.length ≤ 4) :
    Tagged (UInt8.ofNat (n <<< 4 ||| 0x08 ||| body.length) :: body) [⟨n, true, .value, body⟩] := by
  rw [← tagHeader_context]
  exact tagged_short hn hbody (by rintro ⟨⟨⟩, -⟩)

theorem tagged_context_long (hbody : body.length < 254) :
    Tagged (UInt8.ofNat (n <<< 4 ||| 0x08 ||| 5) :: UInt8.ofNat body.length :: body)
      [⟨n, true, .value, body⟩] := by
  rw [← tagHeader_context]
  exact tagged_long hn hbody (by rintro ⟨⟨⟩, -⟩)

theorem tagged_opening : Tagged [UInt8.ofNat (n <<< 4 ||| 0x0E)] [⟨n, true, .opens, []⟩] := by
  have hheader : n <<< 4 ||| 0x0E = n <<< 4 ||| 0x08 ||| 6 := by
    rw [Nat.or_assoc]
    rfl
  rw [hheader, ← tagHeader_context]
  exact tagged_opens hn

theorem tagged_closing : Tagged [UInt8.ofNat (n <<< 4 ||| 0x0F)] [⟨n, true, .closes, []⟩] := by
  have hheader : n <<< 4 ||| 0x0F = n <<< 4 ||| 0x08 ||| 7 := by
    rw [Nat.or_assoc]
    rfl
  rw [hheader, ← tagHeader_context]
  exact tagged_closes hn

variable (hboolean : n ≠ 1)
include hboolean

theorem tagged_application (hbody : body.length ≤ 4) :
    Tagged (UInt8.ofNat (n <<< 4 ||| body.length) :: body) [⟨n, false, .value, body⟩] := by
  rw [← tagHeader_application]
  exact tagged_short hn hbody fun hb => hboolean hb.2

theorem tagged_application_long (hbody : body.length < 254) :
    Tagged (UInt8.ofNat (n <<< 4 ||| 5) :: UInt8.ofNat body.length :: body)
      [⟨n, false, .value, body⟩] := by
  rw [← tagHeader_application]
  exact tagged_long hn hbody fun hb => hboolean hb.2

theorem tagged_application_extended (hbody : body.length < 2 ^ 16) :
    Tagged (UInt8.ofNat (n <<< 4 ||| 5) :: 254 :: (octetsOf 2 body.length ++ body))
      [⟨n, false, .value, body⟩] := by
  rw [← tagHeader_application]
  exact tagged_extended hn hbody fun hb => hboolean hb.2

end Headers

/-- An application BOOLEAN: its value is the length. -/
theorem tagged_boolean {length : ℕ} (hlength : length ≤ 4) :
    Tagged [tagHeader 1 false length] [⟨1, false, .value, [UInt8.ofNat length]⟩] := by
  obtain ⟨-, -, -, hlow, h5, -⟩ := tagHeader_fields 1 (by decide) false length (by omega)
  refine tagged_of_readTag ?_
  rw [readTag_tagHeader (by decide) (by omega), if_neg (by simp), if_neg (by simp), readTagLength,
    if_neg (fun h => by have := h5.mp h; omega), hlow, ok_bind, if_pos (by simp), if_pos (by omega)]
  rfl

end Controller
