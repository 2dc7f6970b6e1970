import ElevatorController.Wire.Application

/-!
# Wire/Requests — ReadProperty and WriteProperty, read back as they were written

    write_property_request(…)  = 00 05 id 0F  [0] object  [1] property  [2] index?  [3{ value }3]  [4] priority?
    parse_write_property_request(…)           ──▸ object, property, index, value, priority

The value is any `WellTagged` run of octets, also one with tags inside tags: the reader finds its
end by counting what opens and what closes.
-/

namespace Controller

open BigEndian Tokens

/-! ## Constructed data -/

/-- Octets that are tags, each that opens closed again. -/
def WellTagged (xs : List UInt8) : Prop := ∃ ts, Tagged xs ts ∧ Balanced Tag.kind ts

theorem wellTagged_nil : WellTagged [] := ⟨[], spells_nil, balanced_nil⟩

theorem WellTagged.append {xs ys : List UInt8} (h : WellTagged xs) (h' : WellTagged ys) :
    WellTagged (xs ++ ys) := by
  obtain ⟨ts, hts, hbalanced⟩ := h
  obtain ⟨us, hus, hbalanced'⟩ := h'
  exact ⟨ts ++ us, hts.append hus, hbalanced.append hbalanced'⟩

theorem wellTagged_of_value {xs : List UInt8} {t : Tag} (h : Tagged xs [t])
    (hkind : t.kind = .value) : WellTagged xs := ⟨[t], h, balanced_value hkind⟩

/-- A value may stand in a request. -/
theorem IsValue.wellTagged {v : Value} {xs : List UInt8} {t : Tag} (h : IsValue v xs t) :
    WellTagged xs := wellTagged_of_value h.tagged h.kind

/-- From just after an opening tag, to the closing tag: where it starts, and the position after
it. -/
def closingTag (data : List UInt8) (position : ℕ) : Except Raised (ℕ × ℕ) :=
  Tokens.closing Tag.kind (readTag data) .indexError data.length position

/-- `_constructed_body`. -/
def constructedBody (data : List UInt8) (position : ℕ) : Except Raised (List UInt8 × ℕ) := do
  let (stop, after) ← closingTag data position
  .ok (slice data position stop, after)

/-- `_constructed_end`, and `_skip_constructed`. -/
def constructedEnd (data : List UInt8) (position : ℕ) : Except Raised ℕ := do
  let (_, after) ← closingTag data position
  .ok after

theorem lt_of_constructedEnd {data : List UInt8} {p q : ℕ} (h : constructedEnd data p = .ok q) :
    p < q := by
  obtain ⟨⟨stop, after⟩, hclosing, h⟩ := bind_eq_ok.mp h
  cases h
  exact lt_of_closingFrom (advances_readTag data) hclosing

theorem lt_of_constructedBody {data inner : List UInt8} {p q : ℕ}
    (h : constructedBody data p = .ok (inner, q)) : p < q := by
  obtain ⟨⟨stop, after⟩, hclosing, h⟩ := bind_eq_ok.mp h
  cases h
  exact lt_of_closingFrom (advances_readTag data) hclosing

section Constructed

variable {n : ℕ} {inner closed : List UInt8} (hn : n < 15) (hclosed : closing n = some closed)
  (hinner : WellTagged inner) (a b : List UInt8)
include hn hclosed hinner

theorem closingTag_eq :
    closingTag (a ++ (inner ++ closed) ++ b) a.length
      = .ok (a.length + inner.length, a.length + (inner ++ closed).length) := by
  obtain ⟨ts, htagged, hbalanced⟩ := hinner
  obtain ⟨-, rfl⟩ := packB_eq_some hclosed
  have hclose := tagged_closing n hn
  have hdata : a ++ (inner ++ [UInt8.ofNat (n <<< 4 ||| 0x0F)]) ++ b
      = a ++ inner ++ ([UInt8.ofNat (n <<< 4 ||| 0x0F)] ++ b) := by
    simp only [List.append_assoc]
  have hread := reads_singleton.mp (hclose (a ++ inner) b)
  rw [List.append_assoc (a ++ inner), ← hdata] at hread
  have hreads := htagged a ([UInt8.ofNat (n <<< 4 ||| 0x0F)] ++ b)
  rw [← hdata] at hreads
  rw [List.length_append] at hread
  have hlength : a.length + (inner ++ [UInt8.ofNat (n <<< 4 ||| 0x0F)]).length
      = a.length + inner.length + 1 := by
    rw [List.length_append, List.length_singleton, Nat.add_assoc]
  rw [hlength]
  refine Tokens.closing_eq (advances_readTag _) hreads hread rfl ?_ hbalanced
  rw [List.length_append, List.length_append, List.length_append, List.length_singleton]
  omega

/-- The body of constructed data. -/
theorem constructedBody_eq :
    constructedBody (a ++ (inner ++ closed) ++ b) a.length
      = .ok (inner, a.length + (inner ++ closed).length) := by
  rw [constructedBody, closingTag_eq hn hclosed hinner, ok_bind]
  have hslice := slice_part a (closed ++ b) inner
  rw [← List.append_assoc, List.append_assoc a] at hslice
  simp only [hslice]

theorem constructedEnd_eq :
    constructedEnd (a ++ (inner ++ closed) ++ b) a.length
      = .ok (a.length + (inner ++ closed).length) := by
  rw [constructedEnd, closingTag_eq hn hclosed hinner, ok_bind]

end Constructed

/-! ## The readers -/

/-- `except (IndexError, struct.error): return None`. -/
def caught {α : Type} : Except Raised (Option α) → Except Raised (Option α)
  | .error .valueError => .error .valueError
  | .error _ => .ok none
  | .ok x => .ok x

/-- `struct.unpack(">I", body)`, and the type and the instance in it. -/
def objectIdentifier (body : List UInt8) : Except Raised (ℕ × ℕ) := do
  let raw ← unpack 4 body
  .ok (raw >>> 22, raw &&& maxInstance)

/-- What `parse_read_property_request` returns. -/
structure ReadRequest where
  objectType : ℕ
  objectInstance : ℕ
  propertyIdentifier : ℕ
  arrayIndex : Option ℕ
  deriving DecidableEq

/-- `parse_read_property_request`. -/
def parseReadPropertyRequest (apdu : List UInt8) (withArrayIndex : Bool) :
    Except Raised (Option ReadRequest) :=
  caught do
    let (object, position) ← readTag apdu 4
    let (objectType, objectInstance) ← objectIdentifier object.body
    let (property, position) ← readTag apdu position
    let propertyIdentifier := value property.body
    if withArrayIndex ∧ position < apdu.length then do
      let (tag, _) ← readTag apdu position
      let arrayIndex :=
        if tag.isContext ∧ tag.number = 2 ∧ tag.kind = .value then some (value tag.body) else none
      .ok (some { objectType, objectInstance, propertyIdentifier, arrayIndex })
    else .ok (some { objectType, objectInstance, propertyIdentifier, arrayIndex := none })

/-- What `parse_write_property_request` returns. -/
structure WriteRequest where
  objectType : ℕ
  objectInstance : ℕ
  propertyIdentifier : ℕ
  arrayIndex : Option ℕ
  valueOctets : List UInt8
  priority : Option ℕ
  deriving DecidableEq

/-- The array index of a WriteProperty, if the tag there is one, and the position after it. -/
def readArrayIndex (apdu : List UInt8) (position : ℕ) : Except Raised (Option ℕ × ℕ) := do
  let (tag, after) ← readTag apdu position
  if tag.number = 2 ∧ tag.kind = .value then .ok (some (value tag.body), after)
  else .ok (none, position)

/-- What is inside the opening tag of a WriteProperty, and the priority after it. -/
def readValueAndPriority (apdu : List UInt8) (position : ℕ) :
    Except Raised (List UInt8 × Option ℕ) := do
  let (_, start) ← readTag apdu position
  let (valueOctets, position) ← constructedBody apdu start
  if position < apdu.length then do
    let (level, _) ← readTag apdu position
    .ok (valueOctets, some (value level.body))
  else .ok (valueOctets, none)

/-- `parse_write_property_request`. -/
def parseWritePropertyRequest (apdu : List UInt8) : Except Raised (Option WriteRequest) :=
  caught do
    let first ← index apdu 0
    let service ← index apdu 3
    if first >>> 4 ≠ 0 ∨ service ≠ UInt8.ofNat serviceWriteProperty then .ok none
    else do
      let (object, position) ← readTag apdu 4
      let (objectType, objectInstance) ← objectIdentifier object.body
      let (property, position) ← readTag apdu position
      let propertyIdentifier := value property.body
      let (arrayIndex, position) ← readArrayIndex apdu position
      let (valueOctets, priority) ← readValueAndPriority apdu position
      .ok (some ⟨objectType, objectInstance, propertyIdentifier, arrayIndex, valueOctets, priority⟩)

/-- A pass of `read_property_value`.  The `return` inside the loop ends it. -/
def readPropertyValuePass (apdu : List UInt8) (_ : Option (List UInt8)) (position : ℕ) :
    Except Raised (Option (List UInt8) × ℕ) := do
  let (tag, position) ← readTag apdu position
  if tag.isContext ∧ tag.number = 3 ∧ tag.kind = .opens then do
    let (inner, after) ← constructedBody apdu position
    .ok (some inner, max after apdu.length)
  else .ok (none, position)

/-- `read_property_value`. -/
def readPropertyValue (apdu : List UInt8) : Except Raised (Option (List UInt8)) :=
  loop apdu.length (readPropertyValuePass apdu) none 3

/-! ## Reading on -/

section Drop

variable {data xs rest : List UInt8} {p : ℕ}

theorem length_of_drop_append (h : data.drop p = xs ++ rest) (hxs : xs ≠ []) :
    p + xs.length + rest.length = data.length := by
  have hlength := congrArg List.length h
  have hpos := List.length_pos_iff.mpr hxs
  rw [List.length_drop, List.length_append] at hlength
  omega

theorem eq_of_drop_append (h : data.drop p = xs ++ rest) (hxs : xs ≠ []) :
    data = data.take p ++ xs ++ rest ∧ (data.take p).length = p := by
  have hlength := length_of_drop_append h hxs
  refine ⟨?_, ?_⟩
  · rw [List.append_assoc, ← h, List.take_append_drop]
  · rw [List.length_take]
    omega

theorem Tagged.ne_nil {t : Tag} (h : Tagged xs [t]) : xs ≠ [] := by
  rintro rfl
  have := advances_readTag [] 0 t 0 (reads_singleton.mp h.reads)
  omega

/-- A tag is read where the rest starts with it. -/
theorem Tagged.readTag {t : Tag} (h : Tagged xs [t]) (hdrop : data.drop p = xs ++ rest) :
    Controller.readTag data p = .ok (t, p + xs.length) := by
  obtain ⟨hdata, hp⟩ := eq_of_drop_append hdrop h.ne_nil
  have hread := reads_singleton.mp (h (data.take p) rest)
  rwa [← hdata, hp] at hread

theorem drop_next (h : data.drop p = xs ++ rest) : data.drop (p + xs.length) = rest := by
  rw [← List.drop_drop, h, List.drop_left]

/-- The inside of constructed data, where the rest starts with it. -/
theorem WellTagged.constructedBody {n : ℕ} (hn : n < 15) {closed : List UInt8}
    (hclosed : closing n = some closed) (h : WellTagged xs)
    (hdrop : data.drop p = (xs ++ closed) ++ rest) :
    Controller.constructedBody data p = .ok (xs, p + (xs ++ closed).length) := by
  have hne : xs ++ closed ≠ [] := by
    obtain ⟨-, rfl⟩ := packB_eq_some hclosed
    exact List.append_ne_nil_of_right_ne_nil _ (List.cons_ne_nil _ _)
  obtain ⟨hdata, hp⟩ := eq_of_drop_append hdrop hne
  have hbody := constructedBody_eq hn hclosed h (data.take p) rest
  rwa [← hdata, hp] at hbody

/-- Where constructed data ends. -/
theorem WellTagged.constructedEnd {n : ℕ} (hn : n < 15) {closed : List UInt8}
    (hclosed : closing n = some closed) (h : WellTagged xs)
    (hdrop : data.drop p = (xs ++ closed) ++ rest) :
    Controller.constructedEnd data p = .ok (p + (xs ++ closed).length) := by
  have hbody := h.constructedBody hn hclosed hdrop
  rw [Controller.constructedBody] at hbody
  obtain ⟨x, hx, hbody⟩ := bind_eq_ok.mp hbody
  rw [Controller.constructedEnd, hx, ok_bind]
  exact congrArg Except.ok (Prod.mk.inj (Except.ok.inj hbody)).2

end Drop

/-! ## The parts of a request -/

section Parts

variable {xs : List UInt8}

theorem contextUnsigned_tagged {n v : ℕ} (hn : n < 15) (h : contextUnsigned n v = some xs) :
    ∃ body, value body = v ∧ body ≠ [] ∧ body.length ≤ 4 ∧ Tagged xs [⟨n, true, .value, body⟩] := by
  simp only [contextUnsigned, Option.bind_eq_bind, Option.bind_eq_some_iff] at h
  obtain ⟨body, hbody, header, hheader, hxs⟩ := h
  obtain ⟨k, h1, h4, hfits, rfl⟩ := unsignedOctets_eq_some hbody
  obtain ⟨-, rfl⟩ := packB_eq_some hheader
  obtain rfl := Option.some.inj hxs
  have hlength : (octetsOf k v).length ≤ 4 := by
    rw [length_octetsOf]
    exact h4
  exact ⟨_, value_octetsOf hfits, octetsOf_ne_nil h1 v, hlength,
    tagged_context n hn (octetsOf k v) hlength⟩

theorem contextObjectId_tagged {n objectType objectInstance : ℕ} (hn : n < 15)
    (h : contextObjectId n objectType objectInstance = some xs) :
    ∃ body, body.length = 4 ∧ Tagged xs [⟨n, true, .value, body⟩]
      ∧ (objectInstance ≤ maxInstance →
        objectIdentifier body = .ok (objectType, objectInstance)) := by
  simp only [contextObjectId, Option.bind_eq_bind, Option.bind_eq_some_iff] at h
  obtain ⟨header, hheader, body, hbody, hxs⟩ := h
  obtain ⟨hraw, rfl⟩ := packI_eq_some hbody
  obtain ⟨-, rfl⟩ := packB_eq_some hheader
  obtain rfl := Option.some.inj hxs
  have htagged := tagged_context n hn (octetsOf 4 (objectType <<< 22 ||| objectInstance))
    (by rw [length_octetsOf])
  rw [length_octetsOf] at htagged
  refine ⟨_, length_octetsOf 4 _, htagged, fun hinstance => ?_⟩
  obtain ⟨raw, hfits, heq, rfl, rfl⟩ := objectId_eq_some hbody hinstance
  rw [heq, objectIdentifier, unpack_octetsOf hfits]
  rfl

theorem opening_tagged {n : ℕ} (hn : n < 15) (h : opening n = some xs) :
    Tagged xs [⟨n, true, .opens, []⟩] := by
  obtain ⟨-, rfl⟩ := packB_eq_some h
  exact tagged_opening n hn

theorem closing_tagged {n : ℕ} (hn : n < 15) (h : closing n = some xs) :
    Tagged xs [⟨n, true, .closes, []⟩] := by
  obtain ⟨-, rfl⟩ := packB_eq_some h
  exact tagged_closing n hn

/-- What is enclosed in tags. -/
theorem WellTagged.enclose {n : ℕ} (hn : n < 15) {opened inner closed : List UInt8}
    (hopened : opening n = some opened) (hclosed : closing n = some closed)
    (h : WellTagged inner) : WellTagged (opened ++ inner ++ closed) := by
  obtain ⟨ts, htagged, hbalanced⟩ := h
  exact ⟨_, ((opening_tagged hn hopened).append htagged).append (closing_tagged hn hclosed),
    hbalanced.enclose rfl rfl⟩

end Parts

/-! ## Round trips -/

section RoundTrips

variable {apdu xs : List UInt8} {invokeId objectType objectInstance propertyIdentifier : ℕ}

/-- The octets of a confirmed request. -/
theorem confirmedRequest_eq_some {service : ℕ} {parameters : List UInt8}
    (h : confirmedRequest invokeId service parameters = some apdu) :
    service < 2 ^ 8
      ∧ apdu = 0x00 :: 0x05 :: UInt8.ofNat invokeId :: UInt8.ofNat service :: parameters := by
  simp only [confirmedRequest, Option.bind_eq_bind, Option.bind_eq_some_iff] at h
  obtain ⟨invoke, hinvoke, choice, hchoice, hxs⟩ := h
  obtain ⟨-, rfl⟩ := packB_eq_some hinvoke
  obtain ⟨hservice, rfl⟩ := packB_eq_some hchoice
  exact ⟨hservice, (Option.some.inj hxs).symm⟩

/-- What an optional context tag adds. -/
theorem ifGiven_eq_some {encode : ℕ → Option (List UInt8)} {v : Option ℕ}
    (h : ifGiven encode v = some xs) :
    (v = none ∧ xs = []) ∨ ∃ n, v = some n ∧ encode n = some xs := by
  cases v with
  | none => exact Or.inl ⟨rfl, (Option.some.inj h).symm⟩
  | some n => exact Or.inr ⟨n, rfl, h⟩

/-- An array index, or none before an opening tag. -/
theorem readArrayIndex_eq {index opened rest : List UInt8} {arrayIndex : Option ℕ} {p : ℕ}
    (hindex : ifGiven (contextUnsigned 2) arrayIndex = some index)
    (hopened : opening 3 = some opened) (hdrop : apdu.drop p = index ++ (opened ++ rest)) :
    readArrayIndex apdu p = .ok (arrayIndex, p + index.length) := by
  rw [readArrayIndex]
  obtain ⟨rfl, rfl⟩ | ⟨n, rfl, hn⟩ := ifGiven_eq_some hindex
  · rw [List.nil_append] at hdrop
    rw [(opening_tagged (by decide) hopened).readTag hdrop, ok_bind]
    simp only [reduceCtorEq, and_false, if_false, List.length_nil, Nat.add_zero]
  · obtain ⟨body, rfl, -, -, htagged⟩ := contextUnsigned_tagged (by decide) hn
    rw [htagged.readTag hdrop, ok_bind]
    simp only [and_self, if_true]

/-- The value and the priority, from the opening tag on. -/
theorem readValueAndPriority_eq {opened closed level valueOctets : List UInt8}
    {priority : Option ℕ} {p : ℕ} (hopened : opening 3 = some opened)
    (hclosed : closing 3 = some closed)
    (hlevel : ifGiven (contextUnsigned 4) priority = some level) (hvalue : WellTagged valueOctets)
    (hdrop : apdu.drop p = opened ++ ((valueOctets ++ closed) ++ level)) :
    readValueAndPriority apdu p = .ok (valueOctets, priority) := by
  have hinside := drop_next hdrop
  have hrest := drop_next hinside
  have hne : valueOctets ++ closed ≠ [] :=
    List.append_ne_nil_of_right_ne_nil _ (closing_tagged (by decide) hclosed).ne_nil
  have hlength := length_of_drop_append hinside hne
  rw [readValueAndPriority, (opening_tagged (by decide) hopened).readTag hdrop, ok_bind]
  simp only [hvalue.constructedBody (by decide) hclosed hinside, ok_bind]
  obtain ⟨rfl, rfl⟩ | ⟨n, rfl, hn⟩ := ifGiven_eq_some hlevel
  · rw [if_neg (by simp only [List.length_nil] at hlength; omega)]
  · obtain ⟨body, rfl, -, -, htagged⟩ := contextUnsigned_tagged (by decide) hn
    have hread := htagged.readTag (hrest.trans (List.append_nil _).symm)
    have hpos := List.length_pos_iff.mpr htagged.ne_nil
    rw [if_pos (by omega), hread, ok_bind]

/-- **A WriteProperty request is read back as it was written**, with any well tagged value, with or
without an array index and a priority. -/
theorem writePropertyRequest_read_back {valueOctets : List UInt8} {priority arrayIndex : Option ℕ}
    (h : writePropertyRequest invokeId objectType objectInstance propertyIdentifier valueOctets
      priority arrayIndex = some apdu)
    (hinstance : objectInstance ≤ maxInstance) (hvalue : WellTagged valueOctets) :
    parseWritePropertyRequest apdu
      = .ok (some ⟨objectType, objectInstance, propertyIdentifier, arrayIndex, valueOctets,
        priority⟩) := by
  simp only [writePropertyRequest, Option.bind_eq_bind, Option.bind_eq_some_iff] at h
  obtain ⟨object, hobject, property, hproperty, index, hindex, opened, hopened, closed, hclosed,
    level, hlevel, h⟩ := h
  obtain ⟨-, hapdu⟩ := confirmedRequest_eq_some h
  obtain ⟨ob, -, hobject, hob⟩ := contextObjectId_tagged (by decide) hobject
  replace hob := hob hinstance
  obtain ⟨pb, rfl, -, -, hproperty⟩ := contextUnsigned_tagged (by decide) hproperty
  have hdrop : apdu.drop 4
      = object ++ (property ++ (index ++ (opened ++ ((valueOctets ++ closed) ++ level)))) := by
    rw [hapdu]
    simp only [List.drop_succ_cons, List.drop_zero, List.append_assoc]
  have hdrop' := drop_next hdrop
  have hdrop'' := drop_next hdrop'
  have hfirst : Controller.index apdu 0 = .ok 0x00 := by rw [hapdu]; rfl
  have hservice : Controller.index apdu 3 = .ok (UInt8.ofNat serviceWriteProperty) := by
    rw [hapdu]
    rfl
  rw [parseWritePropertyRequest, hfirst, hservice, ok_bind, ok_bind, if_neg (by simp),
    hobject.readTag hdrop, ok_bind]
  simp only [hob, ok_bind, hproperty.readTag hdrop', readArrayIndex_eq hindex hopened hdrop'',
    readValueAndPriority_eq hopened hclosed hlevel hvalue (drop_next hdrop'')]
  rfl

theorem writePropertyRequest_read_back_atEight :
    parseWritePropertyRequest
        [0x00, 0x05, 0x01, 0x0F, 0x0C, 0x00, 0x40, 0x00, 0x01, 0x19, 0x55, 0x3E, 0x44, 0x42, 0x70,
          0x00, 0x00, 0x3F, 0x49, 0x08]
      = .ok (some ⟨1, 1, 85, none, [0x44, 0x42, 0x70, 0x00, 0x00], some 8⟩) := by
  have hencode : (Value.real 0x42700000).encode = some [0x44, 0x42, 0x70, 0x00, 0x00] := by rfl
  have hrequest : writePropertyRequest 1 1 1 85 [0x44, 0x42, 0x70, 0x00, 0x00] (some 8) none
      = some [0x00, 0x05, 0x01, 0x0F, 0x0C, 0x00, 0x40, 0x00, 0x01, 0x19, 0x55, 0x3E, 0x44, 0x42,
        0x70, 0x00, 0x00, 0x3F, 0x49, 0x08] := by rfl
  obtain ⟨t, ht⟩ := Value.isValue hencode trivial
  exact writePropertyRequest_read_back hrequest (by decide) ht.wellTagged

/-- **A ReadProperty request is read back as it was written.** -/
theorem readPropertyRequest_read_back {arrayIndex : Option ℕ}
    (h : readPropertyRequest invokeId objectType objectInstance propertyIdentifier arrayIndex
      = some apdu) (hinstance : objectInstance ≤ maxInstance) (withArrayIndex : Bool) :
    parseReadPropertyRequest apdu withArrayIndex
      = .ok (some ⟨objectType, objectInstance, propertyIdentifier,
        if withArrayIndex then arrayIndex else none⟩) := by
  simp only [readPropertyRequest, Option.bind_eq_bind, Option.bind_eq_some_iff] at h
  obtain ⟨object, hobject, property, hproperty, index, hindex, h⟩ := h
  obtain ⟨-, hapdu⟩ := confirmedRequest_eq_some h
  obtain ⟨ob, -, hobject, hob⟩ := contextObjectId_tagged (by decide) hobject
  replace hob := hob hinstance
  obtain ⟨pb, rfl, -, -, hproperty⟩ := contextUnsigned_tagged (by decide) hproperty
  have hdrop : apdu.drop 4 = object ++ (property ++ index) := by
    rw [hapdu]
    simp only [List.drop_succ_cons, List.drop_zero, List.append_assoc]
  have hdrop' := drop_next hdrop
  have hdrop'' := drop_next hdrop'
  have hlength := length_of_drop_append hdrop' hproperty.ne_nil
  rw [parseReadPropertyRequest, hobject.readTag hdrop, ok_bind]
  simp only [hob, ok_bind, hproperty.readTag hdrop']
  cases withArrayIndex with
  | false =>
    rw [if_neg (by simp)]
    rfl
  | true =>
    obtain ⟨rfl, rfl⟩ | ⟨n, rfl, hn⟩ := ifGiven_eq_some hindex
    · rw [if_neg (by simp only [List.length_nil] at hlength; omega)]
      rfl
    · obtain ⟨body, rfl, -, -, htagged⟩ := contextUnsigned_tagged (by decide) hn
      have hread := htagged.readTag (hdrop''.trans (List.append_nil _).symm)
      have hpos := List.length_pos_iff.mpr htagged.ne_nil
      rw [if_pos ⟨rfl, by omega⟩, hread, ok_bind]
      rfl

theorem passAdvances_readPropertyValue (apdu : List UInt8) :
    PassAdvances (readPropertyValuePass apdu) := by
  intro s p s' q h
  rw [readPropertyValuePass] at h
  obtain ⟨⟨tag, after⟩, hread, h⟩ := bind_eq_ok.mp h
  have hp := advances_readTag apdu p tag after hread
  simp only at h
  split at h
  · obtain ⟨⟨inner, after'⟩, -, h⟩ := bind_eq_ok.mp h
    cases h
    -- a tag was read at `p`, so `p` is inside
    exact lt_max_of_lt_right (lt_length_of_readTag hread)
  · cases h
    exact hp

/-- A tag that is not the opening one is passed over. -/
theorem readPropertyValue_pass {t : Tag} {rest : List UInt8} {p : ℕ} (h : Tagged xs [t])
    (hkind : t.kind = .value) (hdrop : apdu.drop p = xs ++ rest) :
    loop apdu.length (readPropertyValuePass apdu) none p
      = loop apdu.length (readPropertyValuePass apdu) none (p + xs.length) := by
  have hread := h.readTag hdrop
  refine loop_pass (passAdvances_readPropertyValue apdu) (lt_length_of_readTag hread) ?_
  rw [readPropertyValuePass, hread, ok_bind]
  simp only [hkind, reduceCtorEq, and_false, if_false]

/-- **A ReadProperty acknowledgement gives back the value that was put in it.** -/
theorem readPropertyAck_read_back {valueOctets : List UInt8}
    (h : readPropertyAck invokeId objectType objectInstance propertyIdentifier valueOctets
      = some apdu) (hvalue : WellTagged valueOctets) :
    readPropertyValue apdu = .ok (some valueOctets) := by
  simp only [readPropertyAck, Option.bind_eq_bind, Option.bind_eq_some_iff] at h
  obtain ⟨invoke, hinvoke, choice, hchoice, object, hobject, property, hproperty, opened, hopened,
    closed, hclosed, h⟩ := h
  obtain ⟨-, rfl⟩ := packB_eq_some hinvoke
  obtain ⟨-, rfl⟩ := packB_eq_some hchoice
  obtain ⟨ob, -, hobject, -⟩ := contextObjectId_tagged (by decide) hobject
  obtain ⟨pb, -, -, -, hproperty⟩ := contextUnsigned_tagged (by decide) hproperty
  have hdrop : apdu.drop 3 = object ++ (property ++ (opened ++ ((valueOctets ++ closed) ++ []))) := by
    rw [← Option.some.inj h]
    simp only [List.cons_append, List.nil_append, List.drop_succ_cons, List.drop_zero,
      List.append_assoc, List.append_nil]
  have hdrop' := drop_next hdrop
  have hdrop'' := drop_next hdrop'
  have hopen := (opening_tagged (by decide) hopened).readTag hdrop''
  rw [readPropertyValue, readPropertyValue_pass hobject rfl hdrop,
    readPropertyValue_pass hproperty rfl hdrop']
  have hpass : ∃ q, readPropertyValuePass apdu none (3 + object.length + property.length)
      = .ok (some valueOctets, max q apdu.length) := by
    rw [readPropertyValuePass, hopen, ok_bind]
    simp only [and_self, if_true, hvalue.constructedBody (by decide) hclosed (drop_next hdrop''),
      ok_bind]
    exact ⟨_, rfl⟩
  obtain ⟨q, hpass⟩ := hpass
  rw [loop_pass (passAdvances_readPropertyValue apdu) (lt_length_of_readTag hopen) hpass,
    loop_of_le (le_max_right _ _)]

end RoundTrips

end Controller
