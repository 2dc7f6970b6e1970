import ElevatorController.Machinery.Dictionary
import ElevatorController.Wire.Requests

/-!
# Wire/PropertyMultiple — a ReadPropertyMultiple from the client's question to its answer

    client   read_property_multiple_request ──▸ read_access_specifications      server
                                                         │ value of each property
    client   parse_read_property_multiple_ack ◂── read_property_multiple_ack    server

The server reads the question into a dictionary of objects, and the client the answer into a
dictionary of results; an object asked for twice is answered once, for its last list, and a property
without a value is an error in the answer.
-/

namespace Controller

open BigEndian Tokens

def serviceReadPropertyMultiple : ℕ := 14

/-! ## The client's question -/

/-- A reference: a property, or one element of it. -/
abbrev PropertyReferenceOf := ℕ × Option ℕ

/-- The octets of one reference in a `read_access_specification`. -/
def referenceOctets (reference : PropertyReferenceOf) : Option (List UInt8) := do
  let property ← contextUnsigned 0 reference.1
  let index ← ifGiven (contextUnsigned 1) reference.2
  some (property ++ index)

/-- One object of the question. -/
structure AccessSpecification where
  objectType : ℕ
  objectInstance : ℕ
  references : List PropertyReferenceOf

/-- `read_access_specification`. -/
def readAccessSpecification (specification : AccessSpecification) : Option (List UInt8) := do
  let object ← contextObjectId 0 specification.objectType specification.objectInstance
  let opened ← opening 1
  let references ← specification.references.mapM referenceOctets
  let closed ← closing 1
  some (object ++ opened ++ references.flatten ++ closed)

/-- `read_property_multiple_request`. -/
def readPropertyMultipleRequest (invokeId : ℕ) (specifications : List AccessSpecification) :
    Option (List UInt8) := do
  let parameters ← specifications.mapM readAccessSpecification
  confirmedRequest invokeId serviceReadPropertyMultiple parameters.flatten

/-! ## The server's reading -/

/-- The dictionary of `read_access_specifications`, and the object it is at. -/
abbrev Members := List ((ℕ × ℕ) × List ℕ) × Option (ℕ × ℕ)

/-- What a pass of `read_access_specifications` does with a tag. -/
def accessTake (s : Members) (tag : Tag) : Except Raised Members :=
  if tag.kind = .value ∧ tag.isContext ∧ tag.number = 0 ∧ tag.body.length = 4 ∧ s.2 = none then do
    let object ← objectIdentifier tag.body
    .ok (Dictionary.set object [] s.1, some object)
  else
    match s.2 with
    | some object =>
      if tag.kind = .value ∧ tag.isContext ∧ tag.number = 0 then
        .ok (Dictionary.modify object (· ++ [value tag.body]) s.1, some object)
      else if tag.kind = .closes ∧ tag.number = 1 then .ok (s.1, none)
      else .ok s
    | none => .ok s

/-- `read_access_specifications`. -/
def readAccessSpecifications (octets : List UInt8) :
    Except Raised (List ((ℕ × ℕ) × List ℕ)) := do
  let (members, _) ← loop octets.length (take (readTag octets) accessTake) ([], none) 0
  .ok members

/-! ## The server's answer -/

def errorClassProperty : ℕ := 2
def errorCodeUnknownProperty : ℕ := 32

/-- One property of a `read_property_multiple_ack`. -/
def propertyResult (property : ℕ × Option (List UInt8)) : Option (List UInt8) := do
  let identifier ← contextUnsigned 2 property.1
  match property.2 with
  | none => do
    let opened ← opening 5
    let unknownProperty ← errorNumbers errorClassProperty errorCodeUnknownProperty
    let closed ← closing 5
    some (identifier ++ (opened ++ unknownProperty ++ closed))
  | some valueOctets => do
    let opened ← opening 4
    let closed ← closing 4
    some (identifier ++ (opened ++ valueOctets ++ closed))

/-- One object of a `read_property_multiple_ack`. -/
def objectResults (object : (ℕ × ℕ) × List (ℕ × Option (List UInt8))) : Option (List UInt8) := do
  let identifier ← contextObjectId 0 object.1.1 object.1.2
  let opened ← opening 1
  let properties ← object.2.mapM propertyResult
  let closed ← closing 1
  some (identifier ++ opened ++ properties.flatten ++ closed)

/-- `read_property_multiple_ack`. -/
def readPropertyMultipleAck (invokeId : ℕ)
    (results : List ((ℕ × ℕ) × List (ℕ × Option (List UInt8)))) : Option (List UInt8) := do
  let invoke ← packB invokeId
  let body ← results.mapM objectResults
  some (0x30 :: invoke ++ UInt8.ofNat serviceReadPropertyMultiple :: body.flatten)

/-! ## The client's reading -/

/-- A result: the value, or the numbers of the error. -/
inductive PropertyResult where
  | value (octets : List UInt8)
  | error (codes : List ℕ)
  deriving DecidableEq

/-- What a result is kept under: the property, and the index if one came. -/
abbrev ResultReference := Option ℕ × Option ℕ

/-- The state of `parse_read_property_multiple_ack`. -/
structure AckState where
  results : List ((ℕ × ℕ) × List (ResultReference × PropertyResult)) := []
  current : Option (ℕ × ℕ) := none
  propertyIdentifier : Option ℕ := none
  arrayIndex : Option ℕ := none

/-- `_complex_ack`, of the payload of a frame. -/
def complexAck (payload : List UInt8) (service : Option ℕ) :
    Except Raised (Option (List UInt8)) :=
  match payload, service with
  | [], _ => .ok none
  | first :: _, none => .ok (if first >>> 4 ≠ 3 then none else some payload)
  | first :: _, some service =>
    if first >>> 4 ≠ 3 then .ok none
    else do
      let octet ← index payload 2
      .ok (if octet ≠ UInt8.ofNat service then none else some payload)

/-- A pass of `parse_read_property_multiple_ack`. -/
def ackPass (apdu : List UInt8) (s : AckState) (position : ℕ) :
    Except Raised (AckState × ℕ) := do
  let (tag, position) ← readTag apdu position
  if tag.kind = .value ∧ tag.isContext ∧ tag.number = 0 then do
    let object ← objectIdentifier tag.body
    .ok ({ s with
      results := Dictionary.setDefault object [] s.results
      current := some object }, position)
  else if tag.kind = .value ∧ tag.isContext ∧ tag.number = 2 then
    .ok ({ s with propertyIdentifier := some (value tag.body), arrayIndex := none }, position)
  else if tag.kind = .value ∧ tag.isContext ∧ tag.number = 3 then
    .ok ({ s with arrayIndex := some (value tag.body) }, position)
  else
    match s.current with
    | some object =>
      if tag.kind = .opens ∧ (tag.number = 4 ∨ tag.number = 5) then do
        let (inner, position) ← constructedBody apdu position
        let reference : ResultReference := (s.propertyIdentifier, s.arrayIndex)
        if tag.number = 4 then
          .ok ({ s with
            results := Dictionary.modify object (Dictionary.set reference (.value inner))
              s.results }, position)
        else do
          let values ← applicationValues inner
          .ok ({ s with
            results := Dictionary.modify object (Dictionary.set reference
              (.error ((values.take 2).map fun x => value x.2))) s.results }, position)
      else .ok (s, position)
    | none => .ok (s, position)

/-- `parse_read_property_multiple_ack`, of the payload of the answer. -/
def parseReadPropertyMultipleAck (payload : List UInt8) :
    Except Raised (Option (List ((ℕ × ℕ) × List (ResultReference × PropertyResult)))) := do
  match ← complexAck payload (some serviceReadPropertyMultiple) with
  | none => .ok none
  | some apdu => caught do
    let s ← loop apdu.length (ackPass apdu) {} 3
    .ok (some s.results)

/-! ## The question is read as it was asked -/

/-- The dictionary of what was asked: each object with the properties of its last list. -/
def askedFor (specifications : List AccessSpecification) : List ((ℕ × ℕ) × List ℕ) :=
  specifications.foldl
    (fun d s => Dictionary.set (s.objectType, s.objectInstance) (s.references.map Prod.fst) d) []

section Question

variable {xs : List UInt8}

/-- A tag that is taken. -/
theorem does_accessTake {t : Tag} {s s' : Members} (h : Tagged xs [t])
    (ht : accessTake s t = .ok s') : Does (fun data => take (readTag data) accessTake) xs s s' := by
  refine does_tokens advances_readTag h ?_
  rw [List.foldlM_cons, ht]
  rfl

theorem accessTake_object (members : List ((ℕ × ℕ) × List ℕ)) {body : List UInt8} {object : ℕ × ℕ}
    (hlength : body.length = 4) (h : objectIdentifier body = .ok object) :
    accessTake (members, none) ⟨0, true, .value, body⟩
      = .ok (Dictionary.set object [] members, some object) := by
  rw [accessTake, if_pos ⟨rfl, rfl, rfl, hlength, rfl⟩, h]
  rfl

section At

variable (members : List ((ℕ × ℕ) × List ℕ)) (object : ℕ × ℕ)

/-- A property of the object, whatever its length. -/
theorem accessTake_property (body : List UInt8) :
    accessTake (members, some object) ⟨0, true, .value, body⟩
      = .ok (Dictionary.modify object (· ++ [value body]) members, some object) := by
  rw [accessTake, if_neg (by rintro ⟨-, -, -, -, ⟨⟩⟩)]
  exact if_pos ⟨rfl, rfl, rfl⟩

/-- An array index is passed over. -/
theorem accessTake_index (body : List UInt8) :
    accessTake (members, some object) ⟨1, true, .value, body⟩ = .ok (members, some object) := rfl

theorem accessTake_opens :
    accessTake (members, some object) ⟨1, true, .opens, []⟩ = .ok (members, some object) := rfl

theorem accessTake_closes :
    accessTake (members, some object) ⟨1, true, .closes, []⟩ = .ok (members, none) := rfl

end At

theorem does_reference {reference : PropertyReferenceOf} (h : referenceOctets reference = some xs)
    (object : ℕ × ℕ) (members : List ((ℕ × ℕ) × List ℕ)) :
    Does (fun data => take (readTag data) accessTake) xs (members, some object)
      (Dictionary.modify object (· ++ [reference.1]) members, some object) := by
  simp only [referenceOctets, Option.bind_eq_bind, Option.bind_eq_some_iff] at h
  obtain ⟨property, hproperty, index, hindex, hxs⟩ := h
  obtain rfl := Option.some.inj hxs
  obtain ⟨pb, hpb, -, -, hproperty⟩ := contextUnsigned_tagged (by decide) hproperty
  rw [← hpb]
  refine (does_accessTake hproperty (accessTake_property members object pb)).append ?_
  obtain ⟨-, rfl⟩ | ⟨n, -, hn⟩ := ifGiven_eq_some hindex
  · exact does_nil _
  · obtain ⟨ib, -, -, -, htagged⟩ := contextUnsigned_tagged (by decide) hn
    exact does_accessTake htagged (accessTake_index _ object ib)

theorem does_references {references : List PropertyReferenceOf} {xss : List (List UInt8)}
    (h : List.Forall₂ (fun r xs => referenceOctets r = some xs) references xss) (object : ℕ × ℕ)
    (properties : List ℕ) (members : List ((ℕ × ℕ) × List ℕ)) :
    Does (fun data => take (readTag data) accessTake) xss.flatten
      (Dictionary.set object properties members, some object)
      (Dictionary.set object (properties ++ references.map Prod.fst) members, some object) := by
  induction h generalizing properties with
  | nil =>
    rw [List.map_nil, List.append_nil]
    exact does_nil _
  | cons hxs _ ih =>
    rename_i r _ _ _ _
    have hfirst := does_reference hxs object (Dictionary.set object properties members)
    rw [Dictionary.modify_set] at hfirst
    have hrest := ih (properties ++ [r.1])
    rw [List.append_assoc] at hrest
    exact hfirst.append hrest

/-- An object of the question. -/
theorem does_specification {specification : AccessSpecification}
    (h : readAccessSpecification specification = some xs)
    (hinstance : specification.objectInstance ≤ maxInstance) (members : List ((ℕ × ℕ) × List ℕ)) :
    Does (fun data => take (readTag data) accessTake) xs (members, none)
      (Dictionary.set (specification.objectType, specification.objectInstance)
        (specification.references.map Prod.fst) members, none) := by
  simp only [readAccessSpecification, Option.bind_eq_bind, Option.bind_eq_some_iff] at h
  obtain ⟨object, hobject, opened, hopened, references, hreferences, closed, hclosed, hxs⟩ := h
  obtain rfl := Option.some.inj hxs
  obtain ⟨ob, hlength, hobject, hob⟩ := contextObjectId_tagged (by decide) hobject
  replace hob := hob hinstance
  have hkey := does_accessTake hobject (accessTake_object members hlength hob)
  have hopen := does_accessTake (opening_tagged (by decide) hopened) (accessTake_opens
    (Dictionary.set (specification.objectType, specification.objectInstance) [] members)
    (specification.objectType, specification.objectInstance))
  have hrefs := does_references (forall₂_of_mapM hreferences)
    (specification.objectType, specification.objectInstance) [] members
  have hclose := does_accessTake (closing_tagged (by decide) hclosed) (accessTake_closes
    (Dictionary.set (specification.objectType, specification.objectInstance)
      (specification.references.map Prod.fst) members)
    (specification.objectType, specification.objectInstance))
  exact ((hkey.append hopen).append hrefs).append hclose

end Question

/-- **The server reads the question into the dictionary of what was asked.** -/
theorem readAccessSpecifications_eq {specifications : List AccessSpecification} {invokeId : ℕ}
    {apdu : List UInt8} (h : readPropertyMultipleRequest invokeId specifications = some apdu)
    (hinstance : ∀ s ∈ specifications, s.objectInstance ≤ maxInstance) :
    readAccessSpecifications (apdu.drop 4) = .ok (askedFor specifications) := by
  simp only [readPropertyMultipleRequest, Option.bind_eq_bind, Option.bind_eq_some_iff] at h
  obtain ⟨parameters, hparameters, h⟩ := h
  obtain ⟨-, rfl⟩ := confirmedRequest_eq_some h
  have hdoes : ∀ {specifications : List AccessSpecification} {xss : List (List UInt8)},
      List.Forall₂ (fun s xs => readAccessSpecification s = some xs) specifications xss →
      (∀ s ∈ specifications, s.objectInstance ≤ maxInstance) →
      ∀ members, Does (fun data => take (readTag data) accessTake) xss.flatten (members, none)
        (specifications.foldl (fun d s => Dictionary.set (s.objectType, s.objectInstance)
          (s.references.map Prod.fst) d) members, none) := by
    intro specifications xss hall
    induction hall with
    | nil => exact fun _ members => does_nil _
    | cons hxs _ ih =>
      intro hinstance members
      exact (does_specification hxs (hinstance _ List.mem_cons_self) members).append
        (ih (fun s hs => hinstance s (List.mem_cons_of_mem _ hs)) _)
  have hall := hdoes (forall₂_of_mapM hparameters) hinstance []
  rw [List.drop_succ_cons, List.drop_succ_cons, List.drop_succ_cons, List.drop_succ_cons,
    List.drop_zero, readAccessSpecifications, hall.loop_eq]
  rfl

/-! ## The answer is read as it was given -/

/-- The result of a property: its value, or that there is none. -/
def resultOf : Option (List UInt8) → PropertyResult
  | none => .error [errorClassProperty, errorCodeUnknownProperty]
  | some octets => .value octets

/-- The results of one object. -/
def resultsOf (properties : List (ℕ × Option (List UInt8)))
    (d : List (ResultReference × PropertyResult)) : List (ResultReference × PropertyResult) :=
  properties.foldl (fun d property =>
    Dictionary.set (some property.1, none) (resultOf property.2) d) d

/-- What was answered, as the client keeps it. -/
def answered (results : List ((ℕ × ℕ) × List (ℕ × Option (List UInt8)))) :
    List ((ℕ × ℕ) × List (ResultReference × PropertyResult)) :=
  results.map fun object => (object.1, resultsOf object.2 [])

section Answer

variable {xs : List UInt8} {s : AckState} {object : ℕ × ℕ}

theorem passAdvances_ackPass (apdu : List UInt8) : PassAdvances (ackPass apdu) := by
  intro s p s' q h
  rw [ackPass] at h
  obtain ⟨⟨tag, after⟩, hread, h⟩ := bind_eq_ok.mp h
  have hp := advances_readTag apdu p tag after hread
  simp only at h
  split at h
  · obtain ⟨object, -, h⟩ := bind_eq_ok.mp h
    cases h
    exact hp
  · split at h
    · cases h
      exact hp
    · split at h
      · cases h
        exact hp
      · split at h
        · split at h
          · obtain ⟨⟨inner, after'⟩, hbody, h⟩ := bind_eq_ok.mp h
            have hp' := lt_of_constructedBody hbody
            simp only at h
            split at h
            · cases h
              exact lt_trans hp hp'
            · obtain ⟨values, -, h⟩ := bind_eq_ok.mp h
              cases h
              exact lt_trans hp hp'
          · cases h
            exact hp
        · cases h
          exact hp

/-- One tag of the answer. -/
theorem does_ackPass {t : Tag} {s' : AckState} (h : Tagged xs [t])
    (hpass : ∀ data p after, readTag data p = .ok (t, after) →
      ackPass data s p = .ok (s', after)) : Does ackPass xs s s' :=
  does_of_pass passAdvances_ackPass fun a b =>
    hpass _ _ _ (reads_singleton.mp (h a b))

/-- An object starts. -/
theorem ackPass_object {body : List UInt8} (hbody : objectIdentifier body = .ok object)
    {data : List UInt8} {p after : ℕ}
    (hread : readTag data p = .ok (⟨0, true, .value, body⟩, after)) :
    ackPass data s p = .ok ({ s with
      results := Dictionary.setDefault object [] s.results
      current := some object }, after) := by
  rw [ackPass, hread, ok_bind]
  simp only [and_self, if_true, hbody, ok_bind]

/-- A property starts. -/
theorem ackPass_property {body data : List UInt8} {p after : ℕ}
    (hread : readTag data p = .ok (⟨2, true, .value, body⟩, after)) :
    ackPass data s p = .ok ({ s with
      propertyIdentifier := some (value body)
      arrayIndex := none }, after) := by
  rw [ackPass, hread]
  rfl

/-- The tags around the properties of an object are passed over. -/
theorem ackPass_around {k : Kind} (hk : k = .opens ∨ k = .closes) {data : List UInt8}
    {p after : ℕ} (hread : readTag data p = .ok (⟨1, true, k, []⟩, after)) :
    ackPass data s p = .ok (s, after) := by
  rw [ackPass, hread, ok_bind]
  obtain rfl | rfl := hk
  · cases hcurrent : s.current with
    | none => rfl
    | some object => rfl
  · cases hcurrent : s.current with
    | none => rfl
    | some object => rfl

/-- A value or an error between its tags. -/
theorem does_inner {n : ℕ} (hn : n = 4 ∨ n = 5) {opened inner closed : List UInt8}
    (hopened : opening n = some opened) (hclosed : closing n = some closed)
    (hinner : WellTagged inner) {r : PropertyResult}
    (hr : n = 4 ∧ r = .value inner ∨ n = 5 ∧ ∃ values, applicationValues inner = .ok values
      ∧ r = .error ((values.take 2).map fun x => value x.2))
    (hcurrent : s.current = some object) :
    Does ackPass (opened ++ inner ++ closed) s { s with
      results := Dictionary.modify object
        (Dictionary.set (s.propertyIdentifier, s.arrayIndex) r) s.results } := by
  have hlt : n < 15 := by omega
  refine does_of_pass passAdvances_ackPass fun a b => ?_
  have hdrop : (a ++ (opened ++ inner ++ closed) ++ b).drop a.length
      = opened ++ ((inner ++ closed) ++ b) := by
    simp only [List.append_assoc, List.drop_left]
  have hopen := (opening_tagged hlt hopened).readTag hdrop
  have hbody := hinner.constructedBody hlt hclosed (drop_next hdrop)
  have hend : a.length + opened.length + (inner ++ closed).length
      = a.length + (opened ++ inner ++ closed).length := by
    simp only [List.length_append]
    omega
  rw [hend] at hbody
  rw [ackPass, hopen, ok_bind]
  obtain ⟨rfl, rfl⟩ | ⟨rfl, values, hvalues, rfl⟩ := hr
  · simp only [reduceCtorEq, false_and, if_false, hcurrent, true_or, and_self, if_true, hbody,
      ok_bind]
  · simp only [reduceCtorEq, false_and, if_false, hcurrent, or_true, and_self, if_true, hbody,
      ok_bind, hvalues, Nat.reduceEqDiff]

/-- One property of the answer. -/
theorem does_propertyResult {property : ℕ × Option (List UInt8)}
    (h : propertyResult property = some xs)
    (hvalue : ∀ octets, property.2 = some octets → WellTagged octets)
    {R : List ((ℕ × ℕ) × List (ResultReference × PropertyResult))}
    {d : List (ResultReference × PropertyResult)} (hcurrent : s.current = some object)
    (hresults : s.results = Dictionary.set object d R) :
    ∃ s', Does ackPass xs s s' ∧ s'.current = some object
      ∧ s'.results
        = Dictionary.set object (Dictionary.set (some property.1, none) (resultOf property.2) d) R := by
  obtain ⟨p, v⟩ := property
  simp only [propertyResult, Option.bind_eq_bind, Option.bind_eq_some_iff] at h
  obtain ⟨identifier, hidentifier, h⟩ := h
  obtain ⟨body, rfl, -, -, hidentifier⟩ := contextUnsigned_tagged (by decide) hidentifier
  have hproperty := does_ackPass (s := s) hidentifier fun data p after hread =>
    ackPass_property hread
  cases v with
  | none =>
    simp only [Option.bind_eq_some_iff] at h
    obtain ⟨opened, hopened, inner, hinner, closed, hclosed, hxs⟩ := h
    obtain rfl := Option.some.inj hxs
    obtain ⟨b₁, b₂, htagged, hvalues, hb₁, hb₂⟩ := exists_errorNumbers hinner
    have hwell : WellTagged inner := ⟨_, htagged, balanced_of_values (by simp)⟩
    refine ⟨_, hproperty.append (does_inner (Or.inr rfl) hopened hclosed hwell
      (Or.inr ⟨rfl, _, hvalues, rfl⟩) hcurrent), hcurrent, ?_⟩
    simp only [hresults, Dictionary.modify_set, List.take_succ_cons, List.take_zero, List.map_cons,
      List.map_nil, hb₁, hb₂, resultOf]
  | some octets =>
    simp only [Option.bind_eq_some_iff] at h
    obtain ⟨opened, hopened, closed, hclosed, hxs⟩ := h
    obtain rfl := Option.some.inj hxs
    refine ⟨_, hproperty.append (does_inner (Or.inl rfl) hopened hclosed (hvalue octets rfl)
      (Or.inl ⟨rfl, rfl⟩) hcurrent), hcurrent, ?_⟩
    simp only [hresults, Dictionary.modify_set, resultOf]

/-- The properties of an object. -/
theorem does_properties {properties : List (ℕ × Option (List UInt8))} {xss : List (List UInt8)}
    (h : List.Forall₂ (fun property xs => propertyResult property = some xs) properties xss)
    (hvalue : ∀ property ∈ properties, ∀ octets, property.2 = some octets → WellTagged octets)
    {R : List ((ℕ × ℕ) × List (ResultReference × PropertyResult))} {s : AckState}
    {d : List (ResultReference × PropertyResult)} (hcurrent : s.current = some object)
    (hresults : s.results = Dictionary.set object d R) :
    ∃ s', Does ackPass xss.flatten s s' ∧ s'.current = some object
      ∧ s'.results = Dictionary.set object (resultsOf properties d) R := by
  induction h generalizing s d with
  | nil => exact ⟨s, does_nil s, hcurrent, hresults⟩
  | cons hxs _ ih =>
    obtain ⟨s₁, hdoes₁, hcurrent₁, hresults₁⟩ := does_propertyResult hxs
      (hvalue _ List.mem_cons_self) hcurrent hresults
    obtain ⟨s₂, hdoes₂, hcurrent₂, hresults₂⟩ := ih
      (fun property hproperty => hvalue property (List.mem_cons_of_mem _ hproperty))
      hcurrent₁ hresults₁
    exact ⟨s₂, hdoes₁.append hdoes₂, hcurrent₂, hresults₂⟩

/-- One object of the answer, which is not in the results yet. -/
theorem does_objectResults {result : (ℕ × ℕ) × List (ℕ × Option (List UInt8))}
    (h : objectResults result = some xs) (hinstance : result.1.2 ≤ maxInstance)
    (hvalue : ∀ property ∈ result.2, ∀ octets, property.2 = some octets → WellTagged octets)
    (hnew : result.1 ∉ s.results.map Prod.fst) :
    ∃ s', Does ackPass xs s s' ∧ s'.results = s.results ++ [(result.1, resultsOf result.2 [])] := by
  obtain ⟨object, properties⟩ := result
  simp only [objectResults, Option.bind_eq_bind, Option.bind_eq_some_iff] at h
  obtain ⟨identifier, hidentifier, opened, hopened, xss, hxss, closed, hclosed, hxs⟩ := h
  obtain rfl := Option.some.inj hxs
  obtain ⟨body, -, hidentifier, hbody⟩ := contextObjectId_tagged (by decide) hidentifier
  replace hbody := hbody hinstance
  have hobject := does_ackPass (s := s) hidentifier fun data p after hread =>
    ackPass_object hbody hread
  rw [Dictionary.setDefault_of_not_mem hnew] at hobject
  obtain ⟨s₁, hdoes, -, hresults⟩ := does_properties (forall₂_of_mapM hxss) hvalue
    (s := { s with
      results := Dictionary.set object [] s.results
      current := some object }) rfl rfl
  have hopen := does_ackPass (s := { s with
      results := Dictionary.set object [] s.results
      current := some object }) (opening_tagged (by decide) hopened)
    fun data p after hread => ackPass_around (Or.inl rfl) hread
  have hclose := does_ackPass (s := s₁) (closing_tagged (by decide) hclosed)
    fun data p after hread => ackPass_around (Or.inr rfl) hread
  refine ⟨s₁, ((hobject.append hopen).append hdoes).append hclose, ?_⟩
  rw [hresults, Dictionary.set_of_not_mem hnew]

end Answer

/-- **The client reads the answer into what was answered**, for objects that are apart. -/
theorem parseReadPropertyMultipleAck_eq {invokeId : ℕ} {apdu : List UInt8}
    {results : List ((ℕ × ℕ) × List (ℕ × Option (List UInt8)))}
    (h : readPropertyMultipleAck invokeId results = some apdu)
    (hnodup : (results.map Prod.fst).Nodup) (hinstance : ∀ result ∈ results, result.1.2 ≤ maxInstance)
    (hvalue : ∀ result ∈ results, ∀ property ∈ result.2, ∀ octets, property.2 = some octets →
      WellTagged octets) :
    parseReadPropertyMultipleAck apdu = .ok (some (answered results)) := by
  simp only [readPropertyMultipleAck, Option.bind_eq_bind, Option.bind_eq_some_iff] at h
  obtain ⟨invoke, hinvoke, body, hbody, h⟩ := h
  obtain ⟨-, rfl⟩ := packB_eq_some hinvoke
  have hdoes : ∀ {results : List ((ℕ × ℕ) × List (ℕ × Option (List UInt8)))}
      {xss : List (List UInt8)},
      List.Forall₂ (fun result xs => objectResults result = some xs) results xss →
      (∀ result ∈ results, result.1.2 ≤ maxInstance) →
      (∀ result ∈ results, ∀ property ∈ result.2, ∀ octets, property.2 = some octets →
        WellTagged octets) →
      ∀ s : AckState, (s.results.map Prod.fst ++ results.map Prod.fst).Nodup →
      ∃ s', Does ackPass xss.flatten s s' ∧ s'.results = s.results ++ answered results := by
    intro results xss hall
    induction hall with
    | nil =>
      intro _ _ s _
      exact ⟨s, does_nil s, (List.append_nil _).symm⟩
    | cons hxs _ ih =>
      rename_i result _ results _ _
      intro hinstance hvalue s hnodup
      rw [List.map_cons] at hnodup
      have hnew : result.1 ∉ s.results.map Prod.fst := fun hmem =>
        (List.nodup_append.mp hnodup).2.2 _ hmem _ List.mem_cons_self rfl
      obtain ⟨s₁, hdoes₁, hresults₁⟩ := does_objectResults hxs (hinstance _ List.mem_cons_self)
        (hvalue _ List.mem_cons_self) hnew
      obtain ⟨s₂, hdoes₂, hresults₂⟩ := ih
        (fun r hr => hinstance r (List.mem_cons_of_mem _ hr))
        (fun r hr => hvalue r (List.mem_cons_of_mem _ hr)) s₁ (by
          rw [hresults₁, List.map_append, List.append_assoc]
          exact hnodup)
      refine ⟨s₂, hdoes₁.append hdoes₂, ?_⟩
      rw [hresults₂, hresults₁, List.append_assoc]
      rfl
  obtain ⟨s, hs, hresults⟩ := hdoes (forall₂_of_mapM hbody) hinstance hvalue {} (by simpa using hnodup)
  have hloop := hs.loop_rest [0x30, UInt8.ofNat invokeId, UInt8.ofNat serviceReadPropertyMultiple]
  have hapdu : [0x30, UInt8.ofNat invokeId, UInt8.ofNat serviceReadPropertyMultiple] ++ body.flatten
      = apdu := by
    rw [← Option.some.inj h]
    rfl
  rw [hapdu] at hloop
  have hcomplex : complexAck apdu (some serviceReadPropertyMultiple) = .ok (some apdu) := by
    rw [← hapdu]
    rfl
  rw [parseReadPropertyMultipleAck, hcomplex, ok_bind]
  change caught (loop apdu.length (ackPass apdu) {} 3 >>= fun s => .ok (some s.results)) = _
  rw [show (3 : ℕ) = [0x30, UInt8.ofNat invokeId, UInt8.ofNat serviceReadPropertyMultiple].length
    from rfl, hloop, ok_bind, hresults]
  rfl

/-! ## What the results hold -/

section Results

variable {specifications : List AccessSpecification}

theorem nodup_askedFor : ((askedFor specifications).map Prod.fst).Nodup := by
  have h : ∀ d : List ((ℕ × ℕ) × List ℕ), (d.map Prod.fst).Nodup →
      ((specifications.foldl (fun d s => Dictionary.set (s.objectType, s.objectInstance)
        (s.references.map Prod.fst) d) d).map Prod.fst).Nodup := by
    induction specifications with
    | nil => exact fun _ hd => hd
    | cons s specifications ih => exact fun d hd => ih _ (Dictionary.nodup_set hd _ _)
  exact h [] List.nodup_nil

/-- What is asked for was asked for by one of the specifications. -/
theorem mem_askedFor {member : (ℕ × ℕ) × List ℕ} (h : member ∈ askedFor specifications) :
    ∃ s ∈ specifications, member = ((s.objectType, s.objectInstance), s.references.map Prod.fst) := by
  have hfold : ∀ d : List ((ℕ × ℕ) × List ℕ),
      member ∈ specifications.foldl (fun d s => Dictionary.set (s.objectType, s.objectInstance)
        (s.references.map Prod.fst) d) d →
      member ∈ d ∨ ∃ s ∈ specifications,
        member = ((s.objectType, s.objectInstance), s.references.map Prod.fst) := by
    clear h
    induction specifications with
    | nil => exact fun d h => Or.inl h
    | cons s specifications ih =>
      intro d h
      obtain h | ⟨s', hs', hmember⟩ := ih _ h
      · obtain hnew | hold := Dictionary.mem_set h
        · exact Or.inr ⟨s, List.mem_cons_self, hnew⟩
        · exact Or.inl hold
      · exact Or.inr ⟨s', List.mem_cons_of_mem _ hs', hmember⟩
  exact (hfold [] h).resolve_left List.not_mem_nil

/-- The results of an object hold what each of its properties was answered with. -/
theorem get_resultsOf (value : ℕ → Option (List UInt8)) (properties : List ℕ) (property : ℕ)
    (d : List (ResultReference × PropertyResult)) :
    Dictionary.get (some property, none) (resultsOf (properties.map fun q => (q, value q)) d)
      = if property ∈ properties then some (resultOf (value property))
        else Dictionary.get (some property, none) d := by
  induction properties generalizing d with
  | nil => exact (if_neg List.not_mem_nil).symm
  | cons q properties ih =>
    rw [List.map_cons, resultsOf, List.foldl_cons, ← resultsOf, ih, Dictionary.get_set]
    by_cases hmem : property ∈ properties
    · rw [if_pos hmem, if_pos (List.mem_cons_of_mem _ hmem)]
    · rw [if_neg hmem]
      by_cases hq : q = property
      · rw [hq, if_pos rfl, if_pos List.mem_cons_self]
      · rw [if_neg (fun h => hq (Option.some.inj (congrArg Prod.fst h))),
          if_neg fun h => (List.mem_cons.mp h).elim (fun h => hq h.symm) hmem]

theorem get_answered (results : List ((ℕ × ℕ) × List (ℕ × Option (List UInt8)))) (object : ℕ × ℕ) :
    Dictionary.get object (answered results)
      = (Dictionary.get object results).map fun properties => resultsOf properties [] :=
  Dictionary.get_map (fun _ properties => resultsOf properties []) object results

end Results

end Controller
