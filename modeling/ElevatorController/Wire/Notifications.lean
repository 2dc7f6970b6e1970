import ElevatorController.Wire.Datagrams

/-!
# Wire/Notifications — an event notification, written and read

    [0] process  [1] device  [2] object  [3 [2] date time] …  [9] [10] [11]  [12 [5] … ]

`event_notification` and `EventNotification` of `wiretest/alarm.py`.  The reader keeps the primitive
parts, reads the time stamp inside its two tags, and passes over everything else that is opened, so
it finds the fields of a notification whatever its event values are.
-/

namespace Controller

open BigEndian Tokens

/-! ## Context-tagged values -/

/-- `context_real`, of the bits of the value. -/
def contextReal (tag bits : ℕ) : Option (List UInt8) := do
  let header ← packB (tag <<< 4 ||| 0x08 ||| 4)
  let body ← packI bits
  some (header ++ body)

/-- `context_boolean`: one octet, unlike the application form. -/
def contextBoolean (tag : ℕ) (value : Bool) : Option (List UInt8) := do
  let header ← packB (tag <<< 4 ||| 0x08 ||| 1)
  some (header ++ [if value then 1 else 0])

/-- `context_bit_string`: the octets of the application form, after its first. -/
def contextBitString (tag : ℕ) (bits : List Bool) : Option (List UInt8) := do
  let octets ← applicationBitString bits
  let header ← packB (tag <<< 4 ||| 0x08 ||| (octets.drop 1).length)
  some (header ++ octets.drop 1)

/-- `context_character_string`, of the UTF-8 octets of the text. -/
def contextCharacterString (tag : ℕ) (text : List UInt8) : Option (List UInt8) :=
  let body := 0x00 :: text
  if body.length < 5 then do
    let header ← packB (tag <<< 4 ||| 0x08 ||| body.length)
    some (header ++ body)
  else do
    let header ← packB (tag <<< 4 ||| 0x08 ||| 5)
    let length ← packB body.length
    some (header ++ length ++ body)

/-- `context_enumerated`: the same octets, since a context tag carries no type. -/
def contextEnumerated (tag value : ℕ) : Option (List UInt8) := contextUnsigned tag value

/-- The octets of a date and a time. -/
abbrev DateTimeOctets := List UInt8 × List UInt8

/-- `context_date_time`. -/
def contextDateTime (tag : ℕ) (dateTime : DateTimeOctets) : Option (List UInt8) := do
  let opened ← opening tag
  let inside ← opening 2
  let outside ← closing 2
  let closed ← closing tag
  some (opened ++ inside ++ 0xA4 :: dateTime.1 ++ 0xB4 :: dateTime.2 ++ outside ++ closed)

section Context

variable {n : ℕ} {xs : List UInt8}

theorem contextReal_tagged {bits : ℕ} (hn : n < 15) (h : contextReal n bits = some xs) :
    ∃ body, Tagged xs [⟨n, true, .value, body⟩] := by
  simp only [contextReal, Option.bind_eq_bind, Option.bind_eq_some_iff] at h
  obtain ⟨header, hheader, body, hbody, hxs⟩ := h
  obtain ⟨-, rfl⟩ := packB_eq_some hheader
  obtain ⟨-, rfl⟩ := packI_eq_some hbody
  obtain rfl := Option.some.inj hxs
  have hlength := length_octetsOf 4 bits
  have htagged := tagged_context n hn (octetsOf 4 bits) (by omega)
  rw [hlength] at htagged
  exact ⟨_, htagged⟩

theorem contextBoolean_tagged {value : Bool} (hn : n < 15) (h : contextBoolean n value = some xs) :
    Tagged xs [⟨n, true, .value, [if value then 1 else 0]⟩] := by
  simp only [contextBoolean, Option.bind_eq_bind, Option.bind_eq_some_iff] at h
  obtain ⟨header, hheader, hxs⟩ := h
  obtain ⟨-, rfl⟩ := packB_eq_some hheader
  obtain rfl := Option.some.inj hxs
  exact tagged_context n hn [if value then 1 else 0] (show 1 ≤ 4 by decide)

theorem contextBitString_tagged {bits : List Bool} (hn : n < 15)
    (h : contextBitString n bits = some xs) (hbits : bits.length ≤ 24) :
    ∃ body, Tagged xs [⟨n, true, .value, body⟩] := by
  simp only [contextBitString, applicationBitString, Option.bind_eq_bind,
    Option.bind_eq_some_iff] at h
  obtain ⟨octets, ⟨unused, hunused, first, hfirst, hoctets⟩, header, hheader, hxs⟩ := h
  obtain ⟨-, rfl⟩ := packB_eq_some hunused
  obtain ⟨-, rfl⟩ := packB_eq_some hfirst
  obtain ⟨-, rfl⟩ := packB_eq_some hheader
  obtain rfl := Option.some.inj hoctets
  obtain rfl := Option.some.inj hxs
  refine ⟨_, tagged_context n hn _ ?_⟩
  have hlength := length_bitOctets bits
  simp only [List.cons_append, List.nil_append, List.drop_succ_cons, List.drop_zero,
    List.length_cons]
  omega

theorem contextCharacterString_tagged {text : List UInt8} (hn : n < 15) (htext : text.length < 253)
    (h : contextCharacterString n text = some xs) :
    Tagged xs [⟨n, true, .value, 0x00 :: text⟩] := by
  rw [contextCharacterString] at h
  split at h
  · rename_i hshort
    obtain ⟨header, hheader, hxs⟩ := Option.bind_eq_some_iff.mp h
    obtain ⟨-, rfl⟩ := packB_eq_some hheader
    obtain rfl := Option.some.inj hxs
    exact tagged_context n hn (0x00 :: text) (by omega)
  · simp only [Option.bind_eq_bind, Option.bind_eq_some_iff] at h
    obtain ⟨header, hheader, length, hlength, hxs⟩ := h
    obtain ⟨-, rfl⟩ := packB_eq_some hheader
    obtain ⟨-, rfl⟩ := packB_eq_some hlength
    obtain rfl := Option.some.inj hxs
    exact tagged_context_long n hn (0x00 :: text) (by rw [List.length_cons]; omega)

end Context

/-! ## The writer -/

def serviceConfirmedEventNotification : ℕ := 2
def serviceUnconfirmedEventNotification : ℕ := 3
def eventStateNormal : ℕ := 0
def notifyTypeAlarm : ℕ := 0
def notifyTypeAckNotification : ℕ := 2
def eventTypeOutOfRange : ℕ := 5

/-- A local time, as `event_notification` is given it. -/
structure EventTime where
  year : ℕ
  month : ℕ
  day : ℕ
  weekday : ℕ
  hour : ℕ
  minute : ℕ
  second : ℕ

/-- The arguments of `event_notification`, with their defaults. -/
structure EventArguments where
  initiatingDevice : ℕ
  eventObject : ℕ × ℕ
  toState : ℕ
  fromState : ℕ := eventStateNormal
  confirmed : Bool := false
  invokeId : ℕ := 0
  processIdentifier : ℕ := 1
  notificationClass : ℕ := 1
  priority : ℕ := 100
  notifyType : ℕ := notifyTypeAlarm
  ackRequired : Bool := true
  messageText : Option (List UInt8) := none
  timeStamp : EventTime := ⟨2026, 10, 15, 4, 12, 30, 0⟩
  /-- The bits of 95.0. -/
  exceedingValue : ℕ := 0x42BE0000
  /-- The bits of 90.0. -/
  exceededLimit : ℕ := 0x42B40000

/-- The octets of a time stamp: those of the date and of the time, without their tags. -/
def EventTime.stamp (t : EventTime) : Option DateTimeOctets := do
  let date ← applicationDate t.year t.month t.day t.weekday
  let time ← applicationTime t.hour t.minute t.second 0
  some (date.drop 1, time.drop 1)

/-- `[12] eventValues`, of an out-of-range event: the bits of the deadband are those of 1.0. -/
def eventValues (a : EventArguments) : Option (List UInt8) := do
  let opened ← opening 12
  let choice ← opening 5
  let exceeding ← contextReal 0 a.exceedingValue
  let flags ← contextBitString 1 [decide (a.toState ≠ eventStateNormal), false, false, false]
  let deadband ← contextReal 2 0x3F800000
  let limit ← contextReal 3 a.exceededLimit
  let chosen ← closing 5
  let closed ← closing 12
  some (opened ++ (choice ++ (exceeding ++ flags ++ deadband ++ limit) ++ chosen) ++ closed)

/-- `[7] messageText`, if there is one. -/
def eventMessage (a : EventArguments) : Option (List UInt8) :=
  match a.messageText with
  | some text => contextCharacterString 7 text
  | none => some []

/-- What follows the notify type. -/
def eventStates (a : EventArguments) : Option (List UInt8) :=
  if a.notifyType ≠ notifyTypeAckNotification then do
    let ack ← contextBoolean 9 a.ackRequired
    let fromState ← contextEnumerated 10 a.fromState
    let toState ← contextEnumerated 11 a.toState
    let values ← eventValues a
    some (ack ++ fromState ++ toState ++ values)
  else contextEnumerated 11 a.toState

/-- The parameters of `event_notification`. -/
def eventParameters (a : EventArguments) : Option (List UInt8) := do
  let stamp ← a.timeStamp.stamp
  let process ← contextUnsigned 0 a.processIdentifier
  let device ← contextObjectId 1 objectTypeDevice a.initiatingDevice
  let object ← contextObjectId 2 a.eventObject.1 a.eventObject.2
  let time ← contextDateTime 3 stamp
  let notificationClass ← contextUnsigned 4 a.notificationClass
  let priority ← contextUnsigned 5 a.priority
  let eventType ← contextEnumerated 6 eventTypeOutOfRange
  let message ← eventMessage a
  let notifyType ← contextEnumerated 8 a.notifyType
  let states ← eventStates a
  some (process ++ (device ++ (object ++ (time ++ (notificationClass ++ (priority ++ (eventType
    ++ (message ++ (notifyType ++ states)))))))))

/-- `event_notification`. -/
def eventNotification (a : EventArguments) : Option (List UInt8) := do
  let parameters ← eventParameters a
  if a.confirmed then confirmedRequest a.invokeId serviceConfirmedEventNotification parameters
  else some (0x10 :: UInt8.ofNat serviceUnconfirmedEventNotification :: parameters)

/-! ## The reader -/

/-- `EventNotification`, without the frame it keeps. -/
structure EventNotification where
  confirmed : Bool
  invokeId : Option UInt8 := none
  processIdentifier : Option ℕ := none
  initiatingDevice : Option (ℕ × ℕ) := none
  eventObject : Option (ℕ × ℕ) := none
  timeStamp : Option DateTimeOctets := none
  notificationClass : Option ℕ := none
  priority : Option ℕ := none
  eventType : Option ℕ := none
  notifyType : Option ℕ := none
  ackRequired : Option Bool := none
  fromState : Option ℕ := none
  toState : Option ℕ := none
  deriving DecidableEq

/-- `read_time_stamp_choice`. -/
def readTimeStampChoice (octets : List UInt8) (position : ℕ) :
    Except Raised (Option DateTimeOctets × ℕ) := do
  let (tag, inner) ← readTag octets position
  if tag.kind = .opens ∧ tag.number = 2 then do
    let (date, position) ← readTag octets inner
    let (time, position) ← readTag octets position
    let (_, position) ← readTag octets position
    .ok (some (date.body, time.body), position)
  else if tag.kind = .opens then do
    let position ← constructedEnd octets inner
    .ok (none, position)
  else .ok (none, inner)

/-- `_read_time_stamp`. -/
def readTimeStamp (octets : List UInt8) (position : ℕ) :
    Except Raised (Option DateTimeOctets × ℕ) := do
  let (stamp, position) ← readTimeStampChoice octets position
  let (_, position) ← readTag octets position
  .ok (stamp, position)

namespace EventNotification

/-- What a primitive part says. -/
def note (s : EventNotification) (number : ℕ) (body : List UInt8) :
    Except Raised EventNotification :=
  match number with
  | 0 => .ok { s with processIdentifier := some (value body) }
  | 1 => do
    let identifier ← objectIdentifier body
    .ok { s with initiatingDevice := some identifier }
  | 2 => do
    let identifier ← objectIdentifier body
    .ok { s with eventObject := some identifier }
  | 4 => .ok { s with notificationClass := some (value body) }
  | 5 => .ok { s with priority := some (value body) }
  | 6 => .ok { s with eventType := some (value body) }
  | 8 => .ok { s with notifyType := some (value body) }
  | 9 => .ok { s with ackRequired := some (decide (value body ≠ 0)) }
  | 10 => .ok { s with fromState := some (value body) }
  | 11 => .ok { s with toState := some (value body) }
  | _ => .ok s

/-- A pass of the loop of `__init__`. -/
def pass (octets : List UInt8) (s : EventNotification) (position : ℕ) :
    Except Raised (EventNotification × ℕ) := do
  let (tag, position) ← readTag octets position
  if tag.kind = .opens then
    if tag.number = 3 then do
      let (stamp, position) ← readTimeStamp octets position
      .ok ({ s with timeStamp := stamp }, position)
    else do
      let position ← constructedEnd octets position
      .ok (s, position)
  else if tag.kind ≠ .value ∨ tag.isContext = false then .ok (s, position)
  else do
    let s ← s.note tag.number tag.body
    .ok (s, position)

/-- `EventNotification(frame)`. -/
def ofFrame (frame : Frame) : Except Raised EventNotification := do
  let confirmed : Bool := frame.pduType = some 0
  let invokeId ← if confirmed then frame.invokeId else .ok none
  let octets := frame.payload.drop (if confirmed then 4 else 2)
  loop octets.length (pass octets) { confirmed, invokeId } 0

end EventNotification

/-- `is_event_notification`. -/
def isEventNotification (frame : Frame) : Bool :=
  frame.networkMessage = none
    ∧ ((frame.pduType = some 0
        ∧ frame.service = .ok (some (UInt8.ofNat serviceConfirmedEventNotification)))
      ∨ (frame.pduType = some 1
        ∧ frame.service = .ok (some (UInt8.ofNat serviceUnconfirmedEventNotification))))

/-! ## What was written is read -/

section Read

variable {xs : List UInt8} {s s' : EventNotification}

theorem lt_of_readTimeStamp {octets : List UInt8} {p q : ℕ} {stamp : Option DateTimeOctets}
    (h : readTimeStamp octets p = .ok (stamp, q)) : p < q := by
  obtain ⟨⟨choice, after⟩, hchoice, h⟩ := bind_eq_ok.mp h
  obtain ⟨⟨tag, last⟩, hlast, h⟩ := bind_eq_ok.mp h
  have hq := advances_readTag octets after tag last hlast
  obtain rfl : last = q := (Prod.mk.inj (Except.ok.inj h)).2
  refine lt_trans ?_ hq
  rw [readTimeStampChoice] at hchoice
  obtain ⟨⟨first, inner⟩, hfirst, hchoice⟩ := bind_eq_ok.mp hchoice
  have hinner := advances_readTag octets p first inner hfirst
  simp only at hchoice
  split at hchoice
  · obtain ⟨⟨date, p₁⟩, hdate, hchoice⟩ := bind_eq_ok.mp hchoice
    obtain ⟨⟨time, p₂⟩, htime, hchoice⟩ := bind_eq_ok.mp hchoice
    obtain ⟨⟨closed, p₃⟩, hclosed, hchoice⟩ := bind_eq_ok.mp hchoice
    cases hchoice
    have h₁ := advances_readTag octets _ _ _ hdate
    have h₂ := advances_readTag octets _ _ _ htime
    have h₃ := advances_readTag octets _ _ _ hclosed
    exact lt_trans hinner (lt_trans h₁ (lt_trans h₂ h₃))
  · split at hchoice
    · obtain ⟨stop, hstop, hchoice⟩ := bind_eq_ok.mp hchoice
      cases hchoice
      exact lt_trans hinner (lt_of_constructedEnd hstop)
    · cases hchoice
      exact hinner

theorem EventNotification.passAdvances_pass (octets : List UInt8) : PassAdvances (pass octets) := by
  intro s p s' q h
  rw [pass] at h
  obtain ⟨⟨tag, after⟩, hread, h⟩ := bind_eq_ok.mp h
  have hp := advances_readTag octets p tag after hread
  simp only at h
  split at h
  · split at h
    · obtain ⟨⟨stamp, after'⟩, hstamp, h⟩ := bind_eq_ok.mp h
      cases h
      exact lt_trans hp (lt_of_readTimeStamp hstamp)
    · obtain ⟨after', hend, h⟩ := bind_eq_ok.mp h
      cases h
      exact lt_trans hp (lt_of_constructedEnd hend)
  · split at h
    · cases h
      exact hp
    · obtain ⟨s₁, -, h⟩ := bind_eq_ok.mp h
      cases h
      exact hp

/-- A primitive part is noted. -/
theorem does_note {n : ℕ} {body : List UInt8} (h : Tagged xs [⟨n, true, .value, body⟩])
    (hnote : s.note n body = .ok s') : Does EventNotification.pass xs s s' := by
  refine does_of_pass EventNotification.passAdvances_pass fun a b => ?_
  rw [EventNotification.pass, reads_singleton.mp (h a b), ok_bind]
  simp only [reduceCtorEq, if_false, ne_eq, not_true_eq_false, Bool.true_eq_false, or_self, hnote,
    ok_bind]

/-- A constructed part, other than the time stamp, is passed over. -/
theorem does_passOver {n : ℕ} (hn : n < 15) (hnot : n ≠ 3) {opened inner closed : List UInt8}
    (hopened : opening n = some opened) (hclosed : closing n = some closed)
    (hinner : WellTagged inner) (s : EventNotification) :
    Does EventNotification.pass (opened ++ inner ++ closed) s s := by
  refine does_of_pass EventNotification.passAdvances_pass fun a b => ?_
  have hdrop : (a ++ (opened ++ inner ++ closed) ++ b).drop a.length
      = opened ++ ((inner ++ closed) ++ b) := by
    simp only [List.append_assoc, List.drop_left]
  have hopen := (opening_tagged hn hopened).readTag hdrop
  have hend := hinner.constructedEnd hn hclosed (drop_next hdrop)
  have hlength : a.length + opened.length + (inner ++ closed).length
      = a.length + (opened ++ inner ++ closed).length := by
    simp only [List.length_append]
    omega
  rw [hlength] at hend
  rw [EventNotification.pass, hopen, ok_bind]
  simp only [if_true, if_neg hnot, hend, ok_bind]

/-- The time stamp is read. -/
theorem does_timeStamp {date time : List UInt8} (hdate : date.length = 4) (htime : time.length = 4)
    (h : contextDateTime 3 (date, time) = some xs) (s : EventNotification) :
    Does EventNotification.pass xs s { s with timeStamp := some (date, time) } := by
  simp only [contextDateTime, Option.bind_eq_bind, Option.bind_eq_some_iff] at h
  obtain ⟨opened, hopened, inside, hinside, outside, houtside, closed, hclosed, h⟩ := h
  obtain rfl := Option.some.inj h
  have htagDate : Tagged (0xA4 :: date) [⟨10, false, .value, date⟩] := by
    have := tagged_application 10 (by decide) date (by decide) hdate.le
    rwa [hdate] at this
  have htagTime : Tagged (0xB4 :: time) [⟨11, false, .value, time⟩] := by
    have := tagged_application 11 (by decide) time (by decide) htime.le
    rwa [htime] at this
  refine does_of_pass EventNotification.passAdvances_pass fun a b => ?_
  have hdrop : (a ++ (opened ++ inside ++ 0xA4 :: date ++ 0xB4 :: time ++ outside ++ closed)
      ++ b).drop a.length = opened ++ (inside ++ ((0xA4 :: date) ++ ((0xB4 :: time)
        ++ (outside ++ (closed ++ b))))) := by
    simp only [List.append_assoc, List.drop_left]
  have hdrop₁ := drop_next hdrop
  have hdrop₂ := drop_next hdrop₁
  have hdrop₃ := drop_next hdrop₂
  have hdrop₄ := drop_next hdrop₃
  have hstamp := (closing_tagged (by decide) hclosed).readTag (drop_next hdrop₄)
  rw [EventNotification.pass, (opening_tagged (by decide) hopened).readTag hdrop, ok_bind]
  simp only [if_true, readTimeStamp, readTimeStampChoice,
    (opening_tagged (by decide) hinside).readTag hdrop₁, htagDate.readTag hdrop₂,
    htagTime.readTag hdrop₃, (closing_tagged (by decide) houtside).readTag hdrop₄, hstamp, ok_bind,
    and_self]
  refine congrArg (fun q => Except.ok (_, q)) ?_
  simp only [List.length_append, Nat.add_assoc]

end Read

/-! ## The round trip -/

/-- What is read of a notification that is written with these arguments. -/
def EventArguments.reported (a : EventArguments) : EventNotification where
  confirmed := a.confirmed
  invokeId := if a.confirmed then some (UInt8.ofNat a.invokeId) else none
  processIdentifier := some a.processIdentifier
  initiatingDevice := some (objectTypeDevice, a.initiatingDevice)
  eventObject := some a.eventObject
  timeStamp := some
    ([.ofNat (a.timeStamp.year - 1900), .ofNat a.timeStamp.month, .ofNat a.timeStamp.day,
        .ofNat a.timeStamp.weekday],
      [.ofNat a.timeStamp.hour, .ofNat a.timeStamp.minute, .ofNat a.timeStamp.second, 0])
  notificationClass := some a.notificationClass
  priority := some a.priority
  eventType := some eventTypeOutOfRange
  notifyType := some a.notifyType
  ackRequired := if a.notifyType = notifyTypeAckNotification then none else some a.ackRequired
  fromState := if a.notifyType = notifyTypeAckNotification then none else some a.fromState
  toState := some a.toState

section RoundTrip

variable {xs : List UInt8} {s : EventNotification}

/-- A part with an unsigned or an enumerated. -/
theorem does_unsigned {n v : ℕ} (noted : ℕ → EventNotification) (hn : n < 15)
    (h : contextUnsigned n v = some xs) (hnote : ∀ body, s.note n body = .ok (noted (value body))) :
    Does EventNotification.pass xs s (noted v) := by
  obtain ⟨body, rfl, -, -, htagged⟩ := contextUnsigned_tagged hn h
  exact does_note htagged (hnote body)

/-- The event values are passed over. -/
theorem does_eventValues {a : EventArguments} (h : eventValues a = some xs)
    (s : EventNotification) : Does EventNotification.pass xs s s := by
  simp only [eventValues, Option.bind_eq_bind, Option.bind_eq_some_iff] at h
  obtain ⟨opened, hopened, choice, hchoice, exceeding, hexceeding, flags, hflags, deadband,
    hdeadband, limit, hlimit, chosen, hchosen, closed, hclosed, h⟩ := h
  obtain rfl := Option.some.inj h
  obtain ⟨_, hexceeding⟩ := contextReal_tagged (by decide) hexceeding
  obtain ⟨_, hflags⟩ := contextBitString_tagged (by decide) hflags (show 4 ≤ 24 by decide)
  obtain ⟨_, hdeadband⟩ := contextReal_tagged (by decide) hdeadband
  obtain ⟨_, hlimit⟩ := contextReal_tagged (by decide) hlimit
  refine does_passOver (by decide) (by decide) hopened hclosed ?_ s
  refine WellTagged.enclose (by decide) hchoice hchosen ?_
  exact (((wellTagged_of_value hexceeding rfl).append (wellTagged_of_value hflags rfl)).append
    (wellTagged_of_value hdeadband rfl)).append (wellTagged_of_value hlimit rfl)

/-- What follows the notify type. -/
theorem does_eventStates {a : EventArguments} (h : eventStates a = some xs)
    (s : EventNotification) :
    Does EventNotification.pass xs s { s with
      ackRequired := if a.notifyType = notifyTypeAckNotification then s.ackRequired
        else some a.ackRequired
      fromState := if a.notifyType = notifyTypeAckNotification then s.fromState
        else some a.fromState
      toState := some a.toState } := by
  rw [eventStates] at h
  split at h
  · rename_i htype
    simp only [Option.bind_eq_bind, Option.bind_eq_some_iff] at h
    obtain ⟨ack, hack, fromState, hfrom, toState, hto, values, hvalues, h⟩ := h
    obtain rfl := Option.some.inj h
    rw [if_neg htype, if_neg htype]
    have hacked : s.note 9 [if a.ackRequired then 1 else 0]
        = .ok { s with ackRequired := some a.ackRequired } := by
      cases a.ackRequired <;> rfl
    let s₁ : EventNotification := { s with ackRequired := some a.ackRequired }
    let s₂ : EventNotification := { s₁ with fromState := some a.fromState }
    let s₃ : EventNotification := { s₂ with toState := some a.toState }
    have h₁ : Does EventNotification.pass ack s s₁ :=
      does_note (contextBoolean_tagged (by decide) hack) hacked
    have h₂ : Does EventNotification.pass fromState s₁ s₂ :=
      does_unsigned (fun v => { s₁ with fromState := some v }) (by decide) hfrom fun _ => rfl
    have h₃ : Does EventNotification.pass toState s₂ s₃ :=
      does_unsigned (fun v => { s₂ with toState := some v }) (by decide) hto fun _ => rfl
    exact ((h₁.append h₂).append h₃).append (does_eventValues hvalues s₃)
  · rename_i htype
    rw [if_pos (not_not.mp htype), if_pos (not_not.mp htype)]
    exact does_unsigned (fun v => { s with toState := some v }) (by decide) h fun _ => rfl

/-- The octets of a time stamp. -/
theorem EventTime.stamp_eq_some {t : EventTime} {stamp : DateTimeOctets} (h : t.stamp = some stamp) :
    stamp = ([.ofNat (t.year - 1900), .ofNat t.month, .ofNat t.day, .ofNat t.weekday],
      [.ofNat t.hour, .ofNat t.minute, .ofNat t.second, 0]) := by
  simp only [EventTime.stamp, applicationTime, Option.bind_eq_bind, Option.bind_eq_some_iff] at h
  obtain ⟨date, hdate, time, ⟨hour, hhour, minute, hminute, second, hsecond, hundredths, hhundredths,
    htime⟩, h⟩ := h
  obtain ⟨-, rfl⟩ := packB_eq_some hhour
  obtain ⟨-, rfl⟩ := packB_eq_some hminute
  obtain ⟨-, rfl⟩ := packB_eq_some hsecond
  obtain ⟨-, rfl⟩ := packB_eq_some hhundredths
  obtain rfl := Option.some.inj htime
  rw [applicationDate] at hdate
  split at hdate
  · cases hdate
  · simp only [Option.bind_eq_bind, Option.bind_eq_some_iff] at hdate
    obtain ⟨y, hy, m, hm, d, hd, w, hw, hdate⟩ := hdate
    obtain ⟨-, rfl⟩ := packB_eq_some hy
    obtain ⟨-, rfl⟩ := packB_eq_some hm
    obtain ⟨-, rfl⟩ := packB_eq_some hd
    obtain ⟨-, rfl⟩ := packB_eq_some hw
    obtain rfl := Option.some.inj hdate
    exact (Option.some.inj h).symm

/-- The parameters are read as they were written. -/
theorem does_eventParameters {a : EventArguments} (h : eventParameters a = some xs)
    (hdevice : a.initiatingDevice ≤ maxInstance) (hobject : a.eventObject.2 ≤ maxInstance)
    (htext : ∀ text ∈ a.messageText, text.length < 253) :
    Does EventNotification.pass xs { confirmed := a.confirmed, invokeId := a.reported.invokeId }
      a.reported := by
  obtain ⟨stamp, hstamp, h⟩ := Option.bind_eq_some_iff.mp h
  obtain ⟨process, hprocess, h⟩ := Option.bind_eq_some_iff.mp h
  obtain ⟨device, hdevice', h⟩ := Option.bind_eq_some_iff.mp h
  obtain ⟨object, hobject', h⟩ := Option.bind_eq_some_iff.mp h
  obtain ⟨time, htime, h⟩ := Option.bind_eq_some_iff.mp h
  obtain ⟨notificationClass, hclass, h⟩ := Option.bind_eq_some_iff.mp h
  obtain ⟨priority, hpriority, h⟩ := Option.bind_eq_some_iff.mp h
  obtain ⟨eventType, heventType, h⟩ := Option.bind_eq_some_iff.mp h
  obtain ⟨message, hmessage, h⟩ := Option.bind_eq_some_iff.mp h
  obtain ⟨notifyType, hnotifyType, h⟩ := Option.bind_eq_some_iff.mp h
  obtain ⟨states, hstates, h⟩ := Option.bind_eq_some_iff.mp h
  obtain rfl := Option.some.inj h
  obtain rfl := EventTime.stamp_eq_some hstamp
  obtain ⟨db, -, hdevice', hdb⟩ := contextObjectId_tagged (by decide) hdevice'
  obtain ⟨ob, -, hobject', hob⟩ := contextObjectId_tagged (by decide) hobject'
  replace hdb := hdb hdevice
  replace hob := hob hobject
  let s₀ : EventNotification := { confirmed := a.confirmed, invokeId := a.reported.invokeId }
  let s₁ : EventNotification := { s₀ with processIdentifier := some a.processIdentifier }
  let s₂ : EventNotification :=
    { s₁ with initiatingDevice := some (objectTypeDevice, a.initiatingDevice) }
  let s₃ : EventNotification := { s₂ with eventObject := some a.eventObject }
  let s₄ : EventNotification := { s₃ with timeStamp := a.reported.timeStamp }
  let s₅ : EventNotification := { s₄ with notificationClass := some a.notificationClass }
  let s₆ : EventNotification := { s₅ with priority := some a.priority }
  let s₇ : EventNotification := { s₆ with eventType := some eventTypeOutOfRange }
  let s₈ : EventNotification := { s₇ with notifyType := some a.notifyType }
  have h₁ : Does EventNotification.pass process s₀ s₁ :=
    does_unsigned (fun v => { s₀ with processIdentifier := some v }) (by decide) hprocess fun _ => rfl
  have h₂ : Does EventNotification.pass device s₁ s₂ := by
    refine does_note hdevice' ?_
    rw [EventNotification.note, hdb]
    rfl
  have h₃ : Does EventNotification.pass object s₂ s₃ := by
    refine does_note hobject' ?_
    rw [EventNotification.note, hob]
    rfl
  have h₄ : Does EventNotification.pass time s₃ s₄ := does_timeStamp rfl rfl htime s₃
  have h₅ : Does EventNotification.pass notificationClass s₄ s₅ :=
    does_unsigned (fun v => { s₄ with notificationClass := some v }) (by decide) hclass fun _ => rfl
  have h₆ : Does EventNotification.pass priority s₅ s₆ :=
    does_unsigned (fun v => { s₅ with priority := some v }) (by decide) hpriority fun _ => rfl
  have h₇ : Does EventNotification.pass eventType s₆ s₇ :=
    does_unsigned (fun v => { s₆ with eventType := some v }) (by decide) heventType fun _ => rfl
  have hmessage : Does EventNotification.pass message s₇ s₇ := by
    rw [eventMessage] at hmessage
    cases hgiven : a.messageText with
    | none =>
      rw [hgiven] at hmessage
      obtain rfl := Option.some.inj hmessage
      exact does_nil s₇
    | some text =>
      rw [hgiven] at hmessage
      exact does_note (contextCharacterString_tagged (by decide) (htext text hgiven) hmessage) rfl
  have h₈ : Does EventNotification.pass notifyType s₇ s₈ :=
    does_unsigned (fun v => { s₇ with notifyType := some v }) (by decide) hnotifyType fun _ => rfl
  have hlast := does_eventStates hstates s₈
  exact h₁.append (h₂.append (h₃.append (h₄.append (h₅.append (h₆.append (h₇.append
    (hmessage.append (h₈.append hlast))))))))

/-- What is read of a frame that carries an event notification. -/
theorem ofFrame_eventNotification {a : EventArguments} {frame : Frame}
    (h : eventNotification a = some frame.payload) (hmessage : frame.networkMessage = none)
    (hdevice : a.initiatingDevice ≤ maxInstance) (hobject : a.eventObject.2 ≤ maxInstance)
    (htext : ∀ text ∈ a.messageText, text.length < 253) :
    isEventNotification frame = true ∧ EventNotification.ofFrame frame = .ok a.reported := by
  obtain ⟨parameters, hparameters, h⟩ := Option.bind_eq_some_iff.mp h
  have hdoes := (does_eventParameters hparameters hdevice hobject htext).loop_eq
  cases hconfirmed : a.confirmed with
  | true =>
    rw [if_pos hconfirmed] at h
    obtain ⟨-, hpayload⟩ := confirmedRequest_eq_some h
    have htype : frame.pduType = some 0 := by
      rw [Frame.pduType, hmessage, hpayload]
      rfl
    have hservice : frame.service
        = .ok (some (UInt8.ofNat serviceConfirmedEventNotification)) := by
      rw [Frame.service, htype, hpayload]
      rfl
    have hid : frame.invokeId = .ok (some (UInt8.ofNat a.invokeId)) := by
      rw [Frame.invokeId, htype, hpayload]
      rfl
    have hreported : a.reported.invokeId = some (UInt8.ofNat a.invokeId) := if_pos hconfirmed
    refine ⟨decide_eq_true ⟨hmessage, Or.inl ⟨htype, hservice⟩⟩, ?_⟩
    rw [EventNotification.ofFrame, decide_eq_true htype, if_pos rfl, hid, ok_bind, hpayload]
    rw [hreported, hconfirmed] at hdoes
    exact hdoes
  | false =>
    rw [if_neg (by rw [hconfirmed]; exact Bool.false_ne_true)] at h
    have hpayload := (Option.some.inj h).symm
    have htype : frame.pduType = some 1 := by
      rw [Frame.pduType, hmessage, hpayload]
      rfl
    have hservice : frame.service
        = .ok (some (UInt8.ofNat serviceUnconfirmedEventNotification)) := by
      rw [Frame.service, htype, hpayload]
      rfl
    have hreported : a.reported.invokeId = none := if_neg (by rw [hconfirmed]; exact Bool.false_ne_true)
    have hnot : decide (frame.pduType = some 0) = false := by
      rw [htype]
      rfl
    refine ⟨decide_eq_true ⟨hmessage, Or.inr ⟨htype, hservice⟩⟩, ?_⟩
    rw [EventNotification.ofFrame, hnot, if_neg Bool.false_ne_true, ok_bind, hpayload]
    rw [hreported, hconfirmed] at hdoes
    exact hdoes

/-- **An event notification is read as it was written**, whatever route it comes by: confirmed or
not, an alarm or an acknowledgement, with whatever message text and event values. -/
theorem eventNotification_read_back {a : EventArguments} {apdu npduOctets data : List UInt8}
    {route : NpduArguments} {broadcast : Bool} (h : eventNotification a = some apdu)
    (hnpdu : npdu apdu route = some npduOctets) (hbvlc : bvlc npduOctets broadcast = some data)
    (hmessage : route.networkMessage = none) (hdevice : a.initiatingDevice ≤ maxInstance)
    (hobject : a.eventObject.2 ≤ maxInstance) (htext : ∀ text ∈ a.messageText, text.length < 253) :
    ∃ frame, Frame.decode data = .ok frame ∧ isEventNotification frame = true
      ∧ EventNotification.ofFrame frame = .ok a.reported := by
  have hdecode := decode_bvlc_npdu hnpdu hbvlc
  rw [hmessage] at hdecode
  exact ⟨_, hdecode, ofFrame_eventNotification h rfl hdevice hobject htext⟩

/-- Lift 1 of the controller is in fault. -/
def liftAlarm : EventArguments where
  initiatingDevice := 389001
  eventObject := (59, 1)
  toState := 2
  confirmed := true
  invokeId := 7
  messageText := some [0x46, 0x61, 0x75, 0x6C, 0x74]

/-- The octets of its event notification. -/
def liftAlarmApdu : List UInt8 := (eventNotification liftAlarm).getD []

theorem liftAlarm_text : ∀ text ∈ liftAlarm.messageText, text.length < 253 := by
  intro text htext
  obtain rfl := Option.some.inj htext
  decide

/-- A frame that carries it. -/
def liftAlarmDatagram : List UInt8 :=
  0x81 :: 0x0A :: 0x00 :: UInt8.ofNat (6 + liftAlarmApdu.length) :: 0x01 :: 0x00 :: liftAlarmApdu

theorem eventNotification_read_back_liftAlarm :
    ∃ frame, Frame.decode liftAlarmDatagram = .ok frame ∧ isEventNotification frame = true
      ∧ EventNotification.ofFrame frame = .ok liftAlarm.reported := by
  have hnpdu : npdu liftAlarmApdu {} = some (0x01 :: 0x00 :: liftAlarmApdu) := rfl
  have hbvlc : bvlc (0x01 :: 0x00 :: liftAlarmApdu) false = some liftAlarmDatagram := rfl
  exact eventNotification_read_back rfl hnpdu hbvlc rfl (by decide) (by decide) liftAlarm_text

end RoundTrip

end Controller
