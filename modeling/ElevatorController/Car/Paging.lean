import ElevatorController.Machinery.Paging
import ElevatorController.Model.Callbacks

/-!
# Car/Paging — two views of the calls, an element a call

Landing_Calls of the group and Assigned_Landing_Calls of the lift are both served from the car's
list, by two callbacks with a `more` flag each.  A client of either puts together the whole list.
-/

namespace Controller

/-- A call as Landing_Calls shows it: a direction call. -/
def LandingCall.status (c : LandingCall) : LandingCallStatus where
  floorNumber := c.floorNumber
  commandChoice := landingCallCommandDirection
  bacnetLiftCarDirection := c.direction
  destination := 0

/-- A call as Assigned_Landing_Calls shows it. -/
def LandingCall.assigned (c : LandingCall) : AssignedLandingCall := ⟨c.floorNumber, c.direction⟩

section Pages

variable (cfg : Config) (s : State)

/-- Landing_Calls, asked for at an index. -/
def landingCallsPage (i : ℕ) : Page LandingCallStatus :=
  getListElevatorGroupLandingCallStatus cfg s cfg.deviceInstance elevatorGroupInstance
    propertyIdentifierLandingCalls i

/-- Assigned_Landing_Calls of door 1, asked for at an index. -/
def assignedLandingCallsPage (i : ℕ) : Page AssignedLandingCall :=
  getSequenceLiftAssignedLandingCall cfg s cfg.deviceInstance liftInstance 1 i

/-- The page of an element of a list. -/
def Page.ofList {α : Type} (l : List α) (i : ℕ) : Page α := ⟨l[i]?, decide (i + 1 < l.length)⟩

theorem Page.ofList_of_le {α : Type} {l : List α} {i : ℕ} (h : l.length ≤ i) :
    Page.ofList l i = .refuse := by
  rw [ofList, List.getElem?_eq_none h, decide_eq_false (by omega)]
  rfl

theorem Page.ofList_of_lt {α β : Type} {cap i : ℕ} {b : Buffer α cap} (f : α → β) (h : i < b.len) :
    Page.ofList (b.toList.map f) i = ⟨some (f (b.get i h)), decide (i + 1 < b.len)⟩ := by
  have hlt : i < b.toList.length := by rwa [Buffer.length_toList]
  have hread : (b.toList.map f)[i]? = some (f (b.get i h)) := by
    rw [List.getElem?_map, List.getElem?_eq_getElem hlt, Buffer.getElem_toList]
    rfl
  rw [ofList, hread, List.length_map, Buffer.length_toList]

/-- **Both callbacks page the car's list.** -/
theorem landingCallsPage_eq (i : ℕ) :
    landingCallsPage cfg s i = .ofList (s.liftCar.calls.toList.map LandingCall.status) i := by
  rw [landingCallsPage, getListElevatorGroupLandingCallStatus, if_neg (by simp),
    if_neg (by decide)]
  by_cases h : i < s.liftCar.calls.len
  · rw [dif_pos ⟨rfl, h⟩, Page.ofList_of_lt _ h]
    rfl
  · rw [dif_neg fun h' => h h'.2, Page.ofList_of_le (by simpa using h)]

theorem assignedLandingCallsPage_eq (i : ℕ) : assignedLandingCallsPage cfg s i
    = .ofList (s.liftCar.calls.toList.map LandingCall.assigned) i := by
  rw [assignedLandingCallsPage, getSequenceLiftAssignedLandingCall, if_neg (by simp)]
  by_cases h : i < s.liftCar.calls.len
  · rw [dif_pos h, Page.ofList_of_lt _ h]
    rfl
  · rw [dif_neg h, Page.ofList_of_le (by simpa using h)]

end Pages

/-- **The two paged views of the calls are complete and equal.**  In every state a client that asks
for Landing_Calls at 0, 1, 2, … while it is told that there are more puts together the car's list,
as direction calls in its order, and one that walks Assigned_Landing_Calls the same floors and
directions; an index past the list is refused, with no more. -/
theorem paged_views_agree (cfg : Config) (s : State) :
    let calls := s.liftCar.calls.toList
    let landing := landingCallsPage cfg s
    let assigned := assignedLandingCallsPage cfg s
    (∀ xs, Paging.Serves (fun i => (landing i).element) (fun i => (landing i).more) xs
      ↔ xs = calls.map LandingCall.status)
    ∧ (∀ xs, Paging.Serves (fun i => (assigned i).element) (fun i => (assigned i).more) xs
      ↔ xs = calls.map LandingCall.assigned)
    ∧ (∀ i, (landing i).more = (assigned i).more
      ∧ (landing i).element.map (fun c => (c.floorNumber, c.bacnetLiftCarDirection))
        = (assigned i).element.map fun c => (c.floorNumber, c.direction))
    ∧ ∀ i, calls.length ≤ i → landing i = .refuse ∧ assigned i = .refuse := by
  intro calls landing assigned
  have hlanding := landingCallsPage_eq cfg s
  have hassigned := assignedLandingCallsPage_eq cfg s
  refine ⟨fun xs => ?_, fun xs => ?_, fun i => ⟨?_, ?_⟩, fun i hi => ⟨?_, ?_⟩⟩
  · exact Paging.serves_iff (fun i => congrArg Page.element (hlanding i))
      fun i => congrArg Page.more (hlanding i)
  · exact Paging.serves_iff (fun i => congrArg Page.element (hassigned i))
      fun i => congrArg Page.more (hassigned i)
  · simp only [landing, assigned, hlanding, hassigned, Page.ofList, List.length_map]
  · simp only [landing, assigned, hlanding, hassigned, Page.ofList, List.getElem?_map,
      Option.map_map]
    rfl
  · exact (hlanding i).trans (Page.ofList_of_le ((List.length_map _).trans_le hi))
  · exact (hassigned i).trans (Page.ofList_of_le ((List.length_map _).trans_le hi))

end Controller
