import ElevatorController.Model.Names

/-!
# Wire/Names — every listed name is found

`LookUpIdName` finds by bisection, so one row out of order would hide others.  On a sorted table it
finds what a linear search finds, and the two tables are sorted.
-/

namespace Controller

/-- A table `LookUpIdName` may search. -/
def SortedById (table : List IdName) : Prop := table.Pairwise fun a b => a.id < b.id

/-- Rows in order, each with the next, are a sorted table. -/
theorem sortedById_of_isChain {table : List IdName}
    (h : table.IsChain fun a b => a.id < b.id) : SortedById table :=
  List.isChain_iff_pairwise.mp h

theorem sortedById_objectTypeNames : SortedById objectTypeNames :=
  sortedById_of_isChain (by decide +kernel)

theorem sortedById_propertyNames : SortedById propertyNames :=
  sortedById_of_isChain (by decide +kernel)

/-- **The lookup is the linear search.** -/
theorem lookUpIdName_eq {table : List IdName} (h : SortedById table) (id : ℕ) :
    lookUpIdName table id = (table.find? fun row => row.id = id).map IdName.name := by
  rw [lookUpIdName, BinarySearch.search_eq_find? h _ _ _ BinarySearch.excluded_all]

theorem lookUpIdName_of_mem {table : List IdName} (h : SortedById table) {row : IdName}
    (hrow : row ∈ table) : lookUpIdName table row.id = some row.name := by
  rw [lookUpIdName_eq h, BinarySearch.find?_eq_some_of_sorted h hrow]
  rfl

theorem lookUpIdName_eq_none_iff {table : List IdName} (h : SortedById table) {id : ℕ} :
    lookUpIdName table id = none ↔ ∀ row ∈ table, row.id ≠ id := by
  rw [lookUpIdName_eq h, Option.map_eq_none_iff, List.find?_eq_none]
  simp

/-- **Name lookup is complete.**  On every sorted table the lookup finds what a linear search finds:
the name of the row with the number, and none where no row has it.  The two tables of the log are
sorted, so every object type and property they list is named. -/
theorem name_lookup_complete :
    (∀ table : List IdName, SortedById table → ∀ id,
      lookUpIdName table id = (table.find? fun row => row.id = id).map IdName.name
        ∧ (∀ row ∈ table, row.id = id → lookUpIdName table id = some row.name)
        ∧ ((∀ row ∈ table, row.id ≠ id) → lookUpIdName table id = none))
    ∧ SortedById objectTypeNames ∧ SortedById propertyNames
    ∧ (∀ row ∈ objectTypeNames, objectTypeName row.id = some row.name)
    ∧ ∀ row ∈ propertyNames, propertyName row.id = some row.name := by
  refine ⟨fun table h id => ⟨lookUpIdName_eq h id, ?_, (lookUpIdName_eq_none_iff h).mpr⟩,
    sortedById_objectTypeNames, sortedById_propertyNames,
    fun row => lookUpIdName_of_mem sortedById_objectTypeNames,
    fun row => lookUpIdName_of_mem sortedById_propertyNames⟩
  rintro row hrow rfl
  exact lookUpIdName_of_mem h hrow

end Controller
