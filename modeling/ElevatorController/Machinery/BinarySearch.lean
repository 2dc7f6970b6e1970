import Mathlib

/-!
# Machinery/BinarySearch — the half-open binary search of a sorted table

    keys below id │ lo ‥ mid ‥ hi │ keys above id

`search` keeps `hi` inside the table, so no row outside it is read.  On a table sorted strictly by
key the rows before `lo` lie below the key sought and those from `hi` on above it, and the interval
shrinks until it is empty: the search finds what a linear one would (`search_eq_find?`).
-/

namespace BinarySearch

variable {α κ : Type*} [LinearOrder κ] (key : α → κ) (id : κ)

/-- The row of a key in `table[lo, hi)`. -/
def search (table : List α) (lo hi : ℕ) (h : hi ≤ table.length) : Option α :=
  if hlt : lo < hi then
    let mid := lo + (hi - lo) / 2
    have hmid : mid < table.length := by omega
    let row := table[mid]
    if key row = id then some row
    else if key row < id then search table (mid + 1) hi h
    else search table lo mid (by omega)
  else none
termination_by hi - lo

variable {key id} {table : List α} {lo hi : ℕ}

/-- What the search has excluded: the rows before `lo` and from `hi` on. -/
structure Excluded (key : α → κ) (id : κ) (table : List α) (lo hi : ℕ) : Prop where
  below : ∀ (i : ℕ) (h : i < table.length), i < lo → key table[i] < id
  above : ∀ (i : ℕ) (h : i < table.length), hi ≤ i → id < key table[i]

theorem excluded_all : Excluded key id table 0 table.length where
  below _ _ hi := absurd hi (Nat.not_lt_zero _)
  above _ h hi := absurd h (not_lt.mpr hi)

/-- In a sorted table a row below the key excludes the rows before it. -/
theorem Excluded.raise (h : Excluded key id table lo hi)
    (hsorted : table.Pairwise fun a b => key a < key b) {mid : ℕ} (hmid : mid < table.length)
    (hlt : key table[mid] < id) : Excluded key id table (mid + 1) hi where
  below i hi hle := by
    rcases Nat.lt_succ_iff_lt_or_eq.mp hle with hbefore | rfl
    · exact (List.pairwise_iff_getElem.mp hsorted i mid hi hmid hbefore).trans hlt
    · exact hlt
  above := h.above

/-- …and a row above it the rows after. -/
theorem Excluded.lower (h : Excluded key id table lo hi)
    (hsorted : table.Pairwise fun a b => key a < key b) {mid : ℕ} (hmid : mid < table.length)
    (hlt : id < key table[mid]) : Excluded key id table lo mid where
  below := h.below
  above i hi hle := by
    rcases Nat.eq_or_lt_of_le hle with rfl | hafter
    · exact hlt
    · exact hlt.trans (List.pairwise_iff_getElem.mp hsorted mid i hmid hi hafter)

/-- An empty interval leaves no row with the key. -/
theorem Excluded.forall_ne (h : Excluded key id table lo hi) (hle : hi ≤ lo) :
    ∀ row ∈ table, key row ≠ id := by
  intro row hrow
  obtain ⟨i, hi, rfl⟩ := List.getElem_of_mem hrow
  rcases lt_or_ge i lo with hbefore | hfrom
  · exact (h.below i hi hbefore).ne
  · exact (h.above i hi (hle.trans hfrom)).ne'

/-- In a sorted table a row with the key is the first one. -/
theorem find?_eq_some_of_sorted [DecidableEq κ]
    (hsorted : table.Pairwise fun a b => key a < key b) {row : α} (hrow : row ∈ table) :
    table.find? (fun r => key r = key row) = some row := by
  obtain ⟨i, hi, rfl⟩ := List.getElem_of_mem hrow
  rw [List.find?_eq_some_iff_getElem]
  refine ⟨by simp, i, hi, rfl, fun j hj => ?_⟩
  have hlt := List.pairwise_iff_getElem.mp hsorted j i (by omega) hi hj
  simpa using hlt.ne

/-- **The binary search of a sorted table is the linear search.** -/
theorem search_eq_find? (hsorted : table.Pairwise fun a b => key a < key b) (lo hi : ℕ)
    (h : hi ≤ table.length) (hexcluded : Excluded key id table lo hi) :
    search key id table lo hi h = table.find? fun row => key row = id := by
  fun_induction search key id table lo hi h with
  | case1 lo hi h hlt mid hmid row hfound =>
    subst hfound
    exact (find?_eq_some_of_sorted hsorted (List.getElem_mem _)).symm
  | case2 lo hi h hlt mid hmid row hne hbelow ih =>
    exact ih (hexcluded.raise hsorted hmid hbelow)
  | case3 lo hi h hlt mid hmid row hne hbelow ih =>
    exact ih (hexcluded.lower hsorted hmid (lt_of_le_of_ne (not_lt.mp hbelow) (Ne.symm hne)))
  | case4 lo hi h hempty =>
    refine (List.find?_eq_none.mpr fun row hrow => ?_).symm
    simpa using hexcluded.forall_ne (not_lt.mp hempty) row hrow

end BinarySearch
