/-
This file gives finite maps of two levels and the operations that look through both.
-/

import Mathlib.Tactic

/-- A finite map whose values are finite maps. -/
abbrev NestedMap (κ ι ν : Type) [Ord κ] [Ord ι] := Std.ExtTreeMap κ (Std.ExtTreeMap ι ν compare) compare

set_option linter.unusedSectionVars false

namespace NestedMap

open Std

variable {κ ι ν : Type} [Ord κ] [TransOrd κ] [LawfulEqOrd κ] [Ord ι] [TransOrd ι] [LawfulEqOrd ι]

/-- The value under an outer and an inner key. -/
def entry (map : NestedMap κ ι ν) (outer : κ) (inner : ι) : Option ν :=
  map[outer]?.bind fun row => row[inner]?

/-- Keeping some values drops every row that becomes empty. -/
def retain (keep : ν → Bool) (map : NestedMap κ ι ν) : NestedMap κ ι ν :=
  map.filterMap fun _ row =>
    let row := row.filter fun _ value => keep value
    if !row.isEmpty then some row else none

/-- Removing one value keeps its row, even when the row becomes empty. -/
def removeEntry (map : NestedMap κ ι ν) (outer : κ) (inner : ι) : NestedMap κ ι ν :=
  match map[outer]? with
  | none => map
  | some row => map.insert outer (row.erase inner)

/-- An empty row is dropped. -/
def dropEmpty (map : NestedMap κ ι ν) (outer : κ) : NestedMap κ ι ν :=
  if map[outer]?.map (fun row => row.isEmpty) = some true then map.erase outer else map

/-- The row that holds one value under every listed key. -/
def constantRow (keys : List ι) (value : ν) : Std.ExtTreeMap ι ν compare :=
  keys.foldl (fun row key => row.insert key value) ∅

theorem entry_of_row {map : NestedMap κ ι ν} {outer : κ} {row : Std.ExtTreeMap ι ν compare}
    (found : map[outer]? = some row) (inner : ι) : entry map outer inner = row[inner]? := by
  rw [entry, found, Option.bind_some]

theorem entry_of_no_row {map : NestedMap κ ι ν} {outer : κ} (missing : map[outer]? = none) (inner : ι) :
    entry map outer inner = none := by
  rw [entry, missing, Option.bind_none]

@[simp] theorem entry_empty (outer : κ) (inner : ι) : entry (∅ : NestedMap κ ι ν) outer inner = none := by
  simp [entry]

/-- Retaining filters every entry. -/
@[simp] theorem entry_retain (keep : ν → Bool) (map : NestedMap κ ι ν) (outer : κ) (inner : ι) :
    entry (retain keep map) outer inner = (entry map outer inner).filter keep := by
  rw [entry, retain, ExtTreeMap.getElem?_filterMap', entry]
  cases found : map[outer]? with
  | none => simp
  | some row =>
      simp only [Option.bind_some]
      have filtered : (row.filter fun _ value => keep value)[inner]? = row[inner]?.filter keep :=
        ExtTreeMap.getElem?_filter'
      rw [← filtered]
      split_ifs with nonempty
      · rfl
      · have empty : row.filter (fun _ value => keep value) = ∅ := by
          rw [← ExtTreeMap.isEmpty_iff]
          simpa using nonempty
        rw [empty]
        simp

variable [DecidableEq κ] [DecidableEq ι]

@[simp] theorem entry_insert (map : NestedMap κ ι ν) (key outer : κ) (row : Std.ExtTreeMap ι ν compare) (inner : ι) :
    entry (map.insert key row) outer inner = if outer = key then row[inner]? else entry map outer inner := by
  rw [entry, ExtTreeMap.getElem?_insert]
  by_cases same : outer = key
  · simp [same]
  · simp [same, Ne.symm same, entry]

@[simp] theorem entry_erase (map : NestedMap κ ι ν) (key outer : κ) (inner : ι) :
    entry (map.erase key) outer inner = if outer = key then none else entry map outer inner := by
  rw [entry, ExtTreeMap.getElem?_erase]
  by_cases same : outer = key
  · simp [same]
  · simp [same, Ne.symm same, entry]

@[simp] theorem entry_removeEntry (map : NestedMap κ ι ν) (key outer : κ) (name inner : ι) :
    entry (removeEntry map key name) outer inner =
      if outer = key ∧ inner = name then none else entry map outer inner := by
  rw [removeEntry]
  cases found : map[key]? with
  | none =>
      split_ifs with same
      · rw [same.1, entry_of_no_row found]
      · rfl
  | some row =>
      simp only [entry_insert, ExtTreeMap.getElem?_erase, LawfulEqCmp.compare_eq_iff_eq]
      by_cases sameOuter : outer = key
      · subst sameOuter
        by_cases sameInner : inner = name
        · simp [sameInner]
        · simp [sameInner, Ne.symm sameInner, entry_of_row found]
      · simp [sameOuter]

@[simp] theorem entry_dropEmpty (map : NestedMap κ ι ν) (key outer : κ) (inner : ι) :
    entry (dropEmpty map key) outer inner = entry map outer inner := by
  rw [dropEmpty]
  split_ifs with empty
  · obtain ⟨row, found, isEmpty⟩ := Option.map_eq_some_iff.mp empty
    rw [entry_erase]
    split_ifs with same
    · rw [same, entry_of_row found, ExtTreeMap.isEmpty_iff.mp isEmpty]
      simp
    · rfl
  · rfl

/-- Folding insertions of one value overrides the listed keys. -/
theorem getElem?_foldl_insert (keys : List ι) (value : ν) (row : Std.ExtTreeMap ι ν compare) (name : ι) :
    (keys.foldl (fun row key => row.insert key value) row)[name]? =
      if name ∈ keys then some value else row[name]? := by
  induction keys generalizing row with
  | nil => simp
  | cons key keys ih =>
      rw [List.foldl_cons, ih, ExtTreeMap.getElem?_insert]
      by_cases later : name ∈ keys
      · simp [later]
      · by_cases same : name = key
        · simp [same]
        · simp [later, same, Ne.symm same]

@[simp] theorem getElem?_constantRow (keys : List ι) (value : ν) (name : ι) :
    (constantRow keys value)[name]? = if name ∈ keys then some value else none := by
  rw [constantRow, getElem?_foldl_insert]
  simp

/-- Erasing an absent key changes nothing. -/
theorem erase_absent {row : Std.ExtTreeMap ι ν compare} {name : ι} (missing : row[name]? = none) :
    row.erase name = row := by
  apply ExtTreeMap.ext_getElem?
  intro key
  rw [ExtTreeMap.getElem?_erase]
  split_ifs with same
  · rw [← LawfulEqCmp.compare_eq_iff_eq.mp same, missing]
  · rfl

/-- Writing a row back changes nothing. -/
theorem insert_same {map : NestedMap κ ι ν} {key : κ} {row : Std.ExtTreeMap ι ν compare}
    (found : map[key]? = some row) : map.insert key row = map := by
  apply ExtTreeMap.ext_getElem?
  intro outer
  rw [ExtTreeMap.getElem?_insert]
  split_ifs with same
  · rw [← LawfulEqCmp.compare_eq_iff_eq.mp same, found]
  · rfl

/-- Every row holds a value. -/
def NoEmptyRow (map : NestedMap κ ι ν) : Prop :=
  ∀ (outer : κ) (row : Std.ExtTreeMap ι ν compare), map[outer]? = some row → row.isEmpty = false

theorem noEmptyRow_retain (keep : ν → Bool) (map : NestedMap κ ι ν) : NoEmptyRow (retain keep map) := by
  intro outer row found
  rw [retain, ExtTreeMap.getElem?_filterMap'] at found
  obtain ⟨old, _, kept⟩ := Option.bind_eq_some_iff.mp found
  dsimp only at kept
  split_ifs at kept with nonempty
  cases kept
  simpa using nonempty

theorem NoEmptyRow.insert {map : NestedMap κ ι ν} (noEmpty : NoEmptyRow map) (key : κ)
    {row : Std.ExtTreeMap ι ν compare} (nonempty : row.isEmpty = false) : NoEmptyRow (map.insert key row) := by
  intro outer other found
  rw [ExtTreeMap.getElem?_insert] at found
  split_ifs at found
  · cases found
    exact nonempty
  · exact noEmpty outer other found

theorem NoEmptyRow.erase {map : NestedMap κ ι ν} (noEmpty : NoEmptyRow map) (key : κ) :
    NoEmptyRow (map.erase key) := by
  intro outer row found
  rw [ExtTreeMap.getElem?_erase] at found
  split_ifs at found
  exact noEmpty outer row found

/-- Removing one value and then its row if it became empty leaves no empty row. -/
theorem NoEmptyRow.dropEmpty_removeEntry {map : NestedMap κ ι ν} (noEmpty : NoEmptyRow map) (key : κ) (name : ι) :
    NoEmptyRow (dropEmpty (removeEntry map key name) key) := by
  have others (outer : κ) (row : Std.ExtTreeMap ι ν compare) (differ : outer ≠ key)
      (found : (removeEntry map key name)[outer]? = some row) : row.isEmpty = false := by
    rw [removeEntry] at found
    split at found
    · exact noEmpty outer row found
    · rw [ExtTreeMap.getElem?_insert, if_neg fun equal => differ (LawfulEqCmp.compare_eq_iff_eq.mp equal).symm] at found
      exact noEmpty outer row found
  intro outer row found
  rw [dropEmpty] at found
  split_ifs at found with empty
  · rw [ExtTreeMap.getElem?_erase] at found
    split_ifs at found with same
    exact others outer row (fun equal => same (LawfulEqCmp.compare_eq_iff_eq.mpr equal.symm)) found
  · by_cases same : outer = key
    · rw [same] at found
      rw [found] at empty
      simpa using empty
    · exact others outer row same found

theorem isEmpty_constantRow {keys : List ι} (nonempty : keys ≠ []) (value : ν) :
    (constantRow keys value).isEmpty = false := by
  obtain ⟨key, listed⟩ := List.exists_mem_of_ne_nil keys nonempty
  rw [← Bool.not_eq_true]
  intro empty
  have present := getElem?_constantRow keys value key
  rw [ExtTreeMap.isEmpty_iff.mp empty, if_pos listed] at present
  simp at present

/-- A row that is not empty holds a value. -/
theorem NoEmptyRow.exists_entry {map : NestedMap κ ι ν} (noEmpty : NoEmptyRow map) {outer : κ}
    {row : Std.ExtTreeMap ι ν compare} (found : map[outer]? = some row) :
    ∃ inner value, entry map outer inner = some value := by
  have nonempty := ExtTreeMap.isEmpty_eq_false_iff.mp (noEmpty outer row found)
  rw [ExtTreeMap.eq_empty_iff_forall_not_mem, not_forall] at nonempty
  obtain ⟨inner, present⟩ := nonempty
  have member := not_not.mp present
  refine ⟨inner, row[inner], ?_⟩
  rw [entry_of_row found, ExtTreeMap.getElem?_eq_some_getElem member]

/-- A row with listed keys only is not larger than the list. -/
theorem size_le_length {row : Std.ExtTreeMap ι ν compare} {keys : List ι}
    (listed : ∀ inner value, row[inner]? = some value → inner ∈ keys) : row.size ≤ keys.length := by
  rw [← ExtTreeMap.length_keys]
  apply ExtTreeMap.nodup_keys.length_le_of_subset
  intro inner member
  rw [ExtTreeMap.mem_keys] at member
  exact listed inner row[inner] (ExtTreeMap.getElem?_eq_some_getElem member)

/-- Maps without empty rows are determined by their entries. -/
theorem NoEmptyRow.ext {map other : NestedMap κ ι ν} (noEmpty : NoEmptyRow map) (noEmptyOther : NoEmptyRow other)
    (same : ∀ outer inner, entry map outer inner = entry other outer inner) : map = other := by
  -- A row with an entry is present in both maps.
  have inhabited {first second : NestedMap κ ι ν} (noEmptyFirst : NoEmptyRow first)
      (agree : ∀ outer inner, entry first outer inner = entry second outer inner) (outer : κ)
      (row : Std.ExtTreeMap ι ν compare) (found : first[outer]? = some row) (missing : second[outer]? = none) :
      False := by
    have empty : row = ∅ := by
      apply ExtTreeMap.ext_getElem?
      intro inner
      rw [← entry_of_row found, agree, entry_of_no_row missing]
      simp
    have nonempty := noEmptyFirst outer row found
    rw [empty] at nonempty
    simp at nonempty
  apply ExtTreeMap.ext_getElem?
  intro outer
  cases found : map[outer]? with
  | none =>
      cases there : other[outer]? with
      | none => rfl
      | some row => exact (inhabited noEmptyOther (fun _ _ => (same _ _).symm) outer row there found).elim
  | some row =>
      cases there : other[outer]? with
      | none => exact (inhabited noEmpty same outer row found there).elim
      | some otherRow =>
          apply congrArg some
          apply ExtTreeMap.ext_getElem?
          intro inner
          rw [← entry_of_row found, ← entry_of_row there, same]

end NestedMap
