/-
This file relates the items of a history to the items before and after them.
-/

import Mathlib.Tactic

namespace History

variable {α : Type}

/-- The item at `index` has the property, and no later item before `bound` does. -/
def LatestBefore (history : List α) (property : α → Prop) (bound index : Nat) (item : α) : Prop :=
  index < bound ∧ history[index]? = some item ∧ property item ∧
    ∀ later other, index < later → later < bound → history[later]? = some other → ¬ property other

/-- The latest item is unique. -/
theorem LatestBefore.unique {history : List α} {property : α → Prop} {bound first second : Nat} {item other : α}
    (found : LatestBefore history property bound first item)
    (again : LatestBefore history property bound second other) : first = second ∧ item = other := by
  obtain ⟨firstInside, firstItem, firstHolds, firstLatest⟩ := found
  obtain ⟨secondInside, secondItem, secondHolds, secondLatest⟩ := again
  rcases Nat.lt_trichotomy first second with before | same | after
  · exact absurd secondHolds (firstLatest second other before secondInside secondItem)
  · subst same
    rw [firstItem] at secondItem
    exact ⟨rfl, Option.some.inj secondItem⟩
  · exact absurd firstHolds (secondLatest first item after firstInside firstItem)

/-- Later items do not matter below the bound. -/
theorem latestBefore_append {history : List α} (extra : List α) {property : α → Prop} {bound index : Nat} {item : α}
    (inside : bound ≤ history.length) :
    LatestBefore (history ++ extra) property bound index item ↔ LatestBefore history property bound index item := by
  have same (position : Nat) (below : position < bound) : (history ++ extra)[position]? = history[position]? :=
    List.getElem?_append_left (by omega)
  unfold LatestBefore
  constructor
  · rintro ⟨below, found, holds, latest⟩
    rw [same index below] at found
    refine ⟨below, found, holds, fun later other after before there => ?_⟩
    exact latest later other after before (by rwa [same later before])
  · rintro ⟨below, found, holds, latest⟩
    refine ⟨below, by rwa [same index below], holds, fun later other after before there => ?_⟩
    exact latest later other after before (by rwa [same later before] at there)

/-- A new item with the property is the latest. -/
theorem latestBefore_snoc_of {history : List α} {property : α → Prop} {last : α} (holds : property last)
    {index : Nat} {item : α} :
    LatestBefore (history ++ [last]) property (history.length + 1) index item ↔
      index = history.length ∧ item = last := by
  constructor
  · intro found
    have newest : LatestBefore (history ++ [last]) property (history.length + 1) history.length last :=
      ⟨Nat.lt_succ_self _, by simp, holds, fun later _ after before _ => by omega⟩
    exact found.unique newest
  · rintro ⟨rfl, rfl⟩
    exact ⟨Nat.lt_succ_self _, by simp, holds, fun later _ after before _ => by omega⟩

/-- A new item without the property leaves the latest one in place. -/
theorem latestBefore_snoc_of_not {history : List α} {property : α → Prop} {last : α} (fails : ¬ property last)
    {index : Nat} {item : α} :
    LatestBefore (history ++ [last]) property (history.length + 1) index item ↔
      LatestBefore history property history.length index item := by
  rw [← latestBefore_append [last] (Nat.le_refl history.length)]
  constructor
  · rintro ⟨below, found, holds, latest⟩
    have inside : index < history.length := by
      rcases Nat.lt_succ_iff_lt_or_eq.mp below with inside | rfl
      · exact inside
      · simp only [List.getElem?_concat_length, Option.some.injEq] at found
        exact absurd (found ▸ holds) fails
    exact ⟨inside, found, holds, fun later other after before => latest later other after (by omega)⟩
  · rintro ⟨below, found, holds, latest⟩
    refine ⟨by omega, found, holds, fun later other after before there => ?_⟩
    rcases Nat.lt_succ_iff_lt_or_eq.mp before with inside | rfl
    · exact latest later other after inside there
    · simp only [List.getElem?_concat_length, Option.some.injEq] at there
      exact there ▸ fails

/-- An item of a longer history is an old one, or it is the new one. -/
theorem snoc_eq_split_iff {history earlier later : List α} {last item : α} :
    history ++ [last] = earlier ++ item :: later ↔
      (∃ between, later = between ++ [last] ∧ history = earlier ++ item :: between) ∨
        (later = [] ∧ item = last ∧ history = earlier) := by
  constructor
  · intro whole
    obtain rfl | ⟨between, final, rfl⟩ := List.eq_nil_or_concat later
    · obtain ⟨same, equal⟩ := List.append_inj' whole rfl
      cases equal
      exact .inr ⟨rfl, rfl, same⟩
    · rw [List.concat_eq_append, ← List.cons_append, ← List.append_assoc] at whole
      obtain ⟨same, equal⟩ := List.append_inj' whole rfl
      cases equal
      exact .inl ⟨between, List.concat_eq_append, same⟩
  · rintro (⟨between, rfl, rfl⟩ | ⟨rfl, rfl, rfl⟩)
    · simp
    · rfl

/-- Every item has the property, given the items before it. -/
def EachAfter (history : List α) (property : List α → α → Prop) : Prop :=
  ∀ earlier item later, history = earlier ++ item :: later → property earlier item

theorem eachAfter_nil {property : List α → α → Prop} : EachAfter [] property := by
  intro earlier item later empty
  simp at empty

theorem EachAfter.of_prefix {history longer : List α} {property : List α → α → Prop}
    (each : EachAfter longer property) (before : history <+: longer) : EachAfter history property := by
  obtain ⟨extra, rfl⟩ := before
  rintro earlier item later rfl
  exact each earlier item (later ++ extra) (by simp)

theorem eachAfter_snoc {history : List α} {last : α} {property : List α → α → Prop} :
    EachAfter (history ++ [last]) property ↔ EachAfter history property ∧ property history last := by
  constructor
  · intro each
    exact ⟨each.of_prefix (List.prefix_append history [last]), each history last [] rfl⟩
  · rintro ⟨each, holds⟩ earlier item later whole
    obtain ⟨between, _, before⟩ | ⟨_, rfl, rfl⟩ := snoc_eq_split_iff.mp whole
    · exact each earlier item between before
    · exact holds

end History
