/-
This file proves that windows of fixed size over a cyclic order reach every key that stays in the order,
although other keys come and go between the windows.
-/

import Mathlib.Order.Std
import Mathlib.Tactic

/-- The linear order of a lawful comparison. -/
@[reducible] def linearOrderOfOrd (κ : Type) [Ord κ] [Std.TransOrd κ] [Std.LawfulEqOrd κ] : LinearOrder κ :=
  LinearOrder.ofStd κ

section Comparison

variable {κ : Type} [Ord κ] [Std.TransOrd κ] [Std.LawfulEqOrd κ] (first second : κ)

theorem linearOrderOfOrd_le : (linearOrderOfOrd κ).le first second ↔ (compare first second).isLE = true :=
  Iff.rfl

theorem linearOrderOfOrd_lt : (linearOrderOfOrd κ).lt first second ↔ (compare first second).isLT = true := by
  rw [(linearOrderOfOrd κ).lt_iff_le_not_ge, linearOrderOfOrd_le, linearOrderOfOrd_le,
    show compare second first = (compare first second).swap from Std.OrientedCmp.eq_swap]
  cases compare first second <;> simp

end Comparison

namespace CyclicScan

variable {κ : Type} [LinearOrder κ]

/-- A scan from the offset, upwards and then around, meets the first key before the second one. -/
def Before (offset first second : κ) : Prop :=
  (offset ≤ first ∧ (second < offset ∨ first < second)) ∨ (first < offset ∧ second < offset ∧ first < second)

/-- The keys from the offset on, and then the keys before it. -/
def scan (offset : κ) (keys : List κ) : List κ :=
  keys.filter (fun key => offset ≤ key) ++ keys.filter (fun key => key < offset)

theorem mem_scan {offset key : κ} {keys : List κ} : key ∈ scan offset keys ↔ key ∈ keys := by
  simp only [scan, List.mem_append, List.mem_filter, decide_eq_true_eq]
  constructor
  · rintro (⟨listed, _⟩ | ⟨listed, _⟩)
    · exact listed
    · exact listed
  · intro listed
    obtain above | below := le_or_gt offset key
    · exact .inl ⟨listed, above⟩
    · exact .inr ⟨listed, below⟩

/-- A scan of sorted keys follows the cyclic order. -/
theorem scan_pairwise {offset : κ} {keys : List κ} (sorted : keys.Pairwise (· < ·)) :
    (scan offset keys).Pairwise (Before offset) := by
  rw [scan, List.pairwise_append]
  refine ⟨?_, ?_, ?_⟩
  · apply (sorted.filter _).imp_of_mem
    intro first second firstKept _ less
    simp only [List.mem_filter, decide_eq_true_eq] at firstKept
    exact .inl ⟨firstKept.2, .inr less⟩
  · apply (sorted.filter _).imp_of_mem
    intro first second firstKept secondKept less
    simp only [List.mem_filter, decide_eq_true_eq] at firstKept secondKept
    exact .inr ⟨firstKept.2, secondKept.2, less⟩
  · intro first firstKept second secondKept
    simp only [List.mem_filter, decide_eq_true_eq] at firstKept secondKept
    exact .inl ⟨firstKept.2, .inl secondKept.2⟩

theorem not_before_self {offset key : κ} : ¬ Before offset key key := by
  rintro (⟨above, below | less⟩ | ⟨_, _, less⟩)
  · exact absurd below (not_lt.mpr above)
  · exact lt_irrefl key less
  · exact lt_irrefl key less

theorem Before.asymm {offset first second : κ} (before : Before offset first second) : ¬ Before offset second first := by
  unfold Before at before ⊢
  grind

/-- The first keys of the scan. -/
def window (width : Nat) (offset : κ) (keys : List κ) : List κ := (scan offset keys).take width

theorem mem_of_mem_window {width : Nat} {offset key : κ} {keys : List κ} (shown : key ∈ window width offset keys) :
    key ∈ keys :=
  mem_scan.mp (List.mem_of_mem_take shown)

theorem window_pairwise {width : Nat} {offset : κ} {keys : List κ} (sorted : keys.Pairwise (· < ·)) :
    (window width offset keys).Pairwise (Before offset) :=
  (scan_pairwise sorted).sublist (List.take_sublist _ _)

/-- A window that misses a key is full, and all its keys come before that key. -/
theorem window_missing {width : Nat} {offset target : κ} {keys : List κ} (sorted : keys.Pairwise (· < ·))
    (listed : target ∈ keys) (missed : target ∉ window width offset keys) :
    (window width offset keys).length = width ∧ ∀ key ∈ window width offset keys, Before offset key target := by
  have both : target ∈ (scan offset keys).take width ++ (scan offset keys).drop width := by
    rw [List.take_append_drop]
    exact mem_scan.mpr listed
  have later := (List.mem_append.mp both).resolve_left missed
  have ordered : (scan offset keys).Pairwise (Before offset) := scan_pairwise sorted
  rw [← List.take_append_drop width (scan offset keys), List.pairwise_append] at ordered
  constructor
  · rw [window, List.length_take]
    have long : width < (scan offset keys).length := by
      by_contra short
      rw [List.drop_eq_nil_of_le (Nat.le_of_not_lt short)] at later
      simp at later
    omega
  · intro key shown
    exact ordered.2.2 key shown target later

/-- The list shows the first keys of a set, in the cyclic order from the offset. -/
structure Leading (width : Nat) (offset : κ) (keys : Set κ) (shown : List κ) : Prop where
  listed : ∀ key ∈ shown, key ∈ keys
  ordered : shown.Pairwise (Before offset)
  length : shown.length = min width keys.ncard
  first : ∀ key ∈ shown, ∀ other ∈ keys, other ∉ shown → Before offset key other

section Leading

variable {width : Nat} {offset : κ} {keys : Set κ} {shown other : List κ}

theorem Leading.nodup (leading : Leading width offset keys shown) : shown.Nodup := by
  apply leading.ordered.imp
  intro first second before same
  rw [same] at before
  exact not_before_self before

theorem Leading.subset (leading : Leading width offset keys shown) (again : Leading width offset keys other) :
    shown ⊆ other := by
  intro key here
  by_contra missing
  -- The lists have one length, so the other one shows a key that this one misses.
  obtain ⟨extra, there, absent⟩ : ∃ extra ∈ other, extra ∉ shown := by
    by_contra none
    have inside : other ⊆ shown := fun extra there => by_contra fun absent => none ⟨extra, there, absent⟩
    have same : shown.length ≤ other.length := (leading.length.trans again.length.symm).le
    have perm := (List.subperm_of_subset again.nodup inside).perm_of_length_le same
    exact missing (perm.mem_iff.mpr here)
  have before := leading.first key here extra (again.listed extra there) absent
  have after := again.first extra there key (leading.listed key here) missing
  exact before.asymm after

/-- Only one list shows the first keys. -/
theorem Leading.unique (leading : Leading width offset keys shown) (again : Leading width offset keys other) :
    shown = other := by
  have same : shown.Perm other := by
    rw [List.perm_ext_iff_of_nodup leading.nodup again.nodup]
    intro key
    exact ⟨fun here => leading.subset again here, fun there => again.subset leading there⟩
  apply same.eq_of_pairwise _ leading.ordered again.ordered
  intro first second _ _ before after
  exact absurd after before.asymm

end Leading

theorem scan_length (offset : κ) (keys : List κ) : (scan offset keys).length = keys.length := by
  have complement : (fun key => decide (key < offset)) = fun key => !decide (offset ≤ key) := by
    funext key
    rw [← decide_not, decide_eq_decide, not_le]
  rw [scan, complement]
  exact (List.filter_append_perm _ keys).length_eq

/-- The window over sorted keys shows the first of them. -/
theorem window_leading {width : Nat} {offset : κ} {keys : List κ} (sorted : keys.Pairwise (· < ·)) :
    Leading width offset {key | key ∈ keys} (window width offset keys) where
  listed key shown := mem_of_mem_window shown
  ordered := window_pairwise sorted
  length := by
    have distinct : keys.Nodup := sorted.imp fun less => less.ne
    have count : {key | key ∈ keys}.ncard = keys.length := by
      rw [← List.coe_toFinset, Set.ncard_coe_finset, List.toFinset_card_of_nodup distinct]
    rw [window, List.length_take, scan_length, count]
  first key shown other listed missed := (window_missing sorted listed missed).2 key shown

/-- The next key, or the first one behind the last. -/
def successor (last : κ) (keys : List κ) : κ :=
  (keys.find? fun key => last < key).getD (keys.head?.getD last)

/-- The successor of a key is past it and not past a target that is still to come. -/
theorem successor_between {offset last target : κ} {keys : List κ} (sorted : keys.Pairwise (· < ·))
    (listed : target ∈ keys) (before : Before offset last target) :
    (last < successor last keys ∧ successor last keys ≤ target ∧ (offset ≤ last ∨ target < offset)) ∨
      (target < offset ∧ offset ≤ last ∧ (last < successor last keys ∨ successor last keys ≤ target)) := by
  rw [successor]
  cases found : keys.find? fun key => last < key with
  | some next =>
      have past : last < next := by simpa using List.find?_some found
      rw [Option.getD_some]
      by_cases less : last < target
      · -- The successor is the least key past the last one.
        have least : next ≤ target := by
          obtain ⟨_, earlier, later, rfl, skipped⟩ := List.find?_eq_some_iff_append.mp found
          simp only [List.mem_append, List.mem_cons] at listed
          rw [List.pairwise_append, List.pairwise_cons] at sorted
          obtain inside | rfl | after := listed
          · have skip := skipped target inside
            simp only [Bool.not_eq_true', decide_eq_false_iff_not] at skip
            exact absurd less skip
          · exact le_refl _
          · exact (sorted.2.1.1 target after).le
        obtain ⟨above, _⟩ | ⟨_, below, _⟩ := before
        · exact .inl ⟨past, least, .inl above⟩
        · exact .inl ⟨past, least, .inr below⟩
      · obtain ⟨above, below | less'⟩ | ⟨_, _, less'⟩ := before
        · exact .inr ⟨below, above, .inl past⟩
        · exact absurd less' less
        · exact absurd less' less
  | none =>
      have behind : ¬ last < target := by simpa using List.find?_eq_none.mp found target listed
      obtain ⟨above, below | less⟩ | ⟨_, _, less⟩ := before
      · refine .inr ⟨below, above, .inr ?_⟩
        cases keys with
        | nil => simp at listed
        | cons head tail =>
            rw [List.head?_cons, Option.getD_none, Option.getD_some]
            obtain rfl | inside := List.mem_cons.mp listed
            · exact le_refl _
            · exact ((List.pairwise_cons.mp sorted).1 target inside).le
      · exact absurd less behind
      · exact absurd less behind

/-- What comes before the target in the scan from the successor came before it already, and past the last key. -/
theorem before_of_successor {offset last target key : κ} {keys : List κ} (sorted : keys.Pairwise (· < ·))
    (listed : target ∈ keys) (before : Before offset last target)
    (again : Before (successor last keys) key target) : Before offset key target ∧ Before offset last key := by
  have between := successor_between sorted listed before
  unfold Before at before again ⊢
  grind

/-- The offset after a window. -/
def advance (offset : κ) (keys window : List κ) : κ :=
  match window.getLast? with
  | none => offset
  | some last => successor last keys

/-- Successive windows over the enabled keys, where each offset is found among all keys. -/
def windows (width : Nat) : κ → List (List κ × List κ) → List (List κ)
  | _, [] => []
  | offset, (keys, enabled) :: rounds =>
      let shown := window width offset enabled
      shown :: windows width (advance offset keys shown) rounds

/-- The target stays enabled, and both lists of every round are sorted. -/
def Stays (target : κ) (rounds : List (List κ × List κ)) : Prop :=
  ∀ keys enabled, (keys, enabled) ∈ rounds →
    keys.Pairwise (· < ·) ∧ enabled.Pairwise (· < ·) ∧ target ∈ keys ∧ target ∈ enabled

/-- In the windows that miss the target, all keys come before it and none occurs twice. Each window is full. -/
theorem windows_missing {width : Nat} (positive : 0 < width) {offset target : κ} {rounds : List (List κ × List κ)}
    (stays : Stays target rounds) (missed : ∀ shown ∈ windows width offset rounds, target ∉ shown) :
    (∀ shown ∈ windows width offset rounds, shown.length = width) ∧
      (windows width offset rounds).flatten.Nodup ∧
      ∀ key ∈ (windows width offset rounds).flatten, Before offset key target := by
  induction rounds generalizing offset with
  | nil => simp [windows]
  | cons round rounds ih =>
      obtain ⟨keys, enabled⟩ := round
      obtain ⟨keysSorted, enabledSorted, targetListed, targetEnabled⟩ := stays keys enabled (by simp)
      simp only [windows, List.mem_cons, forall_eq_or_imp] at missed ⊢
      obtain ⟨headMissed, tailMissed⟩ := missed
      obtain ⟨full, headBefore⟩ := window_missing enabledSorted targetEnabled headMissed
      obtain ⟨tailFull, tailNodup, tailBefore⟩ :=
        ih (fun keys enabled member => stays keys enabled (by simp [member])) tailMissed
      have ordered : (window width offset enabled).Pairwise (Before offset) := window_pairwise enabledSorted
      -- The last key of the window separates it from the later ones.
      have nonempty : window width offset enabled ≠ [] := by
        intro empty
        rw [empty] at full
        exact absurd full positive.ne
      obtain ⟨front, last, split⟩ := List.eq_nil_or_concat' _ |>.resolve_left nonempty
      have shownLast : last ∈ window width offset enabled := by simp [split]
      have next : advance offset keys (window width offset enabled) = successor last keys := by
        simp [advance, split]
      have later (key : κ) (member : key ∈ (windows width
          (advance offset keys (window width offset enabled)) rounds).flatten) :
          Before offset key target ∧ Before offset last key := by
        have again := tailBefore key member
        rw [next] at again
        exact before_of_successor keysSorted targetListed (headBefore last shownLast) again
      refine ⟨⟨full, tailFull⟩, ?_, ?_⟩
      · rw [List.flatten_cons, List.nodup_append]
        refine ⟨ordered.imp ?_, tailNodup, ?_⟩
        · intro first second before same
          rw [same] at before
          exact not_before_self before
        · intro first inHead second inTail same
          rw [← same] at inTail
          have past := (later first inTail).2
          rw [split, List.pairwise_append] at ordered
          rw [split, List.mem_append, List.mem_singleton] at inHead
          obtain inFront | rfl := inHead
          · exact (ordered.2.2 first inFront last (by simp)).asymm past
          · exact not_before_self past
      · intro key member
        rw [List.flatten_cons, List.mem_append] at member
        obtain inHead | inTail := member
        · exact headBefore key inHead
        · exact (later key inTail).1

theorem windows_length (width : Nat) (offset : κ) (rounds : List (List κ × List κ)) :
    (windows width offset rounds).length = rounds.length := by
  induction rounds generalizing offset with
  | nil => rfl
  | cons round rounds ih => simp only [windows, List.length_cons, ih]

theorem windows_take (width : Nat) (offset : κ) (rounds : List (List κ × List κ)) (count : Nat) :
    (windows width offset rounds).take count = windows width offset (rounds.take count) := by
  induction rounds generalizing offset count with
  | nil => simp [windows]
  | cons round rounds ih =>
      cases count with
      | zero => rfl
      | succ count => simp only [windows, List.take_succ_cons, ih]

theorem windows_drop (width : Nat) (offset : κ) (rounds : List (List κ × List κ)) (count : Nat) :
    ∃ later, (windows width offset rounds).drop count = windows width later (rounds.drop count) := by
  induction rounds generalizing offset count with
  | nil => exact ⟨offset, by simp [windows]⟩
  | cons round rounds ih =>
      cases count with
      | zero => exact ⟨offset, rfl⟩
      | succ count => exact ih _ count

/-- Consecutive windows are the windows of their rounds, from some offset. -/
theorem windows_stretch {width : Nat} {offset : κ} {rounds : List (List κ × List κ)} {before between after : List (List κ)}
    (split : windows width offset rounds = before ++ between ++ after) :
    ∃ later, between = windows width later ((rounds.drop before.length).take between.length) := by
  obtain ⟨later, dropped⟩ := windows_drop width offset rounds before.length
  refine ⟨later, ?_⟩
  rw [← windows_take, ← dropped, split, List.append_assoc, List.drop_left, List.take_left]

/-- A window shows only keys that are enabled in its round. -/
theorem windows_enabled {width : Nat} {offset : κ} {rounds : List (List κ × List κ)} {shown : List κ}
    (there : shown ∈ windows width offset rounds) :
    ∃ keys enabled, (keys, enabled) ∈ rounds ∧ ∀ key ∈ shown, key ∈ enabled := by
  induction rounds generalizing offset with
  | nil => simp [windows] at there
  | cons round rounds ih =>
      obtain ⟨keys, enabled⟩ := round
      simp only [windows, List.mem_cons] at there
      obtain rfl | later := there
      · exact ⟨keys, enabled, by simp, fun key inside => mem_of_mem_window inside⟩
      · obtain ⟨keys, enabled, member, inside⟩ := ih later
        exact ⟨keys, enabled, by simp [member], inside⟩

/-- Enough windows over the same enabled keys show the target. -/
theorem windows_reach {width : Nat} (positive : 0 < width) {offset target : κ} {rounds : List (List κ × List κ)}
    (stays : Stays target rounds) {enabled : Finset κ} (member : target ∈ enabled)
    (same : ∀ keys listed, (keys, listed) ∈ rounds → ∀ key ∈ listed, key ∈ enabled)
    (enough : enabled.card ≤ width * rounds.length) :
    ∃ shown ∈ windows width offset rounds, target ∈ shown := by
  by_contra never
  have missed : ∀ shown ∈ windows width offset rounds, target ∉ shown := by
    intro shown there inside
    exact never ⟨shown, there, inside⟩
  obtain ⟨full, distinct, before⟩ := windows_missing positive stays missed
  have count : (windows width offset rounds).flatten.length = width * rounds.length := by
    rw [List.length_flatten, List.eq_replicate_of_mem (List.forall_mem_map.mpr full), List.sum_replicate,
      List.length_map, windows_length, smul_eq_mul, Nat.mul_comm]
  have others : (windows width offset rounds).flatten.toFinset ⊆ enabled.erase target := by
    intro key inside
    rw [List.mem_toFinset] at inside
    obtain ⟨shown, there, listed⟩ := List.mem_flatten.mp inside
    obtain ⟨keys, round, found, allowed⟩ := windows_enabled there
    refine Finset.mem_erase.mpr ⟨?_, same keys round found key (allowed key listed)⟩
    rintro rfl
    exact not_before_self (before key inside)
  have small := Finset.card_le_card others
  rw [List.toFinset_card_of_nodup distinct, count, Finset.card_erase_of_mem member] at small
  have inhabited : 0 < enabled.card := Finset.card_pos.mpr ⟨target, member⟩
  omega

/-- A window over some key shows a key. -/
theorem window_ne_nil {width : Nat} (positive : 0 < width) {offset target : κ} {keys : List κ} (listed : target ∈ keys) :
    window width offset keys ≠ [] := by
  intro empty
  obtain none | nothing := List.take_eq_nil_iff.mp empty
  · exact absurd none positive.ne'
  · have scanned : target ∈ scan offset keys := mem_scan.mpr listed
    rw [nothing] at scanned
    simp at scanned

/-- The offset after some windows over the same keys. -/
def offsetAfter (width : Nat) (keys : List κ) : Nat → κ → κ
  | 0, offset => offset
  | count + 1, offset => offsetAfter width keys count (advance offset keys (window width offset keys))

/-- The window after some windows over the same keys. -/
def windowAt (width : Nat) (keys : List κ) (offset : κ) (count : Nat) : List κ :=
  window width (offsetAfter width keys count offset) keys

theorem offsetAfter_add (width : Nat) (keys : List κ) (first second : Nat) (offset : κ) :
    offsetAfter width keys (first + second) offset =
      offsetAfter width keys second (offsetAfter width keys first offset) := by
  induction first generalizing offset with
  | zero => rw [Nat.zero_add, offsetAfter]
  | succ first ih => rw [Nat.add_right_comm, offsetAfter, ih, offsetAfter]

theorem windows_replicate (width : Nat) (keys : List κ) (offset : κ) (count : Nat) :
    windows width offset (List.replicate count (keys, keys)) =
      (List.range count).map (windowAt width keys offset) := by
  induction count generalizing offset with
  | zero => rfl
  | succ count ih =>
      rw [List.replicate_succ, windows, ih, List.range_succ_eq_map, List.map_cons, List.map_map]
      rfl

/-- Enough consecutive windows over the same keys show each of them. -/
theorem windowAt_reach {width : Nat} (positive : 0 < width) {keys : List κ} (sorted : keys.Pairwise (· < ·))
    {target : κ} (listed : target ∈ keys) (offset : κ) (start : Nat) {count : Nat}
    (enough : keys.length ≤ width * count) :
    ∃ index, start ≤ index ∧ index < start + count ∧ target ∈ windowAt width keys offset index := by
  have stays : Stays target (List.replicate count (keys, keys)) := by
    intro all enabled member
    cases List.eq_of_mem_replicate member
    exact ⟨sorted, sorted, listed, listed⟩
  have distinct : keys.Nodup := sorted.imp fun less => less.ne
  have same (all enabled : List κ) (member : (all, enabled) ∈ List.replicate count (keys, keys)) :
      ∀ key ∈ enabled, key ∈ keys.toFinset := by
    cases List.eq_of_mem_replicate member
    intro key here
    exact List.mem_toFinset.mpr here
  have enough : keys.toFinset.card ≤ width * (List.replicate count (keys, keys)).length := by
    rwa [List.toFinset_card_of_nodup distinct, List.length_replicate]
  obtain ⟨shown, there, inside⟩ : ∃ shown ∈ windows width (offsetAfter width keys start offset)
      (List.replicate count (keys, keys)), target ∈ shown :=
    windows_reach positive stays (List.mem_toFinset.mpr listed) same enough
  rw [windows_replicate, List.mem_map] at there
  obtain ⟨index, below, rfl⟩ := there
  refine ⟨start + index, Nat.le_add_right _ _, Nat.add_lt_add_left (List.mem_range.mp below) _, ?_⟩
  rw [windowAt, offsetAfter_add]
  exact inside

section Map

variable {ι : Type} [LinearOrder ι] {name : ι → κ} (mono : StrictMono name)

include mono

/-- A renaming that keeps the order renames the windows. -/
theorem window_map (width : Nat) (offset : ι) (keys : List ι) :
    window width (name offset) (keys.map name) = (window width offset keys).map name := by
  simp only [window, scan, List.filter_map, Function.comp_def, mono.le_iff_le, mono.lt_iff_lt, ← List.map_append,
    List.map_take]

theorem successor_map (last : ι) (keys : List ι) :
    successor (name last) (keys.map name) = name (successor last keys) := by
  simp only [successor, List.find?_map, Function.comp_def, mono.lt_iff_lt, List.head?_map]
  cases keys.find? fun key => last < key with
  | some next => rfl
  | none => cases keys.head? <;> rfl

theorem windowAt_map (width : Nat) (keys : List ι) (offset : ι) (count : Nat) :
    windowAt width (keys.map name) (name offset) count = (windowAt width keys offset count).map name := by
  have after : offsetAfter width (keys.map name) count (name offset) = name (offsetAfter width keys count offset) := by
    induction count generalizing offset with
    | zero => rfl
    | succ count ih =>
        have next : advance (name offset) (keys.map name) (window width (name offset) (keys.map name)) =
            name (advance offset keys (window width offset keys)) := by
          rw [window_map mono, advance, advance, List.getLast?_map]
          cases (window width offset keys).getLast? with
          | none => rfl
          | some last => exact successor_map mono last keys
        rw [offsetAfter, offsetAfter, next, ih]
  rw [windowAt, after, window_map mono, windowAt]

end Map

end CyclicScan
