/-
This file models fallible computations that may also panic, and the slice operations that do.
-/

import Mathlib.Tactic

/-- A computation returns a value, returns an error, or panics. -/
inductive Outcome (ε α : Type) where
  | ok (value : α)
  | err (error : ε)
  | panic
  deriving DecidableEq, Repr

namespace Outcome

variable {ε α β : Type}

/-- An error leaves the function early. A panic leaves the program. -/
def andThen : Outcome ε α → (α → Outcome ε β) → Outcome ε β
  | .ok value, next => next value
  | .err error, _ => .err error
  | .panic, _ => .panic

instance : Monad (Outcome ε) where
  pure := .ok
  bind := andThen

@[simp] theorem pure_eq (value : α) : (pure value : Outcome ε α) = .ok value := rfl

@[simp] theorem ok_bind (value : α) (next : α → Outcome ε β) : (.ok value >>= next) = next value := rfl

@[simp] theorem err_bind (error : ε) (next : α → Outcome ε β) :
    ((.err error : Outcome ε α) >>= next) = .err error := rfl

@[simp] theorem panic_bind (next : α → Outcome ε β) :
    ((.panic : Outcome ε α) >>= next) = .panic := rfl

/-- A missing value becomes the given error. -/
def okOr (value : Option α) (error : ε) : Outcome ε α :=
  match value with
  | some value => .ok value
  | none => .err error

@[simp] theorem okOr_some (value : α) (error : ε) : okOr (some value) error = .ok value := rfl

@[simp] theorem okOr_none (error : ε) : okOr (none : Option α) error = .err error := rfl

/-- Reading one element panics outside the slice. -/
def index (slice : List α) (position : Nat) : Outcome ε α :=
  match slice[position]? with
  | some value => .ok value
  | none => .panic

/-- The slice from a position panics past the end. -/
def sliceFrom (slice : List α) (start : Nat) : Outcome ε (List α) :=
  if start ≤ slice.length then .ok (slice.drop start) else .panic

/-- The slice up to a position panics past the end. -/
def sliceTo (slice : List α) (stop : Nat) : Outcome ε (List α) :=
  if stop ≤ slice.length then .ok (slice.take stop) else .panic

/-- The conversion to an array of fixed length panics on any other length. -/
def toArray (width : Nat) (slice : List α) : Outcome ε (Vector α width) :=
  if fits : slice.length = width then .ok ⟨slice.toArray, by simpa using fits⟩ else .panic

@[simp] theorem index_cons_zero (head : α) (tail : List α) :
    (index (head :: tail) 0 : Outcome ε α) = .ok head := rfl

@[simp] theorem index_cons_succ (head : α) (tail : List α) (position : Nat) :
    (index (head :: tail) (position + 1) : Outcome ε α) = index tail position := rfl

@[simp] theorem sliceFrom_append {width : Nat} (front : Vector α width) (rest : List α) :
    (sliceFrom (front.toList ++ rest) width : Outcome ε (List α)) = .ok rest := by
  simp [sliceFrom]

@[simp] theorem sliceTo_append {width : Nat} (front : Vector α width) (rest : List α) :
    (sliceTo (front.toList ++ rest) width : Outcome ε (List α)) = .ok front.toList := by
  simp [sliceTo]

@[simp] theorem toArray_toList {width : Nat} (front : Vector α width) :
    (toArray width front.toList : Outcome ε (Vector α width)) = .ok front := by
  simp [toArray, Vector.toList]

/-- A slice with enough elements begins with an array of the given length. -/
theorem exists_front (width : Nat) (slice : List α) (enough : width ≤ slice.length) :
    ∃ (front : Vector α width) (rest : List α), slice = front.toList ++ rest := by
  refine ⟨⟨(slice.take width).toArray, by simpa using enough⟩, slice.drop width, ?_⟩
  simp [Vector.toList]

/-- A slice determines the array in front of it. -/
theorem front_inj {width : Nat} {first second : Vector α width} {rest tail : List α}
    (same : first.toList ++ rest = second.toList ++ tail) : first = second ∧ rest = tail := by
  obtain ⟨front, back⟩ := List.append_inj same (by simp)
  exact ⟨Vector.toList_inj.mp front, back⟩

end Outcome
