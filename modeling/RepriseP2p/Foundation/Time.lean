/-
This file models monotonic clock readings and durations in nanoseconds.
-/

import Mathlib.Tactic

/-- A reading of the monotonic clock. -/
abbrev Instant := Nat

abbrev Duration := Nat

namespace Duration

def fromMillis (millis : Nat) : Duration := millis * 1000000

def fromSecs (secs : Nat) : Duration := secs * 1000000000

/-- The whole seconds of a duration. -/
def asSecs (duration : Duration) : Nat := duration / 1000000000

theorem asSecs_lt_iff (duration : Duration) (secs : Nat) : asSecs duration < secs ↔ duration < fromSecs secs := by
  rw [asSecs, fromSecs, Nat.div_lt_iff_lt_mul (by decide)]

end Duration

/-- The time since an earlier reading. It saturates at zero. -/
def Instant.elapsed (now earlier : Instant) : Duration := now - earlier
