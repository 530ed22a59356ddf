import Mathlib.Algebra.Order.Group.Unbundled.Abs
import Mathlib.Algebra.Order.Group.Abs

/-!
# A remembered value with a dead zone

A detector keeps the last reading that differed from the one it kept before by
more than a tolerance.  The kept value follows the readings within the
tolerance, so that two readings further apart than twice the tolerance cannot
both lie in the dead zone around it.
-/

namespace TfortisPack.Library

variable {α : Type*} [AddCommGroup α] [LinearOrder α]
variable {tolerance kept reading : α}

/-- The value kept after a reading. -/
def track (tolerance kept reading : α) : α :=
  if tolerance < |reading - kept| then reading else kept

theorem track_of_lt (moved : tolerance < |reading - kept|) :
    track tolerance kept reading = reading :=
  if_pos moved

theorem track_of_le (steady : |reading - kept| ≤ tolerance) :
    track tolerance kept reading = kept :=
  if_neg (not_lt.mpr steady)

variable [IsOrderedAddMonoid α]

/-- The kept value is within the tolerance of the last reading. -/
theorem abs_sub_track_le (nonnegative : 0 ≤ tolerance) (kept reading : α) :
    |reading - track tolerance kept reading| ≤ tolerance := by
  by_cases moved : tolerance < |reading - kept|
  · rw [track_of_lt moved, sub_self, abs_zero]
    exact nonnegative
  · rw [track_of_le (not_lt.mp moved)]
    exact not_lt.mp moved

/-- A reading further from the previous one than twice the tolerance leaves the
dead zone. -/
theorem lt_abs_sub_of_two_nsmul_lt {before : α} (near : |before - kept| ≤ tolerance)
    (far : 2 • tolerance < |reading - before|) : tolerance < |reading - kept| := by
  by_contra steady
  have through : |reading - before| ≤ |reading - kept| + |before - kept| := by
    rw [abs_sub_comm before kept]
    exact abs_sub_le reading kept before
  have within : |reading - kept| + |before - kept| ≤ tolerance + tolerance :=
    add_le_add (not_lt.mp steady) near
  rw [two_nsmul] at far
  exact absurd (far.trans_le through) (not_lt.mpr within)

end TfortisPack.Library
