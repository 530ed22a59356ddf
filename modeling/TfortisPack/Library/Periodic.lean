import Mathlib.Algebra.Order.Ring.Int
import Mathlib.Tactic.Linarith

/-!
# Periodic instants

A schedule names the instants `phase + k * period`.  For every time there is a
last instant up to it and a first instant after it; both are determined by
the remainder of the time, and an interval contains an instant exactly if it
contains one of these two.
-/

namespace TfortisPack.Library

/-- The instants `phase + k * period`. -/
structure Periodic where
  period : Int
  phase : Int
  positive : 0 < period

namespace Periodic

variable (schedule : Periodic)

def Instant (time : Int) : Prop :=
  (time - schedule.phase) % schedule.period = 0

/-- The last instant up to `time`. -/
def lastAt (time : Int) : Int :=
  time - (time - schedule.phase) % schedule.period

/-- The first instant after `time`. -/
def nextAfter (time : Int) : Int :=
  schedule.lastAt time + schedule.period

instance : DecidablePred schedule.Instant :=
  fun _ => inferInstanceAs (Decidable (_ = _))

theorem lastAt_le (time : Int) : schedule.lastAt time ≤ time := by
  have remainder := Int.emod_nonneg (time - schedule.phase) schedule.positive.ne'
  simp only [lastAt]
  omega

theorem lt_nextAfter (time : Int) : time < schedule.nextAfter time := by
  have remainder := Int.emod_lt_of_pos (time - schedule.phase) schedule.positive
  simp only [nextAfter, lastAt]
  omega

theorem instant_lastAt (time : Int) : schedule.Instant (schedule.lastAt time) := by
  have multiple := Int.mul_ediv_add_emod (time - schedule.phase) schedule.period
  have parts : schedule.lastAt time - schedule.phase =
      schedule.period * ((time - schedule.phase) / schedule.period) := by
    simp only [lastAt]
    omega
  rw [Instant, parts]
  exact Int.mul_emod_right _ _

theorem instant_nextAfter (time : Int) : schedule.Instant (schedule.nextAfter time) := by
  have shifted : schedule.nextAfter time - schedule.phase =
      schedule.lastAt time - schedule.phase + schedule.period := by
    simp only [nextAfter]
    omega
  rw [Instant, shifted, Int.add_emod_right]
  exact schedule.instant_lastAt time

variable {schedule} {time instant : Int}

/-- Two instants less than a period apart are the same. -/
theorem Instant.eq_of_lt {other : Int} (first : schedule.Instant instant)
    (second : schedule.Instant other) (below : instant < other + schedule.period)
    (above : other < instant + schedule.period) :
    instant = other := by
  have multiple : schedule.period ∣ instant - other := by
    have difference : instant - other =
        (instant - schedule.phase) - (other - schedule.phase) := by
      omega
    rw [difference]
    exact Int.dvd_sub (Int.dvd_of_emod_eq_zero first) (Int.dvd_of_emod_eq_zero second)
  have close : |instant - other| < schedule.period := by
    rw [abs_lt]
    omega
  have zero := Int.eq_zero_of_abs_lt_dvd multiple close
  omega

theorem Instant.le_lastAt_iff (isInstant : schedule.Instant instant) :
    instant ≤ schedule.lastAt time ↔ instant ≤ time := by
  constructor
  · intro below
    exact below.trans (schedule.lastAt_le time)
  · intro passed
    by_contra later
    have next := schedule.lt_nextAfter time
    have same : instant = schedule.lastAt time :=
      isInstant.eq_of_lt (schedule.instant_lastAt time) (by rw [nextAfter] at next; omega)
        (by have positive := schedule.positive; omega)
    omega

theorem Instant.nextAfter_le_iff (isInstant : schedule.Instant instant) :
    schedule.nextAfter time ≤ instant ↔ time < instant := by
  constructor
  · intro later
    exact (schedule.lt_nextAfter time).trans_le later
  · intro ahead
    by_contra early
    have last := schedule.lastAt_le time
    have same : instant = schedule.nextAfter time :=
      isInstant.eq_of_lt (schedule.instant_nextAfter time)
        (by have positive := schedule.positive; omega) (by rw [nextAfter] at *; omega)
    omega

/-- An interval contains an instant exactly if the next one after its start lies
in it. -/
theorem exists_instant_iff {start finish : Int} :
    (∃ instant, start < instant ∧ instant ≤ finish ∧ schedule.Instant instant) ↔
      schedule.nextAfter start ≤ finish := by
  constructor
  · intro crossed
    obtain ⟨instant, after, before, isInstant⟩ := crossed
    exact (isInstant.nextAfter_le_iff.mpr after).trans before
  · intro reached
    exact ⟨schedule.nextAfter start, schedule.lt_nextAfter start, reached,
      schedule.instant_nextAfter start⟩

/-- The next instant stays the same while none is passed. -/
theorem nextAfter_eq_of_le {start finish : Int} (later : start ≤ finish)
    (notReached : finish < schedule.nextAfter start) :
    schedule.nextAfter finish = schedule.nextAfter start := by
  apply le_antisymm
  · exact (schedule.instant_nextAfter start).nextAfter_le_iff.mpr notReached
  · exact (schedule.instant_nextAfter finish).nextAfter_le_iff.mpr
      (later.trans_lt (schedule.lt_nextAfter finish))

/-- The last instant stays the same while no further one is reached. -/
theorem lastAt_eq_of_lt {start finish : Int} (later : start ≤ finish)
    (notReached : finish < schedule.nextAfter start) :
    schedule.lastAt finish = schedule.lastAt start := by
  have same := nextAfter_eq_of_le later notReached
  simp only [nextAfter] at same
  omega

theorem lt_lastAt_iff {start finish : Int} :
    start < schedule.lastAt finish ↔ schedule.nextAfter start ≤ finish := by
  rw [← (schedule.instant_lastAt finish).nextAfter_le_iff]
  exact (schedule.instant_nextAfter start).le_lastAt_iff

/-- Of several schedules, one has the most recent instant of all exactly if its
last instant is not before any other. -/
theorem exists_mostRecent_iff {ι : Type} (schedules : ι → Periodic) (index : ι)
    (start finish : Int) :
    (∃ instant, start < instant ∧ instant ≤ finish ∧ (schedules index).Instant instant ∧
        ∀ later, instant < later → later ≤ finish →
          ∀ other, ¬(schedules other).Instant later) ↔
      start < (schedules index).lastAt finish ∧
        ∀ other, (schedules other).lastAt finish ≤ (schedules index).lastAt finish := by
  constructor
  · intro mostRecent
    obtain ⟨instant, after, before, isInstant, none⟩ := mostRecent
    have reached := isInstant.le_lastAt_iff.mpr before
    refine ⟨after.trans_le reached, ?_⟩
    intro other
    by_contra ahead
    exact none _ (reached.trans_lt (not_le.mp ahead)) ((schedules other).lastAt_le finish) other
      ((schedules other).instant_lastAt finish)
  · intro last
    refine ⟨(schedules index).lastAt finish, last.1, (schedules index).lastAt_le finish,
      (schedules index).instant_lastAt finish, ?_⟩
    intro later after before other isInstant
    have reached := isInstant.le_lastAt_iff.mpr before
    exact absurd (reached.trans (last.2 other)) (not_le.mpr after)

end Periodic

end TfortisPack.Library
