import TfortisPack.Autorestart.InitModule
import TfortisPack.Library.Periodic

/-!
# Local time with a fixed offset

In a zone without daylight saving `mktime` and `localtime` differ by a
constant, and every day has 86400 seconds.  The instants of a stored time are
then periodic, and `port_setTimeParam` stores the first one after it is called,
as long as that one fits the `uint32_t` it is stored in.
-/

namespace TfortisPack.Autorestart

open TfortisPack.Library

/-- `mktime` of `hour:minute:00` on the local day of `now`. -/
def dayInstant (offset : Int) (now hour minute : Nat) : Int :=
  now - (now + offset) % 86400 + hour * 3600 + minute * 60

/-- The calendar functions `offset` seconds ahead of UTC, their results as they
are stored in a `uint32_t`.  What `localtime` fills in is only printed. -/
def fixedOffset (offset : Int) (localtime : Nat → Tm) : LocalClock where
  todayAt now hour minute := (dayInstant offset now hour minute % 4294967296).toNat
  tomorrowAt now hour minute :=
    ((dayInstant offset now hour minute + 86400) % 4294967296).toNat
  nextDay now := now + 86400
  localtime := localtime

/-- The local time is `time`, in hours and minutes, up to days. -/
def IsAt (offset : Int) (time : Nat × Nat) (instant : Int) : Prop :=
  (instant + offset) % 86400 = time.1 * 3600 + time.2 * 60

instance (offset : Int) (time : Nat × Nat) : DecidablePred (IsAt offset time) :=
  fun _ => inferInstanceAs (Decidable (_ = _))

/-- The instants of a local time. -/
def daily (offset : Int) (time : Nat × Nat) : Periodic where
  period := 86400
  phase := time.1 * 3600 + time.2 * 60 - offset
  positive := by decide

theorem isAt_iff_instant {time : Nat × Nat} (offset : Int) (valid : time.1 ≤ 23 ∧ time.2 ≤ 59)
    (instant : Int) : IsAt offset time instant ↔ (daily offset time).Instant instant := by
  simp only [IsAt, Periodic.Instant, daily]
  omega

theorem isValidTime_range {timeString : String} {time : Nat × Nat}
    (valid : isValidTime timeString = some time) :
    time.1 ≤ 23 ∧ time.2 ≤ 59 := by
  simp only [isValidTime, Option.bind_eq_bind, Option.bind_eq_some_iff] at valid
  obtain ⟨⟨hour, rest⟩, _, valid⟩ := valid
  split at valid
  · obtain ⟨⟨minute, _⟩, _, valid⟩ := Option.bind_eq_some_iff.mp valid
    split at valid
    · cases valid
    · rename_i inside
      simp only [Bool.or_eq_true, decide_eq_true_eq, not_or] at inside
      cases valid
      simp only
      omega
  · cases valid

section Deadline

variable {offset : Int} (localtime : Nat → Tm) {now : Nat} {time : Nat × Nat}

/-- The instant on the day of `now` is less than a day away, on either side. -/
theorem dayInstant_near (offset : Int) (now : Nat) (valid : time.1 ≤ 23 ∧ time.2 ≤ 59) :
    dayInstant offset now time.1 time.2 < now + 86400 ∧
      now < dayInstant offset now time.1 time.2 + 86400 := by
  simp only [dayInstant]
  omega

theorem nextAfter_daily (offset : Int) (now : Nat) (valid : time.1 ≤ 23 ∧ time.2 ≤ 59) :
    (daily offset time).nextAfter now =
      if dayInstant offset now time.1 time.2 ≤ now then
        dayInstant offset now time.1 time.2 + 86400
      else dayInstant offset now time.1 time.2 := by
  by_cases passed : dayInstant offset now time.1 time.2 ≤ now
  · rw [if_pos passed]
    simp only [daily, Periodic.nextAfter, Periodic.lastAt, dayInstant] at *
    omega
  · rw [if_neg passed]
    simp only [daily, Periodic.nextAfter, Periodic.lastAt, dayInstant] at *
    omega

variable (alarm : TimeHM)

theorem setTargetTime_targetTime :
    (setTargetTime (fixedOffset offset localtime) now alarm time).targetTime =
      if (dayInstant offset now time.1 time.2 % 4294967296).toNat ≤ now then
        ((dayInstant offset now time.1 time.2 + 86400) % 4294967296).toNat
      else (dayInstant offset now time.1 time.2 % 4294967296).toNat := by
  have stored (instant : Int) :
      u32 (instant % 4294967296).toNat = (instant % 4294967296).toNat := by
    simp only [u32]
    omega
  simp only [setTargetTime, fixedOffset, stored, ge_iff_le]

/-- The stored deadline is the next instant of the stored time. -/
theorem setTargetTime_nextAfter (valid : time.1 ≤ 23 ∧ time.2 ≤ 59)
    (inRange : now + 86400 < 4294967296) (epoch : 0 ≤ dayInstant offset now time.1 time.2) :
    ((setTargetTime (fixedOffset offset localtime) now alarm time).targetTime : Int) =
      (daily offset time).nextAfter now := by
  have near := dayInstant_near offset now valid
  rw [nextAfter_daily offset now valid, setTargetTime_targetTime]
  generalize dayInstant offset now time.1 time.2 = today at *
  have fits : (today % 4294967296).toNat = today.toNat := by
    omega
  rw [fits]
  by_cases passed : today ≤ now
  · rw [if_pos (by omega), if_pos passed]
    omega
  · rw [if_neg (by omega), if_neg passed]
    omega

/-- An instant before the epoch wraps around. -/
theorem setTargetTime_wraps (valid : time.1 ≤ 23 ∧ time.2 ≤ 59)
    (inRange : now + 86400 < 4294967296) (early : dayInstant offset now time.1 time.2 < 0) :
    ((setTargetTime (fixedOffset offset localtime) now alarm time).targetTime : Int) =
      dayInstant offset now time.1 time.2 + 4294967296 := by
  have near := dayInstant_near offset now valid
  rw [setTargetTime_targetTime]
  generalize dayInstant offset now time.1 time.2 = today at *
  rw [if_neg (by omega)]
  omega

end Deadline

end TfortisPack.Autorestart
