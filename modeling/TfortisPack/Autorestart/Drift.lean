import TfortisPack.Autorestart.Alarms
import TfortisPack.Autorestart.LocalTime
import TfortisPack.Library.Runs

/-!
# The drift of the schedule

`port_setTimeParam` computes the first deadline from the hour and the minute
of the option.  `port_timeAlarm` computes every later one by adding a day to
the broken-down time of the poll at which the alarm fires, with the seconds of
that poll.  The schedule stays on its time exactly as long as every poll at
which it fires hits the second.
-/

namespace TfortisPack.Autorestart

open TfortisPack.Library

namespace Drift

/-- A port and the time of its last poll. -/
structure Polled where
  polledAt : Nat
  port : PortInfo
  deriving DecidableEq

/-- The polls of `alarmHandler`; the input is the number of seconds since the
last one. -/
def polls (clock : LocalClock) : Machine Polled Nat Action where
  step state gap :=
    let polled := alarmHandler clock (state.polledAt + gap) state.port
    (⟨state.polledAt + gap, polled.1⟩, polled.2)

/-- A port for which `port_setTimeParam` was called at `start`. -/
def scheduled (clock : LocalClock) (start : Nat) (port : PortInfo)
    (timeUp timeDown : String) : Polled where
  polledAt := start
  port :=
    { port with
      portConfigInfo :=
        (portSetTimeParam clock start port.portConfigInfo timeUp timeDown).1 }

/-- The time that is stored in the alarm. -/
def timeOf (control : PoeControl) (state : Polled) : Nat × Nat :=
  ((Alarms.alarmOf control state.port).timeH, (Alarms.alarmOf control state.port).timeM)

def targetOf (control : PoeControl) (state : Polled) : Nat :=
  (Alarms.alarmOf control state.port).targetTime

section Properties

variable (offset : Int) (control : PoeControl) (state : Polled)

/-- The stored deadline is at the stored time. -/
def OnSchedule : Prop :=
  IsAt offset (timeOf control state) (targetOf control state)

/-- The next poll takes the branch of `port_timeAlarm` that arms the alarm. -/
def Fires (gap : Nat) : Prop :=
  targetOf control state ≤ state.polledAt + gap

/-- The stored time lies between the last poll and the next one. -/
def Crosses (gap : Nat) : Prop :=
  ∃ instant : Int, state.polledAt < instant ∧ instant ≤ state.polledAt + gap ∧
    IsAt offset (timeOf control state) instant

/-- Less than a day after the last poll, the alarm fires exactly if its time was
passed. -/
def FiresOnCrossing (gap : Nat) : Prop :=
  gap < 86400 → (Fires control state gap ↔ Crosses offset control state gap)

/-- A poll at which the alarm fires is made in the second of the stored time. -/
def FiresOnTheSecond (gap : Nat) : Prop :=
  Fires control state gap →
    IsAt offset (timeOf control state) ((state.polledAt + gap : Nat) : Int)

/-- The instant on the day of the first poll is not before the epoch. -/
def StartsInEpoch : Prop :=
  0 ≤ dayInstant offset state.polledAt (timeOf control state).1 (timeOf control state).2

instance : Decidable (OnSchedule offset control state) :=
  inferInstanceAs (Decidable (IsAt _ _ _))

instance (gap : Nat) : Decidable (Fires control state gap) :=
  inferInstanceAs (Decidable (_ ≤ _))

instance (gap : Nat) : Decidable (FiresOnTheSecond offset control state gap) :=
  inferInstanceAs (Decidable (_ → _))

instance : Decidable (StartsInEpoch offset control state) :=
  inferInstanceAs (Decidable (_ ≤ _))

end Properties

/-- The schedule does not drift in a sequence of polls. -/
def ScheduleKept (clock : LocalClock) (offset : Int) (control : PoeControl) (state : Polled)
    (gaps : List Nat) : Prop :=
  (polls clock).AllStates (OnSchedule offset control) state gaps ∧
    (polls clock).AllSteps (FiresOnCrossing offset control) state gaps

/-! ## One poll -/

section Poll

variable (clock : LocalClock) (control : PoeControl)

variable (state : Polled) (gap : Nat)

/-- In every state of the port a poll leaves the alarm as `port_timeAlarm` does,
its status apart. -/
theorem exists_status_next :
    ∃ status,
      Alarms.alarmOf control ((polls clock).next state gap).port =
        { portTimeAlarm clock (state.polledAt + gap) (Alarms.alarmOf control state.port) with
          status := status } := by
  by_cases busy : state.port.portResetInfo.state = .reboot
  · simp only [polls, Machine.next, Alarms.alarmHandler_busy clock _ busy]
    cases control <;> exact ⟨_, rfl⟩
  · simp only [polls, Machine.next, Alarms.alarmOf_alarmHandler clock _ control busy,
      Alarms.afterService]
    split <;> exact ⟨_, rfl⟩

theorem targetOf_next :
    targetOf control ((polls clock).next state gap) =
      if Fires control state gap then u32 (clock.nextDay (state.polledAt + gap))
      else targetOf control state := by
  obtain ⟨status, polled⟩ := exists_status_next clock control state gap
  rw [targetOf, polled]
  exact Alarms.portTimeAlarm_targetTime clock _ _

theorem timeOf_next : timeOf control ((polls clock).next state gap) = timeOf control state := by
  obtain ⟨status, polled⟩ := exists_status_next clock control state gap
  rw [timeOf, timeOf, polled]
  unfold portTimeAlarm
  split <;> rfl

variable {state gap}

theorem polledAt_next : ((polls clock).next state gap).polledAt = state.polledAt + gap :=
  rfl

theorem polledAt_le_final (state : Polled) (gaps : List Nat) :
    state.polledAt ≤ ((polls clock).final state gaps).polledAt := by
  induction gaps generalizing state with
  | nil =>
      exact le_rfl
  | cons gap rest inductionHypothesis =>
      have later := inductionHypothesis ((polls clock).next state gap)
      rw [polledAt_next] at later
      simp only [Machine.final]
      omega

end Poll

/-- The stored time is valid and the deadline is at most a day ahead. -/
structure Ahead (control : PoeControl) (state : Polled) : Prop where
  valid : (timeOf control state).1 ≤ 23 ∧ (timeOf control state).2 ≤ 59
  after : state.polledAt < targetOf control state
  before : targetOf control state ≤ state.polledAt + 86400

/-- The deadline is the next instant of the stored time. -/
structure OnTime (offset : Int) (control : PoeControl) (state : Polled) : Prop extends
    Ahead control state where
  onSchedule : OnSchedule offset control state

/-- A day after the poll still fits a `uint32_t`. -/
def InRange (state : Polled) (gap : Nat) : Prop :=
  state.polledAt + gap + 86400 < 4294967296

section Steps

variable {offset : Int} (localtime : Nat → Tm) {control : PoeControl} {state : Polled}
variable {gap : Nat}

theorem targetOf_next_fixed (offset : Int) (control : PoeControl)
    (inRange : InRange state gap) :
    targetOf control ((polls (fixedOffset offset localtime)).next state gap) =
      if Fires control state gap then state.polledAt + gap + 86400
      else targetOf control state := by
  have nextDay : u32 ((fixedOffset offset localtime).nextDay (state.polledAt + gap)) =
      state.polledAt + gap + 86400 :=
    Nat.mod_eq_of_lt inRange
  rw [targetOf_next, nextDay]

theorem Ahead.next (ahead : Ahead control state) (inRange : InRange state gap) :
    Ahead control ((polls (fixedOffset offset localtime)).next state gap) := by
  have target := targetOf_next_fixed localtime offset control inRange
  have before := ahead.before
  by_cases fires : Fires control state gap
  · rw [if_pos fires] at target
    refine ⟨by simpa only [timeOf_next] using ahead.valid, ?_, ?_⟩
    · rw [target, polledAt_next]
      omega
    · rw [target, polledAt_next]
  · rw [if_neg fires] at target
    rw [Fires] at fires
    refine ⟨by simpa only [timeOf_next] using ahead.valid, ?_, ?_⟩
    · rw [target, polledAt_next]
      omega
    · rw [target, polledAt_next]
      omega

/-- While the deadline is on schedule, a poll leaves it there exactly if the
alarm does not fire late. -/
theorem onSchedule_next_iff (inRange : InRange state gap)
    (kept : OnSchedule offset control state) :
    OnSchedule offset control ((polls (fixedOffset offset localtime)).next state gap) ↔
      FiresOnTheSecond offset control state gap := by
  rw [OnSchedule, timeOf_next, targetOf_next_fixed localtime offset control inRange]
  by_cases fires : Fires control state gap
  · rw [if_pos fires]
    simp only [FiresOnTheSecond, fires, true_implies, IsAt]
    omega
  · rw [if_neg fires]
    exact iff_of_true kept (fun fired => absurd fired fires)

/-- The only instant in the day after the poll is the next one. -/
theorem OnTime.eq_nextAfter (onTime : OnTime offset control state) :
    (targetOf control state : Int) =
      (daily offset (timeOf control state)).nextAfter state.polledAt := by
  have after := onTime.after
  have before := onTime.before
  have isInstant := (isAt_iff_instant offset onTime.valid _).mp onTime.onSchedule
  have polled := Periodic.lt_nextAfter (daily offset (timeOf control state)) state.polledAt
  have day : (daily offset (timeOf control state)).nextAfter state.polledAt ≤
      state.polledAt + 86400 :=
    add_le_add_left (Periodic.lastAt_le _ _) 86400
  have period : (daily offset (timeOf control state)).period = 86400 := rfl
  exact isInstant.eq_of_lt (Periodic.instant_nextAfter _ _) (by omega) (by omega)

theorem OnTime.firesOnCrossing (onTime : OnTime offset control state) (gap : Nat) :
    FiresOnCrossing offset control state gap := by
  intro _
  have next := onTime.eq_nextAfter
  simp only [Crosses, isAt_iff_instant offset onTime.valid]
  rw [Periodic.exists_instant_iff, ← next, Fires]
  omega

theorem OnTime.next (onTime : OnTime offset control state) (inRange : InRange state gap)
    (hits : FiresOnTheSecond offset control state gap) :
    OnTime offset control ((polls (fixedOffset offset localtime)).next state gap) :=
  ⟨onTime.toAhead.next localtime inRange,
    (onSchedule_next_iff localtime inRange onTime.onSchedule).mpr hits⟩

end Steps

/-! ## Runs -/

theorem exists_time_of_valid (clock : LocalClock) (start : Nat) (port : PortInfo)
    {timeUp timeDown : String} (validUp : isValidTime timeUp ≠ none)
    (validDown : isValidTime timeDown ≠ none) (control : PoeControl) :
    ∃ alarm time, (time.1 ≤ 23 ∧ time.2 ≤ 59) ∧
      Alarms.alarmOf control (scheduled clock start port timeUp timeDown).port =
        setTargetTime clock start alarm time := by
  obtain ⟨up, upValid⟩ := Option.ne_none_iff_exists'.mp validUp
  obtain ⟨down, downValid⟩ := Option.ne_none_iff_exists'.mp validDown
  cases control with
  | up =>
      refine ⟨port.portConfigInfo.timeUp, up, isValidTime_range upValid, ?_⟩
      simp only [scheduled, portSetTimeParam, upValid, downValid, Alarms.alarmOf]
  | down =>
      refine ⟨port.portConfigInfo.timeDown, down, isValidTime_range downValid, ?_⟩
      simp only [scheduled, portSetTimeParam, upValid, downValid, Alarms.alarmOf]

theorem inRange_of_final (clock : LocalClock) {state : Polled} {gaps : List Nat}
    (final : ((polls clock).final state gaps).polledAt + 86400 < 4294967296) :
    (polls clock).AllSteps InRange state gaps := by
  induction gaps generalizing state with
  | nil =>
      trivial
  | cons gap rest inductionHypothesis =>
      have later := polledAt_le_final clock ((polls clock).next state gap) rest
      rw [polledAt_next] at later
      refine ⟨?_, inductionHypothesis final⟩
      simp only [Machine.final] at final
      rw [InRange]
      omega

theorem OnTime.kept_iff {offset : Int} {localtime : Nat → Tm} {control : PoeControl}
    {state : Polled} {gaps : List Nat} (onTime : OnTime offset control state)
    (steps : (polls (fixedOffset offset localtime)).AllSteps InRange state gaps) :
    ScheduleKept (fixedOffset offset localtime) offset control state gaps ↔
      (polls (fixedOffset offset localtime)).AllSteps (FiresOnTheSecond offset control)
        state gaps := by
  have states := Machine.allStates_iff_allSteps_of_allowed
    (fun state gap ahead inRange => Ahead.next localtime ahead inRange)
    (fun state gap _ inRange kept => onSchedule_next_iff localtime inRange kept)
    onTime.toAhead onTime.onSchedule steps
  constructor
  · intro kept
    exact states.mp kept.1
  · intro hits
    refine ⟨states.mpr hits, ?_⟩
    exact Machine.allSteps_of_invariant
      (fun state gap onTime guarded => onTime.next localtime guarded.1 guarded.2)
      (fun state gap onTime _ => onTime.firesOnCrossing gap) onTime (steps.and hits)

/-- For all valid times and all polls: the deadline of either alarm stays on the
stored time, and the alarm fires once for every instant passed, exactly if the
first instant is not before the epoch and every poll at which the alarm fires
hits the second. -/
theorem schedule_kept_iff (offset : Int) (localtime : Nat → Tm) (start : Nat)
    (port : PortInfo) (timeUp timeDown : String) (control : PoeControl) (gaps : List Nat)
    (validUp : isValidTime timeUp ≠ none) (validDown : isValidTime timeDown ≠ none)
    (inRange :
      ((polls (fixedOffset offset localtime)).final
        (scheduled (fixedOffset offset localtime) start port timeUp timeDown)
        gaps).polledAt + 86400 < 4294967296) :
    ScheduleKept (fixedOffset offset localtime) offset control
        (scheduled (fixedOffset offset localtime) start port timeUp timeDown) gaps ↔
      StartsInEpoch offset control
          (scheduled (fixedOffset offset localtime) start port timeUp timeDown) ∧
        (polls (fixedOffset offset localtime)).AllSteps (FiresOnTheSecond offset control)
          (scheduled (fixedOffset offset localtime) start port timeUp timeDown) gaps := by
  obtain ⟨alarm, time, valid, stored⟩ := exists_time_of_valid (fixedOffset offset localtime)
    start port validUp validDown control
  have startInRange : start + 86400 < 4294967296 := by
    have later := polledAt_le_final (fixedOffset offset localtime)
      (scheduled (fixedOffset offset localtime) start port timeUp timeDown) gaps
    exact (Nat.add_le_add_right later 86400).trans_lt inRange
  have steps := inRange_of_final _ inRange
  have polledAt : (scheduled (fixedOffset offset localtime) start port timeUp
      timeDown).polledAt = start := rfl
  generalize scheduled (fixedOffset offset localtime) start port timeUp timeDown = state at *
  have stores : timeOf control state = time := by
    rw [timeOf, stored]
    rfl
  rw [StartsInEpoch, stores, polledAt]
  by_cases epoch : 0 ≤ dayInstant offset start time.1 time.2
  · have target : (targetOf control state : Int) = (daily offset time).nextAfter start := by
      rw [targetOf, stored]
      exact setTargetTime_nextAfter localtime alarm valid startInRange epoch
    have ahead : Ahead control state := by
      have after := Periodic.lt_nextAfter (daily offset time) start
      have before : (daily offset time).nextAfter start ≤ start + 86400 :=
        add_le_add_left (Periodic.lastAt_le _ _) 86400
      exact ⟨by rw [stores]; exact valid, by omega, by omega⟩
    have starts : OnSchedule offset control state := by
      rw [OnSchedule, stores, isAt_iff_instant offset valid, target]
      exact Periodic.instant_nextAfter _ _
    have onTime : OnTime offset control state := ⟨ahead, starts⟩
    rw [onTime.kept_iff steps]
    simp only [epoch, true_and]
  · refine iff_of_false ?_ (fun condition => epoch condition.1)
    intro kept
    have starts : OnSchedule offset control state := by
      cases gaps with
      | nil => exact kept.1
      | cons _ _ => exact kept.1.1
    have target : (targetOf control state : Int) =
        dayInstant offset start time.1 time.2 + 4294967296 := by
      rw [targetOf, stored]
      exact setTargetTime_wraps localtime alarm valid startInRange (not_le.mp epoch)
    rw [OnSchedule, IsAt, stores, target] at starts
    simp only [dayInstant] at starts
    omega

/-- The clock of a device three hours ahead of UTC. -/
def threeHoursAhead : LocalClock :=
  fixedOffset 10800 utc.localtime

/-- Scheduled at 01:13:20 local time. -/
def scheduledAhead : Polled :=
  scheduled threeHoursAhead 1700000000 (zeroPort (portNumOf firstPort)) "01:14" "01:15"

/-- Polls at 01:14:00 on three days keep the power-on at 01:14. -/
theorem schedule_kept_on_the_second :
    ScheduleKept threeHoursAhead 10800 .up scheduledAhead [40, 86400, 86400] :=
  (schedule_kept_iff 10800 utc.localtime 1700000000 (zeroPort (portNumOf firstPort))
    "01:14" "01:15" .up [40, 86400, 86400] (by decide) (by decide) (by decide)).mpr (by decide)

/-- One poll a second late moves the power-on to 01:14:01. -/
theorem late_poll_shifts_schedule :
    targetOf .up ((polls threeHoursAhead).final scheduledAhead [41]) = 1700086441 ∧
      ¬ScheduleKept threeHoursAhead 10800 .up scheduledAhead [41] := by
  refine ⟨by decide, ?_⟩
  intro kept
  have onSchedule : OnSchedule 10800 .up ((polls threeHoursAhead).next scheduledAhead 41) :=
    kept.1.2
  revert onSchedule
  decide

end Drift

end TfortisPack.Autorestart
