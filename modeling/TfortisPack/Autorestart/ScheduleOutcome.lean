import TfortisPack.Autorestart.Errors
import TfortisPack.Autorestart.Alarms
import TfortisPack.Autorestart.LocalTime
import TfortisPack.Library.Runs

/-!
# What the schedule leads to

After a tick the last command of `alarmHandler` should be the one of the most
recent scheduled time.  Two things stand in the way: alarms that are due at
the same tick are served in the order of the code, the power-off first, and a
deadline that has drifted behind its time is not noticed before the drifted
one.  Where neither happens the outcome is right.
-/

namespace TfortisPack.Autorestart

open TfortisPack.Library

namespace ScheduleOutcome

/-- The daemon, the time of its last tick and the last command of the alarm. -/
structure Watched where
  daemon : Daemon
  lastTick : Nat
  lastCommand : Option PoeControl
  deriving DecidableEq

def commandOf : Action → Option PoeControl
  | .poeControl .alarmHandler control _ => some control
  | _ => none

def lastCommandAfter (last : Option PoeControl) (actions : List Action) : Option PoeControl :=
  (actions.filterMap commandOf).getLast?.or last

def lastTickAfter (last : Nat) : Input → Nat
  | .tick tick => tick.now
  | _ => last

/-- The daemon under observation. -/
def watch (env : Environment) : Machine Watched Input Action where
  step watched input :=
    let actions := (daemon env).emit watched.daemon input
    ({ daemon := (daemon env).next watched.daemon input
       lastTick := lastTickAfter watched.lastTick input
       lastCommand := lastCommandAfter watched.lastCommand actions }, actions)

/-- A device with a fixed offset to UTC. -/
def fixedEnvironment (config : DaemonConfig) (offset : Int) (localtime : Nat → Tm) :
    Environment where
  config := config
  clock := fixedOffset offset localtime

section Properties

variable (offset : Int) (times : PoeControl → Nat × Nat)

/-- Of all scheduled instants from `start` to `time`, the last one belongs to
`control`. -/
def MostRecent (start time : Nat) (control : PoeControl) : Prop :=
  ∃ instant : Int, start < instant ∧ instant ≤ time ∧ IsAt offset (times control) instant ∧
    ∀ later : Int, instant < later → later ≤ time →
      ∀ other, ¬IsAt offset (times other) later

/-- The last command and the flag are those of the most recent instant. -/
def Outcome (start : Nat) (watched : Watched) : Prop :=
  ∀ control, MostRecent offset times start watched.lastTick control →
    watched.lastCommand = some control ∧
      watched.daemon.port.hasError errPoeDown = decide (control = .down)

/-- A tick after an instant of the alarm finds its deadline reached. -/
def NoticedBy (control : PoeControl) (watched : Watched) (now : Nat) : Prop :=
  (daily offset (times control)).nextAfter watched.lastTick ≤ now →
    (Alarms.alarmOf control watched.daemon.port).targetTime ≤ now

/-- If both alarms are due at a tick, the power-on is the later one. -/
def InOrder (watched : Watched) (now : Nat) : Prop :=
  (Alarms.alarmOf .down watched.daemon.port).targetTime ≤ now →
    (Alarms.alarmOf .up watched.daemon.port).targetTime ≤ now →
      (daily offset (times .down)).lastAt now < (daily offset (times .up)).lastAt now

/-- The tick serves every alarm in time and in order, and a day later still fits
a `uint32_t`; no ping is answered by a port that is scheduled off. -/
def ServesInTime (watched : Watched) : Input → Prop
  | .tick tick =>
      NoticedBy offset times .up watched tick.now ∧
        NoticedBy offset times .down watched tick.now ∧
        InOrder offset times watched tick.now ∧ tick.now + 86400 < 4294967296
  | input =>
      ¬(PingSucceeds watched.daemon input ∧
        watched.daemon.port.hasError errPoeDown = true)

instance (control : PoeControl) (watched : Watched) (now : Nat) :
    Decidable (NoticedBy offset times control watched now) :=
  inferInstanceAs (Decidable (_ → _))

instance (watched : Watched) (now : Nat) : Decidable (InOrder offset times watched now) :=
  inferInstanceAs (Decidable (_ → _ → _))

instance (watched : Watched) : DecidablePred (ServesInTime offset times watched)
  | .tick _ => inferInstanceAs (Decidable (_ ∧ _ ∧ _ ∧ _))
  | .command | .readState _ _ | .testDisable | .testLink _ | .testPing _ | .testSpeed _ _ =>
      inferInstanceAs (Decidable (¬(_ ∧ _)))

end Properties

/-- The port is not in `REBOOT_STATE`. -/
def Free (watched : Watched) : Prop :=
  watched.daemon.port.portResetInfo.state ≠ .reboot

/-- Ticks do not go back in time. -/
def Forward (watched : Watched) : Input → Prop
  | .tick tick => watched.lastTick ≤ tick.now
  | _ => True

instance : DecidablePred Free :=
  fun _ => inferInstanceAs (Decidable (_ ≠ _))

instance (watched : Watched) : DecidablePred (Forward watched)
  | .tick _ => inferInstanceAs (Decidable (_ ≤ _))
  | .command | .readState _ _ | .testDisable | .testLink _ | .testPing _ | .testSpeed _ _ =>
      inferInstanceAs (Decidable True)

/-! ## The most recent instant -/

section Instants

variable {offset : Int} {times : PoeControl → Nat × Nat}

def AllValid (times : PoeControl → Nat × Nat) : Prop :=
  ∀ control, (times control).1 ≤ 23 ∧ (times control).2 ≤ 59

theorem mostRecent_iff (valid : AllValid times) {start time : Nat} {control : PoeControl} :
    MostRecent offset times start time control ↔
      start < (daily offset (times control)).lastAt time ∧
        ∀ other, (daily offset (times other)).lastAt time ≤
          (daily offset (times control)).lastAt time := by
  simp only [MostRecent, isAt_iff_instant offset (valid _)]
  exact Periodic.exists_mostRecent_iff (fun other => daily offset (times other)) control start time

end Instants

/-! ## One tick -/

section Tick

variable (env : Environment) {tick : TickInput} {port : PortInfo}

/-- The command of one alarm, if it is served. -/
def servedCommands (now : Nat) (port : PortInfo) (control : PoeControl) : List PoeControl :=
  if Alarms.Due now (Alarms.alarmOf control port) then [control] else []

/-- What a tick does to a scheduled port outside `REBOOT_STATE`. -/
theorem eventsHandler_free (free : port.portResetInfo.state ≠ .reboot)
    (enabled : port.portConfigInfo.alarm = .enable)
    (stays : (eventsHandler env.config env.clock tick port).1.portResetInfo.state ≠ .reboot) :
    (eventsHandler env.config env.clock tick port).1.portConfigInfo.alarm = .enable ∧
      (∀ control, Alarms.alarmOf control (eventsHandler env.config env.clock tick port).1 =
        Alarms.afterService env.clock tick.now (Alarms.alarmOf control port)) ∧
      (eventsHandler env.config env.clock tick port).2.filterMap commandOf =
        servedCommands tick.now port .down ++ servedCommands tick.now port .up ∧
      (eventsHandler env.config env.clock tick port).1.hasError errPoeDown =
        if Alarms.Due tick.now (Alarms.alarmOf .up port) then false
        else if Alarms.Due tick.now (Alarms.alarmOf .down port) then true
        else port.hasError errPoeDown := by
  have same := Alarms.scheduleOf_of_keptPart
    (Alarms.keptPart_free env.config env.clock tick free).1
  have alarm := congrArg Alarms.Schedule.alarm same
  have alarms (control : PoeControl) :
      Alarms.alarmOf control (stateHandler env.config env.clock tick port).1 =
        Alarms.alarmOf control port := by
    cases control with
    | up => exact congrArg Alarms.Schedule.timeUp same
    | down => exact congrArg Alarms.Schedule.timeDown same
  have flag : (stateHandler env.config env.clock tick port).1.hasError errPoeDown =
      port.hasError errPoeDown :=
    hasError_stateHandler env.config env.clock tick port free (by decide)
  have silent : (stateHandler env.config env.clock tick port).2.filterMap commandOf = [] := by
    rw [List.filterMap_eq_nil_iff]
    intro action member
    have other := Alarms.stateHandler_silent env.config env.clock tick port action member
    unfold commandOf
    split
    · exact absurd ⟨_, _, rfl⟩ other
    · rfl
  have commands (control : PoeControl) :
      (if Alarms.Due tick.now
            (Alarms.alarmOf control (stateHandler env.config env.clock tick port).1) then
          [Action.poeControl .alarmHandler control tick.now]
        else []).filterMap commandOf = servedCommands tick.now port control := by
    rw [alarms, servedCommands]
    split <;> rfl
  have handled : (stateHandler env.config env.clock tick port).1.portConfigInfo.alarm =
      .enable := alarm.trans enabled
  simp only [eventsHandler, handled, if_true] at stays ⊢
  have free : (stateHandler env.config env.clock tick port).1.portResetInfo.state ≠ .reboot := by
    rwa [Alarms.state_alarmHandler] at stays
  refine ⟨?_, ?_, ?_, ?_⟩
  · rw [Alarms.alarm_alarmHandler, handled]
  · intro control
    rw [Alarms.alarmOf_alarmHandler env.clock tick.now control free, alarms]
  · rw [List.filterMap_append, silent, Alarms.alarmHandler_actions env.clock tick.now free,
      List.nil_append, List.filterMap_append]
    exact congrArg₂ (· ++ ·) (commands .down) (commands .up)
  · rw [Alarms.alarmHandler_poeDown env.clock tick.now free, flag, ← alarms .down,
      ← alarms .up]
    rfl

end Tick

/-! ## The other inputs -/

section Others

variable (env : Environment) {state : Daemon} {input : Input}

theorem commands_of_not_tick (outside : ∀ tick, input ≠ .tick tick) :
    ((daemon env).emit state input).filterMap commandOf = [] := by
  cases input with
  | tick tick =>
      exact absurd rfl (outside tick)
  | command =>
      simp [portStep, cmdRebootHandler, commandOf]
  | readState _ _ | testDisable | testLink _ | testPing _ | testSpeed _ _ =>
      rfl

end Others

/-! ## The invariant -/

/-- The schedule is armed: since its last service, no instant of an alarm has
passed unnoticed. -/
structure Armed (offset : Int) (times : PoeControl → Nat × Nat) (watched : Watched) :
    Prop where
  enabled : watched.daemon.port.portConfigInfo.alarm = .enable
  served : ∀ control, (Alarms.alarmOf control watched.daemon.port).status ≠ .enable
  reached : ∀ control, (daily offset (times control)).nextAfter watched.lastTick ≤
    (Alarms.alarmOf control watched.daemon.port).targetTime
  nextDay : ∀ control, (Alarms.alarmOf control watched.daemon.port).targetTime <
    (daily offset (times control)).nextAfter watched.lastTick + 86400

/-- The schedule is armed and the outcome so far is right. -/
structure Follows (offset : Int) (times : PoeControl → Nat × Nat) (start : Nat)
    (watched : Watched) : Prop extends Armed offset times watched where
  outcome : Outcome offset times start watched

section Steps

variable {config : DaemonConfig} {offset : Int} (localtime : Nat → Tm)
variable {times : PoeControl → Nat × Nat} {start : Nat} {watched : Watched}

/-- An alarm is due exactly if an instant of it was passed since the last tick. -/
theorem Armed.due_iff (armed : Armed offset times watched) {control : PoeControl} {now : Nat}
    (noticed : NoticedBy offset times control watched now) :
    Alarms.Due now (Alarms.alarmOf control watched.daemon.port) ↔
      watched.lastTick < (daily offset (times control)).lastAt now := by
  rw [Periodic.lt_lastAt_iff]
  have reached := armed.reached control
  constructor
  · intro due
    have passed := due.resolve_right (armed.served control)
    omega
  · intro passed
    exact Or.inl (noticed passed)

theorem Armed.lastAt_of_not_due (armed : Armed offset times watched) {control : PoeControl}
    {now : Nat} (noticed : NoticedBy offset times control watched now)
    (forward : watched.lastTick ≤ now)
    (quiet : ¬Alarms.Due now (Alarms.alarmOf control watched.daemon.port)) :
    (daily offset (times control)).lastAt now =
      (daily offset (times control)).lastAt watched.lastTick := by
  rw [armed.due_iff noticed, Periodic.lt_lastAt_iff] at quiet
  exact Periodic.lastAt_eq_of_lt (by omega) (by omega)

/-- The alarm after a tick. -/
theorem Armed.afterService (armed : Armed offset times watched) (control : PoeControl)
    {now : Nat} (noticed : NoticedBy offset times control watched now)
    (forward : watched.lastTick ≤ now) (inRange : now + 86400 < 4294967296) :
    (daily offset (times control)).nextAfter now ≤
        (Alarms.afterService (fixedOffset offset localtime) now
          (Alarms.alarmOf control watched.daemon.port)).targetTime ∧
      (Alarms.afterService (fixedOffset offset localtime) now
          (Alarms.alarmOf control watched.daemon.port)).targetTime <
        (daily offset (times control)).nextAfter now + 86400 := by
  have nextDay : u32 ((fixedOffset offset localtime).nextDay now) = now + 86400 :=
    Nat.mod_eq_of_lt inRange
  have reached := armed.reached control
  have before := armed.nextDay control
  rw [Alarms.afterService_targetTime, nextDay]
  by_cases fires : (Alarms.alarmOf control watched.daemon.port).targetTime ≤ now
  · have after := Periodic.lt_nextAfter (daily offset (times control)) now
    have day : (daily offset (times control)).nextAfter now ≤ now + 86400 :=
      add_le_add_left (Periodic.lastAt_le _ _) 86400
    rw [if_pos fires]
    omega
  · have notPassed : ¬(daily offset (times control)).nextAfter watched.lastTick ≤ now :=
      fun passed => fires (noticed passed)
    have same : (daily offset (times control)).nextAfter now =
        (daily offset (times control)).nextAfter watched.lastTick :=
      Periodic.nextAfter_eq_of_le (by omega) (by omega)
    rw [if_neg fires, same]
    omega

section Tick

variable {tick : TickInput}

theorem Armed.next_tick (armed : Armed offset times watched) (free : Free watched)
    (stays : Free ((watch (fixedEnvironment config offset localtime)).next watched (.tick tick)))
    (forward : Forward watched (.tick tick))
    (serves : ServesInTime offset times watched (.tick tick)) :
    Armed offset times
      ((watch (fixedEnvironment config offset localtime)).next watched (.tick tick)) := by
  obtain ⟨noticedUp, noticedDown, _, inRange⟩ := serves
  have noticed : ∀ control, NoticedBy offset times control watched tick.now
    | .up => noticedUp
    | .down => noticedDown
  obtain ⟨enabled, alarms, _, _⟩ :=
    eventsHandler_free (fixedEnvironment config offset localtime) free armed.enabled stays
  have deadlines := fun control =>
    armed.afterService localtime control (noticed control) forward inRange
  refine ⟨enabled, ?_, ?_, ?_⟩
  · intro control
    exact (congrArg TimeHM.status (alarms control)).trans_ne
      (Alarms.afterService_status _ tick.now _)
  · intro control
    have target := congrArg TimeHM.targetTime (alarms control)
    exact (deadlines control).1.trans_eq (congrArg Nat.cast target).symm
  · intro control
    have target := congrArg TimeHM.targetTime (alarms control)
    exact (congrArg Nat.cast target).trans_lt (deadlines control).2

/-- An alarm that is due has a later instant than one that is not. -/
theorem Armed.lastAt_lt (armed : Armed offset times watched) {quiet due : PoeControl}
    {now : Nat} (forward : watched.lastTick ≤ now)
    (noticedQuiet : NoticedBy offset times quiet watched now)
    (noticedDue : NoticedBy offset times due watched now)
    (isQuiet : ¬Alarms.Due now (Alarms.alarmOf quiet watched.daemon.port))
    (isDue : Alarms.Due now (Alarms.alarmOf due watched.daemon.port)) :
    (daily offset (times quiet)).lastAt now < (daily offset (times due)).lastAt now := by
  rw [armed.lastAt_of_not_due noticedQuiet forward isQuiet]
  exact (Periodic.lastAt_le _ _).trans_lt ((armed.due_iff noticedDue).mp isDue)

theorem Outcome.next_tick (outcome : Outcome offset times start watched)
    (valid : AllValid times) (armed : Armed offset times watched) (free : Free watched)
    (stays : Free ((watch (fixedEnvironment config offset localtime)).next watched (.tick tick)))
    (forward : Forward watched (.tick tick))
    (serves : ServesInTime offset times watched (.tick tick)) :
    Outcome offset times start
      ((watch (fixedEnvironment config offset localtime)).next watched (.tick tick)) := by
  obtain ⟨noticedUp, noticedDown, inOrder, _⟩ := serves
  obtain ⟨_, _, commands, flag⟩ :=
    eventsHandler_free (fixedEnvironment config offset localtime) free armed.enabled stays
  have target (control : PoeControl)
      (due : Alarms.Due tick.now (Alarms.alarmOf control watched.daemon.port)) :
      (Alarms.alarmOf control watched.daemon.port).targetTime ≤ tick.now :=
    due.resolve_right (armed.served control)
  intro control mostRecent
  have atNow : MostRecent offset times start tick.now control := mostRecent
  have last := (mostRecent_iff valid).mp atNow
  suffices decided :
      (servedCommands tick.now watched.daemon.port .down ++
            servedCommands tick.now watched.daemon.port .up).getLast?.or watched.lastCommand =
          some control ∧
        (if Alarms.Due tick.now (Alarms.alarmOf .up watched.daemon.port) then false
          else if Alarms.Due tick.now (Alarms.alarmOf .down watched.daemon.port) then true
          else watched.daemon.port.hasError errPoeDown) = decide (control = .down) by
    rw [← commands, ← flag] at decided
    exact decided
  by_cases upDue : Alarms.Due tick.now (Alarms.alarmOf .up watched.daemon.port)
  · -- the power-on is served last, and it is the later one
    have upLater : (daily offset (times .down)).lastAt tick.now <
        (daily offset (times .up)).lastAt tick.now := by
      by_cases downDue : Alarms.Due tick.now (Alarms.alarmOf .down watched.daemon.port)
      · exact inOrder (target .down downDue) (target .up upDue)
      · exact armed.lastAt_lt forward noticedDown noticedUp downDue upDue
    cases control with
    | up => simp [servedCommands, upDue]
    | down => exact absurd (last.2 .up) (not_le.mpr upLater)
  · by_cases downDue : Alarms.Due tick.now (Alarms.alarmOf .down watched.daemon.port)
    · have downLater := armed.lastAt_lt forward noticedUp noticedDown upDue downDue
      cases control with
      | up => exact absurd (last.2 .down) (not_le.mpr downLater)
      | down => simp [servedCommands, upDue, downDue]
    · have before : MostRecent offset times start watched.lastTick control := by
        have same : ∀ other, (daily offset (times other)).lastAt tick.now =
            (daily offset (times other)).lastAt watched.lastTick
          | .up => armed.lastAt_of_not_due noticedUp forward upDue
          | .down => armed.lastAt_of_not_due noticedDown forward downDue
        rw [mostRecent_iff valid]
        simpa only [same] using last
      simpa [servedCommands, upDue, downDue] using outcome control before

end Tick

theorem lastTick_next_other (env : Environment) (watched : Watched) {input : Input}
    (outside : ∀ tick, input ≠ .tick tick) :
    ((watch env).next watched input).lastTick = watched.lastTick := by
  cases input with
  | tick tick => exact absurd rfl (outside tick)
  | _ => rfl

/-- The other inputs leave the schedule and its outcome as they are. -/
theorem Armed.next_other (env : Environment) (armed : Armed offset times watched)
    {input : Input} (outside : ∀ tick, input ≠ .tick tick) :
    Armed offset times ((watch env).next watched input) := by
  have same := Alarms.scheduleOf_portStep env watched.daemon.port outside
  have lastTick := lastTick_next_other env watched outside
  have alarms : ∀ control, Alarms.alarmOf control ((watch env).next watched input).daemon.port =
      Alarms.alarmOf control watched.daemon.port
    | .up => congrArg Alarms.Schedule.timeUp same
    | .down => congrArg Alarms.Schedule.timeDown same
  refine ⟨(congrArg Alarms.Schedule.alarm same).trans armed.enabled, ?_, ?_, ?_⟩
  · intro control
    rw [alarms]
    exact armed.served control
  · intro control
    rw [alarms, lastTick]
    exact armed.reached control
  · intro control
    rw [alarms, lastTick]
    exact armed.nextDay control

theorem Outcome.next_other (env : Environment) (outcome : Outcome offset times start watched)
    {input : Input} (outside : ∀ tick, input ≠ .tick tick)
    (serves : ServesInTime offset times watched input) :
    Outcome offset times start ((watch env).next watched input) := by
  have unanswered : ¬(PingSucceeds watched.daemon input ∧
      watched.daemon.port.hasError errPoeDown = true) := by
    cases input with
    | tick tick => exact absurd rfl (outside tick)
    | _ => exact serves
  have lastTick := lastTick_next_other env watched outside
  have lastCommand : ((watch env).next watched input).lastCommand = watched.lastCommand := by
    simp only [watch, Machine.next, lastCommandAfter,
      commands_of_not_tick env outside, List.getLast?_nil, Option.none_or]
  have flag : ((watch env).next watched input).daemon.port.hasError errPoeDown =
      watched.daemon.port.hasError errPoeDown :=
    hasError_poeDown_of_not_tick env outside unanswered
  intro control mostRecent
  rw [lastTick] at mostRecent
  rw [lastCommand, flag]
  exact outcome control mostRecent

theorem Follows.next (follows : Follows offset times start watched) (valid : AllValid times)
    {input : Input} (free : Free watched)
    (stays : Free ((watch (fixedEnvironment config offset localtime)).next watched input))
    (forward : Forward watched input) (serves : ServesInTime offset times watched input) :
    Follows offset times start
      ((watch (fixedEnvironment config offset localtime)).next watched input) := by
  rcases input.tick_or_other with ⟨tick, isTick⟩ | outside
  · subst isTick
    exact ⟨follows.toArmed.next_tick localtime free stays forward serves,
      follows.outcome.next_tick localtime valid follows.toArmed free stays forward serves⟩
  · exact ⟨follows.toArmed.next_other _ outside, follows.outcome.next_other _ outside serves⟩

end Steps

/-! ## Runs -/

section Boot

variable (env : Environment) (index : Fin numPorts) {input : BootInput}
variable {timeUp timeDown : String} {up down : Nat × Nat}

end Boot

end ScheduleOutcome

end TfortisPack.Autorestart
