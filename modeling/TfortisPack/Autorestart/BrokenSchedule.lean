import TfortisPack.Autorestart.Alarms

/-!
# A schedule that cannot be read

`setTime` answers a missing or refused time with `ERR_TIME_NOT_VALID`, while
`getPortParam` disables the alarm on `ERR_NULL_OBJ`.  So the alarm of a port
with a broken schedule stays enabled, and the deadline of its power-off is
the zero the record was initialised with.
-/

namespace TfortisPack.Autorestart

open TfortisPack.Library

namespace BrokenSchedule

/-- The alarm is enabled and one of its times is missing or refused. -/
def Broken (options : PortSection) : Prop :=
  options.alarm = some "enable" ∧
    (options.timeUp.bind isValidTime = none ∨ options.timeDown.bind isValidTime = none)

instance : DecidablePred Broken :=
  fun _ => inferInstanceAs (Decidable (_ ∧ _))

/-- A reload in this step finds the schedule as broken as before. -/
def ReadsBroken : Input → Prop
  | .tick input => Broken input.options
  | _ => True

instance : DecidablePred ReadsBroken
  | .tick _ => inferInstanceAs (Decidable (Broken _))
  | .command | .readState _ _ | .testDisable | .testLink _ | .testPing _ | .testSpeed _ _ =>
      inferInstanceAs (Decidable True)

/-- `alarmHandler` finds the port in `REBOOT_STATE` whenever a tick calls it. -/
def TicksInReboot (env : Environment) (state : Daemon) : Input → Prop
  | .tick input =>
      (stateHandler env.config env.clock input state.port).1.portResetInfo.state = .reboot
  | _ => True

instance (env : Environment) (state : Daemon) : DecidablePred (TicksInReboot env state)
  | .tick _ => inferInstanceAs (Decidable (_ = _))
  | .command | .readState _ _ | .testDisable | .testLink _ | .testPing _ | .testSpeed _ _ =>
      inferInstanceAs (Decidable True)

/-- The power-off is enabled and due at any time. -/
def AlwaysDue (port : PortInfo) : Prop :=
  port.portConfigInfo.alarm = .enable ∧
    (port.portConfigInfo.timeDown.targetTime = 0 ∨
      port.portConfigInfo.timeDown.status = .enable)

/-! ## Reading a broken schedule -/

section Reading

variable (clock : LocalClock) (now : Nat) {options : PortSection}

/-- The time of the power-off is not stored, and no flag disables the alarm. -/
theorem setTime_broken (broken : Broken options) (config : PortConfigInfo) :
    (setTime clock now config options).1.timeDown = config.timeDown ∧
      (setTime clock now config options).1.alarm = config.alarm ∧
      BitFlags.has (setTime clock now config options).2 errNullObj = false := by
  have refused : BitFlags.has (BitFlags.raise errOk errTimeNotValid) errNullObj = false := by
    decide
  obtain ⟨_, unusable⟩ := broken
  cases up : options.timeUp with
  | none =>
      simp only [setTime, up, true_and]
      exact refused
  | some timeUp =>
      cases down : options.timeDown with
      | none =>
          simp only [setTime, up, down, true_and]
          exact refused
      | some timeDown =>
          simp only [up, down, Option.bind_some] at unusable
          simp only [setTime, up, down, portSetTimeParam]
          cases upValid : isValidTime timeUp with
          | none =>
              exact ⟨rfl, rfl, refused⟩
          | some time =>
              rw [upValid] at unusable
              rw [unusable.resolve_left (by simp)]
              exact ⟨rfl, rfl, refused⟩

/-- A broken schedule stays enabled, and its power-off keeps its deadline. -/
theorem getPortParam_broken (broken : Broken options) (uninit : ErrorCode) (portNum : PortNum)
    (isReboot : Bool) (port : PortInfo) :
    (getPortParam clock now uninit options portNum isReboot port).portConfigInfo.alarm =
        .enable ∧
      (getPortParam clock now uninit options portNum isReboot port).portConfigInfo.timeDown =
        if isReboot then port.portConfigInfo.timeDown
        else
          { port.portConfigInfo.timeDown with
            status := .disable, timeH := 25, timeM := 61 } := by
  have alarm (port : PortInfo) (enabled : port.portConfigInfo.alarm = .enable) :
      (setAlarm clock now options port).portConfigInfo.alarm = .enable ∧
        (setAlarm clock now options port).portConfigInfo.timeDown =
          port.portConfigInfo.timeDown := by
    obtain ⟨kept, still, accepted⟩ := setTime_broken clock now broken
      port.portConfigInfo
    simp only [setAlarm, enabled, if_true, accepted, Bool.false_eq_true, if_false]
    exact ⟨still.trans enabled, kept⟩
  have errors (port : PortInfo) :
      (setErrorHandler port).portConfigInfo.alarm = port.portConfigInfo.alarm ∧
        (setErrorHandler port).portConfigInfo.timeDown = port.portConfigInfo.timeDown := by
    rw [setErrorHandler_eq]
    exact ⟨rfl, rfl⟩
  have tested (port : PortInfo) :
      (setTest uninit options port).portConfigInfo.alarm = port.portConfigInfo.alarm ∧
        (setTest uninit options port).portConfigInfo.timeDown =
          port.portConfigInfo.timeDown := by
    have kept :=
      Alarms.scheduleOf_of_keptPart (Alarms.keptPart_setTest uninit options port)
    exact ⟨congrArg Alarms.Schedule.alarm kept, congrArg Alarms.Schedule.timeDown kept⟩
  simp only [getPortParam, errors]
  rw [(alarm _ _).1, (alarm _ _).2, (tested _).2]
  · cases isReboot <;> exact ⟨rfl, rfl⟩
  · rw [(tested _).1]
    cases isReboot <;> simp [setConfigZeroValue, broken.1, getAlarmSate]
  · rw [(tested _).1]
    cases isReboot <;> simp [setConfigZeroValue, broken.1, getAlarmSate]

theorem alwaysDue_of_schedule {before after : PortInfo} (due : AlwaysDue before)
    (same : Alarms.scheduleOf after.portConfigInfo = Alarms.scheduleOf before.portConfigInfo) :
    AlwaysDue after := by
  have alarm : after.portConfigInfo.alarm = before.portConfigInfo.alarm :=
    congrArg Alarms.Schedule.alarm same
  have timeDown : after.portConfigInfo.timeDown = before.portConfigInfo.timeDown :=
    congrArg Alarms.Schedule.timeDown same
  rw [AlwaysDue, alarm, timeDown]
  exact due

theorem alwaysDue_getPortParam (broken : Broken options) (uninit : ErrorCode)
    (portNum : PortNum) {port : PortInfo} (due : AlwaysDue port) :
    AlwaysDue (getPortParam clock now uninit options portNum true port) := by
  obtain ⟨alarm, timeDown⟩ :=
    getPortParam_broken clock now broken uninit portNum true port
  rw [AlwaysDue, alarm, timeDown]
  exact ⟨rfl, due.2⟩

/-- The handlers that run before the alarm, reloads included, leave it due. -/
theorem alwaysDue_stateHandler (config : DaemonConfig) {input : TickInput}
    (broken : Broken input.options) {port : PortInfo} (due : AlwaysDue port) :
    AlwaysDue (stateHandler config clock input port).1 := by
  obtain ⟨same, _⟩ | ⟨loading, same, reloaded, _⟩ :=
    Alarms.keptPart_stateHandler config clock input port
  · exact alwaysDue_of_schedule due (Alarms.scheduleOf_of_keptPart same)
  · rw [reloaded]
    exact alwaysDue_getPortParam clock _ broken _ _
      (alwaysDue_of_schedule due (Alarms.scheduleOf_of_keptPart same))

end Reading

/-! ## Runs -/

section Runs

variable {env : Environment} {state : Daemon}

/-- While the power-off is due, a tick is silent exactly if `alarmHandler` finds
the port in `REBOOT_STATE`. -/
theorem silent_iff_ticksInReboot (input : Input) (due : AlwaysDue state.port)
    (reads : ReadsBroken input) :
    (∀ action ∈ (daemon env).emit state input, ¬Alarms.AlarmCommand action) ↔
      TicksInReboot env state input := by
  cases input with
  | tick input =>
      have stillDue := alwaysDue_stateHandler env.clock env.config reads due
      have handled := Alarms.stateHandler_silent env.config env.clock input state.port
      simp only [daemon_emit, portStep, eventsHandler, stillDue.1, if_true,
        List.forall_mem_append, TicksInReboot]
      constructor
      · intro silent
        by_contra free
        have downDue : Alarms.Due input.now
            (stateHandler env.config env.clock input state.port).1.portConfigInfo.timeDown :=
          stillDue.2.imp (fun zero => by rw [zero]; exact Nat.zero_le _) id
        rw [Alarms.alarmHandler_actions env.clock input.now free, if_pos downDue] at silent
        refine silent.2 (.poeControl .alarmHandler .down input.now) ?_ ⟨.down, input.now, rfl⟩
        simp
      · intro busy
        rw [Alarms.alarmHandler_busy env.clock input.now busy]
        exact ⟨handled, by simp⟩
  | command =>
      simp [portStep, cmdRebootHandler, Alarms.AlarmCommand, TicksInReboot]
  | readState _ _ | testDisable | testLink _ | testPing _ | testSpeed _ _ =>
      simp [portStep, TicksInReboot]

theorem alwaysDue_next (input : Input) (due : AlwaysDue state.port)
    (reads : ReadsBroken input) (waits : TicksInReboot env state input) :
    AlwaysDue ((daemon env).next state input).port := by
  rcases input.tick_or_other with ⟨tick, rfl⟩ | outside
  · have stillDue := alwaysDue_stateHandler env.clock env.config reads due
    simp only [daemon_next_port, portStep, eventsHandler, stillDue.1, if_true]
    rw [Alarms.alarmHandler_busy env.clock tick.now waits]
    refine ⟨stillDue.1, Or.inr ?_⟩
    -- a poll in `REBOOT_STATE` arms the alarm, which then waits
    rw [portRunTestTime, Alarms.portTimeAlarm_status_iff]
    exact stillDue.2.imp (fun zero => by rw [zero]; exact Nat.zero_le _) id
  · exact alwaysDue_of_schedule due (Alarms.scheduleOf_portStep env state.port outside)

end Runs

/-- In every run of a port with a broken schedule, in any order of commands,
reads, tests and ticks, the alarm gives no PoE command exactly if it is never
reached outside `REBOOT_STATE`. -/
theorem broken_schedule_silent_iff (env : Environment) (index : Fin numPorts)
    (input : BootInput) (inputs : List Input) (broken : Broken input.options)
    (reads : ∀ step ∈ inputs, ReadsBroken step) :
    (∀ action ∈ (daemon env).outputs (boot env index input) inputs, ¬Alarms.AlarmCommand action) ↔
      (daemon env).AllSteps (TicksInReboot env) (boot env index input) inputs := by
  have due : AlwaysDue (boot env index input).port := by
    obtain ⟨alarm, timeDown⟩ :=
      getPortParam_broken env.clock input.now broken input.uninit
        (portNumOf index) false (zeroPort (portNumOf index))
    exact ⟨alarm, Or.inl (congrArg TimeHM.targetTime timeDown)⟩
  exact Machine.forall_outputs_iff_of_invariant
    (fun state step due reads => silent_iff_ticksInReboot step due reads)
    (fun state step due reads waits => alwaysDue_next step due reads waits) due reads

/-- A port that is to be switched off at 22:14 and never on. -/
def onlyDown : PortSection :=
  { (sampleBoot "link" 1700000000).options with
    alarm := some "enable", timeUp := none, timeDown := some "22:14" }

def brokenBoot : BootInput where
  now := 1700000000
  uninit := 0
  options := onlyDown

def brokenTick (now : Nat) : Input :=
  .tick { now := now, options := onlyDown, uninit := 0 }

/-- A manual power cycle under way from the first tick on. -/
theorem broken_schedule_silent_in_cycle :
    Broken brokenBoot.options ∧
      ∀ action ∈ (daemon sampleEnvironment).outputs
          (boot sampleEnvironment firstPort brokenBoot)
          [.readState true true, .command, brokenTick 1700000000, brokenTick 1700000001],
        ¬Alarms.AlarmCommand action := by
  have broken : Broken brokenBoot.options := by
    decide
  exact ⟨broken, (broken_schedule_silent_iff sampleEnvironment firstPort brokenBoot _ broken
    (by decide)).mpr (by decide)⟩

/-- The first tick of an undisturbed port switches it off at once. -/
theorem broken_schedule_switches_off :
    Broken brokenBoot.options ∧ ReadsBroken (brokenTick 1700000000) ∧
      (daemon sampleEnvironment).outputs (boot sampleEnvironment firstPort brokenBoot)
          [brokenTick 1700000000] =
        [.poeControl .alarmHandler .down 1700000000, .poeControl .alarmHandler .up 1700000000] := by
  decide

end BrokenSchedule

end TfortisPack.Autorestart
