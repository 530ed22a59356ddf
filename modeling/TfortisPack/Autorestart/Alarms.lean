import TfortisPack.Autorestart.Control

/-!
# What `alarmHandler` does

`port_timeAlarm` arms an alarm when its deadline has passed and moves the
deadline; `alarmHandler` serves the armed alarms of a port outside
`REBOOT_STATE`, the power-off first.  An alarm that is armed in
`REBOOT_STATE` waits.
-/

namespace TfortisPack.Autorestart

open TfortisPack.Library

namespace Alarms

/-- The deadline has passed, or it passed at an earlier poll and the alarm was
not served. -/
def Due (now : Nat) (alarm : TimeHM) : Prop :=
  alarm.targetTime ≤ now ∨ alarm.status = .enable

instance (now : Nat) : DecidablePred (Due now) :=
  fun _ => inferInstanceAs (Decidable (_ ∨ _))

/-- The alarm that leads to a PoE command. -/
def alarmOf (control : PoeControl) (port : PortInfo) : TimeHM :=
  match control with
  | .up => port.portConfigInfo.timeUp
  | .down => port.portConfigInfo.timeDown

section Poll

variable (clock : LocalClock) (now : Nat) (alarm : TimeHM)

theorem portTimeAlarm_status_iff :
    (portTimeAlarm clock now alarm).status = .enable ↔ Due now alarm := by
  by_cases passed : alarm.targetTime ≤ now
  · simp [portTimeAlarm, Due, passed]
  · simp [portTimeAlarm, Due, passed]

theorem portTimeAlarm_targetTime :
    (portTimeAlarm clock now alarm).targetTime =
      if alarm.targetTime ≤ now then u32 (clock.nextDay now) else alarm.targetTime := by
  by_cases passed : alarm.targetTime ≤ now
  · simp [portTimeAlarm, passed]
  · simp [portTimeAlarm, passed]

end Poll

/-- The alarm after a poll at which it is served if it is due. -/
def afterService (clock : LocalClock) (now : Nat) (alarm : TimeHM) : TimeHM :=
  let polled := portTimeAlarm clock now alarm
  if Due now alarm then { polled with status := .disable } else polled

section Service

variable (clock : LocalClock) (now : Nat)

theorem afterService_targetTime (alarm : TimeHM) :
    (afterService clock now alarm).targetTime =
      if alarm.targetTime ≤ now then u32 (clock.nextDay now) else alarm.targetTime := by
  rw [← portTimeAlarm_targetTime clock now alarm]
  simp only [afterService]
  split <;> rfl

theorem afterService_status (alarm : TimeHM) :
    (afterService clock now alarm).status ≠ .enable := by
  simp only [afterService]
  split
  · simp
  · rename_i quiet
    rwa [← portTimeAlarm_status_iff clock] at quiet

variable {port : PortInfo}

theorem alarmDown_actions (port : PortInfo) :
    (alarmDown clock now port).2 =
      if port.portConfigInfo.timeDown.status = .enable then
        [.poeControl .alarmHandler .down now] else [] := by
  unfold alarmDown
  split <;> rfl

theorem alarmDown_timeDown (port : PortInfo) :
    (alarmDown clock now port).1.portConfigInfo.timeDown =
      if port.portConfigInfo.timeDown.status = .enable then
        { port.portConfigInfo.timeDown with status := .disable }
      else port.portConfigInfo.timeDown := by
  unfold alarmDown
  split <;> rfl

theorem alarmDown_timeUp (port : PortInfo) :
    (alarmDown clock now port).1.portConfigInfo.timeUp = port.portConfigInfo.timeUp := by
  unfold alarmDown
  split <;> rfl

theorem alarmDown_poeDown (port : PortInfo) :
    (alarmDown clock now port).1.hasError errPoeDown =
      if port.portConfigInfo.timeDown.status = .enable then true
      else port.hasError errPoeDown := by
  unfold alarmDown
  split
  · simp +decide
  · rfl

theorem alarmUp_actions (port : PortInfo) :
    (alarmUp now port).2 =
      if port.portConfigInfo.timeUp.status = .enable then
        [.poeControl .alarmHandler .up now] else [] := by
  unfold alarmUp
  split <;> rfl

theorem alarmUp_timeUp (port : PortInfo) :
    (alarmUp now port).1.portConfigInfo.timeUp =
      if port.portConfigInfo.timeUp.status = .enable then
        { port.portConfigInfo.timeUp with status := .disable }
      else port.portConfigInfo.timeUp := by
  unfold alarmUp
  split <;> rfl

theorem alarmUp_timeDown (port : PortInfo) :
    (alarmUp now port).1.portConfigInfo.timeDown = port.portConfigInfo.timeDown := by
  unfold alarmUp
  split <;> rfl

theorem alarmUp_poeDown (port : PortInfo) :
    (alarmUp now port).1.hasError errPoeDown =
      if port.portConfigInfo.timeUp.status = .enable then false
      else port.hasError errPoeDown := by
  unfold alarmUp
  split
  · simp
  · rfl

/-- In `REBOOT_STATE` the alarms are only polled. -/
theorem alarmHandler_busy (busy : port.portResetInfo.state = .reboot) :
    alarmHandler clock now port = (portRunTestTime clock now port, []) := by
  have stillBusy : ¬(portRunTestTime clock now port).portResetInfo.state ≠ .reboot :=
    fun free => free busy
  simp only [alarmHandler, if_neg stillBusy]

theorem alarmHandler_free (free : port.portResetInfo.state ≠ .reboot) :
    alarmHandler clock now port =
      ((alarmUp now (alarmDown clock now (portRunTestTime clock now port)).1).1,
        (alarmDown clock now (portRunTestTime clock now port)).2 ++
          (alarmUp now (alarmDown clock now (portRunTestTime clock now port)).1).2) := by
  have stillFree : (portRunTestTime clock now port).portResetInfo.state ≠ .reboot := free
  simp only [alarmHandler, if_pos stillFree]

theorem alarmHandler_actions (free : port.portResetInfo.state ≠ .reboot) :
    (alarmHandler clock now port).2 =
      (if Due now port.portConfigInfo.timeDown then
          [.poeControl .alarmHandler .down now] else []) ++
        (if Due now port.portConfigInfo.timeUp then
          [.poeControl .alarmHandler .up now] else []) := by
  rw [alarmHandler_free clock now free]
  simp only [alarmDown_actions, alarmUp_actions, alarmDown_timeUp, portRunTestTime,
    portTimeAlarm_status_iff]

theorem alarmHandler_timeDown (free : port.portResetInfo.state ≠ .reboot) :
    (alarmHandler clock now port).1.portConfigInfo.timeDown =
      afterService clock now port.portConfigInfo.timeDown := by
  rw [alarmHandler_free clock now free]
  simp only [alarmUp_timeDown, alarmDown_timeDown, portRunTestTime, portTimeAlarm_status_iff,
    afterService]

theorem alarmHandler_timeUp (free : port.portResetInfo.state ≠ .reboot) :
    (alarmHandler clock now port).1.portConfigInfo.timeUp =
      afterService clock now port.portConfigInfo.timeUp := by
  rw [alarmHandler_free clock now free]
  simp only [alarmUp_timeUp, alarmDown_timeUp, portRunTestTime, portTimeAlarm_status_iff,
    afterService]

theorem alarmOf_alarmHandler (control : PoeControl) (free : port.portResetInfo.state ≠ .reboot) :
    alarmOf control (alarmHandler clock now port).1 =
      afterService clock now (alarmOf control port) := by
  cases control with
  | up => exact alarmHandler_timeUp clock now free
  | down => exact alarmHandler_timeDown clock now free

/-- `ERR_POE_DOWN` follows the alarms that are served, the power-on last. -/
theorem alarmHandler_poeDown (free : port.portResetInfo.state ≠ .reboot) :
    (alarmHandler clock now port).1.hasError errPoeDown =
      if Due now port.portConfigInfo.timeUp then false
      else if Due now port.portConfigInfo.timeDown then true
      else port.hasError errPoeDown := by
  have polled : (portRunTestTime clock now port).hasError errPoeDown =
      port.hasError errPoeDown := rfl
  rw [alarmHandler_free clock now free, alarmUp_poeDown, alarmDown_poeDown, alarmDown_timeUp,
    polled]
  simp only [portRunTestTime, portTimeAlarm_status_iff]

theorem portReloaded_not_mem_alarmHandler (port : PortInfo) :
    .portReloaded ∉ (alarmHandler clock now port).2 := by
  by_cases busy : port.portResetInfo.state = .reboot
  · rw [alarmHandler_busy clock now busy]
    exact List.not_mem_nil
  · rw [alarmHandler_actions clock now busy, List.mem_append, not_or]
    constructor
    · split <;> simp
    · split <;> simp

theorem alarm_alarmHandler (port : PortInfo) :
    (alarmHandler clock now port).1.portConfigInfo.alarm = port.portConfigInfo.alarm :=
  congrArg (fun port => port.portConfigInfo.alarm) (besideAlarm_alarmHandler clock now port)

theorem state_alarmHandler (port : PortInfo) :
    (alarmHandler clock now port).1.portResetInfo.state = port.portResetInfo.state :=
  congrArg Control.state (control_alarmHandler clock now port)

end Service

/-! ## The handlers before it -/

/-- A PoE command of `alarmHandler`. -/
def AlarmCommand (action : Action) : Prop :=
  ∃ control time, action = .poeControl .alarmHandler control time

theorem testErrorHandler_actions (config : DaemonConfig) (port : PortInfo) :
    (testErrorHandler config port).2 = [] ∨
      (testErrorHandler config port).2 = [.autoRestartRaised] := by
  simp only [testErrorHandler]
  split
  · exact Or.inl rfl
  · split
    · split
      · exact Or.inr rfl
      · exact Or.inl rfl
    · exact Or.inl rfl

theorem startAuto_actions (clock : LocalClock) (now maxReset : Nat) (port : PortInfo) :
    (startAuto clock now maxReset port).2 = [] ∨
      (startAuto clock now maxReset port).2 = [.resetStarted .auto] := by
  simp only [startAuto, autoResetHandler]
  split
  · split
    · exact Or.inl rfl
    · exact Or.inr rfl
  · exact Or.inl rfl

theorem startManual_actions (clock : LocalClock) (now : Nat) (port : PortInfo) :
    (startManual clock now port).2 = [] ∨
      (startManual clock now port).2 = [.resetStarted .manual] := by
  simp only [startManual]
  split
  · exact Or.inr rfl
  · exact Or.inl rfl

theorem powerDown_actions (now : Nat) (port : PortInfo) :
    (powerDown now port).2 = [] ∨
      (powerDown now port).2 = [.poeControl .rebootHandler .down now] := by
  simp only [powerDown]
  split
  · exact Or.inr rfl
  · exact Or.inl rfl

theorem powerUp_actions (now : Nat) (port : PortInfo) :
    (powerUp now port).2 = [] ∨
      (powerUp now port).2 = [.poeControl .rebootHandler .up now] := by
  simp only [powerUp]
  split
  · exact Or.inr rfl
  · exact Or.inl rfl

theorem reloadAfterManual_actions (clock : LocalClock) (input : TickInput)
    (port : PortInfo) :
    (reloadAfterManual clock input port).2 = [] ∨
      (reloadAfterManual clock input port).2 = [.portReloaded] := by
  simp only [reloadAfterManual]
  split
  · exact Or.inr rfl
  · exact Or.inl rfl

/-- The handlers of the outer state give no command in the name of the alarm. -/
theorem stateHandler_silent (config : DaemonConfig) (clock : LocalClock) (input : TickInput)
    (port : PortInfo) :
    ∀ action ∈ (stateHandler config clock input port).2, ¬AlarmCommand action := by
  unfold stateHandler
  split
  · simp
  · rcases testErrorHandler_actions config port with actions | actions <;>
      simp [actions, AlarmCommand]
  · cases rebootState : port.portRebootInfo.rebootState with
    | idle =>
        simp only [rebootHandler, rebootState]
        rcases startAuto_actions clock input.now config.maxReset port with auto | auto <;>
          rcases startManual_actions clock input.now
            (startAuto clock input.now config.maxReset port).1 with manual | manual <;>
          simp [auto, manual, AlarmCommand]
    | init =>
        simp [rebootHandler, rebootState]
    | poeDown =>
        simp only [rebootHandler, rebootState]
        rcases powerDown_actions input.now port with down | down <;> simp [down, AlarmCommand]
    | poeUp =>
        simp only [rebootHandler, rebootState]
        rcases powerUp_actions input.now port with up | up <;>
          rcases reloadAfterManual_actions clock input (powerUp input.now port).1 with
            reload | reload <;>
          simp [up, reload, AlarmCommand]

/-! ## Who writes the configuration record -/

/-- The record without the parameters of its test and the time of the last
event. -/
def keptPart (config : PortConfigInfo) : PortConfigInfo :=
  { config with host := "", minSpeed := 0, maxSpeed := 0, test := .disable, timeStr := "" }

section Writers

variable {port : PortInfo}

theorem keptPart_setErrorHandler (port : PortInfo) :
    keptPart (setErrorHandler port).portConfigInfo = keptPart port.portConfigInfo := by
  rw [setErrorHandler_eq]
  rfl

theorem keptPart_startAuto (clock : LocalClock) (now maxReset : Nat) (port : PortInfo) :
    keptPart (startAuto clock now maxReset port).1.portConfigInfo =
      keptPart port.portConfigInfo := by
  simp only [startAuto, autoResetHandler]
  split
  · split
    · simp only [shutdownPort]
      rw [keptPart_setErrorHandler]
      simp [keptPart]
    · simp [keptPart, autoRebootPort]
  · rfl

theorem keptPart_startManual (clock : LocalClock) (now : Nat) (port : PortInfo) :
    keptPart (startManual clock now port).1.portConfigInfo = keptPart port.portConfigInfo := by
  simp only [startManual]
  split
  · simp [keptPart, manualResetHandler]
  · rfl

/-- Outside `REBOOT_STATE` the handler of the outer state leaves it alone. -/
theorem keptPart_free (config : DaemonConfig) (clock : LocalClock) (input : TickInput)
    (free : port.portResetInfo.state ≠ .reboot) :
    keptPart (stateHandler config clock input port).1.portConfigInfo =
        keptPart port.portConfigInfo ∧
      .portReloaded ∉ (stateHandler config clock input port).2 := by
  unfold stateHandler
  split
  · refine ⟨?_, List.not_mem_nil⟩
    simp only [leaveIdle]
    split <;> rfl
  · constructor
    · simp only [testErrorHandler, forgetFailure]
      repeat' split
      all_goals rfl
    · rcases testErrorHandler_actions config port with actions | actions <;> simp [actions]
  · rename_i busy
    exact absurd busy free

/-- In `REBOOT_STATE` it changes only by a reload. -/
theorem keptPart_rebootHandler (config : DaemonConfig) (clock : LocalClock)
    (input : TickInput) (port : PortInfo) :
    keptPart (rebootHandler config clock input port).1.portConfigInfo =
          keptPart port.portConfigInfo ∧
        .portReloaded ∉ (rebootHandler config clock input port).2 ∨
      ∃ loading, keptPart loading.portConfigInfo = keptPart port.portConfigInfo ∧
        (rebootHandler config clock input port).1 =
            getPortParam clock input.now input.uninit input.options
              port.portConfigInfo.portNum true loading ∧
          .portReloaded ∈ (rebootHandler config clock input port).2 := by
  cases rebootState : port.portRebootInfo.rebootState with
  | idle =>
      simp only [rebootHandler, rebootState, keptPart_startManual, keptPart_startAuto, true_and]
      refine Or.inl ?_
      rcases startAuto_actions clock input.now config.maxReset port with auto | auto <;>
        rcases startManual_actions clock input.now
          (startAuto clock input.now config.maxReset port).1 with manual | manual <;>
        simp [auto, manual]
  | init =>
      simp only [rebootHandler, rebootState]
      exact Or.inl ⟨rfl, List.not_mem_nil⟩
  | poeDown =>
      simp only [rebootHandler, rebootState]
      refine Or.inl ⟨?_, ?_⟩
      · simp only [powerDown, checkDeadline]
        repeat' split
        all_goals rfl
      · rcases powerDown_actions input.now port with down | down <;> simp [down]
  | poeUp =>
      simp only [rebootHandler, rebootState, reloadAfterManual]
      split
      · refine Or.inr
          ⟨((powerUp input.now port).1.clearEvent manualRestart).clearError errPortShutdown,
            ?_, rfl, by simp⟩
        simp [keptPart, powerUp]
      · refine Or.inl ⟨by simp [keptPart, powerUp], ?_⟩
        rcases powerUp_actions input.now port with up | up <;> simp [up]

/-- In every state it changes only by a reload. -/
theorem keptPart_stateHandler (config : DaemonConfig) (clock : LocalClock)
    (input : TickInput) (port : PortInfo) :
    keptPart (stateHandler config clock input port).1.portConfigInfo =
          keptPart port.portConfigInfo ∧
        .portReloaded ∉ (stateHandler config clock input port).2 ∨
      ∃ loading, keptPart loading.portConfigInfo = keptPart port.portConfigInfo ∧
        (stateHandler config clock input port).1 =
            getPortParam clock input.now input.uninit input.options
              port.portConfigInfo.portNum true loading ∧
          .portReloaded ∈ (stateHandler config clock input port).2 := by
  by_cases busy : port.portResetInfo.state = .reboot
  · have handled : stateHandler config clock input port =
        rebootHandler config clock input port := by
      simp only [stateHandler, busy]
    rw [handled]
    exact keptPart_rebootHandler config clock input port
  · exact Or.inl (keptPart_free config clock input busy)

theorem keptPart_portSetSpeedParam (config : PortConfigInfo) (max min : Nat) :
    keptPart (portSetSpeedParam config max min).1 = keptPart config := by
  simp only [portSetSpeedParam]
  repeat' split
  all_goals rfl

theorem keptPart_setSpeed (uninit : ErrorCode) (config : PortConfigInfo)
    (options : PortSection) :
    keptPart (setSpeed uninit config options).1 = keptPart config := by
  cases max : options.maxSpeed with
  | none =>
      rw [setSpeed_missing uninit config (Or.inl max)]
  | some maxText =>
      cases min : options.minSpeed with
      | none =>
          rw [setSpeed_missing uninit config (Or.inr min)]
      | some minText =>
          rw [setSpeed_present uninit config max min]
          split
          · exact keptPart_portSetSpeedParam config _ _
          · rfl

/-- Reading the test writes the parameters of the test only. -/
theorem keptPart_setTest (uninit : ErrorCode) (options : PortSection) (port : PortInfo) :
    keptPart (setTest uninit options port).portConfigInfo = keptPart port.portConfigInfo := by
  have config (config : PortConfigInfo) :
      keptPart (setTestConfig uninit config options).1 = keptPart config := by
    unfold setTestConfig
    split
    · rfl
    · rfl
    · unfold setHost
      split <;> rfl
    · exact keptPart_setSpeed uninit config options
  unfold setTest
  split
  · rfl
  · rfl
  · exact config _

end Writers

/-- The two alarms of a port and the switch that enables them. -/
structure Schedule where
  timeUp : TimeHM
  timeDown : TimeHM
  alarm : BoolT
  deriving DecidableEq, Repr

def scheduleOf (config : PortConfigInfo) : Schedule where
  timeUp := config.timeUp
  timeDown := config.timeDown
  alarm := config.alarm

theorem scheduleOf_of_keptPart {before after : PortConfigInfo}
    (same : keptPart after = keptPart before) : scheduleOf after = scheduleOf before := by
  change scheduleOf (keptPart after) = scheduleOf (keptPart before)
  rw [same]

/-- Reading the schedule writes nothing else. -/
theorem setAlarm_eq (clock : LocalClock) (now : Nat) (options : PortSection)
    (port : PortInfo) :
    ∃ timeUp timeDown alarm,
      setAlarm clock now options port =
        { port with
          portConfigInfo.timeUp := timeUp
          portConfigInfo.timeDown := timeDown
          portConfigInfo.alarm := alarm } := by
  have times (config : PortConfigInfo) :
      ∃ timeUp timeDown,
        (setTime clock now config options).1 =
          { config with timeUp := timeUp, timeDown := timeDown } := by
    simp only [setTime, portSetTimeParam]
    repeat' split
    all_goals exact ⟨_, _, rfl⟩
  obtain ⟨timeUp, timeDown, stored⟩ := times port.portConfigInfo
  unfold setAlarm
  split
  · simp only [stored]
    split
    · exact ⟨_, _, _, rfl⟩
    · exact ⟨_, _, _, rfl⟩
  · exact ⟨_, _, _, rfl⟩

/-- Only a tick writes the schedule. -/
theorem scheduleOf_portStep (env : Environment) (port : PortInfo) {input : Input}
    (outside : ∀ tick, input ≠ .tick tick) :
    scheduleOf (portStep env port input).1.portConfigInfo = scheduleOf port.portConfigInfo :=
  congrArg (fun port => scheduleOf port.portConfigInfo) (tickPart_portStep env port outside)

end Alarms

end TfortisPack.Autorestart
