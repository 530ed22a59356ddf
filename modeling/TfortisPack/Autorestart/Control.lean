import TfortisPack.Autorestart.Daemon

/-!
# The control part of a port

Power cycles are decided by few fields of the record: the outer and the
nested state, the reboot events and deadline, the state read from the
configuration, the reset counter, the two requests and the type of test.
`PortInfo.control` collects them.  Tests and alarms leave this part alone,
so every argument about power cycles comes down to the client command, the
configuration read and the handler that a tick selects.
-/

namespace TfortisPack.Autorestart

open TfortisPack.Library

/-- What a decision about a power cycle depends on. -/
structure Control where
  state : ArState
  rebootInfo : PortRebootInfo
  stateInfo : PortStateInfo
  resetCount : Nat
  auto : Bool
  manual : Bool
  test : TestType
  deriving DecidableEq, Repr

@[simp]
def PortInfo.control (port : PortInfo) : Control where
  state := port.portResetInfo.state
  rebootInfo := port.portRebootInfo
  stateInfo := port.portStateInfo
  resetCount := port.portResetInfo.resetCount
  auto := port.hasEvent autoRestart
  manual := port.hasEvent manualRestart
  test := port.portConfigInfo.test

/-- The configuration was last read as port and PoE enabled. -/
@[simp]
def Control.powered (control : Control) : Prop :=
  control.stateInfo.portState = .enable ∧ control.stateInfo.poeState = .enable

instance (control : Control) : Decidable control.powered :=
  inferInstanceAs (Decidable (_ ∧ _))

/-- What the outside sees of a power cycle. -/
inductive CycleAction where
  | raised
  | started (kind : ResetKind)
  | down (time : Nat)
  | up (time : Nat)
  deriving DecidableEq, Repr

/-- The cycle action behind an action of the daemon; alarms, reloads and
answers to clients have none. -/
def Action.cycle : Action → Option CycleAction
  | .autoRestartRaised => some .raised
  | .resetStarted kind => some (.started kind)
  | .poeControl .rebootHandler .down time => some (.down time)
  | .poeControl .rebootHandler .up time => some (.up time)
  | _ => none

theorem Action.eq_of_cycle_started {action : Action} {kind : ResetKind}
    (view : action.cycle = some (.started kind)) : action = .resetStarted kind := by
  cases action with
  | resetStarted other =>
      simpa [Action.cycle] using view
  | poeControl caller control time =>
      cases caller <;> cases control <;> simp [Action.cycle] at view
  | _ =>
      simp [Action.cycle] at view

/-! ## The transitions -/

/-- The deadline test of `REBOOT_STATE_POE_DOWN`. -/
def PortRebootInfo.checkDeadline (now : Nat) (info : PortRebootInfo) : PortRebootInfo :=
  let rebootEvent :=
    BitFlags.raise info.rebootEvent
      (if now ≥ info.rebootTimeStart then rebootEventTimerStop else rebootEventIdle)
  { info with
    rebootEvent := rebootEvent
    rebootState :=
      if BitFlags.has rebootEvent rebootEventTimerStop then .poeUp else info.rebootState }

theorem PortRebootInfo.checkDeadline_rebootState (now : Nat) (info : PortRebootInfo) :
    (info.checkDeadline now).rebootState = .poeUp ∨
      (info.checkDeadline now).rebootState = info.rebootState := by
  simp only [PortRebootInfo.checkDeadline]
  by_cases stopped :
      BitFlags.has
        (BitFlags.raise info.rebootEvent
          (if now ≥ info.rebootTimeStart then rebootEventTimerStop else rebootEventIdle))
        rebootEventTimerStop = true
  · exact Or.inl (if_pos stopped)
  · exact Or.inr (if_neg stopped)

@[simp]
theorem PortRebootInfo.checkDeadline_start (now : Nat) (info : PortRebootInfo) :
    BitFlags.has (info.checkDeadline now).rebootEvent rebootEventStart =
      BitFlags.has info.rebootEvent rebootEventStart := by
  simp only [PortRebootInfo.checkDeadline]
  split <;> simp +decide

/-- What the deadline test does while the timer has not stopped before. -/
theorem PortRebootInfo.checkDeadline_cases (now : Nat) (info : PortRebootInfo)
    (running : BitFlags.has info.rebootEvent rebootEventTimerStop = false) :
    info.rebootTimeStart ≤ now ∧ (info.checkDeadline now).rebootState = .poeUp ∨
      now < info.rebootTimeStart ∧
        (info.checkDeadline now).rebootState = info.rebootState ∧
          BitFlags.has (info.checkDeadline now).rebootEvent rebootEventTimerStop = false := by
  by_cases reached : now ≥ info.rebootTimeStart
  · refine Or.inl ⟨reached, ?_⟩
    simp +decide [PortRebootInfo.checkDeadline, reached]
  · refine Or.inr ⟨by omega, ?_⟩
    simp +decide [PortRebootInfo.checkDeadline, reached, running]

/-- The automatic request in `REBOOT_STATE_IDLE`. -/
inductive AutoStart (maxReset : Nat) : Control → Control → List CycleAction → Prop where
  | absent {c : Control} (quiet : c.auto = false) :
      AutoStart maxReset c c []
  | exhausted {c : Control} (test : TestType) (requested : c.auto = true)
      (spent : maxReset ≤ c.resetCount) (checked : test = c.test ∨ test = .disable) :
      AutoStart maxReset c
        { c with
          auto := false, state := .idle, rebootInfo.rebootState := .idle, test := test } []
  | started {c : Control} (requested : c.auto = true) (left : c.resetCount < maxReset) :
      AutoStart maxReset c
        { c with
          auto := false
          resetCount := u8 (c.resetCount + 1)
          rebootInfo.rebootState := .init } [.started .auto]

theorem AutoStart.manual_eq {maxReset : Nat} {before after : Control}
    {actions : List CycleAction} (auto : AutoStart maxReset before after actions) :
    after.manual = before.manual := by
  cases auto <;> rfl

/-- The manual request in `REBOOT_STATE_IDLE`. -/
inductive ManualStart : Control → Control → List CycleAction → Prop where
  | absent {c : Control} (quiet : ¬(c.manual = true ∧ c.powered)) :
      ManualStart c c []
  | started {c : Control} (requested : c.manual = true) (powered : c.powered) :
      ManualStart c
        { c with manual := false, resetCount := 0, rebootInfo.rebootState := .init }
        [.started .manual]

/-- Serving requests moves the nested state to `REBOOT_STATE_INIT` at most. -/
theorem rebootInfo_of_served {maxReset : Nat} {before middle after : Control}
    {first second : List CycleAction} (between : before.rebootInfo.rebootState = .idle)
    (auto : AutoStart maxReset before middle first)
    (manual : ManualStart middle after second) :
    after.rebootInfo = { before.rebootInfo with rebootState := .idle } ∨
      after.rebootInfo = { before.rebootInfo with rebootState := .init } := by
  cases manual with
  | absent quiet =>
      cases auto with
      | absent quiet =>
          exact Or.inl (by rw [← between])
      | exhausted test requested spent checked =>
          exact Or.inl rfl
      | started requested left =>
          exact Or.inr rfl
  | started requested powered =>
      cases auto <;> exact Or.inr rfl

/-- Every transition of the control part, with the step of the daemon that
causes it. -/
inductive ControlStep (maxReset : Nat) :
    Control → Input → Control → List CycleAction → Prop where
  | tested {c : Control} {input : Input} (test : input.testCall.isSome) :
      ControlStep maxReset c input c []
  | requested {c : Control} (free : c.state ≠ .reboot) (powered : c.powered) :
      ControlStep maxReset c .command { c with state := .reboot, manual := true } []
  | refused {c : Control} (free : c.state ≠ .reboot) (unpowered : ¬c.powered) :
      ControlStep maxReset c .command c []
  | withdrawn {c : Control} (busy : c.state = .reboot) :
      ControlStep maxReset c .command { c with manual := false } []
  | read {c : Control} (portEnabled poeEnabled : Bool) :
      ControlStep maxReset c (.readState portEnabled poeEnabled)
        { c with
          stateInfo :=
            { portState := if portEnabled then .enable else .disable
              poeState := if poeEnabled then .enable else .disable }
          state := if portEnabled && poeEnabled then c.state else .idle } []
  | rested {c : Control} {input : TickInput} (idle : c.state = .idle) :
      ControlStep maxReset c (.tick input) c []
  | resumed {c : Control} {input : TickInput} (idle : c.state = .idle) :
      ControlStep maxReset c (.tick input) { c with state := .regular } []
  | watched {c : Control} {input : TickInput} (count : Nat)
      (regular : c.state = .regular) (forgets : count = c.resetCount ∨ count = 0) :
      ControlStep maxReset c (.tick input) { c with resetCount := count } []
  | raised {c : Control} {input : TickInput} (count : Nat)
      (regular : c.state = .regular) (forgets : count = c.resetCount ∨ count = 0) :
      ControlStep maxReset c (.tick input)
        { c with resetCount := count, auto := true, state := .reboot } [.raised]
  | served {c mid after : Control} {input : TickInput} {first second : List CycleAction}
      (busy : c.state = .reboot) (between : c.rebootInfo.rebootState = .idle)
      (auto : AutoStart maxReset c mid first) (manual : ManualStart mid after second) :
      ControlStep maxReset c (.tick input) after (first ++ second)
  | armed {c : Control} {input : TickInput}
      (busy : c.state = .reboot) (fresh : c.rebootInfo.rebootState = .init) :
      ControlStep maxReset c (.tick input)
        { c with
          rebootInfo.rebootState := .poeDown
          rebootInfo.rebootEvent :=
            BitFlags.raise c.rebootInfo.rebootEvent rebootEventStart } []
  | poweredOff {c : Control} {input : TickInput}
      (busy : c.state = .reboot) (down : c.rebootInfo.rebootState = .poeDown)
      (due : BitFlags.has c.rebootInfo.rebootEvent rebootEventStart = true) :
      ControlStep maxReset c (.tick input)
        { c with
          rebootInfo :=
            PortRebootInfo.checkDeadline input.now
              { c.rebootInfo with
                rebootEvent := BitFlags.clear c.rebootInfo.rebootEvent rebootEventStart
                rebootTimeStart := u32 (c.rebootInfo.rebootDelay + input.now) } }
        [.down input.now]
  | waited {c : Control} {input : TickInput}
      (busy : c.state = .reboot) (down : c.rebootInfo.rebootState = .poeDown)
      (done : BitFlags.has c.rebootInfo.rebootEvent rebootEventStart = false) :
      ControlStep maxReset c (.tick input)
        { c with rebootInfo := c.rebootInfo.checkDeadline input.now } []
  | poweredOn {c : Control} {input : TickInput}
      (busy : c.state = .reboot) (up : c.rebootInfo.rebootState = .poeUp)
      (plain : c.manual = false) :
      ControlStep maxReset c (.tick input)
        { c with
          state := .regular
          rebootInfo.rebootState := .idle
          rebootInfo.rebootEvent :=
            BitFlags.raise (BitFlags.clear c.rebootInfo.rebootEvent rebootEventTimerStop)
              rebootEventIdle }
        (if c.powered then [.up input.now] else [])
  | reloaded {c : Control} {input : TickInput} (test : TestType)
      (busy : c.state = .reboot) (up : c.rebootInfo.rebootState = .poeUp)
      (requested : c.manual = true) :
      ControlStep maxReset c (.tick input)
        { c with
          state := .regular
          rebootInfo.rebootState := .idle
          rebootInfo.rebootEvent :=
            BitFlags.raise (BitFlags.clear c.rebootInfo.rebootEvent rebootEventTimerStop)
              rebootEventIdle
          resetCount := 0
          auto := false
          manual := false
          test := test }
        (if c.powered then [.up input.now] else [])

/-! ## Steps that leave it alone -/

theorem control_portRunTestDisable (port : PortInfo) :
    (portRunTestDisable port).control = port.control := by
  simp [portRunTestDisable]

theorem control_portRunTestLink (port : PortInfo) (up : Bool) :
    (portRunTestLink port up).control = port.control := by
  simp only [portRunTestLink]
  cases up with
  | false =>
      simp
  | true =>
      simp only [if_true]
      split <;> simp +decide

theorem control_portRunTestPing (port : PortInfo) (reply : Option Nat) :
    (portRunTestPing port reply).control = port.control := by
  simp only [portRunTestPing]
  split
  · simp
  · split <;> simp +decide

theorem control_portRunTestSpeed (port : PortInfo) (rxBytes now : Nat) :
    (portRunTestSpeed port rxBytes now).control = port.control := by
  simp only [portRunTestSpeed, readRxBytes]
  split <;> split <;> (try split) <;> (try split) <;> simp +decide

/-- The port without the fields that the alarm writes. -/
def besideAlarm (port : PortInfo) : PortInfo :=
  { port with
    portConfigInfo :=
      { port.portConfigInfo with
        timeUp :=
          { port.portConfigInfo.timeUp with status := .disable, targetTime := 0, remainTime := 0 }
        timeDown :=
          { port.portConfigInfo.timeDown with status := .disable, targetTime := 0, remainTime := 0 }
        poeState := 0
        timeStr := "" }
    portResetInfo := { port.portResetInfo with errorCode := 0, totalResetCount := 0 } }

theorem besideAlarm_portRunTestTime (clock : LocalClock) (now : Nat) (port : PortInfo) :
    besideAlarm (portRunTestTime clock now port) = besideAlarm port := by
  have timeOnly (alarm : TimeHM) :
      { portTimeAlarm clock now alarm with status := .disable, targetTime := 0, remainTime := 0 } =
        { alarm with status := .disable, targetTime := 0, remainTime := 0 } := by
    simp only [portTimeAlarm]
    split <;> rfl
  simp only [besideAlarm, portRunTestTime, timeOnly]

theorem besideAlarm_alarmHandler (clock : LocalClock) (now : Nat) (port : PortInfo) :
    besideAlarm (alarmHandler clock now port).1 = besideAlarm port := by
  have down (port : PortInfo) :
      besideAlarm (alarmDown clock now port).1 = besideAlarm port := by
    unfold alarmDown
    split <;> rfl
  have up (port : PortInfo) : besideAlarm (alarmUp now port).1 = besideAlarm port := by
    unfold alarmUp
    split <;> rfl
  rw [← besideAlarm_portRunTestTime clock now port]
  simp only [alarmHandler]
  split
  · rw [up, down]
  · rfl

theorem control_alarmHandler (clock : LocalClock) (now : Nat) (port : PortInfo) :
    (alarmHandler clock now port).1.control = port.control := by
  have same := congrArg PortInfo.control (besideAlarm_alarmHandler clock now port)
  exact same

/-! ## The daemon follows the transitions -/

theorem filterMap_cycle_alarmHandler (clock : LocalClock) (now : Nat) (port : PortInfo) :
    (alarmHandler clock now port).2.filterMap Action.cycle = [] := by
  simp only [alarmHandler, alarmDown, alarmUp]
  repeat' split
  all_goals rfl

theorem control_eventsHandler (config : DaemonConfig) (clock : LocalClock)
    (input : TickInput) (port : PortInfo) :
    (eventsHandler config clock input port).1.control =
      (stateHandler config clock input port).1.control := by
  simp only [eventsHandler]
  split
  · rw [control_alarmHandler]
  · rfl

theorem filterMap_cycle_eventsHandler (config : DaemonConfig) (clock : LocalClock)
    (input : TickInput) (port : PortInfo) :
    (eventsHandler config clock input port).2.filterMap Action.cycle =
      (stateHandler config clock input port).2.filterMap Action.cycle := by
  simp only [eventsHandler]
  split
  · rw [List.filterMap_append, filterMap_cycle_alarmHandler, List.append_nil]
  · rfl

theorem controlStep_command (maxReset : Nat) (port : PortInfo) :
    ControlStep maxReset port.control .command (cmdRebootHandler port).1.control
      ((cmdRebootHandler port).2.filterMap Action.cycle) := by
  by_cases busy : port.portResetInfo.state = .reboot
  · have withdrawn : ControlStep maxReset port.control .command _ [] := .withdrawn busy
    simpa +decide [cmdRebootHandler, busy, List.filterMap_cons, Action.cycle] using withdrawn
  · by_cases powered : port.poweredByConfig
    · have requested : ControlStep maxReset port.control .command _ [] :=
        .requested busy powered
      simpa +decide [cmdRebootHandler, busy, powered, List.filterMap_cons, Action.cycle]
        using requested
    · have refused : ControlStep maxReset port.control .command _ [] :=
        .refused busy powered
      simpa +decide [cmdRebootHandler, busy, powered, List.filterMap_cons, Action.cycle]
        using refused

theorem control_getPortAndPoeState (port : PortInfo) (portEnabled poeEnabled : Bool) :
    (getPortAndPoeState port portEnabled poeEnabled).control =
      { port.control with
        stateInfo :=
          { portState := if portEnabled then .enable else .disable
            poeState := if poeEnabled then .enable else .disable }
        state := if portEnabled && poeEnabled then port.portResetInfo.state else .idle } := by
  cases portEnabled <;> cases poeEnabled <;> simp [getPortAndPoeState, parkUnless]

/-- `set_errorHandler` can only change the type of test. -/
theorem setErrorHandler_eq (port : PortInfo) :
    setErrorHandler port =
      { port with portConfigInfo.test := (setErrorHandler port).portConfigInfo.test } := by
  unfold setErrorHandler
  split <;> rfl

/-- A shutdown parks the port in both states and may disable its test. -/
theorem control_shutdownPort (port : PortInfo) :
    ∃ test,
      (test = port.portConfigInfo.test ∨ test = .disable) ∧
        (shutdownPort port).control =
          { port.control with
            state := .idle, rebootInfo.rebootState := .idle, test := test } := by
  simp only [shutdownPort, setErrorHandler]
  split
  · exact ⟨.disable, Or.inr rfl, rfl⟩
  · exact ⟨port.portConfigInfo.test, Or.inl rfl, rfl⟩

theorem autoStart_startAuto (clock : LocalClock) (now maxReset : Nat) (port : PortInfo) :
    AutoStart maxReset port.control (startAuto clock now maxReset port).1.control
      ((startAuto clock now maxReset port).2.filterMap Action.cycle) := by
  by_cases requested : BitFlags.has port.portResetInfo.event autoRestart = true
  · by_cases left : port.portResetInfo.resetCount < maxReset
    · have started : AutoStart maxReset port.control _ _ := .started requested left
      have notSpent : ¬maxReset ≤ port.portResetInfo.resetCount := by omega
      simpa +decide [startAuto, autoResetHandler, autoRebootPort, requested, notSpent,
        List.filterMap_cons, Action.cycle] using started
    · have spent : maxReset ≤ port.portResetInfo.resetCount := by omega
      have handled : autoResetHandler clock now maxReset (port.clearEvent autoRestart) =
          (shutdownPort (({ port.clearEvent autoRestart with
            portConfigInfo.timeStr := getTimeDate clock now }).clearError errOk), []) :=
        if_pos spent
      simp only [startAuto, PortInfo.hasEvent, requested, if_true, handled,
        List.filterMap_nil]
      obtain ⟨test, checked, control⟩ := control_shutdownPort
        (({ port.clearEvent autoRestart with
          portConfigInfo.timeStr := getTimeDate clock now }).clearError errOk)
      have exhausted : AutoStart maxReset port.control _ _ :=
        .exhausted test requested spent checked
      rw [control]
      simpa +decide using exhausted
  · have quiet : BitFlags.has port.portResetInfo.event autoRestart = false := by
      simpa using requested
    have absent : AutoStart maxReset port.control _ _ := .absent quiet
    simpa [startAuto, quiet] using absent

theorem manualStart_startManual (clock : LocalClock) (now : Nat) (port : PortInfo) :
    ManualStart port.control (startManual clock now port).1.control
      ((startManual clock now port).2.filterMap Action.cycle) := by
  by_cases both : port.hasEvent manualRestart = true ∧ port.poweredByConfig
  · have started : ManualStart port.control _ _ := .started both.1 both.2
    simp only [startManual, if_pos both]
    simpa +decide [manualResetHandler, List.filterMap_cons, Action.cycle] using started
  · have absent : ManualStart port.control _ _ := .absent both
    simpa only [startManual, if_neg both, List.filterMap_nil] using absent

theorem control_checkDeadline (now : Nat) (port : PortInfo) :
    (checkDeadline now port).control =
      { port.control with rebootInfo := port.portRebootInfo.checkDeadline now } := by
  by_cases reached : now ≥ port.portRebootInfo.rebootTimeStart
  · simp +decide [checkDeadline, PortRebootInfo.checkDeadline, reached]
  · by_cases stopped :
        BitFlags.has port.portRebootInfo.rebootEvent rebootEventTimerStop = true
    · simp +decide [checkDeadline, PortRebootInfo.checkDeadline, reached, stopped]
    · simp +decide [checkDeadline, PortRebootInfo.checkDeadline, reached, stopped]

theorem control_setTest (uninit : ErrorCode) (options : PortSection) (port : PortInfo) :
    (setTest uninit options port).control =
      { port.control with test := (setTest uninit options port).portConfigInfo.test } := by
  unfold setTest
  split <;> rfl

theorem control_setAlarm (clock : LocalClock) (now : Nat) (options : PortSection)
    (port : PortInfo) :
    (setAlarm clock now options port).control =
      { port.control with test := (setAlarm clock now options port).portConfigInfo.test } := by
  unfold setAlarm
  split <;> rfl

/-- A reload leaves the nested state and the configuration read alone and
forgets both requests. -/
theorem control_getPortParam (clock : LocalClock) (now : Nat) (uninit : ErrorCode)
    (options : PortSection) (portNum : PortNum) (isReboot : Bool) (port : PortInfo) :
    (getPortParam clock now uninit options portNum isReboot port).control =
      { port.control with
        state := .regular
        resetCount := 0
        auto := false
        manual := false
        test :=
          (getPortParam clock now uninit options portNum isReboot port).portConfigInfo.test } := by
  have errors (port : PortInfo) :
      (setErrorHandler port).control =
        { port.control with test := (setErrorHandler port).portConfigInfo.test } := by
    rw [setErrorHandler_eq]
    rfl
  unfold getPortParam
  dsimp only
  rw [errors, control_setAlarm, control_setTest]
  simp [setResetZeroValue, idleEvent]

theorem control_powerUp (now : Nat) (port : PortInfo) :
    (powerUp now port).1.control =
      { port.control with
        state := .regular
        rebootInfo.rebootState := .idle
        rebootInfo.rebootEvent :=
          BitFlags.raise
            (BitFlags.clear port.portRebootInfo.rebootEvent rebootEventTimerStop)
            rebootEventIdle } := by
  simp [powerUp]

theorem filterMap_cycle_powerUp (now : Nat) (port : PortInfo) :
    (powerUp now port).2.filterMap Action.cycle =
      if port.control.powered then [.up now] else [] := by
  simp only [powerUp]
  by_cases powered : port.control.powered
  · have same : (port.clearRebootEvent rebootEventTimerStop).poweredByConfig := powered
    rw [if_pos same, if_pos powered]
    rfl
  · have same : ¬(port.clearRebootEvent rebootEventTimerStop).poweredByConfig := powered
    rw [if_neg same, if_neg powered]
    rfl

theorem control_forgetFailure (port : PortInfo) :
    ∃ count,
      (count = port.portResetInfo.resetCount ∨ count = 0) ∧
        (forgetFailure port).control = { port.control with resetCount := count } := by
  simp only [forgetFailure]
  split
  · split
    · exact ⟨0, Or.inr rfl, rfl⟩
    · exact ⟨port.portResetInfo.resetCount, Or.inl rfl, rfl⟩
  · exact ⟨port.portResetInfo.resetCount, Or.inl rfl, rfl⟩

theorem controlStep_testErrorHandler (config : DaemonConfig) (input : TickInput)
    (port : PortInfo) (regular : port.portResetInfo.state = .regular) :
    ControlStep config.maxReset port.control (.tick input)
      (testErrorHandler config port).1.control
      ((testErrorHandler config port).2.filterMap Action.cycle) := by
  obtain ⟨count, forgets, control⟩ := control_forgetFailure port
  have watched : ControlStep config.maxReset port.control (.tick input) _ [] :=
    .watched count regular forgets
  have raised : ControlStep config.maxReset port.control (.tick input) _ [.raised] :=
    .raised count regular forgets
  simp only [testErrorHandler]
  split
  · rw [control]
    exact watched
  · split
    · split
      · have requested := congrArg
          (fun c : Control => { c with auto := true, state := .reboot }) control
        rw [← requested] at raised
        simpa +decide [List.filterMap_cons, Action.cycle] using raised
      · rw [← control] at watched
        exact watched
    · rw [control]
      exact watched

theorem controlStep_rebootHandler (config : DaemonConfig) (clock : LocalClock)
    (input : TickInput) (port : PortInfo) (busy : port.portResetInfo.state = .reboot) :
    ControlStep config.maxReset port.control (.tick input)
      (rebootHandler config clock input port).1.control
      ((rebootHandler config clock input port).2.filterMap Action.cycle) := by
  cases rebootState : port.portRebootInfo.rebootState with
  | idle =>
      simp only [rebootHandler, rebootState, List.filterMap_append]
      exact .served busy rebootState
        (autoStart_startAuto clock input.now config.maxReset port)
        (manualStart_startManual clock input.now _)
  | init =>
      simp only [rebootHandler, rebootState, List.filterMap_nil]
      exact .armed busy rebootState
  | poeDown =>
      simp only [rebootHandler, rebootState, control_checkDeadline]
      by_cases due :
          BitFlags.has port.portRebootInfo.rebootEvent rebootEventStart = true
      · have poweredOff : ControlStep config.maxReset port.control (.tick input) _ _ :=
          .poweredOff busy rebootState due
        simpa [powerDown, due, List.filterMap_cons, Action.cycle] using poweredOff
      · have done :
            BitFlags.has port.portRebootInfo.rebootEvent rebootEventStart = false := by
          simpa using due
        have waited : ControlStep config.maxReset port.control (.tick input) _ _ :=
          .waited busy rebootState done
        simpa [powerDown, done] using waited
  | poeUp =>
      simp only [rebootHandler, rebootState, List.filterMap_append, filterMap_cycle_powerUp]
      by_cases requested :
          BitFlags.has port.portResetInfo.event manualRestart = true
      · have present : (powerUp input.now port).1.hasEvent manualRestart = true := requested
        have silent : [Action.portReloaded].filterMap Action.cycle = [] := rfl
        simp only [reloadAfterManual, if_pos present, control_getPortParam, silent,
          List.append_nil]
        exact .reloaded (c := port.control) _ busy rebootState requested
      · have plain : BitFlags.has port.portResetInfo.event manualRestart = false := by
          simpa using requested
        have missing : ¬(powerUp input.now port).1.hasEvent manualRestart = true := requested
        simp only [reloadAfterManual, if_neg missing, control_powerUp, List.filterMap_nil,
          List.append_nil]
        exact .poweredOn (c := port.control) busy rebootState plain

theorem controlStep_stateHandler (config : DaemonConfig) (clock : LocalClock)
    (input : TickInput) (port : PortInfo) :
    ControlStep config.maxReset port.control (.tick input)
      (stateHandler config clock input port).1.control
      ((stateHandler config clock input port).2.filterMap Action.cycle) := by
  cases state : port.portResetInfo.state with
  | idle =>
      simp only [stateHandler, state, leaveIdle, List.filterMap_nil]
      split
      · have resumed : ControlStep config.maxReset port.control (.tick input) _ _ :=
          .resumed state
        simpa +decide using resumed
      · exact .rested state
  | regular =>
      simp only [stateHandler, state]
      exact controlStep_testErrorHandler config input port state
  | reboot =>
      simp only [stateHandler, state]
      exact controlStep_rebootHandler config clock input port state

/-- Every step of the daemon is a transition of its control part. -/
theorem daemon_controlStep (env : Environment) (state : Daemon) (input : Input) :
    ControlStep env.config.maxReset state.port.control input
      ((daemon env).next state input).port.control
      (((daemon env).emit state input).filterMap Action.cycle) := by
  rw [daemon_next_port, daemon_emit]
  cases input with
  | command =>
      exact controlStep_command env.config.maxReset state.port
  | readState portEnabled poeEnabled =>
      simp only [portStep, control_getPortAndPoeState]
      exact .read portEnabled poeEnabled
  | testDisable =>
      simp only [portStep, control_portRunTestDisable]
      exact .tested rfl
  | testLink up =>
      simp only [portStep, control_portRunTestLink]
      exact .tested rfl
  | testPing reply =>
      simp only [portStep, control_portRunTestPing]
      exact .tested rfl
  | testSpeed rxBytes now =>
      simp only [portStep, control_portRunTestSpeed]
      exact .tested rfl
  | tick input =>
      simp only [portStep, control_eventsHandler, filterMap_cycle_eventsHandler]
      exact controlStep_stateHandler env.config env.clock input state.port

theorem boot_control (env : Environment) (index : Fin numPorts) (input : BootInput) :
    (boot env index input).port.control =
      { state := .regular
        rebootInfo :=
          { rebootState := .idle, rebootEvent := rebootEventIdle, rebootDelay := 15,
            rebootTimeStart := 0 }
        stateInfo := { portState := .disable, poeState := .disable }
        resetCount := 0
        auto := false
        manual := false
        test := (boot env index input).port.portConfigInfo.test } := by
  have loaded :=
    control_getPortParam env.clock input.now input.uninit input.options (portNumOf index)
      false (zeroPort (portNumOf index))
  have rebooted := congrArg
    (fun c : Control =>
      { c with
        rebootInfo :=
          { rebootState := .idle, rebootEvent := rebootEventIdle, rebootDelay := 15,
            rebootTimeStart := 0 } }) loaded
  exact rebooted

end TfortisPack.Autorestart
