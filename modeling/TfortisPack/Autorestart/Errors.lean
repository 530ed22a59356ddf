import TfortisPack.Autorestart.Control

/-!
# The error word

What the handlers do to single flags of `errorCode`.  A tick of a port that
is not in `REBOOT_STATE` touches `ERR_PORT_SHUTDOWN` and `ERR_POE_DOWN` only.
-/

namespace TfortisPack.Autorestart

open TfortisPack.Library

theorem hasError_forgetFailure {flag : ErrorCode} (port : PortInfo)
    (apart : BitFlags.has errPortShutdown flag = false) :
    (forgetFailure port).hasError flag = port.hasError flag := by
  simp only [forgetFailure]
  split
  · split
    · simp [apart]
    · rfl
  · rfl

theorem hasError_testErrorHandler {flag : ErrorCode} (config : DaemonConfig)
    (port : PortInfo) (apart : BitFlags.has errPortShutdown flag = false) :
    (testErrorHandler config port).1.hasError flag = port.hasError flag := by
  rw [← hasError_forgetFailure port apart]
  simp only [testErrorHandler]
  split
  · rfl
  · split
    · split <;> rfl
    · rfl

theorem hasError_leaveIdle {flag : ErrorCode} (port : PortInfo)
    (apart : BitFlags.has errPortShutdown flag = false) :
    (leaveIdle port).hasError flag = port.hasError flag := by
  simp only [leaveIdle]
  split
  · simp [apart]
  · rfl

theorem hasError_stateHandler {flag : ErrorCode} (config : DaemonConfig)
    (clock : LocalClock) (input : TickInput) (port : PortInfo)
    (free : port.portResetInfo.state ≠ .reboot)
    (apart : BitFlags.has errPortShutdown flag = false) :
    (stateHandler config clock input port).1.hasError flag = port.hasError flag := by
  unfold stateHandler
  split
  · exact hasError_leaveIdle port apart
  · exact hasError_testErrorHandler config port apart
  · exact absurd ‹_› free

theorem hasError_alarmDown {flag : ErrorCode} (clock : LocalClock) (now : Nat)
    (port : PortInfo) (apart : BitFlags.has errPoeDown flag = false) :
    (alarmDown clock now port).1.hasError flag = port.hasError flag := by
  simp only [alarmDown]
  split
  · simp [apart]
  · rfl

theorem hasError_alarmUp {flag : ErrorCode} (now : Nat) (port : PortInfo)
    (apart : BitFlags.has errPoeDown flag = false) :
    (alarmUp now port).1.hasError flag = port.hasError flag := by
  simp only [alarmUp]
  split
  · simp [apart]
  · rfl

theorem hasError_alarmHandler {flag : ErrorCode} (clock : LocalClock) (now : Nat)
    (port : PortInfo) (apart : BitFlags.has errPoeDown flag = false) :
    (alarmHandler clock now port).1.hasError flag = port.hasError flag := by
  simp only [alarmHandler]
  split
  · rw [hasError_alarmUp now _ apart, hasError_alarmDown clock now _ apart]
    rfl
  · rfl

/-- The alarm of a tick touches `ERR_POE_DOWN` only. -/
theorem hasError_eventsHandler_eq {flag : ErrorCode} (config : DaemonConfig)
    (clock : LocalClock) (input : TickInput) (port : PortInfo)
    (apart : BitFlags.has errPoeDown flag = false) :
    (eventsHandler config clock input port).1.hasError flag =
      (stateHandler config clock input port).1.hasError flag := by
  simp only [eventsHandler]
  split
  · exact hasError_alarmHandler clock input.now _ apart
  · rfl

theorem hasError_eventsHandler {flag : ErrorCode} (config : DaemonConfig)
    (clock : LocalClock) (input : TickInput) (port : PortInfo)
    (free : port.portResetInfo.state ≠ .reboot)
    (apartShutdown : BitFlags.has errPortShutdown flag = false)
    (apartDown : BitFlags.has errPoeDown flag = false) :
    (eventsHandler config clock input port).1.hasError flag = port.hasError flag := by
  rw [hasError_eventsHandler_eq config clock input port apartDown,
    hasError_stateHandler config clock input port free apartShutdown]

theorem testFailed_eventsHandler (config : DaemonConfig) (clock : LocalClock)
    (input : TickInput) (port : PortInfo) (free : port.portResetInfo.state ≠ .reboot) :
    testFailed (eventsHandler config clock input port).1 = testFailed port := by
  unfold testFailed
  rw [hasError_eventsHandler config clock input port free (by decide) (by decide),
    hasError_eventsHandler config clock input port free (by decide) (by decide),
    hasError_eventsHandler config clock input port free (by decide) (by decide)]

/-- A tick outside `REBOOT_STATE` raises a request only for a failed test that
no flag suspends. -/
theorem raised_of_stateHandler {config : DaemonConfig} {clock : LocalClock}
    {input : TickInput} {port : PortInfo}
    (free : port.portResetInfo.state ≠ .reboot)
    (raised : (stateHandler config clock input port).2 ≠ []) :
    testSuspended (forgetFailure port) = false ∧ testFailed port = true := by
  unfold stateHandler at raised
  split at raised
  · exact absurd rfl raised
  · simp only [testErrorHandler] at raised
    split at raised
    · exact absurd rfl raised
    · split at raised
      · rename_i active failed
        refine ⟨by simpa using active, ?_⟩
        unfold testFailed at failed ⊢
        rwa [hasError_forgetFailure port (by decide), hasError_forgetFailure port (by decide),
          hasError_forgetFailure port (by decide)] at failed
      · exact absurd rfl raised
  · exact absurd ‹_› free

/-! ## `ERR_OK` and the reset counter -/

/-- The counter is zeroed by a tick that finds `ERR_OK` and no older failure. -/
theorem resetCount_forgetFailure (port : PortInfo) :
    (forgetFailure port).portResetInfo.resetCount = port.portResetInfo.resetCount ∨
      port.hasError errOk = true ∧ port.portResetInfo.errorTestCount ≤ 1 := by
  by_cases ok : port.hasError errOk = true
  · by_cases last : port.portResetInfo.errorTestCount ≤ 1
    · exact Or.inr ⟨ok, last⟩
    · have older : ¬port.portResetInfo.errorTestCount - 1 = 0 := by omega
      left
      simp only [forgetFailure, if_pos ok, if_neg older]
  · left
    simp only [forgetFailure, if_neg ok]

theorem resetCount_testErrorHandler (config : DaemonConfig) (port : PortInfo) :
    (testErrorHandler config port).1.portResetInfo.resetCount =
      (forgetFailure port).portResetInfo.resetCount := by
  simp only [testErrorHandler]
  split
  · rfl
  · split
    · split <;> rfl
    · rfl

theorem resetCount_eventsHandler (config : DaemonConfig) (clock : LocalClock)
    (input : TickInput) (port : PortInfo) (regular : port.portResetInfo.state = .regular) :
    (eventsHandler config clock input port).1.portResetInfo.resetCount =
        port.portResetInfo.resetCount ∨
      port.hasError errOk = true ∧ port.portResetInfo.errorTestCount ≤ 1 := by
  have same := congrArg Control.resetCount (control_eventsHandler config clock input port)
  simp only [PortInfo.control, stateHandler, regular] at same
  rw [same, resetCount_testErrorHandler]
  exact resetCount_forgetFailure port

theorem hasError_ok_startAuto (clock : LocalClock) (now maxReset : Nat) (port : PortInfo)
    (requested : port.hasEvent autoRestart = true) :
    (startAuto clock now maxReset port).1.hasError errOk = false := by
  simp only [startAuto, if_pos requested, autoResetHandler]
  split
  · simp only [shutdownPort]
    rw [setErrorHandler_eq]
    simp +decide
  · simp +decide [autoRebootPort]

theorem hasError_powerDown (now : Nat) (port : PortInfo) (flag : ErrorCode) :
    (powerDown now port).1.hasError flag = port.hasError flag := by
  simp only [powerDown]
  split <;> rfl

theorem hasError_checkDeadline (now : Nat) (port : PortInfo) (flag : ErrorCode) :
    (checkDeadline now port).hasError flag = port.hasError flag := by
  simp only [checkDeadline]
  split
  · split <;> rfl
  · split <;> rfl

/-- A tick in `REBOOT_STATE` that leaves `ERR_OK` set found it set and started
no automatic reset. -/
theorem hasError_ok_rebootHandler {config : DaemonConfig} {clock : LocalClock}
    {input : TickInput} {port : PortInfo} (plain : port.hasEvent manualRestart = false)
    (ok : (rebootHandler config clock input port).1.hasError errOk = true) :
    port.hasError errOk = true ∧
      .resetStarted .auto ∉ (rebootHandler config clock input port).2 := by
  have noManual (port : PortInfo) (plain : port.hasEvent manualRestart = false) :
      startManual clock input.now port = (port, []) :=
    if_neg fun both => Bool.false_ne_true (plain.symm.trans both.1)
  cases rebootState : port.portRebootInfo.rebootState with
  | idle =>
      simp only [rebootHandler, rebootState] at ok ⊢
      by_cases requested : port.hasEvent autoRestart = true
      · have kept :
            (startAuto clock input.now config.maxReset port).1.hasEvent manualRestart =
              false :=
          (autoStart_startAuto clock input.now config.maxReset port).manual_eq.trans plain
        rw [noManual _ kept] at ok
        have gone := hasError_ok_startAuto clock input.now config.maxReset port requested
        exact absurd (gone.symm.trans ok) Bool.false_ne_true
      · have absent : startAuto clock input.now config.maxReset port = (port, []) :=
          if_neg requested
        rw [absent, noManual port plain] at ok ⊢
        exact ⟨ok, by simp⟩
  | init =>
      simp only [rebootHandler, rebootState] at ok ⊢
      exact ⟨ok, by simp⟩
  | poeDown =>
      simp only [rebootHandler, rebootState] at ok ⊢
      rw [hasError_checkDeadline, hasError_powerDown] at ok
      refine ⟨ok, ?_⟩
      simp only [powerDown]
      split <;> simp
  | poeUp =>
      have noReload : reloadAfterManual clock input (powerUp input.now port).1 =
          ((powerUp input.now port).1, []) :=
        if_neg fun present => Bool.false_ne_true (plain.symm.trans present)
      simp only [rebootHandler, rebootState, noReload] at ok ⊢
      refine ⟨?_, ?_⟩
      · simpa +decide [powerUp] using ok
      · simp only [powerUp]
        split <;> simp

/-! ## The error word at start -/

theorem portSetSpeedParam_error (config : PortConfigInfo) (max min : Nat) :
    (portSetSpeedParam config max min).2 = errSpeedValue ∨
      (portSetSpeedParam config max min).2 = errOk := by
  simp only [portSetSpeedParam]
  repeat' split
  all_goals first | exact Or.inl rfl | exact Or.inr rfl

theorem setSpeed_error (uninit : ErrorCode) (config : PortConfigInfo)
    (options : PortSection) :
    (setSpeed uninit config options).2 = errSpeedValue ∨
      (setSpeed uninit config options).2 = errOk := by
  have guarded (errorCode : ErrorCode) (max min : Nat) :
      (if errorCode ≠ errSpeedValue then portSetSpeedParam config max min
        else (config, errorCode)).2 = errSpeedValue ∨
      (if errorCode ≠ errSpeedValue then portSetSpeedParam config max min
        else (config, errorCode)).2 = errOk := by
    by_cases usable : errorCode ≠ errSpeedValue
    · rw [if_pos usable]
      exact portSetSpeedParam_error config max min
    · rw [if_neg usable]
      exact Or.inl (by simpa using usable)
  exact guarded _ _ _

theorem setHost_error (config : PortConfigInfo) (options : PortSection) :
    (setHost config options).2 = errIpNotValid ∨ (setHost config options).2 = 0 := by
  simp only [setHost]
  split
  · exact Or.inl rfl
  · split
    · exact Or.inr rfl
    · exact Or.inl rfl

theorem setTestConfig_error (uninit : ErrorCode) (config : PortConfigInfo)
    (enabled : config.test ≠ .disable) (options : PortSection) :
    (setTestConfig uninit config options).2 ∈ [errOk, errIpNotValid, 0, errSpeedValue] := by
  unfold setTestConfig
  split
  · exact absurd ‹_› enabled
  · simp
  · rcases setHost_error config options with error | error <;> simp [error]
  · rcases setSpeed_error uninit config options with error | error <;> simp [error]

/-- The error words of a port whose options were just read. -/
def reloadErrors : List ErrorCode :=
  [errTestType, errTestDisable, errOk, errIpNotValid, 0, errSpeedValue]

theorem errorCode_setTest (uninit : ErrorCode) (options : PortSection) {port : PortInfo}
    (fresh : port.portResetInfo.errorCode = errOk) :
    (setTest uninit options port).portResetInfo.errorCode ∈ reloadErrors := by
  unfold setTest
  split
  · simp only [PortInfo.raiseError, PortInfo.clearError, fresh]
    decide
  · simp only [PortInfo.raiseError, PortInfo.clearError, fresh]
    decide
  · rename_i test enabled _
    have error :=
      setTestConfig_error uninit { port.portConfigInfo with test := test } enabled options
    exact List.mem_cons_of_mem _ (List.mem_cons_of_mem _ error)

theorem errorCode_getPortParam (clock : LocalClock) (now : Nat) (uninit : ErrorCode)
    (options : PortSection) (portNum : PortNum) (isReboot : Bool) (port : PortInfo) :
    (getPortParam clock now uninit options portNum isReboot port).portResetInfo.errorCode ∈
      reloadErrors := by
  have alarm (port : PortInfo) :
      (setAlarm clock now options port).portResetInfo = port.portResetInfo := by
    unfold setAlarm
    split <;> rfl
  unfold getPortParam
  dsimp only
  rw [setErrorHandler_eq]
  simp only [alarm]
  apply errorCode_setTest
  rfl

/-- No test has failed in a port whose options were just read. -/
theorem testFailed_getPortParam (clock : LocalClock) (now : Nat) (uninit : ErrorCode)
    (options : PortSection) (portNum : PortNum) (isReboot : Bool) (port : PortInfo) :
    testFailed (getPortParam clock now uninit options portNum isReboot port) = false := by
  have clean : ∀ errorCode ∈ reloadErrors,
      (BitFlags.has errorCode errTestLink || BitFlags.has errorCode errTestSpeed
        || BitFlags.has errorCode errTestPing) = false := by
    intro errorCode member
    simp only [reloadErrors, List.mem_cons, List.not_mem_nil, or_false] at member
    rcases member with rfl | rfl | rfl | rfl | rfl | rfl <;> decide
  apply clean
  apply errorCode_getPortParam

theorem testFailed_boot (env : Environment) (index : Fin numPorts) (input : BootInput) :
    testFailed (boot env index input).port = false :=
  testFailed_getPortParam _ _ _ _ _ _ _

/-- Only an answered ping touches the flag of the schedule. -/
theorem hasError_poeDown_of_not_tick (env : Environment) {state : Daemon} {input : Input}
    (outside : ∀ tick, input ≠ .tick tick)
    (unanswered : ¬(PingSucceeds state input ∧ state.port.hasError errPoeDown = true)) :
    ((daemon env).next state input).port.hasError errPoeDown =
      state.port.hasError errPoeDown := by
  rw [daemon_next_port]
  cases input with
  | tick tick =>
      exact absurd rfl (outside tick)
  | command =>
      simp only [portStep, cmdRebootHandler]
      repeat' split
      all_goals rfl
  | readState portEnabled poeEnabled =>
      cases portEnabled <;> cases poeEnabled <;>
        simp +decide [portStep, getPortAndPoeState, parkUnless]
  | testDisable =>
      simp +decide [portStep, portRunTestDisable]
  | testLink up =>
      simp only [portStep, portRunTestLink]
      repeat' split
      all_goals simp +decide
  | testPing reply =>
      by_cases answered : PingSucceeds state (.testPing reply)
      · have off : state.port.hasError errPoeDown = false := by
          simpa [answered] using unanswered
        rw [off]
        cases reply with
        | none =>
            cases answered
        | some time =>
            have up : state.port.hasError errTestLink = false := answered
            simp only [portStep, portRunTestPing, up, Bool.false_eq_true, if_false]
            split <;> simp +decide
      · simp only [portStep, portRunTestPing, pingResult_of_failed answered]
        simp +decide
  | testSpeed rxBytes now =>
      simp only [portStep, portRunTestSpeed, readRxBytes]
      repeat' split
      all_goals simp +decide

end TfortisPack.Autorestart
