import TfortisPack.Autorestart.Errors

/-!
# The counter of failed tests

`test_ErrorHandler` raises `errorTestCount` with every failed test and asks for
a reset at `TEST_NUM`.  `autoResetHandler` zeroes it when it starts a power
cycle, and leaves it where it is when it shuts the port down.  So do
`get_PortAndPoeState`, when it parks a port with a pending request, and a power
cycle that ends while a second request is pending.  A port that comes back to
`REGULAR_STATE` in one of these ways counts on from `TEST_NUM`.
-/

namespace TfortisPack.Autorestart

open TfortisPack.Library

/-! ## The counter in one step -/

theorem errorTestCount_alarmHandler (clock : LocalClock) (now : Nat) (port : PortInfo) :
    (alarmHandler clock now port).1.portResetInfo.errorTestCount =
      port.portResetInfo.errorTestCount :=
  congrArg (fun port => port.portResetInfo.errorTestCount)
    (besideAlarm_alarmHandler clock now port)

theorem errorTestCount_eventsHandler (config : DaemonConfig) (clock : LocalClock)
    (input : TickInput) (port : PortInfo) :
    (eventsHandler config clock input port).1.portResetInfo.errorTestCount =
      (stateHandler config clock input port).1.portResetInfo.errorTestCount := by
  simp only [eventsHandler]
  split
  · rw [errorTestCount_alarmHandler]
  · rfl

theorem errorTestCount_leaveIdle (port : PortInfo) :
    (leaveIdle port).portResetInfo.errorTestCount = port.portResetInfo.errorTestCount := by
  simp only [leaveIdle]
  split <;> rfl

theorem forgetFailure_of_not_ok {port : PortInfo} (failed : port.hasError errOk = false) :
    forgetFailure port = port := by
  have absent : ¬port.hasError errOk = true := by rw [failed]; exact Bool.false_ne_true
  simp only [forgetFailure, if_neg absent]

theorem errorTestCount_forgetFailure {port : PortInfo} (passed : port.hasError errOk = true) :
    (forgetFailure port).portResetInfo.errorTestCount =
      port.portResetInfo.errorTestCount - 1 := by
  simp only [forgetFailure, if_pos passed]
  split <;> rfl

theorem testFailed_forgetFailure (port : PortInfo) :
    testFailed (forgetFailure port) = testFailed port := by
  unfold testFailed
  rw [hasError_forgetFailure port (by decide), hasError_forgetFailure port (by decide),
    hasError_forgetFailure port (by decide)]

/-- `test_ErrorHandler` counts a failure: it is the last test of the port, and no
flag suspends the port. -/
def CountsFailure (port : PortInfo) : Prop :=
  testSuspended (forgetFailure port) = false ∧ testFailed port = true

instance : DecidablePred CountsFailure :=
  fun _ => inferInstanceAs (Decidable (_ ∧ _))

theorem testErrorHandler_counts {port : PortInfo} (counts : CountsFailure port)
    (config : DaemonConfig) :
    testErrorHandler config port =
      let counted :=
        { forgetFailure port with
          portResetInfo.errorTestCount :=
            u8 ((forgetFailure port).portResetInfo.errorTestCount + 1) }
      if counted.portResetInfo.errorTestCount ≥ config.testNum ∧
          counted.portResetInfo.state ≠ .reboot then
        ((counted.raiseEvent autoRestart).setState .reboot, [.autoRestartRaised])
      else (counted, []) := by
  obtain ⟨active, failed⟩ := counts
  rw [← testFailed_forgetFailure] at failed
  simp only [testErrorHandler, active, failed, if_true]
  rfl

theorem testErrorHandler_rests {port : PortInfo} (rests : ¬CountsFailure port)
    (config : DaemonConfig) : testErrorHandler config port = (forgetFailure port, []) := by
  simp only [testErrorHandler]
  split
  · rfl
  · rename_i active
    rw [if_neg]
    rw [testFailed_forgetFailure]
    exact fun failed => rests ⟨by simpa using active, failed⟩

theorem errorTestCount_testErrorHandler (config : DaemonConfig) (port : PortInfo) :
    (testErrorHandler config port).1.portResetInfo.errorTestCount =
      if CountsFailure port then u8 ((forgetFailure port).portResetInfo.errorTestCount + 1)
      else (forgetFailure port).portResetInfo.errorTestCount := by
  by_cases counts : CountsFailure port
  · rw [testErrorHandler_counts counts, if_pos counts]
    dsimp only
    split <;> rfl
  · rw [testErrorHandler_rests counts, if_neg counts]

theorem errorTestCount_startAuto (clock : LocalClock) (now maxReset : Nat) (port : PortInfo) :
    (startAuto clock now maxReset port).1.portResetInfo.errorTestCount =
        port.portResetInfo.errorTestCount ∨
      (startAuto clock now maxReset port).1.portResetInfo.errorTestCount = 0 := by
  simp only [startAuto, autoResetHandler]
  split
  · split
    · left
      simp only [shutdownPort]
      rw [setErrorHandler_eq]
      rfl
    · right
      rfl
  · left
    rfl

theorem errorTestCount_startManual (clock : LocalClock) (now : Nat) (port : PortInfo) :
    (startManual clock now port).1.portResetInfo.errorTestCount =
        port.portResetInfo.errorTestCount ∨
      (startManual clock now port).1.portResetInfo.errorTestCount = 0 := by
  simp only [startManual]
  split
  · right
    rfl
  · left
    rfl

theorem errorTestCount_getPortParam (clock : LocalClock) (now : Nat) (uninit : ErrorCode)
    (options : PortSection) (portNum : PortNum) (isReboot : Bool) (port : PortInfo) :
    (getPortParam clock now uninit options portNum isReboot port).portResetInfo.errorTestCount =
      0 := by
  have alarm (port : PortInfo) :
      (setAlarm clock now options port).portResetInfo = port.portResetInfo := by
    unfold setAlarm
    split <;> rfl
  have test (port : PortInfo) :
      (setTest uninit options port).portResetInfo.errorTestCount =
        port.portResetInfo.errorTestCount := by
    unfold setTest
    split <;> rfl
  simp only [getPortParam]
  rw [setErrorHandler_eq]
  simp only [alarm, test]
  rfl

/-- `rebootHandler` keeps the counter or zeroes it. -/
theorem errorTestCount_rebootHandler (config : DaemonConfig) (clock : LocalClock)
    (input : TickInput) (port : PortInfo) :
    (rebootHandler config clock input port).1.portResetInfo.errorTestCount =
        port.portResetInfo.errorTestCount ∨
      (rebootHandler config clock input port).1.portResetInfo.errorTestCount = 0 := by
  simp only [rebootHandler]
  split
  · rcases errorTestCount_startManual clock input.now
      (startAuto clock input.now config.maxReset port).1 with kept | zero
    · rw [kept]
      apply errorTestCount_startAuto
    · exact Or.inr zero
  · left
    rfl
  · left
    simp only [checkDeadline, powerDown]
    repeat' split
    all_goals rfl
  · simp only [reloadAfterManual]
    split
    · right
      apply errorTestCount_getPortParam
    · left
      rfl

/-! ## The threshold -/

/-- A tick that counts a failure while the counter is still at the threshold. -/
def CountsOn (config : DaemonConfig) (state : Daemon) : Input → Prop
  | .tick _ =>
      state.port.portResetInfo.state = .regular ∧
        config.testNum ≤ state.port.portResetInfo.errorTestCount ∧
        state.port.hasError errOk = false ∧ CountsFailure state.port
  | _ => False

instance (config : DaemonConfig) (state : Daemon) : DecidablePred (CountsOn config state)
  | .tick _ => inferInstanceAs (Decidable (_ ∧ _))
  | .command | .readState _ _ | .testDisable | .testLink _ | .testPing _ | .testSpeed _ _ =>
      inferInstanceAs (Decidable False)

/-- The counter has not passed the threshold. -/
def WithinThreshold (config : DaemonConfig) (state : Daemon) : Prop :=
  state.port.portResetInfo.errorTestCount ≤ config.testNum

instance (config : DaemonConfig) : DecidablePred (WithinThreshold config) :=
  fun _ => inferInstanceAs (Decidable (_ ≤ _))

theorem u8_succ_of_le {count bound : Nat} (within : count ≤ bound) (small : bound ≤ 60) :
    u8 (count + 1) = count + 1 := by
  unfold u8
  omega

theorem errorTestCount_testErrorHandler_le_iff {config : DaemonConfig}
    (positive : 1 ≤ config.testNum) {port : PortInfo}
    (within : port.portResetInfo.errorTestCount ≤ config.testNum) :
    (testErrorHandler config port).1.portResetInfo.errorTestCount ≤ config.testNum ↔
      ¬(config.testNum ≤ port.portResetInfo.errorTestCount ∧ port.hasError errOk = false ∧
        CountsFailure port) := by
  have small := config.testNum_le
  rw [errorTestCount_testErrorHandler]
  cases ok : port.hasError errOk with
  | true =>
      have forgotten := errorTestCount_forgetFailure ok
      have less : (forgetFailure port).portResetInfo.errorTestCount ≤ config.testNum - 1 := by
        omega
      rw [u8_succ_of_le less (by omega)]
      simp only [Bool.true_eq_false, false_and, and_false, not_false_eq_true, iff_true]
      split <;> omega
  | false =>
      rw [forgetFailure_of_not_ok ok, u8_succ_of_le within small]
      by_cases counts : CountsFailure port
      · simp only [counts, if_true, and_true]
        omega
      · simp [counts, within]

theorem errorTestCount_portStep (env : Environment) (port : PortInfo) {input : Input}
    (notTick : ∀ tick, input ≠ .tick tick) :
    (portStep env port input).1.portResetInfo.errorTestCount =
      port.portResetInfo.errorTestCount :=
  congrArg (fun port => port.portResetInfo.errorTestCount) (tickPart_portStep env port notTick)

theorem withinThreshold_next_iff {env : Environment} (positive : 1 ≤ env.config.testNum)
    (state : Daemon) (input : Input) (within : WithinThreshold env.config state) :
    WithinThreshold env.config ((daemon env).next state input) ↔
      ¬CountsOn env.config state input := by
  unfold WithinThreshold at within ⊢
  rw [daemon_next_port]
  rcases input.tick_or_other with ⟨tick, rfl⟩ | notTick
  · simp only [portStep]
    rw [errorTestCount_eventsHandler]
    simp only [stateHandler, CountsOn]
    cases handled : state.port.portResetInfo.state with
    | idle =>
        simpa [errorTestCount_leaveIdle] using within
    | regular =>
        simpa using errorTestCount_testErrorHandler_le_iff positive within
    | reboot =>
        simp only [reduceCtorEq, false_and, not_false_eq_true, iff_true]
        rcases errorTestCount_rebootHandler env.config env.clock tick state.port with
          kept | zero
        · rw [kept]
          exact within
        · rw [zero]
          exact Nat.zero_le _
  · rw [errorTestCount_portStep env state.port notTick]
    cases input with
    | tick tick => exact absurd rfl (notTick tick)
    | _ => simpa [CountsOn] using within

theorem withinThreshold_boot (env : Environment) (index : Fin numPorts) (input : BootInput) :
    WithinThreshold env.config (boot env index input) := by
  unfold WithinThreshold
  have zero : (boot env index input).port.portResetInfo.errorTestCount = 0 :=
    errorTestCount_getPortParam _ _ _ _ _ _ _
  rw [zero]
  exact Nat.zero_le _

/-- Along every run of the daemon: the counter stays within the threshold exactly
if no tick counts on from it. -/
theorem failure_count_within_threshold_iff (env : Environment)
    (positive : 1 ≤ env.config.testNum) (index : Fin numPorts) (input : BootInput)
    (inputs : List Input) :
    (daemon env).AllStates (WithinThreshold env.config) (boot env index input) inputs ↔
      (daemon env).AllSteps (fun state input => ¬CountsOn env.config state input)
        (boot env index input) inputs := by
  have stays (state : Daemon) (input : Input) (always : True) : True := always
  apply Machine.allStates_iff_allSteps stays
  · intro state input _ within
    exact withinThreshold_next_iff positive state input within
  · trivial
  · exact withinThreshold_boot env index input

/-- A device without automatic resets: one failed test shuts the port down. -/
def strictEnvironment : Environment where
  config := getConfig "3" "1" "0"
  clock := utc

def strictBoot : Daemon :=
  boot strictEnvironment firstPort (sampleBoot "link" 1700000000)

/-- A test of the link, followed by a tick. -/
def linkRound (up : Bool) (now : Nat) : List Input :=
  [.readState true true, .testLink up, sampleTick now]

/-- A failed test and the shutdown that it causes. -/
def shutdownRun : List Input :=
  linkRound false 1700000000 ++ [sampleTick 1700000001]

theorem shutdown_within_threshold :
    1 ≤ strictEnvironment.config.testNum ∧
      (daemon strictEnvironment).AllStates (WithinThreshold strictEnvironment.config)
        strictBoot shutdownRun :=
  ⟨by decide,
    (failure_count_within_threshold_iff strictEnvironment (by decide) firstPort
      (sampleBoot "link" 1700000000) shutdownRun).mpr (by decide)⟩

/-- The port recovers from the shutdown and fails again. -/
def shutdownTwice : List Input :=
  shutdownRun ++ linkRound true 1700000002 ++ linkRound false 1700000003

theorem second_shutdown_counts_on :
    (daemon strictEnvironment).AllSteps InThreadOrder strictBoot shutdownTwice ∧
      ((daemon strictEnvironment).final strictBoot shutdownTwice).port.portResetInfo.errorTestCount =
        2 ∧
      ¬(daemon strictEnvironment).AllStates (WithinThreshold strictEnvironment.config)
        strictBoot shutdownTwice := by
  decide

end TfortisPack.Autorestart
