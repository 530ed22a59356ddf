import TfortisPack.Autorestart.FailureCount

/-!
# From failed tests to a reset

Whether a port is reset is decided in three places: `test_ErrorHandler` counts
failures and raises `AUTO_RESTART`, the next tick enters `rebootHandler`, and
`autoResetHandler` starts a power cycle or shuts the port down.  The counter is
compared with a reference that only sees which tests passed.
-/

namespace TfortisPack.Autorestart

open TfortisPack.Library

namespace Escalation

/-- What the tests have written before a tick, and what the tick reads. -/
structure Sample where
  errorCode : ErrorCode
  configInfo : PortConfigInfo
  stateInfo : PortStateInfo
  /-- `TEST_OK` has been raised. -/
  raisesTestOk : Bool
  input : TickInput

def Sample.write (sample : Sample) (port : PortInfo) : PortInfo :=
  { port with
    portConfigInfo := sample.configInfo
    portStateInfo := sample.stateInfo
    portResetInfo.errorCode := sample.errorCode
    portResetInfo.event :=
      if sample.raisesTestOk then BitFlags.raise port.portResetInfo.event testOk
      else port.portResetInfo.event }

/-- One `eventsHandler` tick after another. -/
def ticks (env : Environment) : Machine PortInfo Sample Action where
  step port sample := eventsHandler env.config env.clock sample.input (sample.write port)

/-- A test-error bit. -/
def testError (errorCode : ErrorCode) : Bool :=
  BitFlags.has errorCode errTestLink || BitFlags.has errorCode errTestSpeed
    || BitFlags.has errorCode errTestPing

/-- A bit that suspends the port. -/
def suspends (errorCode : ErrorCode) : Bool :=
  BitFlags.has errorCode errPortDisable || BitFlags.has errorCode errTestDisable
    || BitFlags.has errorCode errPortShutdown || BitFlags.has errorCode errPoeDown
    || BitFlags.has errorCode errPoeDisable

/-- A pure success or a pure failure of a port that is not suspended. -/
def Plain (errorCode : ErrorCode) : Prop :=
  suspends errorCode = false ∧
    (BitFlags.has errorCode errOk = true ∧ testError errorCode = false ∨
      BitFlags.has errorCode errOk = false ∧ testError errorCode = true)

instance : DecidablePred Plain :=
  fun _ => inferInstanceAs (Decidable (_ ∧ _))

/-- The reference counter: a success takes one away, a failure adds one. -/
def reference (count : Nat) (sample : Sample) : Nat :=
  if BitFlags.has sample.errorCode errOk then count - 1 else count + 1

def referenceAfter (count : Nat) (samples : List Sample) : Nat :=
  samples.foldl reference count

/-- The reference counter has not reached the threshold yet. -/
def StaysBelow (threshold : Nat) : Nat → List Sample → Prop
  | count, [] => count < threshold
  | count, sample :: rest =>
      count < threshold ∧ StaysBelow threshold (reference count sample) rest

instance decidableStaysBelow (threshold : Nat) :
    ∀ (count : Nat) (samples : List Sample), Decidable (StaysBelow threshold count samples)
  | count, [] => inferInstanceAs (Decidable (count < threshold))
  | count, sample :: rest =>
      haveI := decidableStaysBelow threshold (reference count sample) rest
      inferInstanceAs (Decidable (count < threshold ∧ _))

/-- The port is tested and no reset is under way or asked for. -/
structure Watched (config : DaemonConfig) (port : PortInfo) : Prop where
  regular : port.portResetInfo.state = .regular
  atRest : port.portRebootInfo.rebootState = .idle
  notAsked : port.hasEvent autoRestart = false ∧ port.hasEvent manualRestart = false
  below : port.portResetInfo.errorTestCount < config.testNum
  budget : port.portResetInfo.resetCount ≤ config.maxReset

/-- The port has asked for a reset. -/
structure Asked (port : PortInfo) : Prop where
  busy : port.portResetInfo.state = .reboot
  atRest : port.portRebootInfo.rebootState = .idle
  asked : port.hasEvent autoRestart = true
  notManual : port.hasEvent manualRestart = false

/-! ## What the test thread writes -/

/-- A call of the test thread; a read finds port and PoE enabled. -/
def TestStep : Input → Prop
  | .readState portEnabled poeEnabled => portEnabled = true ∧ poeEnabled = true
  | .command | .tick _ => False
  | _ => True

/-- A sample that writes what stands in `port` and raises `TEST_OK` or not. -/
def sampleOf (port : PortInfo) (raisesTestOk : Bool) (input : TickInput) : Sample where
  errorCode := port.portResetInfo.errorCode
  configInfo := port.portConfigInfo
  stateInfo := port.portStateInfo
  raisesTestOk := raisesTestOk
  input := input

theorem exists_write_of_testStep (env : Environment) (port : PortInfo) {call : Input}
    (isTest : TestStep call) (input : TickInput) :
    ∃ raises, (portStep env port call).1 =
      (sampleOf (portStep env port call).1 raises input).write port := by
  cases call with
  | command =>
      exact isTest.elim
  | readState portEnabled poeEnabled =>
      obtain ⟨rfl, rfl⟩ := isTest
      exact ⟨false, rfl⟩
  | testDisable =>
      exact ⟨false, rfl⟩
  | testLink up =>
      simp only [portStep, portRunTestLink]
      split
      · split
        · exact ⟨true, rfl⟩
        · exact ⟨false, rfl⟩
      · exact ⟨false, rfl⟩
  | testPing reply =>
      simp only [portStep, portRunTestPing]
      split
      · exact ⟨false, rfl⟩
      · split
        · exact ⟨true, rfl⟩
        · exact ⟨false, rfl⟩
  | testSpeed rxBytes now =>
      simp only [portStep, portRunTestSpeed, readRxBytes]
      repeat' split
      all_goals first
        | exact ⟨false, rfl⟩
        | exact ⟨true, rfl⟩
  | tick tick =>
      exact isTest.elim

theorem write_sampleOf_write (port written : PortInfo) (first second : Bool)
    (input : TickInput) {middle : PortInfo}
    (isWrite : middle = (sampleOf middle first input).write port) :
    (sampleOf written second input).write middle =
      (sampleOf written (first || second) input).write port := by
  rw [isWrite]
  cases first with
  | false => rfl
  | true =>
      cases second with
      | false => rfl
      | true => simp [Sample.write, sampleOf, BitFlags.raise, BitVec.or_assoc]

/-- The calls of the test thread between two ticks write what one sample does. -/
theorem exists_write_of_tests (env : Environment) (state : Daemon) {calls : List Input}
    (tests : ∀ call ∈ calls, TestStep call) (input : TickInput) :
    ∃ raises, ((daemon env).final state calls).port =
      (sampleOf ((daemon env).final state calls).port raises input).write state.port := by
  induction calls generalizing state with
  | nil =>
      exact ⟨false, rfl⟩
  | cons call rest inductionHypothesis =>
      rw [List.forall_mem_cons] at tests
      obtain ⟨first, written⟩ := exists_write_of_testStep env state.port tests.1 input
      obtain ⟨second, later⟩ := inductionHypothesis ((daemon env).next state call) tests.2
      rw [daemon_next_port, write_sampleOf_write _ _ _ _ _ written] at later
      exact ⟨first || second, later⟩

/-- A tick of the daemon, with the tests before it, is a tick of this machine. -/
theorem exists_sample_of_tick (env : Environment) (state : Daemon) {calls : List Input}
    (tests : ∀ call ∈ calls, TestStep call) (input : TickInput) :
    ∃ sample : Sample,
      sample.errorCode = ((daemon env).final state calls).port.portResetInfo.errorCode ∧
        (ticks env).step state.port sample =
          portStep env ((daemon env).final state calls).port (.tick input) := by
  obtain ⟨raises, written⟩ := exists_write_of_tests env state tests input
  refine ⟨sampleOf ((daemon env).final state calls).port raises input, rfl, ?_⟩
  simp only [ticks, portStep]
  rw [← written]
  rfl

/-! ## The tests write nothing of the control part -/

theorem hasEvent_write {flag : ArEvent} (sample : Sample) (port : PortInfo)
    (apart : BitFlags.has testOk flag = false) :
    (sample.write port).hasEvent flag = port.hasEvent flag := by
  simp only [Sample.write, PortInfo.hasEvent]
  split
  · simp [apart]
  · rfl

theorem Watched.write {config : DaemonConfig} {port : PortInfo} (watched : Watched config port)
    (sample : Sample) : Watched config (sample.write port) where
  regular := watched.regular
  atRest := watched.atRest
  notAsked :=
    ⟨(hasEvent_write sample port (by decide)).trans watched.notAsked.1,
      (hasEvent_write sample port (by decide)).trans watched.notAsked.2⟩
  below := watched.below
  budget := watched.budget

theorem Asked.write {port : PortInfo} (asked : Asked port) (sample : Sample) :
    Asked (sample.write port) where
  busy := asked.busy
  atRest := asked.atRest
  asked := (hasEvent_write sample port (by decide)).trans asked.asked
  notManual := (hasEvent_write sample port (by decide)).trans asked.notManual

/-! ## The alarm changes nothing of it either -/

theorem Watched.of_control {config : DaemonConfig} {before after : PortInfo}
    (watched : Watched config before) (control : after.control = before.control)
    (count : after.portResetInfo.errorTestCount = before.portResetInfo.errorTestCount) :
    Watched config after where
  regular := (congrArg Control.state control).trans watched.regular
  atRest := (congrArg (fun c => c.rebootInfo.rebootState) control).trans watched.atRest
  notAsked :=
    ⟨(congrArg Control.auto control).trans watched.notAsked.1,
      (congrArg Control.manual control).trans watched.notAsked.2⟩
  below := by
    rw [count]
    exact watched.below
  budget := (congrArg Control.resetCount control).trans_le watched.budget

theorem Asked.of_control {before after : PortInfo} (asked : Asked before)
    (control : after.control = before.control) : Asked after where
  busy := (congrArg Control.state control).trans asked.busy
  atRest := (congrArg (fun c => c.rebootInfo.rebootState) control).trans asked.atRest
  asked := (congrArg Control.auto control).trans asked.asked
  notManual := (congrArg Control.manual control).trans asked.notManual

theorem mem_eventsHandler_iff {action : Action} (visible : action.cycle.isSome = true)
    (config : DaemonConfig) (clock : LocalClock) (input : TickInput) (port : PortInfo) :
    action ∈ (eventsHandler config clock input port).2 ↔
      action ∈ (stateHandler config clock input port).2 := by
  simp only [eventsHandler]
  split
  · rw [List.mem_append]
    apply or_iff_left
    intro alarm
    obtain ⟨view, isView⟩ := Option.isSome_iff_exists.mp visible
    have member := List.mem_filterMap.mpr ⟨action, alarm, isView⟩
    rw [filterMap_cycle_alarmHandler] at member
    cases member
  · rfl

/-! ## One tick of a watched port -/

variable {env : Environment} {port : PortInfo} {sample : Sample}

theorem stateHandler_passed (config : DaemonConfig) (clock : LocalClock) (input : TickInput)
    (regular : port.portResetInfo.state = .regular) (passed : testFailed port = false) :
    stateHandler config clock input port = (forgetFailure port, []) := by
  simp only [stateHandler, regular]
  apply testErrorHandler_rests
  intro counts
  rw [counts.2] at passed
  cases passed

theorem stateHandler_failed (config : DaemonConfig) (clock : LocalClock) (input : TickInput)
    (watched : Watched config port) (notOk : port.hasError errOk = false)
    (active : testSuspended port = false) (failed : testFailed port = true) :
    stateHandler config clock input port =
      let counted :=
        { port with
          portResetInfo.errorTestCount := port.portResetInfo.errorTestCount + 1 }
      if port.portResetInfo.errorTestCount + 1 = config.testNum then
        ((counted.raiseEvent autoRestart).setState .reboot, [.autoRestartRaised])
      else (counted, []) := by
  have kept := forgetFailure_of_not_ok notOk
  have counts : CountsFailure port := ⟨by rw [kept]; exact active, failed⟩
  have below := watched.below
  have small := u8_succ_of_le (Nat.le_of_lt below) config.testNum_le
  have free : port.portResetInfo.state ≠ .reboot := by
    rw [watched.regular]
    exact ArState.noConfusion
  have handler : stateHandler config clock input port = testErrorHandler config port := by
    simp only [stateHandler, watched.regular]
  rw [handler, testErrorHandler_counts counts, kept]
  simp only [small]
  by_cases reached : port.portResetInfo.errorTestCount + 1 = config.testNum
  · rw [if_pos reached, if_pos ⟨Nat.le_of_eq reached.symm, free⟩]
  · rw [if_neg reached, if_neg]
    intro both
    exact reached (Nat.le_antisymm below both.1)

theorem Watched.passed (watched : Watched env.config port) (ok : port.hasError errOk = true)
    (passed : testFailed port = false) (input : TickInput) :
    Watched env.config (eventsHandler env.config env.clock input port).1 ∧
      (eventsHandler env.config env.clock input port).1.portResetInfo.errorTestCount =
        port.portResetInfo.errorTestCount - 1 ∧
      .autoRestartRaised ∉ (eventsHandler env.config env.clock input port).2 := by
  have control := control_eventsHandler env.config env.clock input port
  have count := errorTestCount_eventsHandler env.config env.clock input port
  rw [stateHandler_passed env.config env.clock input watched.regular passed] at control count
  rw [errorTestCount_forgetFailure ok] at count
  obtain ⟨resets, forgets, forgotten⟩ := control_forgetFailure port
  rw [forgotten] at control
  refine ⟨?_, count, ?_⟩
  · refine ⟨?_, ?_, ?_, ?_, ?_⟩
    · exact (congrArg Control.state control).trans watched.regular
    · exact (congrArg (fun c => c.rebootInfo.rebootState) control).trans watched.atRest
    · exact ⟨(congrArg Control.auto control).trans watched.notAsked.1,
        (congrArg Control.manual control).trans watched.notAsked.2⟩
    · rw [count]
      exact Nat.lt_of_le_of_lt (Nat.sub_le _ _) watched.below
    · have budget := watched.budget
      have same : (eventsHandler env.config env.clock input port).1.portResetInfo.resetCount =
          resets := congrArg Control.resetCount control
      rw [same]
      omega
  · rw [mem_eventsHandler_iff rfl,
      stateHandler_passed env.config env.clock input watched.regular passed]
    exact List.not_mem_nil

theorem Watched.failed (watched : Watched env.config port)
    (notOk : port.hasError errOk = false) (active : testSuspended port = false)
    (failed : testFailed port = true) (input : TickInput)
    (below : port.portResetInfo.errorTestCount + 1 < env.config.testNum) :
    Watched env.config (eventsHandler env.config env.clock input port).1 ∧
      (eventsHandler env.config env.clock input port).1.portResetInfo.errorTestCount =
        port.portResetInfo.errorTestCount + 1 ∧
      .autoRestartRaised ∉ (eventsHandler env.config env.clock input port).2 := by
  have handled := stateHandler_failed env.config env.clock input watched notOk active failed
  rw [if_neg (Nat.ne_of_lt below)] at handled
  have control := control_eventsHandler env.config env.clock input port
  have count := errorTestCount_eventsHandler env.config env.clock input port
  rw [handled] at control count
  refine ⟨Watched.of_control ⟨?_, ?_, ?_, below, ?_⟩ control count, count, ?_⟩
  · exact watched.regular
  · exact watched.atRest
  · exact watched.notAsked
  · exact watched.budget
  · rw [mem_eventsHandler_iff rfl, handled]
    exact List.not_mem_nil

theorem Watched.reaches (watched : Watched env.config port)
    (notOk : port.hasError errOk = false) (active : testSuspended port = false)
    (failed : testFailed port = true) (input : TickInput)
    (reached : port.portResetInfo.errorTestCount + 1 = env.config.testNum) :
    Asked (eventsHandler env.config env.clock input port).1 ∧
      .autoRestartRaised ∈ (eventsHandler env.config env.clock input port).2 := by
  have handled := stateHandler_failed env.config env.clock input watched notOk active failed
  rw [if_pos reached] at handled
  have control := control_eventsHandler env.config env.clock input port
  rw [handled] at control
  refine ⟨Asked.of_control ⟨?_, ?_, ?_, ?_⟩ control, ?_⟩
  · rfl
  · exact watched.atRest
  · simp +decide
  · have notManual := watched.notAsked.2
    simpa +decide using notManual
  · rw [mem_eventsHandler_iff rfl, handled]
    exact List.mem_singleton.mpr rfl

/-- A tick that leaves the reference counter below the threshold. -/
theorem Watched.tick_below (watched : Watched env.config port) (plain : Plain sample.errorCode)
    (below : reference port.portResetInfo.errorTestCount sample < env.config.testNum) :
    Watched env.config ((ticks env).next port sample) ∧
      ((ticks env).next port sample).portResetInfo.errorTestCount =
        reference port.portResetInfo.errorTestCount sample ∧
      .autoRestartRaised ∉ (ticks env).emit port sample := by
  obtain ⟨active, ⟨ok, passed⟩ | ⟨notOk, failed⟩⟩ := plain
  · rw [reference, if_pos ok]
    exact (watched.write sample).passed ok passed sample.input
  · have absent : ¬BitFlags.has sample.errorCode errOk = true := by
      rw [notOk]
      exact Bool.false_ne_true
    rw [reference, if_neg absent] at below ⊢
    exact (watched.write sample).failed notOk active failed sample.input below

/-- A tick that brings the reference counter to the threshold. -/
theorem Watched.tick_reaches (watched : Watched env.config port)
    (plain : Plain sample.errorCode)
    (reached : env.config.testNum ≤ reference port.portResetInfo.errorTestCount sample) :
    Asked ((ticks env).next port sample) ∧
      .autoRestartRaised ∈ (ticks env).emit port sample ∧
      reference port.portResetInfo.errorTestCount sample = env.config.testNum := by
  have below := watched.below
  obtain ⟨active, ⟨ok, passed⟩ | ⟨notOk, failed⟩⟩ := plain
  · rw [reference, if_pos ok] at reached
    omega
  · have absent : ¬BitFlags.has sample.errorCode errOk = true := by
      rw [notOk]
      exact Bool.false_ne_true
    rw [reference, if_neg absent] at reached ⊢
    have exactly : port.portResetInfo.errorTestCount + 1 = env.config.testNum := by omega
    have asked := (watched.write sample).reaches notOk active failed sample.input exactly
    exact ⟨asked.1, asked.2, exactly⟩

theorem Watched.raised_iff (watched : Watched env.config port) (plain : Plain sample.errorCode) :
    .autoRestartRaised ∈ (ticks env).emit port sample ↔
      reference port.portResetInfo.errorTestCount sample = env.config.testNum := by
  by_cases below : reference port.portResetInfo.errorTestCount sample < env.config.testNum
  · obtain ⟨-, -, silent⟩ := watched.tick_below plain below
    exact iff_of_false silent (Nat.ne_of_lt below)
  · obtain ⟨-, raised, exactly⟩ := watched.tick_reaches plain (Nat.le_of_not_lt below)
    exact iff_of_true raised exactly

/-! ## The tick after the request -/

theorem autoResetHandler_spent (clock : LocalClock) (now maxReset : Nat) (port : PortInfo)
    (spent : ¬port.portResetInfo.resetCount < maxReset) :
    (autoResetHandler clock now maxReset port).1.portResetInfo.state = .idle ∧
      (autoResetHandler clock now maxReset port).1.hasError errPortShutdown = true := by
  simp only [autoResetHandler]
  split
  · simp only [shutdownPort]
    rw [setErrorHandler_eq]
    simp +decide
  · rename_i left
    exact absurd (Nat.lt_of_not_le left) spent

theorem autoResetHandler_left (clock : LocalClock) (now maxReset : Nat) (port : PortInfo)
    (left : port.portResetInfo.resetCount < maxReset) :
    (autoResetHandler clock now maxReset port).1.portResetInfo.state =
        port.portResetInfo.state ∧
      (autoResetHandler clock now maxReset port).1.portRebootInfo.rebootState = .init ∧
      .resetStarted .auto ∈ (autoResetHandler clock now maxReset port).2 := by
  simp only [autoResetHandler]
  split
  · rename_i spent
    exact absurd left (Nat.not_lt.mpr spent)
  · exact ⟨rfl, rfl, List.mem_singleton.mpr rfl⟩

theorem Asked.stateHandler_eq (asked : Asked port) (input : TickInput) :
    stateHandler env.config env.clock input port =
      autoResetHandler env.clock input.now env.config.maxReset (port.clearEvent autoRestart) := by
  have auto : startAuto env.clock input.now env.config.maxReset port =
      autoResetHandler env.clock input.now env.config.maxReset (port.clearEvent autoRestart) :=
    if_pos asked.asked
  have kept := (autoStart_startAuto env.clock input.now env.config.maxReset port).manual_eq
  have manual : startManual env.clock input.now
      (startAuto env.clock input.now env.config.maxReset port).1 =
        ((startAuto env.clock input.now env.config.maxReset port).1, []) := by
    apply if_neg
    intro both
    exact Bool.false_ne_true ((kept.trans asked.notManual).symm.trans both.1)
  simp only [stateHandler, asked.busy, rebootHandler, asked.atRest, manual, List.append_nil]
  exact auto

theorem Asked.powerCycle (asked : Asked port) (input : TickInput)
    (left : port.portResetInfo.resetCount < env.config.maxReset) :
    .resetStarted .auto ∈ (eventsHandler env.config env.clock input port).2 ∧
      (eventsHandler env.config env.clock input port).1.portResetInfo.state = .reboot ∧
      (eventsHandler env.config env.clock input port).1.portRebootInfo.rebootState = .init := by
  have control := control_eventsHandler env.config env.clock input port
  rw [asked.stateHandler_eq] at control
  obtain ⟨state, init, started⟩ := autoResetHandler_left env.clock input.now
    env.config.maxReset (port.clearEvent autoRestart) left
  refine ⟨?_, ?_, ?_⟩
  · rw [mem_eventsHandler_iff rfl, asked.stateHandler_eq]
    exact started
  · exact (congrArg Control.state control).trans (state.trans asked.busy)
  · exact (congrArg (fun c => c.rebootInfo.rebootState) control).trans init

theorem Asked.shutdown (asked : Asked port) (input : TickInput)
    (spent : ¬port.portResetInfo.resetCount < env.config.maxReset) :
    (eventsHandler env.config env.clock input port).1.portResetInfo.state = .idle ∧
      (eventsHandler env.config env.clock input port).1.hasError errPortShutdown = true := by
  have control := control_eventsHandler env.config env.clock input port
  rw [asked.stateHandler_eq] at control
  obtain ⟨idle, shut⟩ := autoResetHandler_spent env.clock input.now
    env.config.maxReset (port.clearEvent autoRestart) spent
  refine ⟨(congrArg Control.state control).trans idle, ?_⟩
  rw [hasError_eventsHandler_eq env.config env.clock input port (by decide),
    asked.stateHandler_eq]
  exact shut

/-! ## Sequences of ticks -/

/-- No transition spends more resets than there are. -/
theorem resetCount_le_of_controlStep {maxReset : Nat} {before after : Control} {input : Input}
    {actions : List CycleAction} (step : ControlStep maxReset before input after actions)
    (small : maxReset ≤ 60) (budget : before.resetCount ≤ maxReset) :
    after.resetCount ≤ maxReset := by
  cases step with
  | watched count regular forgets =>
      rcases forgets with same | zero
      · exact same.trans_le budget
      · exact zero.trans_le (Nat.zero_le _)
  | raised count regular forgets =>
      rcases forgets with same | zero
      · exact same.trans_le budget
      · exact zero.trans_le (Nat.zero_le _)
  | served busy between auto manual =>
      cases manual with
      | absent quiet =>
          cases auto with
          | absent quiet => exact budget
          | exhausted test requested spent checked => exact budget
          | started requested left =>
              change u8 (before.resetCount + 1) ≤ maxReset
              unfold u8
              omega
      | started requested powered => exact Nat.zero_le _
  | reloaded test busy up requested =>
      exact Nat.zero_le _
  | _ =>
      exact budget

theorem resetCount_next_le (env : Environment) (port : PortInfo) (sample : Sample)
    (budget : port.portResetInfo.resetCount ≤ env.config.maxReset) :
    ((ticks env).next port sample).portResetInfo.resetCount ≤ env.config.maxReset := by
  have step := controlStep_stateHandler env.config env.clock sample.input (sample.write port)
  have kept := resetCount_le_of_controlStep step env.config.maxReset_le budget
  have control := control_eventsHandler env.config env.clock sample.input (sample.write port)
  exact (congrArg Control.resetCount control).trans_le kept

theorem referenceAfter_concat (count : Nat) (samples : List Sample) (sample : Sample) :
    referenceAfter count (samples ++ [sample]) = reference (referenceAfter count samples) sample :=
  List.foldl_concat reference count sample samples

/-- Below the threshold the port stays watched and its counter is the reference
counter. -/
theorem Watched.final (watched : Watched env.config port) {samples : List Sample}
    (plain : ∀ sample ∈ samples, Plain sample.errorCode)
    (below : StaysBelow env.config.testNum port.portResetInfo.errorTestCount samples) :
    Watched env.config ((ticks env).final port samples) ∧
      ((ticks env).final port samples).portResetInfo.errorTestCount =
        referenceAfter port.portResetInfo.errorTestCount samples := by
  induction samples generalizing port with
  | nil =>
      exact ⟨watched, rfl⟩
  | cons sample rest inductionHypothesis =>
      rw [List.forall_mem_cons] at plain
      have first : reference port.portResetInfo.errorTestCount sample < env.config.testNum := by
        cases rest with
        | nil => exact below.2
        | cons _ _ => exact below.2.1
      obtain ⟨still, counted, -⟩ := watched.tick_below plain.1 first
      have later := inductionHypothesis still plain.2 (by rw [counted]; exact below.2)
      rw [counted] at later
      exact later

/-- What the tick after a request has to do: start a power cycle while a reset is
left, and shut the port down otherwise. -/
def Escalates (env : Environment) (port : PortInfo) (sample : Sample) : Prop :=
  (port.portResetInfo.resetCount < env.config.maxReset →
    .resetStarted .auto ∈ (ticks env).emit port sample ∧
      ((ticks env).next port sample).portResetInfo.state = .reboot ∧
      ((ticks env).next port sample).portRebootInfo.rebootState = .init) ∧
  (¬port.portResetInfo.resetCount < env.config.maxReset →
    ((ticks env).next port sample).portResetInfo.state = .idle ∧
      ((ticks env).next port sample).hasError errPortShutdown = true)

theorem Asked.escalates (asked : Asked port) (sample : Sample) : Escalates env port sample :=
  ⟨fun left => (asked.write sample).powerCycle sample.input left,
    fun spent => (asked.write sample).shutdown sample.input spent⟩

/-- The request is raised at the first tick that brings the reference counter to
`TEST_NUM` and at none before it, the tick after it starts a power cycle or shuts
the port down, and the resets stay within their budget. -/
theorem failures_escalate (env : Environment) (port : PortInfo)
    (watched : Watched env.config port) (samples : List Sample)
    (plain : ∀ sample ∈ samples, Plain sample.errorCode) :
    (∀ before sample after, samples = before ++ sample :: after →
      StaysBelow env.config.testNum port.portResetInfo.errorTestCount before →
        (.autoRestartRaised ∈ (ticks env).emit ((ticks env).final port before) sample ↔
          referenceAfter port.portResetInfo.errorTestCount (before ++ [sample]) =
            env.config.testNum)) ∧
    (∀ before sample next after, samples = before ++ sample :: next :: after →
      StaysBelow env.config.testNum port.portResetInfo.errorTestCount before →
        referenceAfter port.portResetInfo.errorTestCount (before ++ [sample]) =
            env.config.testNum →
          Escalates env ((ticks env).final port (before ++ [sample])) next) ∧
    ∀ before after, samples = before ++ after →
      ((ticks env).final port before).portResetInfo.resetCount ≤ env.config.maxReset := by
  refine ⟨?_, ?_, ?_⟩
  · rintro before sample after rfl below
    rw [List.forall_mem_append, List.forall_mem_cons] at plain
    obtain ⟨still, counted⟩ := watched.final plain.1 below
    rw [referenceAfter_concat, ← counted]
    exact still.raised_iff plain.2.1
  · rintro before sample next after rfl below reached
    rw [List.forall_mem_append, List.forall_mem_cons] at plain
    obtain ⟨still, counted⟩ := watched.final plain.1 below
    rw [referenceAfter_concat, ← counted] at reached
    rw [Machine.final_append]
    apply Asked.escalates
    exact (still.tick_reaches plain.2.1 (Nat.le_of_eq reached.symm)).1
  · rintro before after rfl
    exact Machine.final_of_invariant (resetCount_next_le env) watched.budget before

/-- The default device, but a reset is asked for after two failures. -/
def patientEnvironment : Environment where
  config := getConfig "3" "2" "3"
  clock := utc

def linkPort : PortInfo :=
  (boot patientEnvironment firstPort (sampleBoot "link" 1700000000)).port

/-- A tick that finds the link down. -/
def linkDown (now : Nat) : Sample where
  errorCode := errTestLink
  configInfo := linkPort.portConfigInfo
  stateInfo := { portState := .enable, poeState := .enable }
  raisesTestOk := false
  input := { now := now, options := (sampleBoot "link" now).options, uninit := 0 }

theorem second_failure_escalates :
    Watched patientEnvironment.config linkPort ∧
      .autoRestartRaised ∈ (ticks patientEnvironment).emit
        ((ticks patientEnvironment).final linkPort [linkDown 1700000000])
        (linkDown 1700000003) := by
  have watched : Watched patientEnvironment.config linkPort := by
    constructor <;> decide
  have plain : ∀ sample ∈ [linkDown 1700000000, linkDown 1700000003],
      Plain sample.errorCode := by
    simp +decide
  refine ⟨watched, ?_⟩
  have raised := (failures_escalate patientEnvironment linkPort watched _ plain).1
    [linkDown 1700000000] (linkDown 1700000003) [] rfl
  exact (raised (by decide)).mpr (by decide)

end Escalation

end TfortisPack.Autorestart
