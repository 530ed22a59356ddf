import TfortisPack.Autorestart.CycleShape

/-!
# The bits of a disabled port

`get_PortAndPoeState` raises `ERR_PORT_DISABLE` and `ERR_PoE_DISABLE` and never
takes them back.  They disappear only where the whole error word is written
anew: by a successful ping, and by the reload that follows a manual reset.  A
port with a link or speed test keeps them when it is enabled again.
-/

namespace TfortisPack.Autorestart

open TfortisPack.Library

namespace DisableBits

/-- Neither bit is set. -/
def Free (state : Daemon) : Prop :=
  state.port.hasError errPortDisable = false ∧ state.port.hasError errPoeDisable = false

instance : DecidablePred Free :=
  fun _ => inferInstanceAs (Decidable (_ ∧ _))

/-- A step that writes the error word anew. -/
def Rewrites (state : Daemon) : Input → Prop
  | .testPing reply => PingSucceeds state (.testPing reply)
  | .tick _ =>
      state.port.portResetInfo.state = .reboot ∧
        state.port.portRebootInfo.rebootState = .poeUp ∧
        state.port.hasEvent manualRestart = true
  | _ => False

instance (state : Daemon) : DecidablePred (Rewrites state)
  | .testPing _ => inferInstanceAs (Decidable (PingSucceeds _ _))
  | .tick _ => inferInstanceAs (Decidable (_ ∧ _))
  | .command | .readState _ _ | .testDisable | .testLink _ | .testSpeed _ _ =>
      inferInstanceAs (Decidable False)

/-! ## Both bits as one mask -/

def bits : ErrorCode := BitFlags.raise errPortDisable errPoeDisable

theorem free_iff (state : Daemon) : Free state ↔ state.port.hasError bits = false := by
  unfold Free
  simp only [PortInfo.hasError, ← Bool.not_eq_true, BitFlags.has_eq_true_iff, bits,
    BitFlags.raise, BitVec.getLsbD_or, Bool.or_eq_true]
  constructor
  · rintro ⟨noPort, noPoe⟩ ⟨bit, inWord, inPort | inPoe⟩
    · exact noPort ⟨bit, inWord, inPort⟩
    · exact noPoe ⟨bit, inWord, inPoe⟩
  · intro neither
    constructor
    · rintro ⟨bit, inWord, inPort⟩
      exact neither ⟨bit, inWord, Or.inl inPort⟩
    · rintro ⟨bit, inWord, inPoe⟩
      exact neither ⟨bit, inWord, Or.inr inPoe⟩

/-! ## Steps -/

theorem bits_cmdRebootHandler (port : PortInfo) :
    (cmdRebootHandler port).1.hasError bits = port.hasError bits := by
  simp only [cmdRebootHandler]
  repeat' split
  all_goals rfl

theorem bits_portRunTestLink (port : PortInfo) (up : Bool) :
    (portRunTestLink port up).hasError bits = port.hasError bits := by
  simp only [portRunTestLink]
  split
  · split <;> simp +decide
  · simp +decide

theorem bits_of_pingSucceeds {state : Daemon} {reply : Option Nat}
    (succeeds : PingSucceeds state (.testPing reply)) :
    (portRunTestPing state.port reply).hasError bits = false := by
  cases reply with
  | none =>
      exact succeeds.elim
  | some time =>
      have linkUp : ¬state.port.hasError errTestLink = true := by
        rw [succeeds]
        exact Bool.false_ne_true
      simp only [portRunTestPing, if_neg linkUp]
      split <;> simp +decide

theorem bits_portRunTestSpeed (port : PortInfo) (rxBytes now : Nat) :
    (portRunTestSpeed port rxBytes now).hasError bits = port.hasError bits := by
  simp only [portRunTestSpeed, readRxBytes]
  split <;> split <;> (try split) <;> (try split) <;> simp +decide

theorem bits_startAuto (clock : LocalClock) (now maxReset : Nat) (port : PortInfo) :
    (startAuto clock now maxReset port).1.hasError bits = port.hasError bits := by
  simp only [startAuto, autoResetHandler]
  split
  · split
    · simp only [shutdownPort]
      rw [setErrorHandler_eq]
      simp +decide
    · simp +decide [autoRebootPort]
  · rfl

theorem bits_startManual (clock : LocalClock) (now : Nat) (port : PortInfo) :
    (startManual clock now port).1.hasError bits = port.hasError bits := by
  simp only [startManual, manualResetHandler]
  split
  · simp +decide
  · rfl

theorem bits_powerUp (now : Nat) (port : PortInfo) :
    (powerUp now port).1.hasError bits = port.hasError bits := by
  simp +decide [powerUp]

/-- A reload does not find the port disabled. -/
theorem bits_getPortParam (clock : LocalClock) (now : Nat) (uninit : ErrorCode)
    (options : PortSection) (portNum : PortNum) (isReboot : Bool) (port : PortInfo) :
    (getPortParam clock now uninit options portNum isReboot port).hasError bits = false := by
  have clean : ∀ errorCode ∈ reloadErrors, BitFlags.has errorCode bits = false := by
    intro errorCode member
    simp only [reloadErrors, List.mem_cons, List.not_mem_nil, or_false] at member
    rcases member with rfl | rfl | rfl | rfl | rfl | rfl <;> decide
  apply clean
  apply errorCode_getPortParam

theorem bits_rebootHandler (config : DaemonConfig) (clock : LocalClock) (input : TickInput)
    (port : PortInfo) :
    (rebootHandler config clock input port).1.hasError bits =
      if port.portRebootInfo.rebootState = .poeUp ∧ port.hasEvent manualRestart = true then false
      else port.hasError bits := by
  cases rebootState : port.portRebootInfo.rebootState with
  | idle =>
      simp only [rebootHandler, rebootState, reduceCtorEq, false_and, if_false]
      rw [bits_startManual, bits_startAuto]
  | init =>
      simp only [rebootHandler, rebootState, reduceCtorEq, false_and, if_false]
      rfl
  | poeDown =>
      simp only [rebootHandler, rebootState, reduceCtorEq, false_and, if_false]
      rw [hasError_checkDeadline, hasError_powerDown]
  | poeUp =>
      simp only [rebootHandler, rebootState, reloadAfterManual, true_and]
      have kept : (powerUp input.now port).1.hasEvent manualRestart =
          port.hasEvent manualRestart := rfl
      rw [kept]
      split
      · apply bits_getPortParam
      · exact bits_powerUp input.now port

theorem bits_eventsHandler (config : DaemonConfig) (clock : LocalClock) (input : TickInput)
    (port : PortInfo) :
    (eventsHandler config clock input port).1.hasError bits =
      if port.portResetInfo.state = .reboot ∧ port.portRebootInfo.rebootState = .poeUp ∧
          port.hasEvent manualRestart = true then false
      else port.hasError bits := by
  by_cases busy : port.portResetInfo.state = .reboot
  · rw [hasError_eventsHandler_eq config clock input port (by decide)]
    simp only [stateHandler, busy, true_and]
    apply bits_rebootHandler
  · rw [hasError_eventsHandler config clock input port busy (by decide) (by decide),
      if_neg fun reload => busy reload.1]

/-- With enabled reads, a step keeps the bits cleared, and clears them exactly if
it writes the error word anew. -/
theorem free_next_iff {env : Environment} (state : Daemon) (input : Input)
    (enabled : CycleShape.ReadsEnabled input) :
    Free ((daemon env).next state input) ↔ Free state ∨ Rewrites state input := by
  rw [free_iff, free_iff, daemon_next_port]
  cases input with
  | command =>
      simp only [portStep, Rewrites, or_false]
      rw [bits_cmdRebootHandler]
  | readState portEnabled poeEnabled =>
      obtain ⟨rfl, rfl⟩ := enabled
      simp [portStep, getPortAndPoeState, parkUnless, Rewrites]
  | testDisable =>
      simp +decide [portStep, portRunTestDisable, Rewrites]
  | testLink up =>
      simp only [portStep, Rewrites, or_false]
      rw [bits_portRunTestLink]
  | testPing reply =>
      simp only [portStep, Rewrites]
      by_cases succeeds : PingSucceeds state (.testPing reply)
      · exact iff_of_true (bits_of_pingSucceeds succeeds) (Or.inr succeeds)
      · simp only [portRunTestPing, pingResult_of_failed succeeds, succeeds, or_false]
        simp +decide
  | testSpeed rxBytes now =>
      simp only [portStep, Rewrites, or_false]
      rw [bits_portRunTestSpeed]
  | tick tick =>
      simp only [portStep, Rewrites]
      rw [bits_eventsHandler]
      split
      · rename_i reload
        exact iff_of_true rfl (Or.inr reload)
      · rename_i keeps
        exact (or_iff_left keeps).symm

/-! ## Cycles -/

/-- A complete test cycle that finds port and PoE enabled: one read and then the
calls of the port's test, with ticks and commands anywhere between them. -/
structure EnabledCycle (env : Environment) (state : Daemon) (inputs : List Input) : Prop where
  readsFirst : ∃ rest, inputs = .readState true true :: rest ∧
    ∀ portEnabled poeEnabled, .readState portEnabled poeEnabled ∉ rest
  ordered : (daemon env).AllSteps InThreadOrder state inputs
  complete : ((daemon env).final state inputs).pending = []

theorem EnabledCycle.enabled {env : Environment} {state : Daemon} {inputs : List Input}
    (cycle : EnabledCycle env state inputs) :
    ∀ input ∈ inputs, CycleShape.ReadsEnabled input := by
  obtain ⟨rest, rfl, noRead⟩ := cycle.readsFirst
  rw [List.forall_mem_cons]
  refine ⟨⟨rfl, rfl⟩, fun input member => ?_⟩
  cases input with
  | readState portEnabled poeEnabled => exact absurd member (noRead _ _)
  | _ => trivial

/-- For every port, whatever its test: a complete cycle that finds the port and
its PoE enabled ends without the bits exactly if they were not set before or a
step of the cycle writes the error word anew. -/
theorem reenabled_port_recovers_iff (env : Environment) (state : Daemon) (inputs : List Input)
    (cycle : EnabledCycle env state inputs) :
    Free ((daemon env).final state inputs) ↔
      Free state ∨
        ¬(daemon env).AllSteps (fun state input => ¬Rewrites state input) state inputs := by
  apply Machine.latched_iff free_next_iff
  exact Machine.allSteps_of_forall cycle.enabled state

/-- A port that has been found disabled. -/
def foundDisabled (test : String) : Daemon :=
  (daemon sampleEnvironment).final
    (boot sampleEnvironment firstPort (sampleBoot test 1700000000))
    [.readState false true, .testLink false]

/-- The ping test of the disabled port does not reach the host. -/
def pingDisabled : Daemon :=
  (daemon sampleEnvironment).next (foundDisabled "ping") (.testPing none)

def pingCycle : List Input :=
  [.readState true true, .testLink true, sampleTick 1700000010, .testPing (some 3)]

/-- A successful ping clears the bits. -/
theorem ping_recovers :
    EnabledCycle sampleEnvironment pingDisabled pingCycle ∧ ¬Free pingDisabled ∧
      Free ((daemon sampleEnvironment).final pingDisabled pingCycle) := by
  have cycle : EnabledCycle sampleEnvironment pingDisabled pingCycle :=
    ⟨⟨_, rfl, by decide⟩, by decide, by decide⟩
  refine ⟨cycle, by decide, ?_⟩
  rw [reenabled_port_recovers_iff sampleEnvironment pingDisabled pingCycle cycle]
  exact Or.inr (by decide)

/-- A link test that succeeds after the port has been enabled again. -/
def linkCycle : List Input :=
  [.readState true true, .testLink true]

/-- The port is enabled and its link is up, and the failures of its tests are not
counted. -/
theorem link_does_not_recover :
    EnabledCycle sampleEnvironment (foundDisabled "link") linkCycle ∧
      ¬Free ((daemon sampleEnvironment).final (foundDisabled "link") linkCycle) ∧
      testSuspended ((daemon sampleEnvironment).final (foundDisabled "link") linkCycle).port =
        true :=
  ⟨⟨⟨_, rfl, by decide⟩, by decide, by decide⟩, by decide, by decide⟩

end DisableBits

end TfortisPack.Autorestart
