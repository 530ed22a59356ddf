import TfortisPack.Autorestart.Alarms
import TfortisPack.Autorestart.Errors
import TfortisPack.Autorestart.ResetBudget
import TfortisPack.Autorestart.ScheduledOff

/-!
# The reset statistics

`cmd_sendStatus` reports `totalResetCount`, a `uint8_t` that the two reset
handlers and the scheduled power-off increment.  It is compared with what
was done to the port: the power-offs of power cycles, the one that a started
cycle still owes, and the power-offs of the schedule.

The counter runs ahead of the port when one tick serves an automatic and a
manual request together: both handlers count, and there is one cycle.
-/

namespace TfortisPack.Autorestart

open TfortisPack.Library

namespace Statistics

/-- `cmd_sendStatus`, for one port. -/
def cmdSendStatus (port : PortInfo) : ResetPort :=
  resetPortAnswer port 0

def isScheduledOff : Action → Bool
  | .poeControl .alarmHandler .down _ => true
  | _ => false

def isStart : CycleAction → Bool
  | .started _ => true
  | _ => false

/-- The calls of the two reset handlers that start a cycle. -/
def starts (actions : List Action) : Nat :=
  (actions.filterMap Action.cycle).countP isStart

def scheduledOffs (actions : List Action) : Nat :=
  actions.countP isScheduledOff

/-- The power cycles of the port, a started one included, and its scheduled
power-offs. -/
def performed (port : PortInfo) (actions : List Action) : Nat :=
  ResetBudget.powerOffs actions + ResetBudget.due port.control + scheduledOffs actions

/-- What a client is told agrees with what was done. -/
def Reported (memory : Daemon × List Action) : Prop :=
  (cmdSendStatus memory.1.port).resetCount = performed memory.1.port memory.2

instance : DecidablePred Reported :=
  fun _ => inferInstanceAs (Decidable (_ = _))

/-- A tick that finds both requests and serves both. -/
def StartsTwice (maxReset : Nat) (control : Control) : Input → Prop
  | .tick _ =>
      control.state = .reboot ∧ control.rebootInfo.rebootState = .idle ∧
        control.auto = true ∧ control.resetCount < maxReset ∧
        control.manual = true ∧ control.powered
  | _ => False

instance (maxReset : Nat) (control : Control) : DecidablePred (StartsTwice maxReset control)
  | .tick _ => inferInstanceAs (Decidable (_ ∧ _))
  | .command | .readState _ _ | .testDisable | .testLink _ | .testPing _ | .testSpeed _ _ =>
      inferInstanceAs (Decidable False)

/-! ## Cycles -/

section Cycles

variable {maxReset : Nat} {before after : Control} {input : Input}
variable {actions : List CycleAction}

/-- A step makes a power-off due or issues the due one; how often the handlers
were called does not matter. -/
structure Owes (maxReset : Nat) (before : Control) (input : Input) (after : Control)
    (actions : List CycleAction) : Prop where
  balance :
    actions.countP ResetBudget.isDown + ResetBudget.due after =
      ResetBudget.due before + min 1 (actions.countP isStart)
  twice : StartsTwice maxReset before input ↔ actions.countP isStart = 2
  few : actions.countP isStart ≤ 2

theorem Owes.outside (info : after.rebootInfo = before.rebootInfo)
    (silent : actions.countP ResetBudget.isDown = 0) (none : actions.countP isStart = 0)
    (once : ¬StartsTwice maxReset before input) :
    Owes maxReset before input after actions where
  balance := by
    rw [silent, none, ResetBudget.due_congr info, Nat.zero_add, Nat.min_zero, Nat.add_zero]
  twice := by
    rw [none]
    exact iff_of_false once (by decide)
  few := by
    rw [none]
    exact Nat.zero_le 2

theorem not_startsTwice_of_not_reboot (free : before.state ≠ .reboot) :
    ¬StartsTwice maxReset before input := by
  cases input <;> simp [StartsTwice, free]

theorem not_startsTwice_of_started (started : before.rebootInfo.rebootState ≠ .idle) :
    ¬StartsTwice maxReset before input := by
  cases input <;> simp [StartsTwice, started]

theorem owes_served {middle : Control} {first second : List CycleAction} {tick : TickInput}
    (busy : before.state = .reboot) (between : before.rebootInfo.rebootState = .idle)
    (auto : AutoStart maxReset before middle first)
    (manual : ManualStart middle after second) :
    Owes maxReset before (.tick tick) after (first ++ second) := by
  have noneBefore : ResetBudget.due before = 0 :=
    ResetBudget.due_eq_zero (by simp [ResetBudget.PowerOffDue, between])
  cases auto with
  | absent quiet =>
      cases manual with
      | absent unserved =>
          exact .outside rfl rfl rfl (by simp [StartsTwice, quiet])
      | started requested powered =>
          refine ⟨?_, iff_of_false (by simp [StartsTwice, quiet]) (by decide), by decide⟩
          rw [ResetBudget.due_eq_one (Or.inl rfl), noneBefore]
          rfl
  | exhausted test requested spent checked =>
      have once : ¬StartsTwice maxReset before (.tick tick) := by
        simp only [StartsTwice, not_and]
        intro _ _ _ left
        omega
      cases manual with
      | absent unserved =>
          refine .outside ?_ rfl rfl once
          rw [← between]
      | started wanted powered =>
          refine ⟨?_, iff_of_false once (by decide), by decide⟩
          rw [ResetBudget.due_eq_one (Or.inl rfl), noneBefore]
          rfl
  | started requested left =>
      cases manual with
      | absent unserved =>
          refine ⟨?_, iff_of_false ?_ (by decide), by decide⟩
          · rw [ResetBudget.due_eq_one (Or.inl rfl), noneBefore]
            rfl
          · simp only [StartsTwice, not_and]
            exact fun _ _ _ _ wanted powered => unserved ⟨wanted, powered⟩
      | started wanted powered =>
          refine ⟨?_, iff_of_true ⟨busy, between, requested, left, wanted, powered⟩ ?_, ?_⟩
          · rw [ResetBudget.due_eq_one (Or.inl rfl), noneBefore]
            rfl
          · decide
          · decide

/-- The end of a cycle starts none and owes no power-off. -/
theorem owes_finished (up : before.rebootInfo.rebootState = .poeUp)
    (finished : after.rebootInfo.rebootState = .idle) {now : Nat} :
    Owes maxReset before input after (if before.powered then [.up now] else []) := by
  have settled : ResetBudget.due before = 0 :=
    ResetBudget.due_eq_zero (by simp [ResetBudget.PowerOffDue, up])
  have nothingDue : ResetBudget.due after = 0 :=
    ResetBudget.due_eq_zero (by simp [ResetBudget.PowerOffDue, finished])
  refine ⟨?_, iff_of_false (not_startsTwice_of_started (by simp [up])) ?_, ?_⟩
  · rw [nothingDue, settled]
    split <;> rfl
  · split <;> simp [isStart]
  · split <;> simp [isStart]

theorem owes_of_controlStep (step : ControlStep maxReset before input after actions) :
    Owes maxReset before input after actions := by
  cases step with
  | tested test =>
      refine .outside rfl rfl rfl ?_
      cases input <;> simp [StartsTwice, Input.testCall] at test ⊢
  | requested free powered =>
      exact .outside rfl rfl rfl id
  | refused free unpowered =>
      exact .outside rfl rfl rfl id
  | withdrawn busy =>
      exact .outside rfl rfl rfl id
  | read portEnabled poeEnabled =>
      exact .outside rfl rfl rfl id
  | rested idle =>
      exact .outside rfl rfl rfl (not_startsTwice_of_not_reboot (by simp [idle]))
  | resumed idle =>
      exact .outside rfl rfl rfl (not_startsTwice_of_not_reboot (by simp [idle]))
  | watched count regular forgets =>
      exact .outside rfl rfl rfl (not_startsTwice_of_not_reboot (by simp [regular]))
  | raised count regular forgets =>
      exact .outside rfl rfl rfl (not_startsTwice_of_not_reboot (by simp [regular]))
  | served busy between auto manual =>
      exact owes_served busy between auto manual
  | armed busy fresh =>
      refine ⟨?_, iff_of_false (not_startsTwice_of_started (by simp [fresh])) (by decide), by decide⟩
      rw [ResetBudget.due_eq_one (Or.inl fresh), ResetBudget.due_eq_one]
      · rfl
      · exact Or.inr ⟨rfl, BitFlags.has_raise_self (by decide)⟩
  | poweredOff busy down requested =>
      refine ⟨?_, iff_of_false (not_startsTwice_of_started (by simp [down])) (by simp [isStart]),
        by simp [isStart]⟩
      rw [ResetBudget.due_eq_one (Or.inr ⟨down, requested⟩), ResetBudget.due_of_switchedOff]
      · rfl
      · refine PowerCycle.SwitchedOff.checkDeadline busy ?_ ?_ _
        · exact down
        · exact BitFlags.has_clear_self _ _
  | waited busy down done =>
      refine ⟨?_, iff_of_false (not_startsTwice_of_started (by simp [down])) (by decide), by decide⟩
      have settled : ResetBudget.due before = 0 :=
        ResetBudget.due_eq_zero (by simp [ResetBudget.PowerOffDue, down, done])
      rw [ResetBudget.due_of_switchedOff
        (PowerCycle.SwitchedOff.checkDeadline busy down done _), settled]
      rfl
  | poweredOn busy up plain =>
      exact owes_finished up rfl
  | reloaded test busy up requested =>
      exact owes_finished up rfl

end Cycles

/-! ## The counter -/

section Counter

/-- The handler adds to the counter what its actions report. -/
def Counts (port : PortInfo) (result : PortInfo × List Action) : Prop :=
  result.1.portResetInfo.totalResetCount =
    u8 (port.portResetInfo.totalResetCount + (starts result.2 + scheduledOffs result.2))

variable {port : PortInfo}

theorem u8_of_lt {value : Nat} (small : value < 256) : u8 value = value :=
  Nat.mod_eq_of_lt small

theorem Counts.lt {result : PortInfo × List Action} (counts : Counts port result) :
    result.1.portResetInfo.totalResetCount < 256 := by
  rw [counts]
  exact Nat.mod_lt _ (by decide)

theorem counts_silent {result : PortInfo × List Action}
    (small : port.portResetInfo.totalResetCount < 256)
    (same : result.1.portResetInfo.totalResetCount = port.portResetInfo.totalResetCount)
    (none : starts result.2 + scheduledOffs result.2 = 0) :
    Counts port result := by
  rw [Counts, none, same, Nat.add_zero, u8_of_lt small]

theorem starts_append (first second : List Action) :
    starts (first ++ second) = starts first + starts second := by
  rw [starts, List.filterMap_append, List.countP_append]
  rfl

theorem scheduledOffs_append (first second : List Action) :
    scheduledOffs (first ++ second) = scheduledOffs first + scheduledOffs second :=
  List.countP_append

/-- Two handlers in a row add up. -/
theorem Counts.append {first second : PortInfo × List Action}
    (counts : Counts port first) (later : Counts first.1 second) :
    Counts port (second.1, first.2 ++ second.2) := by
  have total := later
  rw [Counts, counts] at total
  rw [Counts, total, starts_append, scheduledOffs_append]
  simp only [u8]
  omega

theorem totalResetCount_setErrorHandler (port : PortInfo) :
    (setErrorHandler port).portResetInfo.totalResetCount =
      port.portResetInfo.totalResetCount := by
  rw [setErrorHandler_eq]

theorem counts_startAuto (clock : LocalClock) (now maxReset : Nat)
    (small : port.portResetInfo.totalResetCount < 256) :
    Counts port (startAuto clock now maxReset port) := by
  simp only [startAuto, autoResetHandler]
  split
  · split
    · refine counts_silent small ?_ rfl
      simp [shutdownPort, totalResetCount_setErrorHandler]
    · simp [Counts, autoRebootPort, starts, scheduledOffs, Action.cycle, isStart,
        isScheduledOff]
  · exact counts_silent small rfl rfl

theorem counts_startManual (clock : LocalClock) (now : Nat)
    (small : port.portResetInfo.totalResetCount < 256) :
    Counts port (startManual clock now port) := by
  simp only [startManual]
  split
  · simp [Counts, manualResetHandler, starts, scheduledOffs, Action.cycle, isStart,
      isScheduledOff]
  · exact counts_silent small rfl rfl

theorem totalResetCount_getPortParam (clock : LocalClock) (now : Nat) (uninit : ErrorCode)
    (options : PortSection) (portNum : PortNum) (isReboot : Bool) (port : PortInfo) :
    (getPortParam clock now uninit options portNum isReboot port).portResetInfo.totalResetCount =
      if isReboot then port.portResetInfo.totalResetCount else 0 := by
  have alarm (port : PortInfo) :
      (setAlarm clock now options port).portResetInfo.totalResetCount =
        port.portResetInfo.totalResetCount := by
    unfold setAlarm
    split <;> rfl
  have test (port : PortInfo) :
      (setTest uninit options port).portResetInfo.totalResetCount =
        port.portResetInfo.totalResetCount := by
    unfold setTest
    split <;> rfl
  simp only [getPortParam, totalResetCount_setErrorHandler, alarm, test]
  rfl

theorem counts_reloadAfterManual (clock : LocalClock) (input : TickInput)
    (small : port.portResetInfo.totalResetCount < 256) :
    Counts port (reloadAfterManual clock input port) := by
  simp only [reloadAfterManual]
  split
  · exact counts_silent small (totalResetCount_getPortParam _ _ _ _ _ true _) rfl
  · exact counts_silent small rfl rfl

theorem counts_rebootHandler (config : DaemonConfig) (clock : LocalClock) (input : TickInput)
    (small : port.portResetInfo.totalResetCount < 256) :
    Counts port (rebootHandler config clock input port) := by
  cases rebootState : port.portRebootInfo.rebootState with
  | idle =>
      simp only [rebootHandler, rebootState]
      have auto := counts_startAuto clock input.now config.maxReset small
      exact auto.append (counts_startManual clock input.now auto.lt)
  | init =>
      simp only [rebootHandler, rebootState]
      exact counts_silent small rfl rfl
  | poeDown =>
      simp only [rebootHandler, rebootState, powerDown, checkDeadline]
      refine counts_silent small ?_ ?_
      · repeat' split
        all_goals rfl
      · repeat' split
        all_goals rfl
  | poeUp =>
      simp only [rebootHandler, rebootState]
      have up : Counts port (powerUp input.now port) := by
        refine counts_silent small rfl ?_
        simp only [powerUp]
        split <;> rfl
      exact up.append (counts_reloadAfterManual clock input up.lt)

theorem counts_testErrorHandler (config : DaemonConfig)
    (small : port.portResetInfo.totalResetCount < 256) :
    Counts port (testErrorHandler config port) := by
  simp only [testErrorHandler, forgetFailure]
  refine counts_silent small ?_ ?_
  · repeat' split
    all_goals rfl
  · repeat' split
    all_goals rfl

theorem counts_stateHandler (config : DaemonConfig) (clock : LocalClock) (input : TickInput)
    (small : port.portResetInfo.totalResetCount < 256) :
    Counts port (stateHandler config clock input port) := by
  unfold stateHandler
  split
  · refine counts_silent small ?_ rfl
    simp only [leaveIdle]
    split <;> rfl
  · exact counts_testErrorHandler config small
  · exact counts_rebootHandler config clock input small

theorem counts_alarmHandler (clock : LocalClock) (now : Nat)
    (small : port.portResetInfo.totalResetCount < 256) :
    Counts port (alarmHandler clock now port) := by
  have timed : (portRunTestTime clock now port).portResetInfo.totalResetCount < 256 := small
  simp only [alarmHandler]
  split
  · have down : Counts port (alarmDown clock now (portRunTestTime clock now port)) := by
      simp only [alarmDown]
      split
      · rfl
      · exact counts_silent small rfl rfl
    refine down.append (counts_silent down.lt ?_ ?_)
    · simp only [alarmUp]
      split <;> rfl
    · simp only [alarmUp]
      split <;> rfl
  · exact counts_silent timed rfl rfl

theorem counts_portStep (env : Environment) (input : Input)
    (small : port.portResetInfo.totalResetCount < 256) :
    Counts port (portStep env port input) := by
  rcases input.tick_or_other with ⟨tick, isTick⟩ | outside
  · have handled := counts_stateHandler env.config env.clock tick small
    simp only [isTick, portStep, eventsHandler]
    split
    · exact handled.append (counts_alarmHandler env.clock tick.now handled.lt)
    · exact handled
  · have same := congrArg (fun port => port.portResetInfo.totalResetCount)
      (tickPart_portStep env port outside)
    refine counts_silent small same ?_
    cases input with
    | tick tick =>
        exact absurd rfl (outside tick)
    | _ =>
        rfl

end Counter

/-! ## Runs -/

section Runs

variable {env : Environment} {state : Daemon} {actions : List Action}

theorem performed_next (input : Input) :
    performed ((daemon env).next state input).port
        (actions ++ (daemon env).emit state input) =
      performed state.port actions + min 1 (starts ((daemon env).emit state input)) +
        scheduledOffs ((daemon env).emit state input) := by
  have balance := (owes_of_controlStep (daemon_controlStep env state input)).balance
  simp only [performed, scheduledOffs_append, ResetBudget.powerOffs, starts,
    List.filterMap_append, List.countP_append]
  omega

/-- A client is told the truth after a step exactly if the step starts one cycle
at most and the count still fits a `uint8_t`. -/
theorem reported_next_iff (env : Environment) (input : Input)
    (small : state.port.portResetInfo.totalResetCount < 256)
    (reported : Reported (state, actions)) :
    Reported ((daemon env).next state input, actions ++ (daemon env).emit state input) ↔
      ¬StartsTwice env.config.maxReset state.port.control input ∧
        performed ((daemon env).next state input).port
          (actions ++ (daemon env).emit state input) < 256 := by
  have counts : Counts state.port (portStep env state.port input) :=
    counts_portStep env input small
  have twice : StartsTwice env.config.maxReset state.port.control input ↔
      starts (portStep env state.port input).2 = 2 :=
    (owes_of_controlStep (daemon_controlStep env state input)).twice
  have few : starts (portStep env state.port input).2 ≤ 2 :=
    (owes_of_controlStep (daemon_controlStep env state input)).few
  have told : state.port.portResetInfo.totalResetCount = performed state.port actions := reported
  simp only [Reported, cmdSendStatus, resetPortAnswer, performed_next]
  rw [twice, daemon_emit, daemon_next_port, counts, told, u8]
  omega

theorem performed_le_run (inputs : List Input) :
    performed state.port actions ≤
      performed ((daemon env).final state inputs).port
        (actions ++ (daemon env).outputs state inputs) := by
  induction inputs generalizing state actions with
  | nil =>
      simp [Machine.final, Machine.outputs]
  | cons input rest inductionHypothesis =>
      have oneStep : performed state.port actions ≤
          performed ((daemon env).next state input).port
            (actions ++ (daemon env).emit state input) := by
        rw [performed_next]
        omega
      have later := oneStep.trans inductionHypothesis
      rw [List.append_assoc] at later
      exact later

theorem reported_run_iff (inputs : List Input)
    (small : state.port.portResetInfo.totalResetCount < 256)
    (reported : Reported (state, actions)) :
    (daemon env).recording.AllStates Reported (state, actions) inputs ↔
      (daemon env).AllSteps
          (fun state input => ¬StartsTwice env.config.maxReset state.port.control input)
          state inputs ∧
        performed ((daemon env).final state inputs).port
          (actions ++ (daemon env).outputs state inputs) < 256 := by
  induction inputs generalizing state actions with
  | nil =>
      have fits : performed state.port actions < 256 := by
        rw [← reported]
        exact small
      simpa [Machine.AllStates, Machine.AllSteps, Machine.final, Machine.outputs, fits] using
        reported
  | cons input rest inductionHypothesis =>
      have stepExact := reported_next_iff env input small reported
      have smallNext : ((daemon env).next state input).port.portResetInfo.totalResetCount < 256 :=
        (counts_portStep env input small).lt
      simp only [Machine.AllSteps, Machine.final, Machine.outputs]
      rw [← List.append_assoc]
      constructor
      · intro all
        have told : Reported ((daemon env).next state input,
            actions ++ (daemon env).emit state input) := by
          cases rest with
          | nil => exact all.2
          | cons _ _ => exact all.2.1
        obtain ⟨once, fits⟩ := (inductionHypothesis smallNext told).mp all.2
        exact ⟨⟨(stepExact.mp told).1, once⟩, fits⟩
      · intro condition
        obtain ⟨⟨once, onceLater⟩, fits⟩ := condition
        have told := stepExact.mpr ⟨once, (performed_le_run rest).trans_lt fits⟩
        exact ⟨reported, (inductionHypothesis smallNext told).mpr ⟨onceLater, fits⟩⟩

end Runs

/-- In every run from the start of the daemon, in any order of commands, reads,
tests and ticks, a client is told the number of power cycles and scheduled
power-offs at every moment exactly if no tick serves two requests at once and
that number stays below 256. -/
theorem reset_count_reported_iff (env : Environment) (index : Fin numPorts)
    (input : BootInput) (inputs : List Input) :
    (daemon env).recording.AllStates Reported (boot env index input, []) inputs ↔
      (daemon env).AllSteps
          (fun state step => ¬StartsTwice env.config.maxReset state.port.control step)
          (boot env index input) inputs ∧
        performed ((daemon env).final (boot env index input) inputs).port
          ((daemon env).outputs (boot env index input) inputs) < 256 := by
  have zero : (boot env index input).port.portResetInfo.totalResetCount = 0 :=
    totalResetCount_getPortParam _ _ _ _ _ false _
  have nothingDue : ResetBudget.due (boot env index input).port.control = 0 := by
    rw [boot_control]
    rfl
  have fresh : Reported (boot env index input, []) := by
    simp only [Reported, cmdSendStatus, resetPortAnswer, performed, zero, nothingDue]
    rfl
  exact reported_run_iff inputs (by rw [zero]; decide) fresh

/-! ## A year of a daily schedule -/

/-- One tick a day, always at the same time. -/
def nightlyTicks : Nat → Nat → List Input
  | _, 0 => []
  | now, days + 1 => sampleTick now :: nightlyTicks (now + 86400) days

/-- An untested port whose power-off is due at `now`. -/
structure OffDue (now : Nat) (port : PortInfo) : Prop where
  regular : port.portResetInfo.state = .regular
  failing : port.hasError errOk = false
  untested : port.hasError errTestDisable = true
  alarm : port.portConfigInfo.alarm = .enable
  due : port.portConfigInfo.timeDown.targetTime ≤ now

theorem stateHandler_offDue {now : Nat} {port : PortInfo} (offDue : OffDue now port)
    (config : DaemonConfig) (clock : LocalClock) (input : TickInput) :
    stateHandler config clock input port = (port, []) := by
  have kept : forgetFailure port = port := by
    rw [forgetFailure, offDue.failing]
    rfl
  have suspended : testSuspended port = true := by
    rw [testSuspended, offDue.untested]
    simp
  simp only [stateHandler, offDue.regular, testErrorHandler, kept, suspended, if_true]

theorem nightlyTick {now : Nat} {port : PortInfo} (offDue : OffDue now port) :
    scheduledOffs (portStep sampleEnvironment port (sampleTick now)).2 = 1 ∧
      OffDue (now + 86400) (portStep sampleEnvironment port (sampleTick now)).1 := by
  have free : port.portResetInfo.state ≠ .reboot := by
    rw [offDue.regular]
    decide
  have step : portStep sampleEnvironment port (sampleTick now) =
      alarmHandler utc now port := by
    simp only [sampleTick, portStep, eventsHandler, stateHandler_offDue offDue, offDue.alarm,
      if_true, List.nil_append]
    rfl
  rw [step]
  have due : Alarms.Due now port.portConfigInfo.timeDown := Or.inl offDue.due
  refine ⟨?_, ?_, ?_, ?_, ?_, ?_⟩
  · rw [Alarms.alarmHandler_actions utc now free, if_pos due, scheduledOffs_append]
    split <;> rfl
  · rw [Alarms.state_alarmHandler, offDue.regular]
  · rw [hasError_alarmHandler utc now port (by decide), offDue.failing]
  · rw [hasError_alarmHandler utc now port (by decide), offDue.untested]
  · rw [Alarms.alarm_alarmHandler, offDue.alarm]
  · rw [Alarms.alarmHandler_timeDown utc now free, Alarms.afterService_targetTime,
      if_pos offDue.due]
    exact Nat.mod_le _ _

theorem scheduledOffs_nightlyTicks {now : Nat} {state : Daemon} (days : Nat)
    (offDue : OffDue now state.port) :
    scheduledOffs ((daemon sampleEnvironment).outputs state (nightlyTicks now days)) = days := by
  induction days generalizing now state with
  | zero =>
      rfl
  | succ days inductionHypothesis =>
      obtain ⟨once, stillDue⟩ := nightlyTick offDue
      rw [nightlyTicks, Machine.outputs, scheduledOffs_append, daemon_emit, once,
        inductionHypothesis stillDue, Nat.add_comm]

/-- A port without a test that is switched off every evening at 22:14. -/
def untestedBoot : BootInput :=
  { ScheduledOff.nightBoot with
    options := { ScheduledOff.nightBoot.options with state := some "disable" } }

/-- A manual request that a disabled port could not serve is still there when
the tests ask for a restart. -/
def bothRequests : List Input :=
  [.readState true true, .command, .readState false true, .testLink true, .testPing (some 1),
    sampleTick 1700000000, .readState true true, .testLink false, .testPing none,
    sampleTick 1700000001, sampleTick 1700000002]

/-- After 256 evenings a client is told that nothing happened, and a cycle that
serves two requests is counted twice. -/
theorem reset_count_misreported :
    ¬(daemon sampleEnvironment).recording.AllStates Reported
        (boot sampleEnvironment firstPort untestedBoot, []) (nightlyTicks 1700000041 256) ∧
      ¬(daemon eagerEnvironment).recording.AllStates Reported
        (boot eagerEnvironment firstPort (sampleBoot "ping" 1700000000), []) bothRequests := by
  have offDue : OffDue 1700000041 (boot sampleEnvironment firstPort untestedBoot).port :=
    ⟨by decide, by decide, by decide, by decide, by decide⟩
  have offs := scheduledOffs_nightlyTicks 256 offDue
  constructor
  · rw [reported_run_iff _ (by decide) (by decide)]
    intro condition
    have fits := condition.2
    rw [performed, List.nil_append, offs] at fits
    omega
  · decide

end Statistics

end TfortisPack.Autorestart
