import TfortisPack.Autorestart.Alarms
import TfortisPack.Autorestart.CycleShape

/-!
# Scheduled power-off

`alarmHandler` switches a port off and on by a schedule.  In between, the
flag `ERR_POE_DOWN` keeps `test_ErrorHandler` from asking for a reset of the
port that is off on purpose.  All writers of the error word raise and clear
single flags, except the successful branch of `port_runTestPing`, which
assigns the whole word.
-/

namespace TfortisPack.Autorestart

open TfortisPack.Library

namespace ScheduledOff

/-- Neither a command nor a ping answered by a port that is scheduled off. -/
def Respects (state : Daemon) (input : Input) : Prop :=
  input ≠ .command ∧ ¬(PingSucceeds state input ∧ state.port.hasError errPoeDown = true)

instance (state : Daemon) (input : Input) : Decidable (Respects state input) :=
  inferInstanceAs (Decidable (_ ∧ _))

/-- The daemon works against the schedule. -/
def Interferes (action : Action) : Prop :=
  action = .autoRestartRaised ∨ ∃ time, action = .poeControl .rebootHandler .up time

/-- Remembers whether the schedule has switched the port off. -/
def schedule : Monitor Bool Action where
  track off action :=
    match action with
    | .poeControl .alarmHandler .down _ => true
    | .poeControl .alarmHandler .up _ => false
    | _ => off
  allow off action := off = true → ¬Interferes action

/-- The flag stands for the schedule, and no power cycle is under way. -/
def Marked (port : PortInfo) : Prop :=
  port.hasError errPoeDown = true ∧ port.control.state ≠ .reboot

/-! ## Alarms -/

section Alarms

variable {off : Bool} {port : PortInfo}

theorem schedule_alarmDown (clock : LocalClock) (now : Nat)
    (free : port.control.state ≠ .reboot) (known : off = true → Marked port) :
    schedule.Accepts off (alarmDown clock now port).2 ∧
      (schedule.after off (alarmDown clock now port).2 = true →
        Marked (alarmDown clock now port).1) := by
  unfold alarmDown
  split
  · refine ⟨⟨fun _ => by simp [Interferes], trivial⟩, fun _ => ⟨?_, free⟩⟩
    simp +decide
  · exact ⟨trivial, known⟩

theorem schedule_alarmUp (now : Nat) (known : off = true → Marked port) :
    schedule.Accepts off (alarmUp now port).2 ∧
      (schedule.after off (alarmUp now port).2 = true → Marked (alarmUp now port).1) := by
  unfold alarmUp
  split
  · refine ⟨⟨fun _ => by simp [Interferes], trivial⟩, fun impossible => ?_⟩
    exact absurd impossible Bool.false_ne_true
  · exact ⟨trivial, known⟩

theorem schedule_alarmHandler (clock : LocalClock) (now : Nat)
    (known : off = true → Marked port) :
    schedule.Accepts off (alarmHandler clock now port).2 ∧
      (schedule.after off (alarmHandler clock now port).2 = true →
        Marked (alarmHandler clock now port).1) := by
  have timed : off = true → Marked (portRunTestTime clock now port) := known
  simp only [alarmHandler]
  split
  · rename_i free
    obtain ⟨downAccepted, downKnown⟩ := schedule_alarmDown clock now free timed
    obtain ⟨upAccepted, upKnown⟩ := schedule_alarmUp now downKnown
    rw [Monitor.accepts_append, Monitor.after_append]
    exact ⟨⟨downAccepted, upAccepted⟩, upKnown⟩
  · exact ⟨trivial, timed⟩

end Alarms

/-! ## Handlers -/

/-- The handlers of the outer state leave the schedule to `alarmHandler`. -/
theorem track_stateHandler (config : DaemonConfig) (clock : LocalClock) (input : TickInput)
    (port : PortInfo) :
    ∀ action ∈ (stateHandler config clock input port).2,
      schedule.track false action = false := by
  intro action member
  have silent := Alarms.stateHandler_silent config clock input port action member
  cases action with
  | poeControl caller control time =>
      cases caller with
      | rebootHandler =>
          rfl
      | alarmHandler =>
          exact absurd ⟨control, time, rfl⟩ silent
  | _ =>
      rfl

theorem schedule_on {actions : List Action}
    (others : ∀ action ∈ actions, schedule.track false action = false) :
    schedule.Accepts false actions ∧ schedule.after false actions = false := by
  induction actions with
  | nil =>
      exact ⟨trivial, rfl⟩
  | cons action rest inductionHypothesis =>
      have same := others action List.mem_cons_self
      obtain ⟨accepted, on⟩ :=
        inductionHypothesis fun other member => others other (List.mem_cons_of_mem _ member)
      simp only [Monitor.Accepts, Monitor.after, same]
      exact ⟨⟨fun impossible => absurd impossible Bool.false_ne_true, accepted⟩, on⟩

/-- A tick of a port that is scheduled off does nothing before the alarm. -/
theorem stateHandler_marked {config : DaemonConfig} {clock : LocalClock}
    {input : TickInput} {port : PortInfo} (marked : Marked port) :
    (stateHandler config clock input port).2 = [] ∧
      Marked (stateHandler config clock input port).1 := by
  have quiet : (stateHandler config clock input port).2 = [] := by
    by_contra raised
    have active := (raised_of_stateHandler marked.2 raised).1
    have suspended : (forgetFailure port).hasError errPoeDown = true :=
      (hasError_forgetFailure port (by decide)).trans marked.1
    rw [testSuspended, suspended] at active
    simp at active
  refine ⟨quiet, ?_, ?_⟩
  · exact (hasError_stateHandler config clock input port marked.2 (by decide)).trans marked.1
  · refine CycleShape.free_of_quiet_tick
      (controlStep_stateHandler config clock input port) marked.2 ?_
    rw [quiet]
    rfl

theorem schedule_eventsHandler {off : Bool} {port : PortInfo} (config : DaemonConfig)
    (clock : LocalClock) (input : TickInput) (known : off = true → Marked port) :
    schedule.Accepts off (eventsHandler config clock input port).2 ∧
      (schedule.after off (eventsHandler config clock input port).2 = true →
        Marked (eventsHandler config clock input port).1) := by
  have handled : schedule.Accepts off (stateHandler config clock input port).2 ∧
      (schedule.after off (stateHandler config clock input port).2 = true →
        Marked (stateHandler config clock input port).1) := by
    cases off with
    | true =>
        obtain ⟨quiet, marked⟩ := stateHandler_marked (known rfl)
        rw [quiet]
        exact ⟨trivial, fun _ => marked⟩
    | false =>
        obtain ⟨accepted, on⟩ := schedule_on (track_stateHandler config clock input port)
        exact ⟨accepted, fun impossible => absurd (on.symm.trans impossible) Bool.false_ne_true⟩
  simp only [eventsHandler]
  split
  · obtain ⟨accepted, marked⟩ := schedule_alarmHandler clock input.now handled.2
    rw [Monitor.accepts_append, Monitor.after_append]
    exact ⟨⟨handled.1, accepted⟩, marked⟩
  · exact handled

/-! ## Runs -/

theorem marked_of_test (env : Environment) (state : Daemon) (input : Input)
    (respects : Respects state input) (outside : ∀ tick, input ≠ .tick tick)
    (marked : Marked state.port) : Marked ((daemon env).next state input).port := by
  obtain ⟨flag, free⟩ := marked
  refine ⟨(hasError_poeDown_of_not_tick env outside respects.2).trans flag, ?_⟩
  rw [daemon_next_port]
  cases input with
  | command =>
      exact absurd rfl respects.1
  | readState portEnabled poeEnabled =>
      simp only [portStep, control_getPortAndPoeState]
      split
      · exact free
      · simp
  | testDisable =>
      exact free
  | testLink up =>
      simpa only [portStep, control_portRunTestLink] using free
  | testPing reply =>
      simpa only [portStep, control_portRunTestPing] using free
  | testSpeed rxBytes now =>
      simpa only [portStep, control_portRunTestSpeed] using free
  | tick input =>
      exact absurd rfl (outside input)

theorem schedule_next (env : Environment) (state : Daemon) (input : Input) {off : Bool}
    (respects : Respects state input) (known : off = true → Marked state.port) :
    schedule.Accepts off ((daemon env).emit state input) ∧
      (schedule.after off ((daemon env).emit state input) = true →
        Marked ((daemon env).next state input).port) := by
  have test (outside : ∀ tick, input ≠ .tick tick) (silent : (daemon env).emit state input = []) :
      schedule.Accepts off ((daemon env).emit state input) ∧
        (schedule.after off ((daemon env).emit state input) = true →
          Marked ((daemon env).next state input).port) := by
    rw [silent]
    exact ⟨trivial, fun isOff => marked_of_test env state input respects outside (known isOff)⟩
  cases input with
  | command =>
      exact absurd rfl respects.1
  | tick input =>
      exact schedule_eventsHandler env.config env.clock input known
  | readState portEnabled poeEnabled =>
      exact test (by simp) rfl
  | testDisable =>
      exact test (by simp) rfl
  | testLink up =>
      exact test (by simp) rfl
  | testPing reply =>
      exact test (by simp) rfl
  | testSpeed rxBytes now =>
      exact test (by simp) rfl

/-- The port stays off until the alarm switches it on. -/
theorem schedule_off {off : Nat} {between : List Action} {memory : Bool}
    (stillOff : ∀ on, .poeControl .alarmHandler .up on ∉ between) :
    schedule.after memory (.poeControl .alarmHandler .down off :: between) = true := by
  change schedule.after true between = true
  induction between with
  | nil =>
      rfl
  | cons action rest inductionHypothesis =>
      have restOff : ∀ on, .poeControl .alarmHandler .up on ∉ rest := fun on member =>
        stillOff on (List.mem_cons_of_mem _ member)
      have same : schedule.track true action = true := by
        cases action with
        | poeControl caller control time =>
            cases caller with
            | rebootHandler =>
                rfl
            | alarmHandler =>
                cases control with
                | down =>
                    rfl
                | up =>
                    exact absurd List.mem_cons_self (stillOff time)
        | _ =>
            rfl
      rw [Monitor.after, same]
      exact inductionHypothesis restOff

/-- In every run of a port without client commands, in any order of reads, tests
and ticks, in which no ping is answered while the port is scheduled off: from
an alarm power-off to the next alarm power-on the daemon neither asks for a
restart nor switches the port on. -/
theorem scheduled_off_is_respected (env : Environment) (index : Fin numPorts)
    (input : BootInput) (inputs : List Input)
    (respects : (daemon env).AllSteps Respects (boot env index input) inputs)
    (before between later : List Action) (off : Nat) (action : Action)
    (shape :
      (daemon env).outputs (boot env index input) inputs =
        before ++ .poeControl .alarmHandler .down off :: between ++ action :: later)
    (stillOff : ∀ on, .poeControl .alarmHandler .up on ∉ between) :
    ¬Interferes action := by
  have accepted :
      schedule.Accepts false
        (((daemon env).outputs (boot env index input) inputs).filterMap some) := by
    have simulates : ∀ off state step, (off = true → Marked state.port) → Respects state step →
        schedule.Accepts off (((daemon env).emit state step).filterMap some) ∧
          (schedule.after off (((daemon env).emit state step).filterMap some) = true →
            Marked ((daemon env).next state step).port) := by
      intro off state step known respects
      rw [List.filterMap_some]
      exact schedule_next env state step respects known
    exact Machine.monitored simulates
      (fun impossible => absurd impossible Bool.false_ne_true) respects
  have split :
      before ++ .poeControl .alarmHandler .down off :: between ++ action :: later =
        (before ++ .poeControl .alarmHandler .down off :: between) ++ action :: later := by
    simp
  rw [List.filterMap_some, shape, split] at accepted
  apply accepted.allowed
  rw [Monitor.after_append]
  exact schedule_off stillOff

/-- A schedule that switches the port off at 22:14 and on at 23:00. -/
def nightBoot : BootInput where
  now := 1700000000
  uninit := 0
  options :=
    { state := some "ping", alarm := some "enable", host := some "192.168.0.10"
      maxSpeed := none, minSpeed := none, timeUp := some "23:00", timeDown := some "22:14" }

/-- The host stops answering when the port goes off. -/
def silentNight : List Input :=
  [.readState true true, .testLink true, .testPing (some 1), sampleTick 1700000041,
    .readState true true, .testLink false, .testPing none, sampleTick 1700000060,
    sampleTick 1700002801]

theorem scheduled_off_is_respected_silent :
    ¬Interferes (.poeControl .alarmHandler .up 1700002801) :=
  scheduled_off_is_respected eagerEnvironment 0 nightBoot silentNight (by decide) [] [] []
    1700000041 (.poeControl .alarmHandler .up 1700002801) (by decide) (by simp)

/-- The host answers once more after the port went off, and stops then. -/
def lateAnswer : List Input :=
  [.readState true true, .testLink true, sampleTick 1700000041, .testPing (some 1),
    .readState true true, .testLink false, .testPing none, sampleTick 1700000060]

/-- An answer after the scheduled power-off erases the flag, and the next failed
test asks for a restart. -/
theorem late_answer_restarts_scheduled_port :
    (∀ step ∈ lateAnswer, step ≠ .command) ∧
      (daemon eagerEnvironment).outputs (boot eagerEnvironment 0 nightBoot) lateAnswer =
        [] ++ .poeControl .alarmHandler .down 1700000041 :: [] ++ .autoRestartRaised :: [] ∧
      Interferes .autoRestartRaised :=
  ⟨by decide, by decide, Or.inl rfl⟩

end ScheduledOff

end TfortisPack.Autorestart
