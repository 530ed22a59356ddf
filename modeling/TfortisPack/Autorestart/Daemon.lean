import TfortisPack.Library.Runs
import TfortisPack.Autorestart.EventsModule

/-!
# The autorestart daemon as a machine

Three threads share the entry of a port: the client thread handles one
command at a time, the test thread alternates `get_PortAndPoeState` with the
tests of the port, and the events thread calls `eventsHandler`.  An input of
the machine is one atomic step of one of them.

`pending` holds the calls that the current test of the port still has to
make.  It does not influence what a step does; it says which steps the
program order of `test_main` and `runTest` admits.
-/

namespace TfortisPack.Autorestart

open TfortisPack.Library

/-- The calls made by the functions of `runTest`. -/
inductive TestCall where
  | disable
  | link
  | ping
  | speed
  deriving DecidableEq, Repr

/-- `runTest[test]`: the calls of one test, in order. -/
def runTest : TestType → List TestCall
  | .disable => [.disable]
  | .link => [.link]
  | .ping => [.link, .ping]
  | .speed => [.link, .speed]

/-- One atomic step of one of the threads. -/
inductive Input where
  /-- `cmd_rebootHandler`. -/
  | command
  /-- `get_PortAndPoeState` and what it reads. -/
  | readState (portEnabled poeEnabled : Bool)
  | testDisable
  | testLink (up : Bool)
  | testPing (reply : Option Nat)
  | testSpeed (rxBytes now : Nat)
  /-- `eventsHandler`. -/
  | tick (input : TickInput)
  deriving DecidableEq, Repr

/-- The call of the test thread that an input stands for. -/
def Input.testCall : Input → Option TestCall
  | .testDisable => some .disable
  | .testLink _ => some .link
  | .testPing _ => some .ping
  | .testSpeed _ _ => some .speed
  | _ => none

/-- The daemon options and the time zone, fixed while the daemon runs. -/
structure Environment where
  config : DaemonConfig
  clock : LocalClock

/-- A port and the rest of its running test. -/
structure Daemon where
  port : PortInfo
  pending : List TestCall
  deriving DecidableEq, Repr

/-- The effect of one input on the port. -/
def portStep (env : Environment) (port : PortInfo) : Input → PortInfo × List Action
  | .command => cmdRebootHandler port
  | .readState portEnabled poeEnabled =>
      (getPortAndPoeState port portEnabled poeEnabled, [])
  | .testDisable => (portRunTestDisable port, [])
  | .testLink up => (portRunTestLink port up, [])
  | .testPing reply => (portRunTestPing port reply, [])
  | .testSpeed rxBytes now => (portRunTestSpeed port rxBytes now, [])
  | .tick input => eventsHandler env.config env.clock input port

theorem Input.tick_or_other (input : Input) :
    (∃ tick, input = .tick tick) ∨ ∀ tick, input ≠ .tick tick := by
  by_cases isTick : ∃ tick, input = .tick tick
  · exact Or.inl isTick
  · exact Or.inr (not_exists.mp isTick)

/-- The port without the fields that commands and tests write. -/
def tickPart (port : PortInfo) : PortInfo :=
  { port with
    portConfigInfo :=
      { port.portConfigInfo with
        replyTime := 0, rxBytePrev := 0, rxByteCurrent := 0, rxDeltaByte := 0,
        rxSpeedKbit := 0, timeCurrent := 0, timePrev := 0 }
    portResetInfo :=
      { port.portResetInfo with errorCode := 0, event := 0, state := .regular }
    portStateInfo := { portState := .disable, poeState := .disable } }

theorem tickPart_parkUnless (enabled : Bool) (flag : ErrorCode) (port : PortInfo) :
    tickPart (parkUnless enabled flag port) = tickPart port := by
  unfold parkUnless
  split
  · rfl
  · rfl

/-- Everything else is written by ticks only. -/
theorem tickPart_portStep (env : Environment) (port : PortInfo) {input : Input}
    (outside : ∀ tick, input ≠ .tick tick) :
    tickPart (portStep env port input).1 = tickPart port := by
  cases input with
  | command =>
      simp only [portStep, cmdRebootHandler]
      repeat' split
      all_goals rfl
  | readState portEnabled poeEnabled =>
      simp only [portStep, getPortAndPoeState, tickPart_parkUnless]
      simp only [tickPart, parkUnless]
      split
      · rfl
      · rfl
  | testDisable =>
      rfl
  | testLink up =>
      simp only [portStep, portRunTestLink]
      repeat' split
      all_goals rfl
  | testPing reply =>
      simp only [portStep, portRunTestPing]
      repeat' split
      all_goals rfl
  | testSpeed rxBytes now =>
      simp only [portStep, portRunTestSpeed, readRxBytes]
      repeat' split
      all_goals rfl
  | tick input =>
      exact absurd rfl (outside input)

/-- The calls that remain after an input. -/
def pendingAfter (port : PortInfo) (pending : List TestCall) : Input → List TestCall
  | .readState _ _ => runTest port.portConfigInfo.test
  | .command | .tick _ => pending
  | _ => pending.tail

/-- The daemon, reduced to one port. -/
def daemon (env : Environment) : Machine Daemon Input Action where
  step state input :=
    let result := portStep env state.port input
    ({ port := result.1, pending := pendingAfter result.1 state.pending input }, result.2)

/-- An input that the program order of the test thread admits: a new test
starts only after the previous one, and its calls come in order. -/
def InThreadOrder (state : Daemon) : Input → Prop
  | .command | .tick _ => True
  | .readState _ _ => state.pending = []
  | input => state.pending.head? = input.testCall

instance (state : Daemon) : ∀ input, Decidable (InThreadOrder state input)
  | .command | .tick _ => inferInstanceAs (Decidable True)
  | .readState _ _ => inferInstanceAs (Decidable (_ = _))
  | .testDisable | .testLink _ | .testPing _ | .testSpeed _ _ =>
      inferInstanceAs (Decidable (_ = _))

/-- The host answers the ping; it is only asked while the link is up. -/
def PingSucceeds (state : Daemon) : Input → Prop
  | .testPing (some _) => state.port.hasError errTestLink = false
  | _ => False

instance (state : Daemon) : DecidablePred (PingSucceeds state)
  | .testPing (some _) => inferInstanceAs (Decidable (_ = _))
  | .testPing none | .command | .readState _ _ | .testDisable | .testLink _
  | .testSpeed _ _ | .tick _ => inferInstanceAs (Decidable False)

/-- Without a success, `pingResult` of `port_runTestPing` is `ERR_TEST_PING`. -/
theorem pingResult_of_failed {state : Daemon} {reply : Option Nat}
    (failed : ¬PingSucceeds state (.testPing reply)) :
    (if state.port.hasError errTestLink then none else reply) = none := by
  cases reply with
  | none =>
      exact ite_self none
  | some time =>
      have linkDown : state.port.hasError errTestLink = true := by
        simpa [PingSucceeds] using failed
      rw [if_pos linkDown]

/-- What `ar_mainInit` reads at start. -/
structure BootInput where
  now : Nat
  uninit : ErrorCode
  options : PortSection
  deriving DecidableEq, Repr

/-- The daemon after `ar_mainInit`. -/
def boot (env : Environment) (index : Fin numPorts) (input : BootInput) : Daemon where
  port := bootPort env.clock input.now input.uninit input.options index
  pending := []

/-- The month and the year, in the units of `struct tm`, of a day counted
from the epoch. -/
def monthAndYear (day : Nat) : Nat × Nat :=
  -- years begin in March, so that the leap day is the last one
  let shifted := day + 719468
  let dayOfEra := shifted % 146097
  let yearOfEra :=
    (dayOfEra - dayOfEra / 1460 + dayOfEra / 36524 - dayOfEra / 146096) / 365
  let dayOfYear := dayOfEra - (365 * yearOfEra + yearOfEra / 4 - yearOfEra / 100)
  let month := (5 * dayOfYear + 2) / 153
  let year := yearOfEra + shifted / 146097 * 400
  if month < 10 then (month + 2, year - 1900) else (month - 10, year + 1 - 1900)

/-- The calendar of a device that runs in UTC. -/
def utc : LocalClock where
  todayAt now hour minute := now / 86400 * 86400 + hour * 3600 + minute * 60
  tomorrowAt now hour minute := (now / 86400 + 1) * 86400 + hour * 3600 + minute * 60
  nextDay now := now + 86400
  localtime now :=
    let second := now % 86400
    let date := monthAndYear (now / 86400)
    { hour := second / 3600, min := second % 3600 / 60, sec := second % 60
      mon := date.1, year := date.2 }

/-- A device in UTC with the default options. -/
def sampleEnvironment : Environment where
  config := getConfig "3" "10" "3"
  clock := utc

/-- The same device with one reset per port, asked for after one failed test. -/
def eagerEnvironment : Environment where
  config := getConfig "3" "1" "1"
  clock := utc

/-- A port that starts at `now` with the given test and without a schedule. -/
def sampleBoot (test : String) (now : Nat) : BootInput where
  now := now
  uninit := 0
  options :=
    { state := some test, alarm := some "disable", host := some "192.168.0.10"
      maxSpeed := some "1000", minSpeed := some "10", timeUp := none, timeDown := none }

/-- The entry of the port with number 1. -/
def firstPort : Fin numPorts :=
  ⟨0, by decide⟩

/-- A tick of the sample port at `now`. -/
def sampleTick (now : Nat) : Input :=
  .tick { now := now, options := (sampleBoot "link" now).options, uninit := 0 }

/-- A command that is served without disturbance: the port is switched off at
1700000002 and on at 1700000018. -/
def sampleManualCycle : List Input :=
  [.readState true true, .command, sampleTick 1700000000, sampleTick 1700000001,
    sampleTick 1700000002, sampleTick 1700000017, sampleTick 1700000018]

variable {env : Environment} {state : Daemon}

@[simp]
theorem daemon_next_port (input : Input) :
    ((daemon env).next state input).port = (portStep env state.port input).1 :=
  rfl

@[simp]
theorem daemon_emit (input : Input) :
    (daemon env).emit state input = (portStep env state.port input).2 :=
  rfl

end TfortisPack.Autorestart
