import TfortisPack.Autorestart.PortModule

/-!
# Events and client commands of one port

`events_module.c` and `cmd_rebootHandler` of `client_module.c`.
`eventsHandler` visits the ports one after the other; the model is its body
for one port, at the time `now` that the calls of `time(NULL)` return.
-/

namespace TfortisPack.Autorestart

open TfortisPack.Library

/-- What an `eventsHandler` tick reads from the outside. -/
structure TickInput where
  /-- The value of `time(NULL)`. -/
  now : Nat
  /-- The section `getPortParam` reads if the tick calls it. -/
  options : PortSection
  /-- The indeterminate local of `setSpeed` in such a call. -/
  uninit : ErrorCode
  deriving DecidableEq, Repr

/-- The first half of `test_ErrorHandler`: a passed test forgets a failure. -/
def forgetFailure (port : PortInfo) : PortInfo :=
  if port.hasError errOk then
    let port :=
      { port with
        portResetInfo.errorTestCount := port.portResetInfo.errorTestCount - 1 }
    if port.portResetInfo.errorTestCount = 0 then
      { port.clearError errPortShutdown with portResetInfo.resetCount := 0 }
    else port
  else port

/-- The flags under which `test_ErrorHandler` does nothing. -/
def testSuspended (port : PortInfo) : Bool :=
  port.hasError errPortDisable || port.hasError errTestDisable
    || port.hasError errPortShutdown || port.hasError errPoeDown
    || port.hasError errPoeDisable

/-- The flags that count as a failed test. -/
def testFailed (port : PortInfo) : Bool :=
  port.hasError errTestLink || port.hasError errTestSpeed || port.hasError errTestPing

def testErrorHandler (config : DaemonConfig) (port : PortInfo) :
    PortInfo × List Action :=
  let port := forgetFailure port
  if testSuspended port then (port, [])
  else if testFailed port then
    let port :=
      { port with
        portResetInfo.errorTestCount := u8 (port.portResetInfo.errorTestCount + 1) }
    if port.portResetInfo.errorTestCount ≥ config.testNum ∧
        port.portResetInfo.state ≠ .reboot then
      ((port.raiseEvent autoRestart).setState .reboot, [.autoRestartRaised])
    else (port, [])
  else (port, [])

/-- `rebootHandler` in `REBOOT_STATE_IDLE`, the automatic request. -/
def startAuto (clock : LocalClock) (now maxReset : Nat) (port : PortInfo) :
    PortInfo × List Action :=
  if port.hasEvent autoRestart then
    autoResetHandler clock now maxReset (port.clearEvent autoRestart)
  else (port, [])

/-- `rebootHandler` in `REBOOT_STATE_IDLE`, the manual request. -/
def startManual (clock : LocalClock) (now : Nat) (port : PortInfo) :
    PortInfo × List Action :=
  if port.hasEvent manualRestart ∧ port.poweredByConfig then
    let result := manualResetHandler clock now port
    (result.1.clearEvent manualRestart, result.2)
  else (port, [])

/-- `rebootHandler` in `REBOOT_STATE_POE_DOWN`, first visit: power off and
set the deadline. -/
def powerDown (now : Nat) (port : PortInfo) : PortInfo × List Action :=
  if port.hasRebootEvent rebootEventStart then
    ({ port.clearRebootEvent rebootEventStart with
        portRebootInfo.rebootTimeStart := u32 (port.portRebootInfo.rebootDelay + now) },
      [.poeControl .rebootHandler .down now])
  else (port, [])

/-- `rebootHandler` in `REBOOT_STATE_POE_DOWN`, the deadline. -/
def checkDeadline (now : Nat) (port : PortInfo) : PortInfo :=
  let port :=
    port.raiseRebootEvent
      (if now ≥ port.portRebootInfo.rebootTimeStart then rebootEventTimerStop
        else rebootEventIdle)
  if port.hasRebootEvent rebootEventTimerStop then port.setRebootState .poeUp else port

/-- `rebootHandler` in `REBOOT_STATE_POE_UP`, up to the test for a manual
request. -/
def powerUp (now : Nat) (port : PortInfo) : PortInfo × List Action :=
  let port := port.clearRebootEvent rebootEventTimerStop
  let actions :=
    if port.poweredByConfig then [.poeControl .rebootHandler .up now] else []
  let port := (port.setState .regular).setRebootState .idle
  let port := port.raiseRebootEvent rebootEventIdle
  ((port.clearError errRebooting).clearError errManualReboot, actions)

/-- `rebootHandler` in `REBOOT_STATE_POE_UP`, the test for a manual request. -/
def reloadAfterManual (clock : LocalClock) (input : TickInput) (port : PortInfo) :
    PortInfo × List Action :=
  if port.hasEvent manualRestart then
    (getPortParam clock input.now input.uninit input.options port.portConfigInfo.portNum
        true ((port.clearEvent manualRestart).clearError errPortShutdown),
      [.portReloaded])
  else (port, [])

def rebootHandler (config : DaemonConfig) (clock : LocalClock) (input : TickInput)
    (port : PortInfo) : PortInfo × List Action :=
  match port.portRebootInfo.rebootState with
  | .idle =>
      let auto := startAuto clock input.now config.maxReset port
      let manual := startManual clock input.now auto.1
      (manual.1, auto.2 ++ manual.2)
  | .init =>
      ((port.setRebootState .poeDown).raiseRebootEvent rebootEventStart, [])
  | .poeDown =>
      let down := powerDown input.now port
      (checkDeadline input.now down.1, down.2)
  | .poeUp =>
      let up := powerUp input.now port
      let reload := reloadAfterManual clock input up.1
      (reload.1, up.2 ++ reload.2)

/-- `alarmHandler`, the scheduled power-off. -/
def alarmDown (clock : LocalClock) (now : Nat) (port : PortInfo) :
    PortInfo × List Action :=
  if port.portConfigInfo.timeDown.status = .enable then
    ({ port.raiseError errPoeDown with
        portConfigInfo.timeDown.status := .disable
        portConfigInfo.poeState := 0
        portConfigInfo.timeStr := getTimeDate clock now
        portResetInfo.totalResetCount := u8 (port.portResetInfo.totalResetCount + 1) },
      [.poeControl .alarmHandler .down now])
  else (port, [])

/-- `alarmHandler`, the scheduled power-on. -/
def alarmUp (now : Nat) (port : PortInfo) : PortInfo × List Action :=
  if port.portConfigInfo.timeUp.status = .enable then
    ({ port.clearError errPoeDown with
        portConfigInfo.timeUp.status := .disable
        portConfigInfo.poeState := 1 },
      [.poeControl .alarmHandler .up now])
  else (port, [])

def alarmHandler (clock : LocalClock) (now : Nat) (port : PortInfo) :
    PortInfo × List Action :=
  let port := portRunTestTime clock now port
  if port.portResetInfo.state ≠ .reboot then
    let down := alarmDown clock now port
    let up := alarmUp now down.1
    (up.1, down.2 ++ up.2)
  else (port, [])

/-- `eventsHandler` in `IDLE_STATE`: a passed test puts the port back to work. -/
def leaveIdle (port : PortInfo) : PortInfo :=
  if port.hasEvent testOk then
    ((port.clearEvent testOk).setState .regular).clearError errPortShutdown
  else port

/-- The handler `eventsHandler` selects by the state of the port. -/
def stateHandler (config : DaemonConfig) (clock : LocalClock) (input : TickInput)
    (port : PortInfo) : PortInfo × List Action :=
  match port.portResetInfo.state with
  | .idle => (leaveIdle port, [])
  | .regular => testErrorHandler config port
  | .reboot => rebootHandler config clock input port

/-- `eventsHandler` for one port. -/
def eventsHandler (config : DaemonConfig) (clock : LocalClock) (input : TickInput)
    (port : PortInfo) : PortInfo × List Action :=
  let handled := stateHandler config clock input port
  if handled.1.portConfigInfo.alarm = .enable then
    let alarm := alarmHandler clock input.now handled.1
    (alarm.1, handled.2 ++ alarm.2)
  else handled

/-- The answer both client commands send about a port. -/
def resetPortAnswer (port : PortInfo) (status : Nat) : ResetPort :=
  { errorCode := port.portResetInfo.errorCode
    status := status
    portNum := port.portConfigInfo.portNum
    resetCount := port.portResetInfo.totalResetCount
    testType := port.portConfigInfo.test
    timeStr := port.portConfigInfo.timeStr }

/-- `cmd_rebootHandler` for the port it names. -/
def cmdRebootHandler (port : PortInfo) : PortInfo × List Action :=
  let (port, status) :=
    if port.portResetInfo.state ≠ .reboot then
      if port.poweredByConfig then
        ((port.setState .reboot).raiseEvent manualRestart, 1)
      else (port, 3)
    else (port.clearEvent manualRestart, 2)
  (port, [.clientReply (resetPortAnswer port status)])

end TfortisPack.Autorestart
