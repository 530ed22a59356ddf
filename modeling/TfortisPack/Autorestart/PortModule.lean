import TfortisPack.Autorestart.InitModule

/-!
# Tests and reset handlers of one port

`port_module.c`.  Every function works on the entry of its own port, so the
model passes that entry and returns it, together with what the function lets
the outside see: PoE commands, requests it raises, the start of a reset.
-/

namespace TfortisPack.Autorestart

open TfortisPack.Library

/-- The function that issues a `poe_Control` call. -/
inductive Caller where
  | rebootHandler
  | alarmHandler
  deriving DecidableEq, Repr

/-- The reset handlers of `port_module.c`. -/
inductive ResetKind where
  | auto
  | manual
  deriving DecidableEq, Repr

/-- `resetPort_t`, the answer to a client. -/
structure ResetPort where
  errorCode : ErrorCode
  status : Nat
  portNum : PortNum
  resetCount : Nat
  testType : TestType
  timeStr : String
  deriving DecidableEq, Repr

/-- What a step of the daemon does visibly. -/
inductive Action where
  /-- `poe_Control(portNum, control)`. -/
  | poeControl (caller : Caller) (control : PoeControl) (time : Nat)
  /-- `event |= AUTO_RESTART`. -/
  | autoRestartRaised
  /-- `autoResetHandler` or `manualResetHandler` starts a power cycle. -/
  | resetStarted (kind : ResetKind)
  /-- `getPortParam(portNum - 1, 1)`. -/
  | portReloaded
  /-- `d_sendCmd`. -/
  | clientReply (answer : ResetPort)
  deriving DecidableEq, Repr

/-! ## Tests -/

def portRunTestDisable (port : PortInfo) : PortInfo :=
  (port.clearError errOk).raiseError errTestDisable

/-- `port_runTestLink`; `up` is whether `operstate` reads `up`. -/
def portRunTestLink (port : PortInfo) (up : Bool) : PortInfo :=
  let port := (port.clearError errTestLink).raiseError errOk
  if up then
    if port.portConfigInfo.test = .link ∧ port.portResetInfo.state = .idle then
      port.raiseEvent testOk
    else port
  else (port.clearError errOk).raiseError errTestLink

/-- `port_runTestPing`; `reply` is what `ping` finds, the time of a reply or
nothing.  The host is not asked at all while the link test has failed. -/
def portRunTestPing (port : PortInfo) (reply : Option Nat) : PortInfo :=
  let pingResult := if port.hasError errTestLink then none else reply
  match pingResult with
  | none =>
      (({ port with portConfigInfo.replyTime := 0 }).clearError errOk).raiseError
        errTestPing
  | some replyTime =>
      let port :=
        { port with
          portConfigInfo.replyTime := u32 replyTime
          portResetInfo.errorCode := errOk }
      if port.portResetInfo.state = .idle then port.raiseEvent testOk else port

/-- A subtraction of `uint32_t` values. -/
def subU32 (left right : Nat) : Nat := u32 (left + (4294967296 - u32 right))

/-- The branch of `port_runTestSpeed` taken while the link is up: the counters
are read and differenced; the result holds `delta_time` and `rx_delta_bit`. -/
def readRxBytes (port : PortInfo) (rxBytes now : Nat) : PortInfo × Nat × Nat :=
  let port := (port.clearError errTestSpeed).raiseError errOk
  -- `strtol` saturates at the largest `long` before the cast to `int32_t`
  let current := u32 (min rxBytes 2147483647)
  let deltaByte := subU32 current port.portConfigInfo.rxBytePrev
  let deltaTime := subU32 (u32 now) port.portConfigInfo.timePrev
  ({ port with
      portConfigInfo.rxByteCurrent := current
      portConfigInfo.rxDeltaByte := deltaByte
      portConfigInfo.rxBytePrev := current
      portConfigInfo.timeCurrent := u32 now
      portConfigInfo.timePrev := u32 now }, deltaTime, u32 (deltaByte * 8))

/-- `port_runTestSpeed`; `rxBytes` is the kernel counter as printed. -/
def portRunTestSpeed (port : PortInfo) (rxBytes now : Nat) : PortInfo :=
  let (port, deltaTime, rxDeltaBit) :=
    if port.hasError errTestLink then (port, 0, 0) else readRxBytes port rxBytes now
  if deltaTime = 0 then
    { (port.clearError errOk).raiseError errTestSpeed with
      portConfigInfo.rxSpeedKbit := rxDeltaBit }
  else
    let rxSpeedKbit := rxDeltaBit / deltaTime / 1000
    let port :=
      if rxSpeedKbit < port.portConfigInfo.minSpeed
          ∨ rxSpeedKbit > port.portConfigInfo.maxSpeed then
        (port.clearError errOk).raiseError errTestSpeed
      else if port.portResetInfo.state = .idle then port.raiseEvent testOk
      else port
    { port with portConfigInfo.rxSpeedKbit := rxSpeedKbit }

def portTimeAlarm (clock : LocalClock) (now : Nat) (alarm : TimeHM) : TimeHM :=
  if now ≥ alarm.targetTime then
    { alarm with
      targetTime := u32 (clock.nextDay now), remainTime := 0, status := .enable }
  else { alarm with remainTime := u32 (alarm.targetTime - now) }

def portRunTestTime (clock : LocalClock) (now : Nat) (port : PortInfo) : PortInfo :=
  { port with
    portConfigInfo.timeUp := portTimeAlarm clock now port.portConfigInfo.timeUp
    portConfigInfo.timeDown := portTimeAlarm clock now port.portConfigInfo.timeDown }

/-! ## Port and PoE state -/

/-- One half of `get_PortAndPoeState`: a value other than `enable` parks the
port in `IDLE_STATE`. -/
def parkUnless (enabled : Bool) (flag : ErrorCode) (port : PortInfo) : PortInfo :=
  if enabled then port
  else ((port.clearError errOk).raiseError flag).setState .idle

/-- `get_PortAndPoeState`; the arguments say whether the `state` and `poe`
options of the port read `enable`. -/
def getPortAndPoeState (port : PortInfo) (portEnabled poeEnabled : Bool) : PortInfo :=
  let port :=
    { port with portStateInfo.portState := if portEnabled then .enable else .disable }
  let port := parkUnless portEnabled errPortDisable port
  let port :=
    { port with portStateInfo.poeState := if poeEnabled then .enable else .disable }
  parkUnless poeEnabled errPoeDisable port

/-! ## Reset handlers -/

/-- `autoResetHandler` when no reset is left: the port is shut down. -/
def shutdownPort (port : PortInfo) : PortInfo :=
  let port := (port.clearError errRebooting).raiseError errPortShutdown
  setErrorHandler ((port.setRebootState .idle).setState .idle)

/-- `autoResetHandler` when a reset is left: the port is power-cycled. -/
def autoRebootPort (port : PortInfo) : PortInfo :=
  let port :=
    { port with
      portResetInfo.errorTestCount := 0
      portResetInfo.resetCount := u8 (port.portResetInfo.resetCount + 1)
      portResetInfo.totalResetCount := u8 (port.portResetInfo.totalResetCount + 1) }
  (port.raiseError errRebooting).setRebootState .init

def autoResetHandler (clock : LocalClock) (now maxReset : Nat) (port : PortInfo) :
    PortInfo × List Action :=
  let port :=
    ({ port with portConfigInfo.timeStr := getTimeDate clock now }).clearError errOk
  if port.portResetInfo.resetCount ≥ maxReset then (shutdownPort port, [])
  else (autoRebootPort port, [.resetStarted .auto])

def manualResetHandler (clock : LocalClock) (now : Nat) (port : PortInfo) :
    PortInfo × List Action :=
  let port :=
    ({ port with portConfigInfo.timeStr := getTimeDate clock now }).clearError errOk
  let port := (port.clearError errPortShutdown).raiseError errManualReboot
  let port :=
    { port with
      portResetInfo.totalResetCount := u8 (port.portResetInfo.totalResetCount + 1)
      portResetInfo.resetCount := 0
      portResetInfo.errorTestCount := 0 }
  (port.setRebootState .init, [.resetStarted .manual])

end TfortisPack.Autorestart
