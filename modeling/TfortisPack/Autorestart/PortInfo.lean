import TfortisPack.Library.BitFlags

/-!
# Per-port data of the PoE autorestart daemon

The records of `port_module.h` and the enumerations of `global_includs.h`.
The daemon keeps one `portInfo_t` for each of its eight ports; the client
thread, the test threads and the events thread all write to it.

Flag words (`error_code_t`, `AR_EVENT`, `REBOOT_EVENT_e`) stay machine words,
since the code combines their values with `|=` and `&= (~...)`.  The
`uint8_t` and `uint32_t` counters are natural numbers that every update
reduces modulo the width.
-/

namespace TfortisPack.Autorestart

open TfortisPack.Library

abbrev numPorts : Nat := 8

/-- A port number that passes the check `portNum > 0 && portNum <= NUM_PORTS`
at the top of every function of `port_module.c`. -/
abbrev PortNum := { number : Nat // 0 < number ∧ number ≤ numPorts }

/-- The number of the port in entry `index` of `portInfoArr`. -/
def portNumOf (index : Fin numPorts) : PortNum :=
  ⟨index + 1, Nat.succ_pos _, index.isLt⟩

/-- Stores a value in a `uint8_t`. -/
def u8 (value : Nat) : Nat := value % 256

/-- Stores a value in a `uint32_t`. -/
def u32 (value : Nat) : Nat := value % 4294967296

/-- `bool_t`; `maxBool` is the value of an option that matched neither word. -/
inductive BoolT where
  | disable
  | enable
  | maxBool
  deriving DecidableEq, Repr

/-- `TYPE_OF_TEST_t` below `test_max`. -/
inductive TestType where
  | disable
  | link
  | ping
  | speed
  deriving DecidableEq, Repr

abbrev ErrorCode := BitVec 32

def errPortDisable : ErrorCode := 0x00001
def errTestType : ErrorCode := 0x00002
def errTestLink : ErrorCode := 0x00004
def errTestPing : ErrorCode := 0x00008
def errTestSpeed : ErrorCode := 0x00010
def errTestDisable : ErrorCode := 0x00040
def errPoeDown : ErrorCode := 0x00080
def errNullObj : ErrorCode := 0x00200
def errIpNotValid : ErrorCode := 0x01000
def errPoeDisable : ErrorCode := 0x02000
def errTimeNotValid : ErrorCode := 0x04000
def errSpeedValue : ErrorCode := 0x08000
def errOk : ErrorCode := 0x10000
def errPortShutdown : ErrorCode := 0x20000
def errManualReboot : ErrorCode := 0x40000
def errRebooting : ErrorCode := 0x80000

/-- `AR_STATE` below `MAX_AR_STATE`. -/
inductive ArState where
  | idle
  | regular
  | reboot
  deriving DecidableEq, Repr

abbrev ArEvent := BitVec 32

def idleEvent : ArEvent := 0x00
def testOk : ArEvent := 0x01
def autoRestart : ArEvent := 0x02
def manualRestart : ArEvent := 0x04

inductive RebootState where
  | idle
  | init
  | poeDown
  | poeUp
  deriving DecidableEq, Repr

abbrev RebootEvent := BitVec 32

def rebootEventIdle : RebootEvent := 0x00
def rebootEventStart : RebootEvent := 0x01
def rebootEventTimerStop : RebootEvent := 0x02

/-- `POE_CONTROL` as the daemon uses it. -/
inductive PoeControl where
  | up
  | down
  deriving DecidableEq, Repr

structure TimeHM where
  status : BoolT
  timeH : Nat
  timeM : Nat
  targetTime : Nat
  remainTime : Nat
  deriving DecidableEq, Repr

/-- `port_config_info_t`; the array `timeAlarm` is the pair `timeUp`,
`timeDown`. -/
structure PortConfigInfo where
  host : String
  timeUp : TimeHM
  timeDown : TimeHM
  minSpeed : Nat
  maxSpeed : Nat
  replyTime : Nat
  rxBytePrev : Nat
  rxByteCurrent : Nat
  rxDeltaByte : Nat
  rxSpeedKbit : Nat
  timeCurrent : Nat
  timePrev : Nat
  alarm : BoolT
  portNum : PortNum
  test : TestType
  poeState : Nat
  timeStr : String
  deriving DecidableEq, Repr

structure PortResetInfo where
  resetCount : Nat
  totalResetCount : Nat
  errorTestCount : Nat
  errorCode : ErrorCode
  event : ArEvent
  state : ArState
  deriving DecidableEq, Repr

structure PortRebootInfo where
  rebootState : RebootState
  rebootEvent : RebootEvent
  rebootDelay : Nat
  rebootTimeStart : Nat
  deriving DecidableEq, Repr

/-- `port_state_info_t`, as last read from the switch configuration. -/
structure PortStateInfo where
  portState : BoolT
  poeState : BoolT
  deriving DecidableEq, Repr

structure PortInfo where
  portConfigInfo : PortConfigInfo
  portResetInfo : PortResetInfo
  portStateInfo : PortStateInfo
  portRebootInfo : PortRebootInfo
  deriving DecidableEq, Repr

namespace PortInfo

/-- The error word of the port carries a flag. -/
@[simp]
def hasError (port : PortInfo) (flag : ErrorCode) : Bool :=
  BitFlags.has port.portResetInfo.errorCode flag

/-- The event word of the port carries a flag. -/
@[simp]
def hasEvent (port : PortInfo) (flag : ArEvent) : Bool :=
  BitFlags.has port.portResetInfo.event flag

/-- The reboot event word of the port carries a flag. -/
@[simp]
def hasRebootEvent (port : PortInfo) (flag : RebootEvent) : Bool :=
  BitFlags.has port.portRebootInfo.rebootEvent flag

@[simp]
def raiseError (port : PortInfo) (flag : ErrorCode) : PortInfo :=
  { port with portResetInfo.errorCode := BitFlags.raise port.portResetInfo.errorCode flag }

@[simp]
def clearError (port : PortInfo) (flag : ErrorCode) : PortInfo :=
  { port with portResetInfo.errorCode := BitFlags.clear port.portResetInfo.errorCode flag }

@[simp]
def raiseEvent (port : PortInfo) (flag : ArEvent) : PortInfo :=
  { port with portResetInfo.event := BitFlags.raise port.portResetInfo.event flag }

@[simp]
def clearEvent (port : PortInfo) (flag : ArEvent) : PortInfo :=
  { port with portResetInfo.event := BitFlags.clear port.portResetInfo.event flag }

@[simp]
def raiseRebootEvent (port : PortInfo) (flag : RebootEvent) : PortInfo :=
  { port with
    portRebootInfo.rebootEvent := BitFlags.raise port.portRebootInfo.rebootEvent flag }

@[simp]
def clearRebootEvent (port : PortInfo) (flag : RebootEvent) : PortInfo :=
  { port with
    portRebootInfo.rebootEvent := BitFlags.clear port.portRebootInfo.rebootEvent flag }

@[simp]
def setState (port : PortInfo) (state : ArState) : PortInfo :=
  { port with portResetInfo.state := state }

@[simp]
def setRebootState (port : PortInfo) (rebootState : RebootState) : PortInfo :=
  { port with portRebootInfo.rebootState := rebootState }

/-- Port and PoE were both read as enabled. -/
def poweredByConfig (port : PortInfo) : Prop :=
  port.portStateInfo.portState = .enable ∧ port.portStateInfo.poeState = .enable

instance (port : PortInfo) : Decidable port.poweredByConfig :=
  inferInstanceAs (Decidable (_ ∧ _))

end PortInfo

end TfortisPack.Autorestart
