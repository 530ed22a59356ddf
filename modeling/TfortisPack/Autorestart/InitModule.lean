import TfortisPack.Autorestart.PortInfo

/-!
# Reading the configuration of a port

`init_module.c` and the parameter setters of `port_module.c`.  The answer of
`ubus call uci get` for one section is a `PortSection`: the option values as
the two JSON helpers deliver them, `none` where the helper reports that the
option is missing.  The values of `localtime` and `mktime` depend on the time
zone, so they are a `LocalClock` that the environment supplies.

`utils_module.c` declares its own `ERR_OK = 0`, so a successful address or
time check contributes no flag, unlike `ERR_OK` of `global_includs.h`.
-/

namespace TfortisPack.Autorestart

open TfortisPack.Library

/-- The fields of `struct tm` that `getTimeDate` prints. -/
structure Tm where
  hour : Nat
  min : Nat
  sec : Nat
  mon : Nat
  year : Nat
  deriving DecidableEq, Repr

/-- The calendar functions of the C library in the local time zone. -/
structure LocalClock where
  /-- `mktime` of the day of `now` at `hour:minute:00`. -/
  todayAt : (now hour minute : Nat) → Nat
  /-- `mktime` of the day after `now` at `hour:minute:00`. -/
  tomorrowAt : (now hour minute : Nat) → Nat
  /-- `mktime` of `localtime(now)` with `tm_mday += 1`. -/
  nextDay : (now : Nat) → Nat
  /-- `localtime`. -/
  localtime : (now : Nat) → Tm

/-- The option values of one `lan` section of `tf_autorestart`. -/
structure PortSection where
  state : Option String
  alarm : Option String
  host : Option String
  maxSpeed : Option String
  minSpeed : Option String
  timeUp : Option String
  timeDown : Option String
  deriving DecidableEq, Repr

/-- The daemon options in `init_configOptions`; `getConfig` lets no value above
60 through. -/
structure DaemonConfig where
  testDelay : Nat
  testNum : Nat
  maxReset : Nat
  testDelay_le : testDelay ≤ 60
  testNum_le : testNum ≤ 60
  maxReset_le : maxReset ≤ 60
  deriving DecidableEq, Repr

/-! ## Text conversions of the C library -/

/-- `isspace` in the C locale. -/
def isSpace (char : Char) : Bool :=
  char = ' ' || (9 ≤ char.toNat && char.toNat ≤ 13)

def digitsValue (digits : List Char) : Nat :=
  digits.foldl (fun value digit => 10 * value + (digit.toNat - '0'.toNat)) 0

/-- One `%d` conversion: leading blanks, an optional sign, at least one digit. -/
def scanInt (text : List Char) : Option (Int × List Char) :=
  let (negative, unsigned) :=
    match text.dropWhile isSpace with
    | '-' :: rest => (true, rest)
    | '+' :: rest => (false, rest)
    | rest => (false, rest)
  match unsigned.takeWhile Char.isDigit with
  | [] => none
  | digits =>
      let magnitude : Int := digitsValue digits
      some (if negative then -magnitude else magnitude, unsigned.dropWhile Char.isDigit)

/-- `strtol(text, NULL, 10)` with the 32-bit `long` of the target. -/
def strtol (text : String) : Int :=
  match scanInt text.toList with
  | none => 0
  | some (value, _) => max (-2147483648) (min value 2147483647)

/-- `checkValidIp`: four groups of one to three digits separated by dots. -/
def checkValidIp (ip : String) : Bool :=
  let groups := ip.toList.splitOn '.'
  groups.length = 4 &&
    groups.all fun group =>
      1 ≤ group.length && group.length ≤ 3 && group.all Char.isDigit

/-- `isValidTime`: `sscanf(timeString, "%d:%d")` and the range checks; the
result is the pair stored in `tm_hour`, `tm_min` when the return value is 0. -/
def isValidTime (timeString : String) : Option (Nat × Nat) := do
  let (hour, rest) ← scanInt timeString.toList
  match rest with
  | ':' :: minuteText =>
      let (minute, _) ← scanInt minuteText
      if hour < 0 || hour > 23 || minute < 0 || minute > 59 then none
      else some (hour.toNat, minute.toNat)
  | _ => none

def monthTable : List String :=
  ["\n", "January", "February", "March", "April", "May", "June", "Julie", "August",
    "September", "October", "November", "December"]

/-- The conversion `%0<width>d` of a natural number. -/
def zeroPadded (width value : Nat) : String :=
  let digits := toString value
  String.ofList (List.replicate (width - digits.length) '0') ++ digits

/-- `getTimeDate`; the day of the month is never filled in. -/
def getTimeDate (clock : LocalClock) (now : Nat) : String :=
  let timeinfo := clock.localtime now
  zeroPadded 2 timeinfo.hour ++ ":" ++ zeroPadded 2 timeinfo.min ++ ":"
    ++ zeroPadded 2 timeinfo.sec ++ ", " ++ monthTable.getD (timeinfo.mon + 1) ""
    ++ "-" ++ zeroPadded 4 (timeinfo.year % 65536 + 1900)

/-! ## Daemon options -/

/-- One option of `getConfig`: stored in a `uint8_t`, and replaced by its
default when it exceeds 60. -/
def configOption (default : Nat) (text : String) : Nat :=
  let value := (strtol text % 256).toNat
  if value > 60 then default else value

theorem configOption_le {default : Nat} (within : default ≤ 60) (text : String) :
    configOption default text ≤ 60 := by
  unfold configOption
  dsimp only
  split
  · exact within
  · omega

/-- `getConfig`, on the texts of the three options. -/
def getConfig (testDelay testNum maxReset : String) : DaemonConfig where
  testDelay := configOption 3 testDelay
  testNum := configOption 10 testNum
  maxReset := configOption 3 maxReset
  testDelay_le := configOption_le (by decide) testDelay
  testNum_le := configOption_le (by decide) testNum
  maxReset_le := configOption_le (by decide) maxReset

/-! ## Setters -/

/-- `getCmdKey`; `none` is `test_max`. -/
def getCmdKey (text : String) : Option TestType :=
  if text = "disable" then some .disable
  else if text = "link" then some .link
  else if text = "ping" then some .ping
  else if text = "speed" then some .speed
  else none

def getAlarmSate (text : String) : BoolT :=
  if text = "disable" then .disable
  else if text = "enable" then .enable
  else .maxBool

/-- `setHost` and `port_setHostParam`. -/
def setHost (config : PortConfigInfo) (options : PortSection) :
    PortConfigInfo × ErrorCode :=
  match options.host with
  | none => (config, errIpNotValid)
  | some host =>
      ({ config with host := host }, if checkValidIp host then 0 else errIpNotValid)

def portSetSpeedParam (config : PortConfigInfo) (max min : Nat) :
    PortConfigInfo × ErrorCode :=
  if min > max then (config, errSpeedValue)
  else if max < 10 || max > 1000000 then (config, errSpeedValue)
  else
    let config := { config with maxSpeed := max }
    if min < 10 || min > 1000000 then (config, errSpeedValue)
    else ({ config with minSpeed := min }, errOk)

/-- A value stored in the `uint16_t` variables of `setSpeed`. -/
def u16OfInt (value : Int) : Nat := (value % 65536).toNat

/-- `setSpeed`; `uninit` is the indeterminate initial value of its local
`errorCode`. -/
def setSpeed (uninit : ErrorCode) (config : PortConfigInfo) (options : PortSection) :
    PortConfigInfo × ErrorCode :=
  let (speedMax, errorCode) :=
    match options.maxSpeed with
    | none => (0, errSpeedValue)
    | some text => (u16OfInt (strtol text), uninit)
  let (speedMin, errorCode) :=
    match options.minSpeed with
    | none => (0, errSpeedValue)
    | some text => (u16OfInt (strtol text), errorCode)
  if errorCode ≠ errSpeedValue then portSetSpeedParam config speedMax speedMin
  else (config, errorCode)

theorem setSpeed_missing {options : PortSection} (uninit : ErrorCode) (config : PortConfigInfo)
    (missing : options.maxSpeed = none ∨ options.minSpeed = none) :
    setSpeed uninit config options = (config, errSpeedValue) := by
  cases min : options.minSpeed with
  | none =>
      simp [setSpeed, min]
  | some minText =>
      have max : options.maxSpeed = none := missing.resolve_right (by simp [min])
      simp [setSpeed, min, max]

theorem setSpeed_present {options : PortSection} {maxText minText : String}
    (uninit : ErrorCode) (config : PortConfigInfo)
    (max : options.maxSpeed = some maxText) (min : options.minSpeed = some minText) :
    setSpeed uninit config options =
      if uninit ≠ errSpeedValue then
        portSetSpeedParam config (u16OfInt (strtol maxText)) (u16OfInt (strtol minText))
      else (config, uninit) := by
  simp only [setSpeed, max, min]

/-- The part of `port_setTimeParam` that stores one of the two times. -/
def setTargetTime (clock : LocalClock) (now : Nat) (alarm : TimeHM)
    (time : Nat × Nat) : TimeHM :=
  let today := u32 (clock.todayAt now time.1 time.2)
  { alarm with
    timeH := time.1
    timeM := time.2
    targetTime :=
      if now ≥ today then u32 (clock.tomorrowAt now time.1 time.2) else today }

/-- `port_setTimeParam`; the second time is stored only if both are valid. -/
def portSetTimeParam (clock : LocalClock) (now : Nat) (config : PortConfigInfo)
    (timeUp timeDown : String) : PortConfigInfo × ErrorCode :=
  match isValidTime timeUp with
  | none => (config, BitFlags.raise errOk errTimeNotValid)
  | some up =>
      let config := { config with timeUp := setTargetTime clock now config.timeUp up }
      match isValidTime timeDown with
      | none => (config, BitFlags.raise errOk errTimeNotValid)
      | some down =>
          ({ config with timeDown := setTargetTime clock now config.timeDown down }, errOk)

def setTime (clock : LocalClock) (now : Nat) (config : PortConfigInfo)
    (options : PortSection) : PortConfigInfo × ErrorCode :=
  match options.timeUp, options.timeDown with
  | some timeUp, some timeDown => portSetTimeParam clock now config timeUp timeDown
  | _, _ => (config, BitFlags.raise errOk errTimeNotValid)

def setConfigZeroValue (now : Nat) (config : PortConfigInfo) (isReboot : Bool) :
    PortConfigInfo :=
  let config :=
    { config with
      minSpeed := 0, maxSpeed := 0, rxDeltaByte := 0, rxByteCurrent := 0,
      rxBytePrev := 0, rxSpeedKbit := 0, timeCurrent := u32 now }
  if isReboot then config
  else
    { config with
      host := "0.0.0.0"
      timeDown := { config.timeDown with status := .disable, timeH := 25, timeM := 61 }
      timeUp := { config.timeUp with status := .disable, timeH := 27, timeM := 62 }
      timeStr := "" }

def setResetZeroValue (reset : PortResetInfo) (isReboot : Bool) : PortResetInfo :=
  { reset with
    errorCode := errOk
    totalResetCount := if isReboot then reset.totalResetCount else 0
    resetCount := 0
    errorTestCount := 0
    state := .regular
    event := idleEvent }

/-- `set_errorHandler`: a port with an unusable configuration is not tested. -/
def setErrorHandler (port : PortInfo) : PortInfo :=
  if port.hasError errIpNotValid || port.hasError errTimeNotValid
      || port.hasError errSpeedValue || port.hasError errPortDisable then
    { port with portConfigInfo.test := .disable }
  else port

/-- `setTestConfig[test]` for the enabled tests. -/
def setTestConfig (uninit : ErrorCode) (config : PortConfigInfo)
    (options : PortSection) : PortConfigInfo × ErrorCode :=
  match config.test with
  | .disable => (config, errPortDisable)
  | .link => (config, errOk)
  | .ping => setHost config options
  | .speed => setSpeed uninit config options

/-- The branches of `getPortParam` on the type of test. -/
def setTest (uninit : ErrorCode) (options : PortSection) (port : PortInfo) : PortInfo :=
  match getCmdKey (options.state.getD "") with
  | none => (port.clearError errOk).raiseError errTestType
  | some .disable => (port.clearError errOk).raiseError errTestDisable
  | some test =>
      let result := setTestConfig uninit { port.portConfigInfo with test := test } options
      { port with portConfigInfo := result.1, portResetInfo.errorCode := result.2 }

/-- The last branch of `getPortParam`, which reads the schedule. -/
def setAlarm (clock : LocalClock) (now : Nat) (options : PortSection)
    (port : PortInfo) : PortInfo :=
  if port.portConfigInfo.alarm = .enable then
    let result := setTime clock now port.portConfigInfo options
    { port with
      portConfigInfo :=
        if BitFlags.has result.2 errNullObj then { result.1 with alarm := .disable }
        else result.1 }
  else port

/-- `getPortParam(portNum - 1, isReboot)`. -/
def getPortParam (clock : LocalClock) (now : Nat) (uninit : ErrorCode)
    (options : PortSection) (portNum : PortNum) (isReboot : Bool) (port : PortInfo) :
    PortInfo :=
  let config :=
    { port.portConfigInfo with
      portNum := portNum
      test := .disable
      alarm := getAlarmSate (options.alarm.getD "") }
  let port :=
    { port with
      portConfigInfo := setConfigZeroValue now config isReboot
      portResetInfo := setResetZeroValue port.portResetInfo isReboot }
  setErrorHandler (setAlarm clock now options (setTest uninit options port))

/-- `rebootParamInit` for one port. -/
def rebootParamInit (port : PortInfo) : PortInfo :=
  { port with
    portRebootInfo :=
      { rebootState := .idle
        rebootEvent := rebootEventIdle
        rebootDelay := 15
        rebootTimeStart := 0 } }

/-- The zero-initialised `portInfoArr` entry; its number is the one that
`getPortParam` stores first. -/
def zeroPort (portNum : PortNum) : PortInfo :=
  let zeroTime : TimeHM :=
    { status := .disable, timeH := 0, timeM := 0, targetTime := 0, remainTime := 0 }
  { portConfigInfo :=
      { host := "", timeUp := zeroTime, timeDown := zeroTime, minSpeed := 0, maxSpeed := 0,
        replyTime := 0, rxBytePrev := 0, rxByteCurrent := 0, rxDeltaByte := 0,
        rxSpeedKbit := 0, timeCurrent := 0, timePrev := 0, alarm := .disable, portNum := portNum,
        test := .disable, poeState := 0, timeStr := "" }
    portResetInfo :=
      { resetCount := 0, totalResetCount := 0, errorTestCount := 0, errorCode := 0,
        event := 0, state := .idle }
    portStateInfo := { portState := .disable, poeState := .disable }
    portRebootInfo :=
      { rebootState := .idle, rebootEvent := 0, rebootDelay := 0, rebootTimeStart := 0 } }

/-- A port as `ar_mainInit` leaves it: `getPortParam(index, 0)` followed by
`rebootParamInit`. -/
def bootPort (clock : LocalClock) (now : Nat) (uninit : ErrorCode)
    (options : PortSection) (index : Fin numPorts) : PortInfo :=
  let portNum := portNumOf index
  rebootParamInit (getPortParam clock now uninit options portNum false (zeroPort portNum))

end TfortisPack.Autorestart
