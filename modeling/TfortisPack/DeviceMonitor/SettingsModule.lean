import TfortisPack.DeviceMonitor.Listing
import TfortisPack.Library.Texts

/-!
# Settings commands

`settings_module.c` and `split_line` of `parsing.c`.  The text of a settings
message is cut at `#` and each item at `=`.  Every item gets a slot of an array
from `malloc`; a known key fills the slot, and every slot is executed.

A result `none` stands for a step that C leaves undefined: a null pointer is
read, an array is written behind its end, a function pointer is taken from
behind `runSetingsCmd`, or a string has no end.
-/

namespace TfortisPack.DeviceMonitor

open TfortisPack.Library

/-! ## `split_line` -/

/-- `splited_line_t`.  The array of tokens grows with the `uint8_t` that indexes
it, so it has room for every index. -/
structure SplitedLine where
  tokens : UInt8 → Option (List UInt8)
  splitLineMax : UInt8

/-- One iteration of the loop in `split_line`. -/
def SplitedLine.push (line : SplitedLine) (token : List UInt8) : SplitedLine where
  tokens := Function.update line.tokens line.splitLineMax (some token)
  splitLineMax := line.splitLineMax + 1

def splitLine (delim : UInt8) (text : List UInt8) : SplitedLine :=
  let filled := (Texts.tokens delim text).foldl SplitedLine.push
    { tokens := fun _ => none, splitLineMax := 0 }
  { tokens := Function.update filled.tokens filled.splitLineMax none
    splitLineMax := filled.splitLineMax - 1 }

/-- What a loop over the indices 0 to `splitLineMax` reads. -/
def SplitedLine.entries (line : SplitedLine) : List (Option (List UInt8)) :=
  (List.range (line.splitLineMax.toNat + 1)).map fun index => line.tokens (UInt8.ofNat index)

/-! ## Commands -/

/-- `SETTINGS_CMD`. -/
inductive SettingsCmd where
  | defaultAll
  | rebootAll
  | ipAddress
  | netMask
  | gateway
  | systemName
  | systemLocation
  | snmp
  | sysReload
  | netReload
  deriving DecidableEq, Repr

/-- The commands in the order of `runSetingsCmd`. -/
def settingsCmds : List SettingsCmd :=
  [.defaultAll, .rebootAll, .ipAddress, .netMask, .gateway, .systemName, .systemLocation, .snmp,
    .sysReload, .netReload]

def SettingsCmd.index (cmd : SettingsCmd) : Nat :=
  settingsCmds.idxOf cmd

/-- `settings_Table`; the initialiser leaves the last two entries empty. -/
def settingsTable : SettingsCmd → List UInt8
  | .defaultAll => bytesOf "DEFAULT_ALL"
  | .rebootAll => bytesOf "REBOOT_ALL"
  | .ipAddress => bytesOf "IPADDRESS"
  | .netMask => bytesOf "NETMASK"
  | .gateway => bytesOf "GATEWAY"
  | .systemName => bytesOf "SYSTEM_NAME"
  | .systemLocation => bytesOf "SYSTEM_LOCATION"
  | .snmp => bytesOf "SNMP_STATE"
  | .sysReload => []
  | .netReload => []

/-- The search of `getCmdType`. -/
def findCmd (key : List UInt8) : Option SettingsCmd :=
  settingsCmds.find? fun cmd => key = settingsTable cmd

/-- `DYNAMIC_MAP_CMD`. -/
structure Slot where
  cmd : Nat
  value : Vector UInt8 128
  deriving DecidableEq

/-- `strncpy` of a string to the whole of `value`. -/
def copyValue (text : List UInt8) : Vector UInt8 128 :=
  Vector.ofFn fun index => text.getD index 0

/-- The C string at the start of `value`. -/
def stringOf (value : Vector UInt8 128) : Option (List UInt8) :=
  if 0 ∈ value.toList then some (value.toList.takeWhile (· ≠ 0)) else none

def equals : UInt8 := 61

def hash : UInt8 := 35

/-- `getCmdType` for the tokens of an item and its slot. -/
def getCmdType (line : SplitedLine) (slot : Slot) : Option Slot :=
  (line.tokens 0).bind fun key =>
    match findCmd key with
    | none => some slot
    | some cmd =>
        (line.tokens 1).map fun value => { cmd := cmd.index, value := copyValue value }

/-- The loop of `getSettingsCmdArray` from a slot on. -/
def fillSlots (heap : Nat → Slot) : Nat → List (Option (List UInt8)) → Option (List Slot)
  | _, [] => some []
  | index, entry :: rest => do
      let item ← entry
      let slot ← getCmdType (splitLine equals item) (heap index)
      let slots ← fillSlots heap (index + 1) rest
      some (slot :: slots)

/-! ## Handlers -/

/-- `SETTINGS_INFO_t`. -/
structure SettingsInfo where
  setDhcp : Bool
  applyNetwork : Bool
  applySystem : Bool
  deriving DecidableEq, Repr

/-- What `getCmdType` leaves. -/
def SettingsInfo.cleared : SettingsInfo where
  setDhcp := false
  applyNetwork := false
  applySystem := false

/-- What the handlers find on the host. -/
structure SettingsHost where
  /-- The lines that `uci show network.lan.proto` prints. -/
  protoLines : Nat
  locationTestFlag : Bool

inductive SettingsAction where
  /-- A call of `runSetingsCmd[cmd]` for a slot. -/
  | ran (cmd : SettingsCmd) (value : List UInt8)
  /-- A call of `runSetingsCmd[cmd]` to reload. -/
  | reloaded (cmd : SettingsCmd)
  /-- `openPipe`. -/
  | pipe (command : List UInt8)
  deriving DecidableEq

/-- `replaceSymbols` for both brackets. -/
def quote (inData : List UInt8) : List UInt8 :=
  inData.map fun byte => if byte = 91 ∨ byte = 93 then 39 else byte

/-- The string up to the first newline. -/
def firstLine (text : List UInt8) : List UInt8 :=
  text.takeWhile (· ≠ CText.newline)

/-- `strcat` to the start of a command in `mainCommand[128]`. -/
def mainCommand (start added : List UInt8) : Option (List UInt8) :=
  if start.length + added.length < 128 then some (start ++ added) else none

/-- A handler: the commands it runs and the flags it leaves. -/
abbrev Handler := List UInt8 → SettingsInfo → Option (List (List UInt8) × SettingsInfo)

def runReset : Handler
  | _, info => some ([bytesOf "echo 'firstboot -y && reboot'"], info)

def runReboot : Handler
  | _, info => some ([bytesOf "echo 'reboot'"], info)

/-- `runSetIp` sets the address once for every line printed. -/
def runSetIp (host : SettingsHost) : Handler
  | inData, info =>
      let showProto := bytesOf "uci show network.lan.proto"
      if host.protoLines = 0 then some ([showProto], info)
      else
        (mainCommand (bytesOf "uci set network.lan.ipaddr=") (firstLine (quote inData))).map
          fun command =>
            (showProto ::
                (List.replicate host.protoLines
                  [bytesOf "uci set network.lan.proto='static'", command]).flatten,
              { info with applyNetwork := true })

def runSetMask : Handler
  | inData, info =>
      (mainCommand (bytesOf "uci set network.lan.netmask=") (firstLine (quote inData))).map
        fun command => ([command], { info with applyNetwork := true })

/-- `isspace`. -/
def isSpace (byte : UInt8) : Bool :=
  byte = 32 ∨ 9 ≤ byte ∧ byte ≤ 13

def decimalValue (text : List UInt8) : Nat :=
  (text.takeWhile fun byte => 48 ≤ byte && byte ≤ 57).foldl
    (fun number digit => 10 * number + (digit.toNat - 48)) 0

/-- `atoi`; a number that no `int` holds is not reduced. -/
def atoi (text : List UInt8) : Int :=
  match text.dropWhile isSpace with
  | 45 :: rest => -decimalValue rest
  | 43 :: rest => decimalValue rest
  | rest => decimalValue rest

def checkGateWayValid (ip : List UInt8) : Nat :=
  let spaced := ip.map fun byte => if byte = 46 ∨ byte = 91 ∨ byte = 93 then 32 else byte
  let line := splitLine 32 spaced
  if line.splitLineMax ≠ 3 then 5
  else (line.entries.filter fun entry => entry.any fun token => atoi token = 255).length

def runSetGate : Handler
  | inData, info =>
      if checkGateWayValid inData = 0 then
        (mainCommand (bytesOf "uci set network.lan.gateway=") (firstLine (quote inData))).map
          fun command =>
            ([command, bytesOf "uci commit network"], { info with applyNetwork := true })
      else
        some ([bytesOf "uci del network.lan.gateway", bytesOf "uci commit network"],
          { info with applyNetwork := true })

/-- The handlers that do nothing for an empty value. -/
def setIfGiven (start : List UInt8) (added : List UInt8 → List UInt8)
    (behind : List (List UInt8)) (raise : SettingsInfo → SettingsInfo) : Handler
  | inData, info =>
      if inData = [] then some ([], info)
      else (mainCommand start (added inData)).map fun command => (command :: behind, raise info)

/-- With `locationTestFlag` the value keeps what follows its first line. -/
def locationData (host : SettingsHost) (inData : List UInt8) : List UInt8 :=
  if host.locationTestFlag then quote inData else firstLine (quote inData)

def runSetDescription (host : SettingsHost) : Handler :=
  setIfGiven (bytesOf "uci set system.@system[0].description=") (locationData host)
    [bytesOf "uci commit system"] fun info => { info with applySystem := true }

def runSetLocation (host : SettingsHost) : Handler :=
  setIfGiven (bytesOf "uci set system.@system[0].location=") (locationData host)
    [bytesOf "uci commit system"] fun info => { info with applySystem := true }

def runSetSnmp : Handler :=
  setIfGiven (bytesOf "uci set snmpd.general.enabled=") (fun inData => firstLine (quote inData))
    [bytesOf "uci commit snmpd", bytesOf "/etc/init.d/snmpd reload"]
    fun info => { info with applyNetwork := true }

def runSystemRestart : Handler
  | _, info => some ([bytesOf "/etc/init.d/system restart"], info)

def runNetworkRestart : Handler
  | _, info => some ([bytesOf "/etc/init.d/network restart"], info)

/-- `runSetingsCmd`. -/
def runSetingsCmd (host : SettingsHost) : SettingsCmd → Handler
  | .defaultAll => runReset
  | .rebootAll => runReboot
  | .ipAddress => runSetIp host
  | .netMask => runSetMask
  | .gateway => runSetGate
  | .systemName => runSetDescription host
  | .systemLocation => runSetLocation host
  | .snmp => runSetSnmp
  | .sysReload => runSystemRestart
  | .netReload => runNetworkRestart

/-! ## `settings_handler` -/

/-- The loop of `settings_handler`. -/
def runSlots (host : SettingsHost) :
    List Slot → SettingsInfo → Option (List SettingsAction × SettingsInfo)
  | [], info => some ([], info)
  | slot :: rest, info => do
      let cmd ← settingsCmds[slot.cmd]?
      let inData ← stringOf slot.value
      let ran ← runSetingsCmd host cmd inData info
      let later ← runSlots host rest ran.2
      some (.ran cmd inData :: (ran.1.map .pipe ++ later.1), later.2)

/-- A handler called with a blank to reload. -/
def reload (host : SettingsHost) (cmd : SettingsCmd) (info : SettingsInfo) : List SettingsAction :=
  match runSetingsCmd host cmd [32] info with
  | none => []
  | some ran => .reloaded cmd :: ran.1.map .pipe

/-- `settings_handler` for filled slots. -/
def settingsHandler (host : SettingsHost) (slots : List Slot) :
    Option (List SettingsAction × SettingsInfo) :=
  (runSlots host slots .cleared).map fun ran =>
    (ran.1 ++ (if ran.2.applySystem then reload host .sysReload ran.2 else []) ++
      (if ran.2.applyNetwork then reload host .netReload ran.2 else []), ran.2)

/-- The part of `client_settings` behind the two checks; the result of `malloc`
is null or an array with anything in it.  The code returned is `OK` or
`ERR_OBJ_NOT_FOUND`. -/
def runSettings (host : SettingsHost) (heap : Option (Nat → Slot)) (text : List UInt8)
    (info : SettingsInfo) : Option (UInt8 × List SettingsAction × SettingsInfo) :=
  match heap with
  | none => some (3, [], info)
  | some heap => do
      let slots ← fillSlots heap 0 (splitLine hash text).entries
      let handled ← settingsHandler host slots
      some (0, handled)

end TfortisPack.DeviceMonitor
