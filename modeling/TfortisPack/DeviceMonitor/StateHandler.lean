import TfortisPack.DeviceMonitor.Parsing
import TfortisPack.Library.BitFlags

/-!
# Settings requests

`client_settings` copies a datagram into `settingsMsg`, lets two checks clear
their bit of `passFlag` and runs the commands of the message when both bits are
left.  The state `CLIENT_STATE_SETTINGS` then turns `settingsMsg` into the
acknowledgement, which is what the next request finds there.
-/

namespace TfortisPack.DeviceMonitor

open TfortisPack.Library

def errAuthentication : UInt8 := 1

def infoMacNotIdentical : UInt8 := 6

def requestSetConfig : UInt8 := 0xE2

def ackToSetConfig : UInt8 := 0xE3

abbrev PassFlag := BitVec 32

def passMac : PassFlag := 0x001

def passMd5 : PassFlag := 0x002

/-- When `passFlag |= check()` reads `passFlag`; C allows both. -/
inductive ReadOrder where
  | beforeCall
  | afterCall
  deriving Repr, DecidableEq

/-- What the C standard leaves to the compiler. -/
structure Platform where
  macRead : ReadOrder
  md5Read : ReadOrder
  charSigned : Bool

/-- What the daemon finds on its host while it handles a request. -/
structure Host where
  json : Jansson
  /-- `searchOutMsg.struct1.mac` as `getNETinfo` leaves it -/
  mac : Vector UInt8 6
  config : Configuration
  /-- `hash_data` before anything is stored there -/
  stack : Vector UInt8 32
  /-- `split_line`, `getSettingsCmdArray` and `settings_handler`: the code they
  return and `settingsMsg` as they leave it -/
  commands : Vector UInt8 1070 → UInt8 × Vector UInt8 1070

/-- A settings datagram as `recvfrom` returns it. -/
structure SettingsDatagram where
  bytes : List UInt8
  isSettings : bytes.head? = some requestSetConfig
  fits : bytes.length ≤ 1550

/-- The globals between two requests.  Each request clears `pass_md5` up to the
code it puts in front. -/
structure SettingsMsg where
  buff : Vector UInt8 1070
  passFlag : PassFlag
  passCleared : ∀ index, 8 ≤ index → (within : index < 39) → buff[index] = 0

/-- Static storage starts as zeros. -/
def SettingsMsg.initial : SettingsMsg where
  buff := Vector.replicate 1070 0
  passFlag := 0
  passCleared := by simp

def macField (buff : Vector UInt8 1070) : List UInt8 :=
  (buff.toList.drop 1).take 6

def passField (buff : Vector UInt8 1070) : List UInt8 :=
  (buff.toList.drop 7).take 32

/-- The C string at `settings_struct.msg`. -/
def messageText (buff : Vector UInt8 1070) : List UInt8 :=
  (buff.toList.drop 39).takeWhile (· ≠ 0)

/-- `net_getCommand` puts a NUL behind the received bytes, and `getBuffer`
copies both.  A datagram of more than 1069 bytes is copied past the end of
`settMsg.buff`; the bytes behind it are not part of the model. -/
def getBuffer (buff : Vector UInt8 1070) (datagram : SettingsDatagram) : Vector UInt8 1070 :=
  CText.store buff datagram.bytes

/-- `passFlag |= check()`, for a check given by the flags it leaves and the
flags it returns. -/
def orAssign (order : ReadOrder) (check : PassFlag → PassFlag × PassFlag)
    (passFlag : PassFlag) : PassFlag :=
  match order with
  | .beforeCall => BitFlags.raise passFlag (check passFlag).2
  | .afterCall => BitFlags.raise (check passFlag).1 (check passFlag).2

/-- The loop of `checkMacAddress`, left at the first difference. -/
def macLoop : List UInt8 → List UInt8 → PassFlag → PassFlag
  | device :: devices, received :: others, passFlag =>
      if device ≠ received then
        BitFlags.clear passFlag passMac
      else
        macLoop devices others passFlag
  | _, _, passFlag => passFlag

def checkMacAddress (host : Host) (buff : Vector UInt8 1070) (passFlag : PassFlag) :
    PassFlag × PassFlag :=
  let checked := macLoop host.mac.toList (macField buff) passFlag
  (checked, checked)

/-- A `char` in a comparison. -/
def charValue (signed : Bool) (byte : UInt8) : Int :=
  if signed = true ∧ 128 ≤ byte then (byte.toNat : Int) - 256 else byte.toNat

/-- `hash_data` after the listing has been read. -/
def hashData (host : Host) : Vector UInt8 32 :=
  (CText.pieces 127 host.config.listing).foldl
    (fun data output =>
      if bytesOf "hash" <:+: output then
        getDataFormJson host.json output (bytesOf "hash") data
      else
        data)
    (CText.store host.stack [])

/-- The loop over the digits, which goes on after a difference. -/
def md5Loop (charSigned : Bool) : List UInt8 → List UInt8 → PassFlag → PassFlag
  | received :: others, hash :: hashes, passFlag =>
      md5Loop charSigned others hashes
        (if (received.toNat : Int) ≠ charValue charSigned hash then
          BitFlags.clear passFlag passMd5
        else
          passFlag)
  | _, _, passFlag => passFlag

def checkMD5Sum (charSigned : Bool) (host : Host) (buff : Vector UInt8 1070)
    (passFlag : PassFlag) : PassFlag × PassFlag :=
  let checked := md5Loop charSigned (passField buff) (hashData host).toList passFlag
  (checked, checked)

inductive Verdict where
  | executed (message : List UInt8)
  | authenticationFailed
  | macNotIdentical
  deriving Repr, DecidableEq

/-- `client_settings`: the verdict, the returned code and the globals. -/
def clientSettings (platform : Platform) (host : Host) (settings : SettingsMsg)
    (datagram : SettingsDatagram) : Verdict × UInt8 × Vector UInt8 1070 × PassFlag :=
  let raised := BitFlags.raise (BitFlags.raise settings.passFlag passMac) passMd5
  let buff := getBuffer settings.buff datagram
  let macChecked := orAssign platform.macRead (checkMacAddress host buff) raised
  let passFlag := orAssign platform.md5Read (checkMD5Sum platform.charSigned host buff) macChecked
  if BitFlags.has passFlag passMac then
    if BitFlags.has passFlag passMd5 then
      let done := host.commands buff
      (.executed (messageText buff), done.1, done.2, passFlag)
    else
      (.authenticationFailed, errAuthentication, buff, passFlag)
  else
    (.macNotIdentical, infoMacNotIdentical, buff, passFlag)

/-- `settingsMsg` as the acknowledgement. -/
def acknowledge (buff : Vector UInt8 1070) (errorCode : UInt8) : Vector UInt8 1070 :=
  Vector.ofFn fun index =>
    if index.val = 0 then ackToSetConfig
    else if index.val = 7 then errorCode
    else if 7 ≤ index.val ∧ index.val < 39 then 0
    else buff[index.val]

/-- The state `CLIENT_STATE_SETTINGS` of `client_handler`. -/
def handleSettings (platform : Platform) (host : Host) (settings : SettingsMsg)
    (datagram : SettingsDatagram) : Verdict × SettingsMsg :=
  let answer := clientSettings platform host settings datagram
  (answer.1,
    { buff := acknowledge answer.2.2.1 answer.2.1
      passFlag := answer.2.2.2
      passCleared := by
        intro index behindCode within
        have notType : index ≠ 0 := by omega
        have notCode : index ≠ 7 := by omega
        have inPass : 7 ≤ index ∧ index < 39 := ⟨by omega, within⟩
        simp [acknowledge, notType, notCode, inPass] })

end TfortisPack.DeviceMonitor
