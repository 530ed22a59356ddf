import TfortisPack.DeviceMonitor.NetUtils
import TfortisPack.DeviceMonitor.SettingsModule
import TfortisPack.Library.Runs

/-!
# The main loop

`client_app` calls `client_handler` for ever.  A call does what its state asks
for: it waits for a datagram, fills one part of the discovery answer, sends an
answer, executes a settings message or reloads the services.  Between the calls
everything is kept in static data.
-/

namespace TfortisPack.DeviceMonitor

open TfortisPack.Library

/-! ## Static data -/

/-- `CLIENT_STATE_e`. -/
inductive ClientState where
  | idle
  | init
  | wait
  | fillMsg
  | send
  | settings
  | reload
  deriving DecidableEq, Repr

/-- `CLIENT_EVENT_e`, as a set of bits. -/
abbrev ClientEvent := BitVec 32

def eventIdle : ClientEvent := 0x0000

def eventFind : ClientEvent := 0x0002

def eventMsgReady : ClientEvent := 0x0008

def eventSettings : ClientEvent := 0x0010

def eventUpdate : ClientEvent := 0x0020

def eventNetReload : ClientEvent := 0x0040

def eventSysReload : ClientEvent := 0x0080

/-- `TYPE_MSG_e`. -/
inductive TypeMsg where
  | idle
  | searchMsg
  | settingsMsg
  | reload
  deriving DecidableEq, Repr

/-- The functions registered in `eventFillMsg_CallbackArray`. -/
inductive FillCallback where
  | getDeviceInfo
  | getNETinfo
  | getTimeInfo
  | getBoardInfo
  | getSystemInfo
  deriving DecidableEq, Repr

/-- The functions registered in `eventSendMsg_CallbackArray`. -/
inductive SendCallback where
  | clientSendSearchMsg
  | clientSendSettMsg
  deriving DecidableEq, Repr

/-- `search_out_msg_t`. -/
abbrev SearchOutMsg := Vector UInt8 444

/-- The static data of the daemon. -/
structure Client where
  state : ClientState
  event : ClientEvent
  msgType : TypeMsg
  count : Nat
  fillCallbacks : Vector (Option FillCallback) 5
  sendCallbacks : TypeMsg → Option SendCallback
  searchOutMsg : SearchOutMsg
  settings : SettingsMsg
  settingsInfo : SettingsInfo
  net : Net

def Client.initial : Client where
  state := .init
  event := eventIdle
  msgType := .idle
  count := 0
  fillCallbacks := Vector.replicate 5 none
  sendCallbacks := fun _ => none
  searchOutMsg := Vector.replicate 444 0
  settings := .initial
  settingsInfo := .cleared
  net := { buffer := Vector.replicate 1550 0, bufferLen := 0 }

/-- What a call of `client_handler` finds, in whatever state it is made. -/
structure Call where
  /-- The result of `recvfrom`; `none` is -1. -/
  received : Option Datagram
  json : Jansson
  config : Configuration
  /-- `hash_data` before anything is stored there. -/
  stack : Vector UInt8 32
  settingsHost : SettingsHost
  /-- The array that `malloc` returns. -/
  heap : Option (Nat → Slot)
  /-- What a callback makes of `searchOutMsg`. -/
  fill : FillCallback → SearchOutMsg → SearchOutMsg
  /-- The words behind `eventFillMsg_CallbackArray`: null, or something that is
  called with `searchOutMsg` and returns. -/
  behind : Nat → Option (SearchOutMsg → SearchOutMsg)

inductive ClientAction where
  /-- `eventFillMsg_CallbackArray[index]` is read. -/
  | fillRead (index : Nat)
  | filled (callback : FillCallback)
  /-- A word behind the array is called. -/
  | calledBehind (index : Nat)
  /-- `split_line` is called for the text of a settings message. -/
  | tokenised (text : List UInt8)
  | settings (action : SettingsAction)
  /-- `net_sendMsg` is called and hands these bytes to `sendto`. -/
  | sent (callback : SendCallback) (bytes : List UInt8)
  deriving DecidableEq

/-! ## Callbacks -/

/-- `client_registerEvent_fillmsg` takes the first free place, if there is one. -/
def registerEventFillmsg (callbacks : Vector (Option FillCallback) 5) (callback : FillCallback) :
    Vector (Option FillCallback) 5 :=
  callbacks.setIfInBounds (callbacks.toList.idxOf none) (some callback)

/-- `client_registerEvent_sendmsg`. -/
def Client.registerEventSendmsg (client : Client) (callback : SendCallback) : Client :=
  match client.sendCallbacks client.msgType with
  | none =>
      { client with
        sendCallbacks := Function.update client.sendCallbacks client.msgType (some callback) }
  | some _ => client

/-- `client_unRegisterEvent_sendmsg`. -/
def Client.unRegisterEventSendmsg (client : Client) : Client :=
  { client with sendCallbacks := Function.update client.sendCallbacks client.msgType none }

def cmdMax : Nat := 10

/-- The word at the place `count` of `eventFillMsg_CallbackArray` is called
unless it is null. -/
def Client.callFill (client : Client) (call : Call) : SearchOutMsg × List ClientAction :=
  match client.fillCallbacks[client.count]? with
  | some none => (client.searchOutMsg, [])
  | some (some callback) => (call.fill callback client.searchOutMsg, [.filled callback])
  | none =>
      match call.behind client.count with
      | none => (client.searchOutMsg, [])
      | some other => (other client.searchOutMsg, [.calledBehind client.count])

/-- `client_emitEvent_fillmsg`; the array has 5 places and is read up to
`CMD_MAX`. -/
def Client.emitEventFillmsg (client : Client) (call : Call) : Client × List ClientAction :=
  if client.count < cmdMax then
    let called := client.callFill call
    ({ client with searchOutMsg := called.1, count := client.count + 1 },
      .fillRead client.count :: called.2)
  else
    ({ client with event := BitFlags.raise client.event eventMsgReady }, [])

/-- `client_emitEvent_sendmsg`. -/
def Client.emitEventSendmsg (client : Client) : Client × List ClientAction :=
  match client.sendCallbacks client.msgType with
  | none => (client, [])
  | some .clientSendSearchMsg =>
      let sent := clientSendSearchMsg client.net client.searchOutMsg
      ({ client with net := sent.1 }, [.sent .clientSendSearchMsg sent.2.1])
  | some .clientSendSettMsg =>
      let sent := clientSendSettMsg client.net client.settings.buff
      ({ client with net := sent.1 }, [.sent .clientSendSettMsg sent.2.1])

/-! ## Waiting -/

def requestFindDevice : UInt8 := 0xE0

def ackFindDevice : UInt8 := 0xE1

def requestToUpdate : UInt8 := 0xE4

/-- The switch of `client_waitCommand`. -/
def waitCommand (cmd : UInt8) : ClientEvent :=
  if cmd = requestFindDevice then eventFind
  else if cmd = requestSetConfig then eventSettings
  else if cmd = requestToUpdate then eventUpdate
  else eventIdle

/-- One of the two checks of `CLIENT_STATE_WAIT`. -/
def Client.take (client : Client) (event : ClientEvent) (msgType : TypeMsg)
    (state : ClientState) : Client :=
  if BitFlags.has client.event event then
    { client with
      msgType := msgType
      event := BitFlags.clear client.event event
      state := state
      count := 0 }
  else client

def Client.wait (client : Client) (received : Option Datagram) : Client :=
  let got := netGetCommand client.net received
  let signalled : Client :=
    { client with net := got.1, event := BitFlags.raise client.event (waitCommand got.2.1) }
  (signalled.take eventFind .searchMsg .fillMsg).take eventSettings .settingsMsg .settings

/-! ## Settings -/

/-- `searchOutMsg.struct1.mac`. -/
def macOf (searchOutMsg : SearchOutMsg) : Vector UInt8 6 :=
  Vector.ofFn fun index => searchOutMsg.get ⟨6 + index.val, by omega⟩

/-- The two calls of `strtok` write a NUL behind each token: behind the items,
and behind the tokens of those that the index has not forgotten. -/
def tokenise : Nat → Bool → Bool → List UInt8 → List UInt8
  | _, _, _, [] => []
  | skipped, inItem, inToken, byte :: rest =>
      if byte = hash then
        (if inItem then 0 else hash) ::
          tokenise (if inItem then skipped - 1 else skipped) false false rest
      else if byte = equals ∧ skipped = 0 then
        (if inToken then 0 else equals) :: tokenise skipped true false rest
      else
        byte :: tokenise skipped true true rest

/-- `settingsMsg` after its text has been split. -/
def splitInPlace (buff : Vector UInt8 1070) : Vector UInt8 1070 :=
  let text := messageText buff
  let items := (Texts.tokens hash text).length
  Vector.ofFn fun index =>
    (buff.toList.take 39 ++ tokenise (items - items % 256) false false text).getD index
      (buff.get index)

/-- What the checks and the commands of a call find. -/
def Call.host (call : Call) (searchOutMsg : SearchOutMsg) (info : SettingsInfo) : Host where
  json := call.json
  mac := macOf searchOutMsg
  config := call.config
  stack := call.stack
  commands := fun buff =>
    (((runSettings call.settingsHost call.heap (messageText buff) info).map Prod.fst).getD 0,
      splitInPlace buff)

/-- `passFlag` after the two checks of `client_settings`. -/
def authenticate (platform : Platform) (host : Host) (passFlag : PassFlag)
    (buff : Vector UInt8 1070) : PassFlag :=
  let raised := BitFlags.raise (BitFlags.raise passFlag passMac) passMd5
  let macChecked := orAssign platform.macRead (checkMacAddress host buff) raised
  orAssign platform.md5Read (checkMD5Sum platform.charSigned host buff) macChecked

def verdictOf (passFlag : PassFlag) (buff : Vector UInt8 1070) : Verdict :=
  if BitFlags.has passFlag passMac then
    if BitFlags.has passFlag passMd5 then .executed (messageText buff)
    else .authenticationFailed
  else .macNotIdentical

theorem acknowledge_cleared (buff : Vector UInt8 1070) (errorCode : UInt8) (index : Nat)
    (behindCode : 8 ≤ index) (within : index < 39) : (acknowledge buff errorCode)[index] = 0 := by
  have notType : index ≠ 0 := by omega
  have notCode : index ≠ 7 := by omega
  have inPass : 7 ≤ index ∧ index < 39 := ⟨by omega, within⟩
  simp [acknowledge, notType, notCode, inPass]

/-- `settingsMsg` becomes the acknowledgement. -/
def Client.acknowledged (client : Client) (buff : Vector UInt8 1070) (errorCode : UInt8) :
    Client :=
  { client with
    settings :=
      { buff := acknowledge buff errorCode
        passFlag := client.settings.passFlag
        passCleared := acknowledge_cleared buff errorCode } }

/-- The events that ask for a reload after the acknowledgement. -/
def reloadEvents (info : SettingsInfo) (event : ClientEvent) : ClientEvent :=
  let system := if info.applySystem then BitFlags.raise event eventSysReload else event
  if info.applyNetwork then BitFlags.raise system eventNetReload else system

/-- `CLIENT_STATE_SETTINGS` behind the call of `client_settings`.  The switch
has no case for `ERR_OBJ_NOT_FOUND`. -/
def Client.answer (client : Client) (buff : Vector UInt8 1070) (errorCode : UInt8) : Client :=
  let acknowledged := client.acknowledged buff errorCode
  if errorCode = errAuthentication then
    { acknowledged.registerEventSendmsg .clientSendSettMsg with state := .send }
  else if errorCode = 0 then
    { acknowledged.registerEventSendmsg .clientSendSettMsg with
      event := reloadEvents client.settingsInfo client.event
      state := .send }
  else if errorCode = infoMacNotIdentical then
    { acknowledged with state := .wait }
  else acknowledged

/-- `settingsMsg.settMsg.buff` after `getBuffer`. -/
def Client.copied (client : Client) : Vector UInt8 1070 :=
  (client.net.getBuffer client.settings.buff).1

/-- The static data after the two checks. -/
def Client.checked (platform : Platform) (client : Client) (call : Call) : Client :=
  let searchOutMsg := call.fill .getNETinfo client.searchOutMsg
  let host := call.host searchOutMsg client.settingsInfo
  { client with
    searchOutMsg := searchOutMsg
    settings :=
      { client.settings with
        passFlag := authenticate platform host client.settings.passFlag client.copied } }

def Client.verdict (platform : Platform) (client : Client) (call : Call) : Verdict :=
  verdictOf (client.checked platform call).settings.passFlag client.copied

/-- `CLIENT_STATE_SETTINGS`. -/
def Client.handleSettings (platform : Platform) (client : Client) (call : Call) :
    Option Client × List ClientAction :=
  let checked := client.checked platform call
  match client.verdict platform call with
  | .macNotIdentical => (some (checked.answer client.copied infoMacNotIdentical), [])
  | .authenticationFailed => (some (checked.answer client.copied errAuthentication), [])
  | .executed text =>
      match runSettings call.settingsHost call.heap text client.settingsInfo with
      | none => (none, [.tokenised text])
      | some (errorCode, actions, info) =>
          (some ({ checked with settingsInfo := info }.answer (splitInPlace client.copied)
              errorCode),
            .tokenised text :: actions.map .settings)

/-! ## The other states -/

/-- `CLIENT_SATE_INIT`; the socket is not modelled. -/
def Client.init (client : Client) : Client :=
  { client with
    state := .wait
    fillCallbacks :=
      [.getDeviceInfo, .getNETinfo, .getTimeInfo, .getBoardInfo, .getSystemInfo].foldl
        registerEventFillmsg client.fillCallbacks }

/-- `msg_type` is set to `ack_find_device`. -/
def setAckType (searchOutMsg : SearchOutMsg) : SearchOutMsg :=
  searchOutMsg.set 0 ackFindDevice

/-- `CLIENT_STATE_FILL_MSG`. -/
def Client.fillMsg (client : Client) (call : Call) : Client × List ClientAction :=
  let filled := client.emitEventFillmsg call
  let typed : Client := { filled.1 with searchOutMsg := setAckType filled.1.searchOutMsg }
  if BitFlags.has typed.event eventMsgReady then
    let cleared : Client := { typed with event := BitFlags.clear typed.event eventMsgReady }
    ({ cleared.registerEventSendmsg .clientSendSearchMsg with state := .send }, filled.2)
  else (typed, filled.2)

/-- `CLIENT_STATE_SEND`. -/
def Client.send (client : Client) : Client × List ClientAction :=
  let emitted := { client with state := .reload }.emitEventSendmsg
  (emitted.1.unRegisterEventSendmsg, emitted.2)

/-- `CLIENT_STATE_RELOAD`. -/
def Client.reload (client : Client) (call : Call) : Client × List ClientAction :=
  let restart := fun event cmd =>
    if BitFlags.has client.event event then
      (DeviceMonitor.reload call.settingsHost cmd client.settingsInfo).map ClientAction.settings
    else []
  ({ client with
      state := .wait
      event := BitFlags.clear (BitFlags.clear client.event eventSysReload) eventNetReload },
    restart eventSysReload .sysReload ++ restart eventNetReload .netReload)

/-- One call of `client_handler`; `none` if it does not return.  The code it
returns is only logged. -/
def clientHandler (platform : Platform) (client : Client) (call : Call) :
    Option Client × List ClientAction :=
  match client.state with
  | .idle => (some client, [])
  | .init => (some client.init, [])
  | .wait => (some (client.wait call.received), [])
  | .fillMsg => ((client.fillMsg call).map some id)
  | .send => (client.send.map some id)
  | .settings => client.handleSettings platform call
  | .reload => ((client.reload call).map some id)

/-- `client_app`. -/
def clientApp (platform : Platform) : Machine (Option Client) Call ClientAction where
  step
    | none, _ => (none, [])
    | some client, call => clientHandler platform client call

end TfortisPack.DeviceMonitor
