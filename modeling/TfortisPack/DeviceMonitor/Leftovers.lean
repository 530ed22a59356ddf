import TfortisPack.DeviceMonitor.Authentication
import TfortisPack.DeviceMonitor.Discovery

/-!
# Leftovers of earlier datagrams

`buffer` and `settingsMsg` keep what earlier datagrams left behind the end of
the next one.  None of it completes a request: a datagram that ends before its
text leaves a NUL in the password, and the text of a longer one ends with it.
-/

namespace TfortisPack.DeviceMonitor

open TfortisPack.Library

/-- `hash_data` as a call finds it. -/
def Call.hash (call : Call) : Vector UInt8 32 :=
  hashData (call.host (Vector.replicate 444 0) .cleared)

section Copied

variable {net : Net} {datagram : Datagram}

theorem getBuffer_netGetCommand (buff : Vector UInt8 1070) :
    ((netGetCommand net (some datagram)).1.getBuffer buff).1 = CText.store buff datagram.bytes := by
  apply Vector.ext
  intro index within
  have isLength := netGetCommand_bufferLen net datagram
  simp only [Net.getBuffer, CText.store, Vector.getElem_ofFn, isLength]
  by_cases stored : index < datagram.bytes.length
  · rw [if_pos (by omega), dif_pos stored]
    simp only [netGetCommand, CText.store, Vector.getElem_ofFn, dif_pos stored]
  · rw [dif_neg stored]
    by_cases isEnd : index = datagram.bytes.length
    · rw [if_pos (by omega), if_pos isEnd]
      simp only [netGetCommand, CText.store, Vector.getElem_ofFn, dif_neg stored, if_pos isEnd]
    · rw [if_neg (by omega), if_neg isEnd]
      rfl

theorem takeWhile_terminated {bytes rest : List UInt8} {size : Nat} (fits : bytes.length < size) :
    ((bytes ++ 0 :: rest).take size).takeWhile (· ≠ 0) = bytes.takeWhile (· ≠ 0) := by
  obtain ⟨room, rfl⟩ := Nat.exists_eq_add_of_lt fits
  rw [List.take_append, List.take_of_length_le (by omega),
    show bytes.length + room + 1 - bytes.length = room + 1 by omega, List.take_succ_cons,
    List.takeWhile_append]
  split
  · rename_i whole
    rw [List.takeWhile_cons_of_neg (by simp), List.append_nil]
    exact ((List.takeWhile_prefix _).eq_of_length whole).symm
  · rfl

theorem messageText_store (buff : Vector UInt8 1070) {bytes : List UInt8}
    (long : 39 ≤ bytes.length) (short : bytes.length ≤ 1069) :
    messageText (CText.store buff bytes) = (bytes.drop 39).takeWhile (· ≠ 0) := by
  rw [messageText, CText.toList_store, List.drop_take, List.drop_append_of_le_length long]
  exact takeWhile_terminated (by rw [List.length_drop]; omega)

end Copied

section Verdict

variable {platform : Platform} {client : Client} {call : Call}

/-- The tokenizer is called exactly for the text of a message that passed both
checks. -/
theorem tokenised_mem_iff (free : client.sendCallbacks = noCallbacks) (text : List UInt8) :
    .tokenised text ∈ (client.handleSettings platform call).2 ↔
      client.verdict platform call = .executed text := by
  cases verdict : client.verdict platform call with
  | macNotIdentical =>
      obtain ⟨settings, result⟩ := handleSettings_other verdict
      simp [result]
  | authenticationFailed =>
      obtain ⟨settings, result⟩ := handleSettings_refused free verdict
      simp [result]
  | executed own =>
      have emitted : ∃ actions : List SettingsAction,
          (client.handleSettings platform call).2 =
            .tokenised own :: actions.map ClientAction.settings := by
        simp only [Client.handleSettings, verdict]
        split
        · exact ⟨[], rfl⟩
        · exact ⟨_, rfl⟩
      obtain ⟨actions, result⟩ := emitted
      rw [result]
      simp [eq_comm]

theorem verdict_eq (datagram : SettingsDatagram)
    (copied : client.copied = getBuffer client.settings.buff datagram) :
    client.verdict platform call =
      (DeviceMonitor.handleSettings platform
        (call.host (call.fill .getNETinfo client.searchOutMsg) client.settingsInfo) client.settings
        datagram).1 := by
  simp only [Client.verdict, Client.checked, verdictOf, authenticate, copied,
    DeviceMonitor.handleSettings, clientSettings]
  split
  · split
    · rfl
    · rfl
  · rfl

theorem hashData_host (call : Call) (searchOutMsg : SearchOutMsg) (info : SettingsInfo) :
    hashData (call.host searchOutMsg info) = call.hash :=
  rfl

theorem executed_iff (host : Host) (settings : SettingsMsg) (datagram : SettingsDatagram)
    (text : List UInt8) :
    (DeviceMonitor.handleSettings platform host settings datagram).1 = .executed text ↔
      Executes platform host settings datagram ∧
        text = messageText (getBuffer settings.buff datagram) := by
  have own : ∀ message, (DeviceMonitor.handleSettings platform host settings datagram).1 =
      .executed message → message = messageText (getBuffer settings.buff datagram) := by
    intro message
    simp only [DeviceMonitor.handleSettings, clientSettings]
    split
    · split
      · rw [Verdict.executed.injEq]
        exact Eq.symm
      · intro refused
        cases refused
    · intro refused
      cases refused
  constructor
  · intro executed
    exact ⟨⟨text, executed⟩, own text executed⟩
  · rintro ⟨⟨message, executed⟩, isOwn⟩
    rw [executed, own message executed, isOwn]

/-- Without the other reading order, only a datagram with a whole header passes
the checks, and its own fields decide. -/
theorem executed_iff_of_full (macAfter : platform.macRead = .afterCall)
    (md5After : platform.md5Read = .afterCall) {host : Host} {settings : SettingsMsg}
    {datagram : SettingsDatagram} (short : datagram.bytes.length ≤ 1069)
    (full : 0 ∉ (hashData host).toList) (text : List UInt8) :
    (DeviceMonitor.handleSettings platform host settings datagram).1 = .executed text ↔
      39 ≤ datagram.bytes.length ∧ host.mac.toList = (datagram.bytes.drop 1).take 6 ∧
        Agrees platform.charSigned ((datagram.bytes.drop 7).take 32) (hashData host).toList ∧
        text = (datagram.bytes.drop 39).takeWhile (· ≠ 0) := by
  rw [executed_iff, executes_iff, macAfter, md5After]
  simp only [reduceCtorEq, or_false]
  by_cases long : 39 ≤ datagram.bytes.length
  · obtain ⟨isMac, isPass⟩ := fields_of_long settings long
    rw [isMac, isPass, getBuffer, messageText_store settings.buff long short]
    simp only [long, true_and, and_assoc]
  · constructor
    · rintro ⟨⟨_, agrees⟩, _⟩
      have zero : 0 ∈ passField (getBuffer settings.buff datagram) :=
        zero_mem_passField_of_short (by omega)
      rw [((agrees_iff _ _ _).mp agrees).1] at zero
      exact absurd zero full
    · exact fun whole => absurd whole.1 long

theorem verdict_executed_iff (macAfter : platform.macRead = .afterCall)
    (md5After : platform.md5Read = .afterCall) (datagram : SettingsDatagram)
    (copied : client.copied = getBuffer client.settings.buff datagram)
    (short : datagram.bytes.length ≤ 1069) (full : 0 ∉ call.hash.toList) (text : List UInt8) :
    client.verdict platform call = .executed text ↔
      39 ≤ datagram.bytes.length ∧
        (macOf (call.fill .getNETinfo client.searchOutMsg)).toList =
          (datagram.bytes.drop 1).take 6 ∧
        Agrees platform.charSigned ((datagram.bytes.drop 7).take 32) call.hash.toList ∧
        text = (datagram.bytes.drop 39).takeWhile (· ≠ 0) := by
  have isHash := hashData_host call (call.fill .getNETinfo client.searchOutMsg)
    client.settingsInfo
  have isMac : (call.host (call.fill .getNETinfo client.searchOutMsg) client.settingsInfo).mac =
      macOf (call.fill .getNETinfo client.searchOutMsg) := rfl
  rw [← isHash] at full ⊢
  rw [← isMac, verdict_eq datagram copied, executed_iff_of_full macAfter md5After short full]

end Verdict

/-- The two calls that handle a settings datagram: what `CLIENT_STATE_SETTINGS`
finds, and what it does. -/
theorem settings_run (platform : Platform) {client : Client} (ordered : Ordered client)
    (waiting : client.state = .wait) {first : Call} {datagram : Datagram}
    (received : first.received = some datagram)
    (isSettings : datagram.bytes.head? = some requestSetConfig) (second : Call) :
    ∃ before : Client, before.sendCallbacks = noCallbacks ∧
      before.searchOutMsg = client.searchOutMsg ∧
      before.settingsInfo = client.settingsInfo ∧
      before.copied =
        getBuffer before.settings.buff ⟨datagram.bytes, isSettings, datagram.fits⟩ ∧
      (clientApp platform).next (some client) first = some before ∧
      (clientApp platform).outputs (some client) [first, second] =
        (before.handleSettings platform second).2 := by
  have isType : (netGetCommand client.net first.received).2.1 = requestSetConfig := by
    rw [received, netGetCommand_type, List.headD_eq_head?_getD, isSettings]
    rfl
  have waits : clientHandler platform client first = (some (client.wait first.received), []) := by
    simp only [clientHandler, waiting]
  rw [wait_settings ordered.settled isType] at waits
  obtain ⟨_, emits⟩ := clientApp_cons waits [second]
  have phase := ordered.phase
  simp only [Phase, waiting] at phase
  refine ⟨{ client with
    net := (netGetCommand client.net first.received).1
    event := taken client.event eventSettings
    msgType := .settingsMsg
    state := .settings
    count := 0 }, phase.1, rfl, rfl, ?_, congrArg Prod.fst waits, emits.trans ?_⟩
  · simp only [Client.copied, received, getBuffer_netGetCommand, getBuffer]
  · simp only [Machine.outputs, Machine.emit, clientApp, clientHandler, List.nil_append,
      List.append_nil]

/-- A settings datagram of at most 1069 bytes is executed exactly if it holds a
whole header with the device's MAC and the configured hash, and then on its own
text, whatever earlier datagrams have left. -/
theorem leftovers_take_no_part {platform : Platform} (macAfter : platform.macRead = .afterCall)
    (md5After : platform.md5Read = .afterCall) (history : List Call) {client : Client}
    (alive : (clientApp platform).final (some .initial) history = some client)
    (waiting : client.state = .wait) {first second : Call} {datagram : Datagram}
    (received : first.received = some datagram)
    (isSettings : datagram.bytes.head? = some requestSetConfig)
    (short : datagram.bytes.length ≤ 1069) (full : 0 ∉ second.hash.toList) (text : List UInt8) :
    .tokenised text ∈ (clientApp platform).outputs (some client) [first, second] ↔
      39 ≤ datagram.bytes.length ∧
        (macOf (second.fill .getNETinfo client.searchOutMsg)).toList =
          (datagram.bytes.drop 1).take 6 ∧
        Agrees platform.charSigned ((datagram.bytes.drop 7).take 32) second.hash.toList ∧
        text = (datagram.bytes.drop 39).takeWhile (· ≠ 0) := by
  obtain ⟨before, free, isSearchOut, _, copied, _, isOutputs⟩ :=
    settings_run platform (ordered_final platform history alive) waiting received isSettings second
  rw [isOutputs, tokenised_mem_iff free, verdict_executed_iff macAfter md5After _ copied short full,
    isSearchOut]

/-- A call on a device with two users. -/
def userCall : Call :=
  { sampleCall none with
    json := twoUsers.json
    config := twoUsers.config
    stack := twoUsers.stack }

/-- A whole header with the hash of a user, for a device whose MAC is zero. -/
def userRequest : Datagram where
  bytes := requestSetConfig :: (List.replicate 6 0 ++ secondHash.bytes)
  fits := by decide

/-- The empty text of a whole request is split. -/
theorem user_request_tokenised :
    0 ∉ userCall.hash.toList ∧
      .tokenised [] ∈ (clientApp readsAfter).outputs
        (some Client.initial.init) [sampleCall (some userRequest), userCall] := by
  have digits : userCall.hash.toList = secondHash.bytes := hashData_twoUsers
  have full : 0 ∉ userCall.hash.toList := by
    rw [digits]
    decide
  refine ⟨full, (leftovers_take_no_part rfl rfl [sampleCall none] rfl rfl rfl rfl (by decide) full
    []).mpr ⟨by decide, by decide, ?_, by decide⟩⟩
  rw [digits, agrees_iff]
  decide

end TfortisPack.DeviceMonitor
