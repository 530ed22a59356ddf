import TfortisPack.DeviceMonitor.Client

/-!
# Phases of a request

What each call of `client_handler` leaves: a request found in `WAIT` goes
through `FILL_MSG` or `SETTINGS` to `SEND` and `RELOAD`, and each phase finds
the callbacks and the events that the one before it has set.
-/

namespace TfortisPack.DeviceMonitor

open TfortisPack.Library

/-! ## The states one by one -/

/-- Requests and the ready message have been taken up. -/
structure Settled (event : ClientEvent) : Prop where
  find : BitFlags.has event eventFind = false
  settings : BitFlags.has event eventSettings = false
  ready : BitFlags.has event eventMsgReady = false

/-- No service is to be reloaded. -/
structure NoReload (event : ClientEvent) : Prop where
  system : BitFlags.has event eventSysReload = false
  network : BitFlags.has event eventNetReload = false

/-- No send callback is registered. -/
def noCallbacks : TypeMsg → Option SendCallback :=
  fun _ => none

section Wait

variable {client : Client} {received : Option Datagram}

theorem settled_raise {event added : ClientEvent} (settled : Settled event)
    (addedSettled : Settled added) : Settled (BitFlags.raise event added) where
  find := by rw [BitFlags.has_raise_of_disjoint addedSettled.find, settled.find]
  settings := by rw [BitFlags.has_raise_of_disjoint addedSettled.settings, settled.settings]
  ready := by rw [BitFlags.has_raise_of_disjoint addedSettled.ready, settled.ready]

theorem noReload_raise {event added : ClientEvent} (quiet : NoReload event)
    (addedQuiet : NoReload added) : NoReload (BitFlags.raise event added) where
  system := by rw [BitFlags.has_raise_of_disjoint addedQuiet.system, quiet.system]
  network := by rw [BitFlags.has_raise_of_disjoint addedQuiet.network, quiet.network]

theorem has_raise_clear {event bit mask : ClientEvent} (apart : BitFlags.has bit mask = false) :
    BitFlags.has (BitFlags.clear (BitFlags.raise event bit) bit) mask =
      BitFlags.has event mask := by
  rw [BitFlags.has_clear_of_disjoint apart, BitFlags.has_raise_of_disjoint apart]

/-- The events after a request has been taken up. -/
def taken (event bit : ClientEvent) : ClientEvent :=
  BitFlags.clear (BitFlags.raise event bit) bit

theorem wait_find (settled : Settled client.event)
    (isFind : (netGetCommand client.net received).2.1 = requestFindDevice) :
    client.wait received =
      { client with
        net := (netGetCommand client.net received).1
        event := taken client.event eventFind
        msgType := .searchMsg
        state := .fillMsg
        count := 0 } := by
  have isRaised : waitCommand requestFindDevice = eventFind := by decide
  have hasFind : BitFlags.has (BitFlags.raise client.event eventFind) eventFind = true :=
    BitFlags.has_raise_self (by decide)
  have noSettings : BitFlags.has (BitFlags.clear (BitFlags.raise client.event eventFind) eventFind)
      eventSettings = false := by
    rw [has_raise_clear (by decide), settled.settings]
  simp only [Client.wait, isFind, isRaised, Client.take, hasFind, if_true, noSettings,
    Bool.false_eq_true, if_false, taken]

theorem wait_settings (settled : Settled client.event)
    (isSettings : (netGetCommand client.net received).2.1 = requestSetConfig) :
    client.wait received =
      { client with
        net := (netGetCommand client.net received).1
        event := taken client.event eventSettings
        msgType := .settingsMsg
        state := .settings
        count := 0 } := by
  have isRaised : waitCommand requestSetConfig = eventSettings := by decide
  have noFind : BitFlags.has (BitFlags.raise client.event eventSettings) eventFind = false := by
    rw [BitFlags.has_raise_of_disjoint (by decide), settled.find]
  have hasSettings : BitFlags.has (BitFlags.raise client.event eventSettings) eventSettings =
      true := BitFlags.has_raise_self (by decide)
  simp only [Client.wait, isSettings, isRaised, Client.take, noFind, hasSettings, if_true,
    Bool.false_eq_true, if_false, taken]

theorem wait_other (settled : Settled client.event)
    (notFind : (netGetCommand client.net received).2.1 ≠ requestFindDevice)
    (notSettings : (netGetCommand client.net received).2.1 ≠ requestSetConfig) :
    ∃ added, (added = eventUpdate ∨ added = eventIdle) ∧
      client.wait received =
        { client with
          net := (netGetCommand client.net received).1
          event := BitFlags.raise client.event added } := by
  generalize isCommand : waitCommand (netGetCommand client.net received).2.1 = added
  have cases : added = eventUpdate ∨ added = eventIdle := by
    rw [← isCommand, waitCommand, if_neg notFind, if_neg notSettings]
    split
    · exact Or.inl rfl
    · exact Or.inr rfl
  have addedSettled : Settled added := by
    rcases cases with rfl | rfl <;> exact ⟨by decide, by decide, by decide⟩
  have raised := settled_raise settled addedSettled
  refine ⟨added, cases, ?_⟩
  simp only [Client.wait, isCommand, Client.take, raised.find, raised.settings, Bool.false_eq_true,
    if_false]

end Wait

section Fill

variable {client : Client} {call : Call}

theorem fillMsg_more (settled : Settled client.event) (more : client.count < cmdMax) :
    client.fillMsg call =
      ({ client with
          searchOutMsg := setAckType (client.callFill call).1
          count := client.count + 1 },
        .fillRead client.count :: (client.callFill call).2) := by
  simp only [Client.fillMsg, Client.emitEventFillmsg, more, if_true, settled.ready,
    Bool.false_eq_true, if_false]

theorem fillMsg_ready (full : ¬client.count < cmdMax)
    (free : client.sendCallbacks = noCallbacks) :
    client.fillMsg call =
      ({ client with
          searchOutMsg := setAckType client.searchOutMsg
          event := taken client.event eventMsgReady
          sendCallbacks := Function.update noCallbacks client.msgType (some .clientSendSearchMsg)
          state := .send }, []) := by
  have ready : BitFlags.has (BitFlags.raise client.event eventMsgReady) eventMsgReady = true :=
    BitFlags.has_raise_self (by decide)
  simp only [Client.fillMsg, Client.emitEventFillmsg, full, if_false, ready, if_true,
    Client.registerEventSendmsg, free, noCallbacks, taken]

end Fill

section Send

variable {client : Client}

theorem send_of_registered {callback : SendCallback}
    (registered : client.sendCallbacks =
      Function.update noCallbacks client.msgType (some callback)) :
    ∃ net bytes,
      client.send =
          ({ client with net := net, sendCallbacks := noCallbacks, state := .reload },
            [.sent callback bytes]) ∧
        (callback = .clientSendSearchMsg →
          (net, bytes) = ((clientSendSearchMsg client.net client.searchOutMsg).1,
            (clientSendSearchMsg client.net client.searchOutMsg).2.1)) := by
  have found : client.sendCallbacks client.msgType = some callback := by
    rw [registered, Function.update_self]
  have removed : Function.update client.sendCallbacks client.msgType none = noCallbacks := by
    rw [registered, Function.update_idem]
    exact Function.update_eq_self _ _
  cases callback with
  | clientSendSearchMsg =>
      refine ⟨_, _, ?_, fun _ => rfl⟩
      simp only [Client.send, Client.emitEventSendmsg, found, Client.unRegisterEventSendmsg,
        removed]
  | clientSendSettMsg =>
      refine ⟨(clientSendSettMsg client.net client.settings.buff).1,
        (clientSendSettMsg client.net client.settings.buff).2.1, ?_, nofun⟩
      simp only [Client.send, Client.emitEventSendmsg, found, Client.unRegisterEventSendmsg,
        removed]

end Send

section Settings

variable {platform : Platform} {client : Client} {call : Call}

theorem handleSettings_other (isOther : client.verdict platform call = .macNotIdentical) :
    ∃ settings,
      client.handleSettings platform call =
        (some { client with
            searchOutMsg := call.fill .getNETinfo client.searchOutMsg
            settings := settings
            state := .wait }, []) := by
  refine
    ⟨((client.checked platform call).acknowledged client.copied infoMacNotIdentical).settings, ?_⟩
  simp only [Client.handleSettings, isOther, Client.answer]
  rfl

theorem handleSettings_refused (free : client.sendCallbacks = noCallbacks)
    (isRefused : client.verdict platform call = .authenticationFailed) :
    ∃ settings,
      client.handleSettings platform call =
        (some { client with
            searchOutMsg := call.fill .getNETinfo client.searchOutMsg
            settings := settings
            sendCallbacks := Function.update noCallbacks client.msgType (some .clientSendSettMsg)
            state := .send }, []) := by
  refine
    ⟨((client.checked platform call).acknowledged client.copied errAuthentication).settings, ?_⟩
  simp only [Client.handleSettings, isRefused, Client.answer, if_true, Client.acknowledged,
    Client.registerEventSendmsg, Client.checked, free, noCallbacks]

theorem handleSettings_noMemory {text : List UInt8}
    (isExecuted : client.verdict platform call = .executed text) (noMemory : call.heap = none) :
    ∃ settings,
      client.handleSettings platform call =
        (some { client with
            searchOutMsg := call.fill .getNETinfo client.searchOutMsg
            settings := settings }, [.tokenised text]) := by
  refine ⟨((client.checked platform call).acknowledged (splitInPlace client.copied) 3).settings, ?_⟩
  simp only [Client.handleSettings, isExecuted, noMemory, runSettings, Client.answer]
  rfl

theorem handleSettings_crash {text : List UInt8}
    (isExecuted : client.verdict platform call = .executed text)
    (crash : runSettings call.settingsHost call.heap text client.settingsInfo = none) :
    client.handleSettings platform call = (none, [.tokenised text]) := by
  simp only [Client.handleSettings, isExecuted, crash]

theorem handleSettings_executed {text : List UInt8} {actions : List SettingsAction}
    {info : SettingsInfo} (free : client.sendCallbacks = noCallbacks)
    (isExecuted : client.verdict platform call = .executed text)
    (runs : runSettings call.settingsHost call.heap text client.settingsInfo =
      some (0, actions, info)) :
    ∃ settings,
      client.handleSettings platform call =
        (some { client with
            searchOutMsg := call.fill .getNETinfo client.searchOutMsg
            settings := settings
            settingsInfo := info
            event := reloadEvents info client.event
            sendCallbacks := Function.update noCallbacks client.msgType (some .clientSendSettMsg)
            state := .send },
          .tokenised text :: actions.map .settings) := by
  have noError : (0 : UInt8) ≠ errAuthentication := by decide
  refine ⟨((client.checked platform call).acknowledged (splitInPlace client.copied) 0).settings, ?_⟩
  simp only [Client.handleSettings, isExecuted, runs, Client.answer, noError, if_false, if_true,
    Client.acknowledged, Client.registerEventSendmsg, Client.checked, free, noCallbacks]

theorem runSettings_code {host : SettingsHost} {heap : Option (Nat → Slot)} {text : List UInt8}
    {info after : SettingsInfo} {errorCode : UInt8} {actions : List SettingsAction}
    (runs : runSettings host heap text info = some (errorCode, actions, after)) :
    heap = none ∨ errorCode = 0 := by
  cases heap with
  | none => exact Or.inl rfl
  | some heap =>
      simp only [runSettings, Option.bind_eq_bind, Option.bind_eq_some_iff, Option.some.injEq,
        Prod.mk.injEq] at runs
      obtain ⟨_, _, _, _, isZero, _⟩ := runs
      exact Or.inr isZero.symm

end Settings

section Reload

variable {client : Client} {call : Call}

theorem reload_quiet (quiet : NoReload client.event) : (client.reload call).2 = [] := by
  simp only [Client.reload, quiet.system, quiet.network, Bool.false_eq_true, if_false,
    List.append_nil]

theorem reload_settled {event : ClientEvent} (settled : Settled event) :
    Settled (BitFlags.clear (BitFlags.clear event eventSysReload) eventNetReload) ∧
      NoReload (BitFlags.clear (BitFlags.clear event eventSysReload) eventNetReload) := by
  have kept : ∀ mask, BitFlags.has eventNetReload mask = false →
      BitFlags.has eventSysReload mask = false →
      BitFlags.has (BitFlags.clear (BitFlags.clear event eventSysReload) eventNetReload) mask =
        BitFlags.has event mask := by
    intro mask notNetwork notSystem
    rw [BitFlags.has_clear_of_disjoint notNetwork, BitFlags.has_clear_of_disjoint notSystem]
  refine ⟨⟨?_, ?_, ?_⟩, ⟨?_, BitFlags.has_clear_self _ _⟩⟩
  · rw [kept _ (by decide) (by decide), settled.find]
  · rw [kept _ (by decide) (by decide), settled.settings]
  · rw [kept _ (by decide) (by decide), settled.ready]
  · rw [BitFlags.has_clear_of_disjoint (by decide), BitFlags.has_clear_self]

end Reload

/-! ## The invariant -/

/-- The callbacks that `CLIENT_SATE_INIT` registers. -/
def allFills : Vector (Option FillCallback) 5 :=
  #v[some .getDeviceInfo, some .getNETinfo, some .getTimeInfo, some .getBoardInfo,
    some .getSystemInfo]

/-- The callback registered for the message that is about to be sent. -/
def Registered (client : Client) (msgType : TypeMsg) (callback : SendCallback) : Prop :=
  client.msgType = msgType ∧
    client.sendCallbacks = Function.update noCallbacks client.msgType (some callback)

/-- What each state finds. -/
def Phase (client : Client) : Prop :=
  match client.state with
  | .idle => False
  | .init =>
      client.sendCallbacks = noCallbacks ∧ NoReload client.event ∧
        client.fillCallbacks = Vector.replicate 5 none
  | .wait => client.sendCallbacks = noCallbacks ∧ NoReload client.event
  | .fillMsg =>
      client.sendCallbacks = noCallbacks ∧ NoReload client.event ∧ client.msgType = .searchMsg ∧
        client.count ≤ cmdMax
  | .settings =>
      client.sendCallbacks = noCallbacks ∧ NoReload client.event ∧ client.msgType = .settingsMsg
  | .send =>
      Registered client .searchMsg .clientSendSearchMsg ∧ NoReload client.event ∨
        Registered client .settingsMsg .clientSendSettMsg
  | .reload => client.sendCallbacks = noCallbacks

/-- The static data between two calls. -/
structure Ordered (client : Client) : Prop where
  settled : Settled client.event
  phase : Phase client
  fills : client.state ≠ .init → client.fillCallbacks = allFills

theorem ordered_initial : Ordered .initial where
  settled := ⟨by decide, by decide, by decide⟩
  phase := ⟨rfl, ⟨by decide, by decide⟩, rfl⟩
  fills := fun notInit => absurd rfl notInit

theorem settled_taken {event bit : ClientEvent} (settled : Settled event)
    (isRequest : bit = eventFind ∨ bit = eventSettings ∨ bit = eventMsgReady) :
    Settled (taken event bit) := by
  have kept : ∀ mask, BitFlags.has event mask = false → BitFlags.has bit mask = false ∨ mask = bit →
      BitFlags.has (taken event bit) mask = false := by
    intro mask absent relation
    rcases relation with apart | rfl
    · rw [taken, has_raise_clear apart, absent]
    · exact BitFlags.has_clear_self _ _
  rcases isRequest with rfl | rfl | rfl <;>
    exact ⟨kept _ settled.find (by decide), kept _ settled.settings (by decide),
      kept _ settled.ready (by decide)⟩

theorem noReload_taken {event bit : ClientEvent} (quiet : NoReload event)
    (isRequest : bit = eventFind ∨ bit = eventSettings ∨ bit = eventMsgReady) :
    NoReload (taken event bit) := by
  rcases isRequest with rfl | rfl | rfl <;>
    exact ⟨by rw [taken, has_raise_clear (by decide), quiet.system],
      by rw [taken, has_raise_clear (by decide), quiet.network]⟩

theorem settled_reloadEvents {event : ClientEvent} (settled : Settled event)
    (info : SettingsInfo) : Settled (reloadEvents info event) := by
  have system : Settled eventSysReload := ⟨by decide, by decide, by decide⟩
  have network : Settled eventNetReload := ⟨by decide, by decide, by decide⟩
  unfold reloadEvents
  split
  · split
    · exact settled_raise (settled_raise settled system) network
    · exact settled_raise settled system
  · split
    · exact settled_raise settled network
    · exact settled

section Step

variable {platform : Platform} {client next : Client} {call : Call}

theorem ordered_wait (ordered : Ordered client) (isWait : client.state = .wait) :
    Ordered (client.wait call.received) := by
  obtain ⟨settled, phase, fills⟩ := ordered
  simp only [Phase, isWait] at phase
  have registered := fills (by rw [isWait]; exact nofun)
  by_cases isFind : (netGetCommand client.net call.received).2.1 = requestFindDevice
  · rw [wait_find settled isFind]
    exact ⟨settled_taken settled (.inl rfl),
      ⟨phase.1, noReload_taken phase.2 (.inl rfl), rfl, Nat.zero_le _⟩, fun _ => registered⟩
  by_cases isSettings : (netGetCommand client.net call.received).2.1 = requestSetConfig
  · rw [wait_settings settled isSettings]
    exact ⟨settled_taken settled (.inr (.inl rfl)),
      ⟨phase.1, noReload_taken phase.2 (.inr (.inl rfl)), rfl⟩, fun _ => registered⟩
  · obtain ⟨added, cases, waits⟩ := wait_other settled isFind isSettings
    have addedSettled : Settled added := by
      rcases cases with rfl | rfl <;> exact ⟨by decide, by decide, by decide⟩
    have addedQuiet : NoReload added := by
      rcases cases with rfl | rfl <;> exact ⟨by decide, by decide⟩
    rw [waits]
    refine ⟨settled_raise settled addedSettled, ?_, fun _ => registered⟩
    simp only [Phase, isWait]
    exact ⟨phase.1, noReload_raise phase.2 addedQuiet⟩

theorem ordered_fillMsg (ordered : Ordered client) (isFill : client.state = .fillMsg) :
    Ordered (client.fillMsg call).1 := by
  obtain ⟨settled, phase, fills⟩ := ordered
  simp only [Phase, isFill] at phase
  obtain ⟨free, quiet, isSearch, within⟩ := phase
  have registered := fills (by rw [isFill]; exact nofun)
  by_cases more : client.count < cmdMax
  · rw [fillMsg_more settled more]
    refine ⟨settled, ?_, fun _ => registered⟩
    simp only [Phase, isFill]
    exact ⟨free, quiet, isSearch, more⟩
  · rw [fillMsg_ready more free]
    exact ⟨settled_taken settled (.inr (.inr rfl)),
      .inl ⟨⟨isSearch, rfl⟩, noReload_taken quiet (.inr (.inr rfl))⟩, fun _ => registered⟩

theorem Ordered.callback (ordered : Ordered client) (isSend : client.state = .send) :
    ∃ callback, client.sendCallbacks =
      Function.update noCallbacks client.msgType (some callback) := by
  have phase := ordered.phase
  simp only [Phase, isSend] at phase
  rcases phase with ⟨search, _⟩ | settings
  · exact ⟨_, search.2⟩
  · exact ⟨_, settings.2⟩

theorem ordered_send (ordered : Ordered client) (isSend : client.state = .send) :
    Ordered client.send.1 := by
  have registered := ordered.fills (by rw [isSend]; exact nofun)
  obtain ⟨_, isCallback⟩ := ordered.callback isSend
  obtain ⟨net, bytes, sends, _⟩ := send_of_registered isCallback
  rw [sends]
  exact ⟨ordered.settled, rfl, fun _ => registered⟩

theorem ordered_handleSettings (ordered : Ordered client) (isSettings : client.state = .settings)
    (returns : (client.handleSettings platform call).1 = some next) : Ordered next := by
  obtain ⟨settled, phase, fills⟩ := ordered
  simp only [Phase, isSettings] at phase
  obtain ⟨free, quiet, isMsg⟩ := phase
  have registered := fills (by rw [isSettings]; exact nofun)
  cases verdict : client.verdict platform call with
  | macNotIdentical =>
      obtain ⟨settings, result⟩ := handleSettings_other verdict
      rw [result, Option.some.injEq] at returns
      subst returns
      exact ⟨settled, ⟨free, quiet⟩, fun _ => registered⟩
  | authenticationFailed =>
      obtain ⟨settings, result⟩ := handleSettings_refused free verdict
      rw [result, Option.some.injEq] at returns
      subst returns
      exact ⟨settled, .inr ⟨isMsg, rfl⟩, fun _ => registered⟩
  | executed text =>
      cases runs : runSettings call.settingsHost call.heap text client.settingsInfo with
      | none =>
          rw [handleSettings_crash verdict runs] at returns
          exact nomatch returns
      | some result =>
          obtain ⟨errorCode, actions, info⟩ := result
          rcases runSettings_code runs with noMemory | rfl
          · obtain ⟨settings, result⟩ := handleSettings_noMemory verdict noMemory
            rw [result, Option.some.injEq] at returns
            subst returns
            refine ⟨settled, ?_, fun _ => registered⟩
            simp only [Phase, isSettings]
            exact ⟨free, quiet, isMsg⟩
          · obtain ⟨settings, result⟩ := handleSettings_executed free verdict runs
            rw [result, Option.some.injEq] at returns
            subst returns
            exact ⟨settled_reloadEvents settled info, .inr ⟨isMsg, rfl⟩, fun _ => registered⟩

/-- Every call keeps the order of the phases, whatever it finds. -/
theorem ordered_next (ordered : Ordered client)
    (returns : (clientHandler platform client call).1 = some next) : Ordered next := by
  cases state : client.state with
  | idle =>
      have impossible := ordered.phase
      simp only [Phase, state] at impossible
  | init =>
      have phase := ordered.phase
      simp only [Phase, state] at phase
      simp only [clientHandler, state, Option.some.injEq] at returns
      subst returns
      refine ⟨ordered.settled, ⟨phase.1, phase.2.1⟩, fun _ => ?_⟩
      simp only [Client.init, phase.2.2]
      rfl
  | wait =>
      simp only [clientHandler, state, Option.some.injEq] at returns
      subst returns
      exact ordered_wait ordered state
  | fillMsg =>
      simp only [clientHandler, state, Prod.map_fst, Option.some.injEq] at returns
      subst returns
      exact ordered_fillMsg ordered state
  | send =>
      simp only [clientHandler, state, Prod.map_fst, Option.some.injEq] at returns
      subst returns
      exact ordered_send ordered state
  | settings =>
      simp only [clientHandler, state] at returns
      exact ordered_handleSettings ordered state returns
  | reload =>
      have phase := ordered.phase
      simp only [Phase, state] at phase
      simp only [clientHandler, state, Prod.map_fst, Option.some.injEq] at returns
      subst returns
      have cleared := reload_settled ordered.settled
      exact ⟨cleared.1, ⟨phase, cleared.2⟩, fun _ => ordered.fills (by rw [state]; exact nofun)⟩

end Step

theorem clientApp_cons {platform : Platform} {client next : Client} {call : Call}
    {actions : List ClientAction}
    (returns : clientHandler platform client call = (some next, actions)) (rest : List Call) :
    (clientApp platform).final (some client) (call :: rest) =
        (clientApp platform).final (some next) rest ∧
      (clientApp platform).outputs (some client) (call :: rest) =
        actions ++ (clientApp platform).outputs (some next) rest := by
  have isNext : (clientApp platform).next (some client) call = some next :=
    congrArg Prod.fst returns
  have isEmit : (clientApp platform).emit (some client) call = actions :=
    congrArg Prod.snd returns
  rw [Machine.final, Machine.outputs, isNext, isEmit]
  exact ⟨rfl, rfl⟩

theorem ordered_final (platform : Platform) (calls : List Call) {client : Client}
    (alive : (clientApp platform).final (some .initial) calls = some client) : Ordered client := by
  have kept : ∀ state call, (∀ client, state = some client → Ordered client) →
      ∀ client, (clientApp platform).next state call = some client → Ordered client := by
    intro state call ordered client isNext
    cases state with
    | none => exact nomatch isNext
    | some before => exact ordered_next (ordered before rfl) isNext
  have initially : ∀ client, some Client.initial = some client → Ordered client := by
    intro client isInitial
    obtain rfl := Option.some.inj isInitial
    exact ordered_initial
  exact Machine.final_of_invariant kept initially calls client alive

end TfortisPack.DeviceMonitor
