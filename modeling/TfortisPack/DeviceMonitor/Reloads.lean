import TfortisPack.DeviceMonitor.Leftovers
import TfortisPack.DeviceMonitor.SettingsText

/-!
# Reloads

A message that changes the configuration has the services reloaded.  This is
asked for twice: `settings_handler` reloads at its end, and the flags it leaves
become events that `CLIENT_STATE_RELOAD` finds behind the acknowledgement.
-/

namespace TfortisPack.DeviceMonitor

open TfortisPack.Library

/-! ## The discipline -/

inductive Service where
  | system
  | network
  deriving DecidableEq, Repr

/-- The service that a command restarts. -/
def restarts : SettingsCmd → Option Service
  | .sysReload => some .system
  | .netReload => some .network
  | _ => none

/-- The configuration that a command changes. -/
def changes : SettingsCmd → Option Service
  | .systemName | .systemLocation => some .system
  | .ipAddress | .netMask | .gateway | .snmp => some .network
  | _ => none

inductive Milestone where
  /-- A settings message has passed both checks. -/
  | accepted
  | ran (cmd : SettingsCmd)
  /-- The acknowledgement has been handed to `net_sendMsg`. -/
  | acknowledged
  deriving DecidableEq, Repr

def milestone : ClientAction → Option Milestone
  | .tokenised _ => some .accepted
  | .settings (.ran cmd _) => some (.ran cmd)
  | .settings (.reloaded cmd) => some (.ran cmd)
  | .sent .clientSendSettMsg _ => some .acknowledged
  | _ => none

/-- What has happened since the last accepted message. -/
structure Reloading where
  acknowledged : Bool
  changed : Service → Bool
  restarted : Service → Bool

def Reloading.start : Reloading where
  acknowledged := false
  changed := fun _ => false
  restarted := fun _ => false

/-- A service is restarted at most once for a message, only if the message
changed its configuration, and only behind the acknowledgement. -/
def reloadMonitor : Monitor Reloading Milestone where
  track memory
    | .accepted => .start
    | .acknowledged => { memory with acknowledged := true }
    | .ran cmd =>
        { memory with
          changed := fun service => memory.changed service || changes cmd = some service
          restarted := fun service => memory.restarted service || restarts cmd = some service }
  allow memory
    | .ran cmd => ∀ service, restarts cmd = some service →
        memory.acknowledged = true ∧ memory.changed service = true ∧
          memory.restarted service = false
    | _ => True

/-! ## Messages that change nothing -/

/-- A command that neither restarts a service nor raises a flag. -/
def QuietCmd (host : SettingsHost) (cmd : SettingsCmd) : Prop :=
  cmd = .defaultAll ∨ cmd = .rebootAll ∨ cmd = .ipAddress ∧ host.protoLines = 0

/-- The command in the slot of an item: the item's own, or for an unknown key
the one that was there. -/
def slotCmd (item : List UInt8) (slot : Slot) : Option SettingsCmd :=
  ((splitLine equals item).tokens 0).bind fun key =>
    match findCmd key with
    | some cmd => some cmd
    | none => settingsCmds[slot.cmd]?

/-- No item runs a command that changes the configuration or restarts a
service. -/
def QuietItems (host : SettingsHost) (heap : Nat → Slot) : Nat → List (List UInt8) → Prop
  | _, [] => True
  | index, item :: rest =>
      (∀ cmd, slotCmd item (heap index) = some cmd → QuietCmd host cmd) ∧
        QuietItems host heap (index + 1) rest

section Quiet

variable {host : SettingsHost}

theorem slotCmd_of_fills {item : List UInt8} {slot filled : Slot}
    (fills : getCmdType (splitLine equals item) slot = some filled) :
    slotCmd item slot = settingsCmds[filled.cmd]? := by
  obtain ⟨key, first, rest⟩ := Option.bind_eq_some_iff.mp fills
  rw [slotCmd, first, Option.bind_some]
  cases known : findCmd key with
  | none =>
      simp only [known, Option.some.injEq] at rest
      subst rest
      rfl
  | some cmd =>
      simp only [known, Option.map_eq_some_iff] at rest
      obtain ⟨value, _, rfl⟩ := rest
      exact (settingsCmds_index cmd).symm

theorem quiet_run {cmd : SettingsCmd} (quiet : QuietCmd host cmd) {inData : List UInt8}
    {info : SettingsInfo} {ran : List (List UInt8) × SettingsInfo}
    (runs : runSetingsCmd host cmd inData info = some ran) :
    ran.2 = info ∧ restarts cmd = none := by
  rcases quiet with rfl | rfl | ⟨rfl, silent⟩
  · simp only [runSetingsCmd, runReset, Option.some.injEq] at runs
    subst runs
    exact ⟨rfl, rfl⟩
  · simp only [runSetingsCmd, runReboot, Option.some.injEq] at runs
    subst runs
    exact ⟨rfl, rfl⟩
  · simp only [runSetingsCmd, runSetIp, silent, if_true, Option.some.injEq] at runs
    subst runs
    exact ⟨rfl, rfl⟩

/-- An action that restarts no service. -/
def NoRestart (action : ClientAction) : Prop :=
  ∀ cmd, milestone action = some (.ran cmd) → restarts cmd = none

theorem noRestart_of_none {action : ClientAction} (isNone : milestone action = none) :
    NoRestart action := by
  intro cmd isRan
  rw [isNone] at isRan
  cases isRan

theorem quiet_runSlots {heap : Nat → Slot} {items : List (List UInt8)} {index : Nat}
    (quiet : QuietItems host heap index items) {slots : List Slot} {info : SettingsInfo}
    {ran : List SettingsAction × SettingsInfo}
    (fills : fillSlots heap index (items.map some) = some slots)
    (runs : runSlots host slots info = some ran) :
    ran.2 = info ∧ ∀ action ∈ ran.1, NoRestart (.settings action) := by
  induction items generalizing index slots info ran with
  | nil =>
      simp only [List.map_nil, fillSlots, Option.some.injEq] at fills
      subst fills
      simp only [runSlots, Option.some.injEq] at runs
      subst runs
      exact ⟨rfl, List.forall_mem_nil _⟩
  | cons item rest inductionHypothesis =>
      obtain ⟨filled, fillsOne, slotsRest, fillsRest, rfl⟩ := fillSlots_cons_eq_some.mp fills
      obtain ⟨cmd, names, value, holds, ranOne, runsOne, later, runsLater, rfl⟩ :=
        runSlots_cons_eq_some.mp runs
      obtain ⟨sameInfo, noRestart⟩ :=
        quiet_run (quiet.1 cmd ((slotCmd_of_fills fillsOne).trans names)) runsOne
      obtain ⟨laterInfo, laterQuiet⟩ := inductionHypothesis quiet.2 fillsRest runsLater
      refine ⟨laterInfo.trans sameInfo, List.forall_mem_cons.mpr ⟨?_, ?_⟩⟩
      · intro other isRan
        obtain rfl := Milestone.ran.inj (Option.some.inj isRan)
        exact noRestart
      · intro action member
        rcases List.mem_append.mp member with isPipe | isLater
        · obtain ⟨command, _, rfl⟩ := List.mem_map.mp isPipe
          exact noRestart_of_none rfl
        · exact laterQuiet action isLater

theorem quiet_runSettings {heap : Nat → Slot} {text : List UInt8}
    (quiet : QuietItems host heap 0 (seen text)) {info after : SettingsInfo}
    {actions : List SettingsAction}
    (runs : runSettings host (some heap) text info = some (0, actions, after)) :
    after = .cleared ∧ ∀ action ∈ actions, NoRestart (.settings action) := by
  obtain ⟨_, slots, ran, fills, runsSlots, rfl⟩ := slots_of_runSettings runs
  obtain ⟨isCleared, noRestart⟩ := quiet_runSlots quiet fills runsSlots
  dsimp only at isCleared
  subst isCleared
  refine ⟨rfl, ?_⟩
  simpa [SettingsInfo.cleared] using noRestart

end Quiet

/-! ## Runs -/

/-- Every text that passes both checks is quiet. -/
def QuietCall (platform : Platform) (state : Option Client) (call : Call) : Prop :=
  ∀ client, state = some client → client.state = .settings →
    ∀ text, client.verdict platform call = .executed text →
      ∀ heap, call.heap = some heap → QuietItems call.settingsHost heap 0 (seen text)

section Run

variable {platform : Platform} {client next : Client} {call : Call}

theorem quiet_fillMsg (call : Call) (settled : Settled client.event) (quiet : NoReload client.event)
    (free : client.sendCallbacks = noCallbacks) :
    NoReload (client.fillMsg call).1.event ∧
      ∀ action ∈ (client.fillMsg call).2, NoRestart action := by
  have silent : ∀ action ∈ (client.callFill call).2, NoRestart action := by
    unfold Client.callFill
    split
    · exact List.forall_mem_nil _
    · exact List.forall_mem_singleton.mpr (noRestart_of_none rfl)
    · split
      · exact List.forall_mem_nil _
      · exact List.forall_mem_singleton.mpr (noRestart_of_none rfl)
  by_cases more : client.count < cmdMax
  · rw [fillMsg_more settled more]
    exact ⟨quiet, List.forall_mem_cons.mpr ⟨noRestart_of_none rfl, silent⟩⟩
  · rw [fillMsg_ready more free]
    exact ⟨noReload_taken quiet (.inr (.inr rfl)), List.forall_mem_nil _⟩

theorem quiet_handleSettings (quiet : NoReload client.event)
    (free : client.sendCallbacks = noCallbacks)
    (quietItems : ∀ text, client.verdict platform call = .executed text →
      ∀ heap, call.heap = some heap → QuietItems call.settingsHost heap 0 (seen text)) :
    (∀ next, (client.handleSettings platform call).1 = some next → NoReload next.event) ∧
      ∀ action ∈ (client.handleSettings platform call).2, NoRestart action := by
  cases verdict : client.verdict platform call with
  | macNotIdentical =>
      obtain ⟨settings, result⟩ := handleSettings_other verdict
      rw [result]
      exact ⟨fun next isNext => Option.some.inj isNext ▸ quiet, List.forall_mem_nil _⟩
  | authenticationFailed =>
      obtain ⟨settings, result⟩ := handleSettings_refused free verdict
      rw [result]
      exact ⟨fun next isNext => Option.some.inj isNext ▸ quiet, List.forall_mem_nil _⟩
  | executed text =>
      have accepts : NoRestart (.tokenised text) := by
        intro cmd isRan
        cases isRan
      cases runs : runSettings call.settingsHost call.heap text client.settingsInfo with
      | none =>
          rw [handleSettings_crash verdict runs]
          refine ⟨fun next isNext => ?_, List.forall_mem_singleton.mpr accepts⟩
          cases isNext
      | some ran =>
          obtain ⟨errorCode, actions, info⟩ := ran
          cases isHeap : call.heap with
          | none =>
              obtain ⟨settings, result⟩ := handleSettings_noMemory verdict isHeap
              rw [result]
              exact ⟨fun next isNext => Option.some.inj isNext ▸ quiet,
                List.forall_mem_singleton.mpr accepts⟩
          | some heap =>
              obtain noMemory | rfl := runSettings_code runs
              · rw [isHeap] at noMemory
                cases noMemory
              · obtain ⟨settings, result⟩ := handleSettings_executed free verdict runs
                rw [isHeap] at runs
                have quietly := quietItems text verdict heap isHeap
                obtain ⟨rfl, noRestart⟩ := quiet_runSettings quietly runs
                rw [result]
                refine ⟨fun next isNext => Option.some.inj isNext ▸ quiet, ?_⟩
                refine List.forall_mem_cons.mpr ⟨accepts, ?_⟩
                intro action member
                obtain ⟨inner, isInner, rfl⟩ := List.mem_map.mp member
                exact noRestart inner isInner

theorem quiet_wait (settled : Settled client.event) (quiet : NoReload client.event)
    (received : Option Datagram) :
    NoReload (client.wait received).event := by
  by_cases isFind : (netGetCommand client.net received).2.1 = requestFindDevice
  · rw [wait_find settled isFind]
    exact noReload_taken quiet (.inl rfl)
  by_cases isSettings : (netGetCommand client.net received).2.1 = requestSetConfig
  · rw [wait_settings settled isSettings]
    exact noReload_taken quiet (.inr (.inl rfl))
  · obtain ⟨added, isAdded, waits⟩ := wait_other settled isFind isSettings
    have addedQuiet : NoReload added := by
      rcases isAdded with rfl | rfl <;> exact ⟨by decide, by decide⟩
    rw [waits]
    exact noReload_raise quiet addedQuiet

theorem quiet_clientHandler (ordered : Ordered client) (quiet : NoReload client.event)
    (quietCall : QuietCall platform (some client) call) :
    (∀ next, (clientHandler platform client call).1 = some next → NoReload next.event) ∧
      ∀ action ∈ (clientHandler platform client call).2, NoRestart action := by
  have phase := ordered.phase
  cases state : client.state with
  | idle =>
      simp only [clientHandler, state]
      exact ⟨fun next isNext => Option.some.inj isNext ▸ quiet, List.forall_mem_nil _⟩
  | init =>
      simp only [clientHandler, state]
      exact ⟨fun next isNext => Option.some.inj isNext ▸ quiet, List.forall_mem_nil _⟩
  | wait =>
      simp only [clientHandler, state]
      exact ⟨fun next isNext =>
        Option.some.inj isNext ▸ quiet_wait ordered.settled quiet call.received,
        List.forall_mem_nil _⟩
  | fillMsg =>
      simp only [Phase, state] at phase
      simp only [clientHandler, state, Prod.map_fst, Prod.map_snd, id_eq]
      obtain ⟨quietNext, noRestart⟩ := quiet_fillMsg call ordered.settled quiet phase.1
      exact ⟨fun next isNext => Option.some.inj isNext ▸ quietNext, noRestart⟩
  | send =>
      obtain ⟨callback, registered⟩ := ordered.callback state
      obtain ⟨net, bytes, sends, _⟩ := send_of_registered registered
      simp only [clientHandler, state, sends, Prod.map_fst, Prod.map_snd, id_eq]
      refine ⟨fun next isNext => Option.some.inj isNext ▸ quiet,
        List.forall_mem_singleton.mpr fun cmd isRan => ?_⟩
      cases callback <;> cases isRan
  | settings =>
      simp only [Phase, state] at phase
      simp only [clientHandler, state]
      exact quiet_handleSettings quiet phase.1 (quietCall client rfl state)
  | reload =>
      simp only [clientHandler, state, Prod.map_fst, Prod.map_snd, id_eq, reload_quiet quiet]
      exact ⟨fun next isNext => Option.some.inj isNext ▸ (reload_settled ordered.settled).2,
        List.forall_mem_nil _⟩

end Run

/-- Nothing is to be reloaded in any state of the daemon. -/
def Calm (state : Option Client) : Prop :=
  ∀ client, state = some client → Ordered client ∧ NoReload client.event

theorem accepts_of_noRestart {actions : List ClientAction}
    (noRestart : ∀ action ∈ actions, NoRestart action) (memory : Reloading) :
    reloadMonitor.Accepts memory (actions.filterMap milestone) := by
  induction actions generalizing memory with
  | nil =>
      trivial
  | cons action rest inductionHypothesis =>
      obtain ⟨one, later⟩ := List.forall_mem_cons.mp noRestart
      cases isMilestone : milestone action with
      | none =>
          rw [List.filterMap_cons_none isMilestone]
          exact inductionHypothesis later memory
      | some reached =>
          rw [List.filterMap_cons_some isMilestone]
          refine ⟨?_, inductionHypothesis later _⟩
          cases reached with
          | accepted => trivial
          | acknowledged => trivial
          | ran cmd =>
              intro service isRestart
              rw [one cmd isMilestone] at isRestart
              cases isRestart

/-- In every run in which no accepted text changes the configuration, the
services are reloaded in order: not at all. -/
theorem reloads_disciplined (platform : Platform) (calls : List Call)
    (quiet : (clientApp platform).AllSteps (QuietCall platform) (some .initial) calls) :
    reloadMonitor.Accepts .start
      (((clientApp platform).outputs (some .initial) calls).filterMap milestone) := by
  have initially : Calm (some .initial) := by
    intro client isInitial
    obtain rfl := Option.some.inj isInitial
    exact ⟨ordered_initial, ⟨by decide, by decide⟩⟩
  have simulates : ∀ memory state call, Calm state → QuietCall platform state call →
      reloadMonitor.Accepts memory (((clientApp platform).emit state call).filterMap milestone) ∧
        Calm ((clientApp platform).next state call) := by
    intro memory state call calm quietCall
    cases state with
    | none =>
        refine ⟨trivial, fun next isNext => ?_⟩
        cases isNext
    | some client =>
        obtain ⟨ordered, noReload⟩ := calm client rfl
        obtain ⟨quietNext, noRestart⟩ := quiet_clientHandler ordered noReload quietCall
        exact ⟨accepts_of_noRestart noRestart memory,
          fun next isNext => ⟨ordered_next ordered isNext, quietNext next isNext⟩⟩
  exact Machine.monitored simulates initially quiet

/-- A user's request with a text. -/
def userMessage (text : List UInt8) (short : text.length ≤ 1000) : Datagram where
  bytes := userRequest.bytes ++ text
  fits := by
    have header : userRequest.bytes.length = 39 := by decide
    rw [List.length_append, header]
    omega

/-- The call that receives a user's request. -/
def receiveCall (text : List UInt8) (short : text.length ≤ 1000) : Call :=
  { userCall with received := some (userMessage text short) }

/-- The call that executes it. -/
def executeCall (heap : Nat → Slot) : Call :=
  { userCall with heap := some heap }

section User

variable {text : List UInt8} (short : text.length ≤ 1000) (noNul : 0 ∉ text) {heap : Nat → Slot}

include noNul in
theorem verdict_userMessage {before : Client}
    (isSearchOut : before.searchOutMsg = Client.initial.init.searchOutMsg)
    (copied : before.copied =
      getBuffer before.settings.buff
        ⟨(userMessage text short).bytes, rfl, (userMessage text short).fits⟩) :
    before.verdict readsAfter (executeCall heap) = .executed text := by
  have header : userRequest.bytes.length = 39 := by decide
  have digits : (executeCall heap).hash.toList = secondHash.bytes := hashData_twoUsers
  have whole : (userMessage text short).bytes =
      requestSetConfig :: (List.replicate 6 0 ++ (secondHash.bytes ++ text)) := by
    simp only [userMessage, userRequest, List.cons_append, List.append_assoc]
  obtain ⟨isMac, isPass⟩ := header_fields requestSetConfig text
    (show (List.replicate 6 (0 : UInt8)).length = 6 by decide)
    (show secondHash.bytes.length = 32 by decide)
  rw [← whole] at isMac isPass
  have isText : (userMessage text short).bytes.drop 39 = text := by
    rw [userMessage, ← header, List.drop_left]
  have length : (userMessage text short).bytes.length = 39 + text.length := by
    rw [userMessage, List.length_append, header]
  have full : 0 ∉ (executeCall heap).hash.toList := by
    rw [digits]
    decide
  have nonzero : ∀ byte ∈ text, decide (byte ≠ 0) = true :=
    fun byte member => decide_eq_true fun zero => noNul (zero ▸ member)
  refine (verdict_executed_iff rfl rfl _ copied (by rw [length]; omega) full text).mpr
    ⟨by rw [length]; omega, ?_, ?_, ?_⟩
  · rw [isSearchOut, isMac]
    show (macOf Client.initial.init.searchOutMsg).toList = _
    decide
  · rw [digits, isPass, agrees_iff]
    exact ⟨rfl, nofun⟩
  · rw [isText, List.takeWhile_eq_self_iff.mpr nonzero]

/-- The call that executes a user's request. -/
theorem user_run (heap : Nat → Slot) :
    ∃ before : Client, before.sendCallbacks = noCallbacks ∧ before.settingsInfo = .cleared ∧
      (clientApp readsAfter).final (some .initial) [userCall, receiveCall text short] =
        some before ∧
      (0 ∉ text → before.verdict readsAfter (executeCall heap) = .executed text) ∧
      (clientApp readsAfter).outputs (some .initial)
          [userCall, receiveCall text short, executeCall heap] =
        (before.handleSettings readsAfter (executeCall heap)).2 := by
  have ordered : Ordered Client.initial.init := ordered_final readsAfter [userCall] rfl
  have received : (receiveCall text short).received = some (userMessage text short) := rfl
  obtain ⟨before, free, isSearchOut, isInfo, copied, isNext, isOutputs⟩ :=
    settings_run readsAfter ordered rfl received rfl (executeCall heap)
  have starts : clientHandler readsAfter .initial userCall = (some Client.initial.init, []) := rfl
  obtain ⟨ends, _⟩ := clientApp_cons starts [receiveCall text short]
  obtain ⟨_, emits⟩ := clientApp_cons starts [receiveCall text short, executeCall heap]
  refine ⟨before, free, isInfo, ?_,
    fun noNul => verdict_userMessage short noNul isSearchOut copied, ?_⟩
  · rw [ends, Machine.final, Machine.final, isNext]
  · rw [emits, isOutputs, List.nil_append]

end User

/-- A request to reboot; irreducible, or the run would be evaluated. -/
@[irreducible]
def rebootCalls : List Call :=
  [userCall, receiveCall (bytesOf "REBOOT_ALL=[1]") (by decide), executeCall fun _ => noSlot]

/-- A request to reboot is executed and restarts no service. -/
theorem reboot_disciplined :
    reloadMonitor.Accepts .start
      (((clientApp readsAfter).outputs (some .initial) rebootCalls).filterMap milestone) := by
  have short : (bytesOf "REBOOT_ALL=[1]").length ≤ 1000 := by decide
  have quiet : (clientApp readsAfter).AllSteps (QuietCall readsAfter) (some .initial)
      rebootCalls := by
    obtain ⟨before, _, _, isFinal, isVerdict, _⟩ := user_run short fun _ => noSlot
    unfold rebootCalls
    refine ⟨?_, ?_, ?_, trivial⟩
    · intro client isInitial isSettings
      obtain rfl := Option.some.inj isInitial
      exact nomatch isSettings
    · intro client isStarted isSettings
      obtain rfl := Option.some.inj isStarted
      exact nomatch isSettings
    · intro client isBefore _ text executed heap isHeap
      obtain rfl := Option.some.inj (isFinal.symm.trans isBefore)
      obtain rfl := Verdict.executed.inj ((isVerdict (by decide)).symm.trans executed)
      obtain rfl := Option.some.inj isHeap
      have isSeen : seen (bytesOf "REBOOT_ALL=[1]") = [bytesOf "REBOOT_ALL=[1]"] := by decide
      have isReboot : slotCmd (bytesOf "REBOOT_ALL=[1]") noSlot = some .rebootAll := by
        decide +kernel
      rw [isSeen]
      refine ⟨fun cmd isCmd => ?_, trivial⟩
      obtain rfl := Option.some.inj (isReboot.symm.trans isCmd)
      exact Or.inr (Or.inl rfl)
  exact reloads_disciplined readsAfter rebootCalls quiet

/-- Renaming the system restarts it before the acknowledgement. -/
theorem system_restarted_early :
    ¬∀ calls, reloadMonitor.Accepts .start
      (((clientApp readsAfter).outputs (some .initial) calls).filterMap milestone) := by
  have early : ∀ milestones, milestones = [.accepted, .ran .systemName, .ran .sysReload] →
      ¬reloadMonitor.Accepts .start milestones := by
    rintro _ rfl accepted
    exact absurd (accepted.2.2.1 .system rfl).1 (by decide)
  have runs : ∃ actions info, runSettings userCall.settingsHost (some fun _ => noSlot)
      (bytesOf "SYSTEM_NAME=[x]") .cleared = some (0, actions, info) ∧
      (ClientAction.tokenised (bytesOf "SYSTEM_NAME=[x]") :: actions.map .settings).filterMap
        milestone = [.accepted, .ran .systemName, .ran .sysReload] := by
    refine ⟨_, _, rfl, ?_⟩
    decide +kernel
  obtain ⟨actions, info, result, milestones⟩ := runs
  have short : (bytesOf "SYSTEM_NAME=[x]").length ≤ 1000 := by decide
  obtain ⟨before, free, isInfo, _, isVerdict, isOutputs⟩ := user_run short fun _ => noSlot
  obtain ⟨settings, handled⟩ :=
    handleSettings_executed free (isVerdict (by decide)) (by rw [isInfo]; exact result)
  intro always
  refine early _ ?_ (always [userCall, receiveCall (bytesOf "SYSTEM_NAME=[x]") short,
    executeCall fun _ => noSlot])
  rw [isOutputs, handled, milestones]

end TfortisPack.DeviceMonitor
