import TfortisPack.Hwsys.SockMsgArr
import TfortisPack.Hwsys.Handover

/-!
# What a write changes in the register table

`i2c_setData` copies the client's whole `i2c_data_t` over the entry, where
`i2c_parse_tlv` copies the value alone.  The name, the type, the length and the
handler of a register are therefore those of the last message that wrote it,
and `hwsys_ctrl` sends neither a name nor a handler.
-/

namespace TfortisPack.Hwsys

open TfortisPack.Library

/-! ## Handlers -/

/-- A call that `i2c_events_handler` makes. -/
structure EventCall where
  handler : UInt32
  addr : Register
  value : Vector UInt8 32
  deriving DecidableEq

/-- `i2c_events_handler`; the entries behind the last initialiser have no
handler. -/
def i2cEventsHandler (sockMsgArr : Registers) : List EventCall :=
  tableOrder.filterMap fun register =>
    let entry := sockMsgArr register
    if entry.eventsHandler ≠ 0 then some ⟨entry.eventsHandler, entry.addr, entry.value⟩ else none

/-- Which handler is called for which register. -/
def handlerCalls (sockMsgArr : Registers) : List (Register × UInt32) :=
  (i2cEventsHandler sockMsgArr).map fun call => (call.addr, call.handler)

/-- Each entry holds its own address, as `get_id_by_addr` has found it. -/
def Addressed (sockMsgArr : Registers) : Prop :=
  ∀ register, (sockMsgArr register).addr = register

theorem mem_handlerCalls {sockMsgArr : Registers} (addressed : Addressed sockMsgArr)
    (register : Register) (handler : UInt32) :
    (register, handler) ∈ handlerCalls sockMsgArr ↔
      handler ≠ 0 ∧ (sockMsgArr register).eventsHandler = handler := by
  simp only [handlerCalls, i2cEventsHandler, List.mem_map, List.mem_filterMap]
  constructor
  · rintro ⟨call, ⟨other, _, called⟩, same⟩
    split at called
    · rename_i present
      cases called
      obtain ⟨sameRegister, sameHandler⟩ := Prod.mk.inj same
      rw [addressed other] at sameRegister
      subst sameRegister
      subst sameHandler
      exact ⟨present, rfl⟩
    · cases called
  · rintro ⟨present, rfl⟩
    refine ⟨_, ⟨register, mem_tableOrder register, if_pos present⟩, ?_⟩
    rw [addressed register]

/-- The calls are the same exactly if each register has the same handler. -/
theorem handlerCalls_eq_iff {before after : Registers} (addressedBefore : Addressed before)
    (addressedAfter : Addressed after) :
    handlerCalls after = handlerCalls before ↔
      ∀ register, (after register).eventsHandler = (before register).eventsHandler := by
  constructor
  · intro same register
    by_cases present : (before register).eventsHandler = 0
    · by_contra different
      have calledAfter := (mem_handlerCalls addressedAfter register _).mpr
        ⟨fun zero => different (zero.trans present.symm), rfl⟩
      rw [same, mem_handlerCalls addressedBefore] at calledAfter
      exact different calledAfter.2.symm
    · have calledBefore := (mem_handlerCalls addressedBefore register _).mpr ⟨present, rfl⟩
      rw [← same, mem_handlerCalls addressedAfter] at calledBefore
      exact calledBefore.2
  · intro same
    simp only [handlerCalls, i2cEventsHandler, List.map_filterMap]
    apply List.filterMap_congr
    intro register _
    rw [same register, addressedBefore register, addressedAfter register]
    split <;> rfl

/-! ## The effect of one write -/

/-- The registers other than the written one are as before, the written one
keeps its description, and its value is the client's. -/
structure FieldsKept (before : Registers) (sent : I2cData) (after : Registers) : Prop where
  others : ∀ register, register ≠ sent.addr → after register = before register
  name : (after sent.addr).name = (before sent.addr).name
  addr : (after sent.addr).addr = (before sent.addr).addr
  lenData : (after sent.addr).lenData = (before sent.addr).lenData
  type : (after sent.addr).type = (before sent.addr).type
  eventsHandler : (after sent.addr).eventsHandler = (before sent.addr).eventsHandler
  value : (after sent.addr).value = sent.value

/-- Beside the slot `i2c_write` only the value of the written register changes. -/
def OnlyValueChanged (before : Daemon) (sent : I2cData) (after : Daemon) : Prop :=
  after.writing = before.writing ∧
    after.sockMsgArr =
      Function.update before.sockMsgArr sent.addr
        { before.sockMsgArr sent.addr with value := sent.value }

/-- The message repeats the description that the table holds. -/
structure Repeats (sent entry : I2cData) : Prop where
  name : sent.name = entry.name
  lenData : sent.lenData = entry.lenData
  type : sent.type = entry.type
  eventsHandler : sent.eventsHandler = entry.eventsHandler

/-- The bytes of the value that are not transmitted stand on the stack. -/
def StackAgrees (sent : I2cData) (stack : Vector UInt8 32) : Prop :=
  ∀ i : Fin 32, valueReceived ≤ i.val → stack.get i = sent.value.get i

theorem receiveMsg_get (sent : I2cData) (stack : Vector UInt8 32) (i : Fin 32) :
    (receiveMsg sent stack).value.get i =
      if i.val < valueReceived then sent.value.get i else stack.get i := by
  simp only [receiveMsg]
  exact Vector.getElem_ofFn i.isLt

theorem receiveMsg_value_eq_iff (sent : I2cData) (stack : Vector UInt8 32) :
    (receiveMsg sent stack).value = sent.value ↔ StackAgrees sent stack := by
  constructor
  · intro same i late
    have atIndex := receiveMsg_get sent stack i
    rw [same, if_neg (Nat.not_lt.mpr late)] at atIndex
    exact atIndex.symm
  · intro agrees
    apply Vector.ext
    intro i inside
    have atIndex := receiveMsg_get sent stack ⟨i, inside⟩
    by_cases early : i < valueReceived
    · rw [if_pos early] at atIndex
      exact atIndex
    · rw [if_neg early, agrees ⟨i, inside⟩ (Nat.not_lt.mp early)] at atIndex
      exact atIndex

/-- The entry that a write leaves. -/
def writtenEntry (sent : I2cData) (stack : Vector UInt8 32) : I2cData :=
  { receiveMsg sent stack with lenMsg := i2cMsgSize }

theorem writtenEntry_eq (sent : I2cData) (stack : Vector UInt8 32) :
    writtenEntry sent stack =
      { sent with lenMsg := i2cMsgSize, value := (receiveMsg sent stack).value } := by
  simp only [writtenEntry, receiveMsg]

@[simp] theorem writtenEntry_addr (sent : I2cData) (stack : Vector UInt8 32) :
    (writtenEntry sent stack).addr = sent.addr := by
  rw [writtenEntry_eq]

@[simp] theorem writtenEntry_eventsHandler (sent : I2cData) (stack : Vector UInt8 32) :
    (writtenEntry sent stack).eventsHandler = sent.eventsHandler := by
  rw [writtenEntry_eq]

theorem clientHandler_write (daemon : Daemon) {sent : I2cData} (stack : Vector UInt8 32)
    (isWrite : sent.opcode = .write) :
    (clientHandler daemon sent stack).1 = i2cSetData daemon (writtenEntry sent stack) := by
  have opcode : (receiveMsg sent stack).opcode = .write := by
    simp only [receiveMsg, isWrite]
  simp only [clientHandler, opcode, writtenEntry]

theorem sockMsgArr_write (daemon : Daemon) {sent : I2cData} (stack : Vector UInt8 32)
    (isWrite : sent.opcode = .write) :
    (clientHandler daemon sent stack).1.sockMsgArr =
      Function.update daemon.sockMsgArr sent.addr (writtenEntry sent stack) := by
  rw [clientHandler_write daemon stack isWrite]
  simp only [i2cSetData, writtenEntry_addr]

theorem fieldsKept_write_iff {daemon : Daemon} (addressed : Addressed daemon.sockMsgArr)
    {sent : I2cData} (stack : Vector UInt8 32) (isWrite : sent.opcode = .write) :
    FieldsKept daemon.sockMsgArr sent (clientHandler daemon sent stack).1.sockMsgArr ↔
      Repeats sent (daemon.sockMsgArr sent.addr) ∧ StackAgrees sent stack := by
  rw [sockMsgArr_write daemon stack isWrite, ← receiveMsg_value_eq_iff]
  have atWritten := Function.update_self sent.addr (writtenEntry sent stack) daemon.sockMsgArr
  rw [writtenEntry_eq] at atWritten ⊢
  constructor
  · rintro ⟨_, name, _, lenData, type, eventsHandler, value⟩
    rw [atWritten] at name lenData type eventsHandler value
    exact ⟨⟨name, lenData, type, eventsHandler⟩, value⟩
  · rintro ⟨⟨name, lenData, type, eventsHandler⟩, value⟩
    refine ⟨fun register other => Function.update_of_ne other _ _, ?_, ?_, ?_, ?_, ?_, ?_⟩ <;>
      rw [atWritten]
    · exact name
    · exact (addressed sent.addr).symm
    · exact lenData
    · exact type
    · exact eventsHandler
    · exact value

theorem onlyValueChanged_write_iff {daemon : Daemon} (addressed : Addressed daemon.sockMsgArr)
    {sent : I2cData} (stack : Vector UInt8 32) (isWrite : sent.opcode = .write) :
    OnlyValueChanged daemon sent (clientHandler daemon sent stack).1 ↔
      Repeats sent (daemon.sockMsgArr sent.addr) ∧ StackAgrees sent stack ∧
        (daemon.sockMsgArr sent.addr).opcode = .write ∧
        (daemon.sockMsgArr sent.addr).lenMsg = i2cMsgSize := by
  rw [OnlyValueChanged, sockMsgArr_write daemon stack isWrite, ← receiveMsg_value_eq_iff]
  have sameWriting : (clientHandler daemon sent stack).1.writing = daemon.writing := by
    rw [clientHandler_write daemon stack isWrite]
    rfl
  have own := addressed sent.addr
  simp only [sameWriting, true_and]
  constructor
  · intro sameTable
    have sameEntry := congrFun sameTable sent.addr
    rw [Function.update_self, Function.update_self, writtenEntry_eq, I2cData.mk.injEq] at sameEntry
    obtain ⟨lenMsg, _, name, opcode, lenData, type, eventsHandler, value⟩ := sameEntry
    exact ⟨⟨name, lenData, type, eventsHandler⟩, value, opcode.symm.trans isWrite, lenMsg.symm⟩
  · rintro ⟨⟨name, lenData, type, eventsHandler⟩, value, opcode, lenMsg⟩
    congr 1
    rw [writtenEntry_eq, I2cData.mk.injEq]
    exact ⟨lenMsg.symm, own.symm, name, isWrite.trans opcode.symm, lenData, type, eventsHandler,
      value⟩

/-! ## Sequences of messages -/

/-- `runComHandler`: one message for each accepted connection. -/
def runComHandler : Machine Daemon (I2cData × Vector UInt8 32) Action where
  step daemon message :=
    let handled := clientHandler daemon message.1 message.2
    (handled.1, handled.2.2)

/-- A write carries the handler that its register has. -/
def CarriesHandler (daemon : Daemon) (message : I2cData × Vector UInt8 32) : Prop :=
  message.1.opcode = .write →
    message.1.eventsHandler = (daemon.sockMsgArr message.1.addr).eventsHandler

theorem clientHandler_other (daemon : Daemon) {sent : I2cData} (stack : Vector UInt8 32)
    (other : sent.opcode ≠ .write) (register : Register) :
    ((clientHandler daemon sent stack).1.sockMsgArr register).addr =
        (daemon.sockMsgArr register).addr ∧
      ((clientHandler daemon sent stack).1.sockMsgArr register).eventsHandler =
        (daemon.sockMsgArr register).eventsHandler := by
  have opcode : (receiveMsg sent stack).opcode = sent.opcode := by
    simp only [receiveMsg]
  cases kind : sent.opcode with
  | write => exact absurd kind other
  | reset | idle => simp [clientHandler, opcode, kind]
  | read | response =>
      simp only [clientHandler, opcode, kind, i2cGetData]
      by_cases here : register = (receiveMsg sent stack).addr
      · subst here
        simp only [Function.update_self, and_self]
      · simp only [Function.update_of_ne here, and_self]

theorem addressed_next (daemon : Daemon) (message : I2cData × Vector UInt8 32)
    (addressed : Addressed daemon.sockMsgArr) :
    Addressed (runComHandler.next daemon message).sockMsgArr := by
  intro register
  simp only [Machine.next, runComHandler]
  by_cases isWrite : message.1.opcode = .write
  · rw [sockMsgArr_write daemon message.2 isWrite]
    by_cases here : register = message.1.addr
    · rw [here, Function.update_self, writtenEntry_addr]
    · rw [Function.update_of_ne here]
      exact addressed register
  · rw [(clientHandler_other daemon message.2 isWrite register).1]
    exact addressed register

/-- One message keeps the handlers exactly if a write carries its register's. -/
theorem sameHandlers_next_iff (daemon : Daemon) (message : I2cData × Vector UInt8 32) :
    (∀ register, ((runComHandler.next daemon message).sockMsgArr register).eventsHandler =
        (daemon.sockMsgArr register).eventsHandler) ↔
      CarriesHandler daemon message := by
  simp only [Machine.next, runComHandler]
  by_cases isWrite : message.1.opcode = .write
  · rw [sockMsgArr_write daemon message.2 isWrite]
    constructor
    · intro same _
      have atWritten := same message.1.addr
      rw [Function.update_self, writtenEntry_eventsHandler] at atWritten
      exact atWritten
    · intro carries register
      by_cases here : register = message.1.addr
      · rw [here, Function.update_self, writtenEntry_eventsHandler]
        exact carries isWrite
      · rw [Function.update_of_ne here]
  · refine ⟨fun _ write => absurd write isWrite, fun _ register => ?_⟩
    exact (clientHandler_other daemon message.2 isWrite register).2

theorem handlerCalls_run_iff {daemon : Daemon} (addressed : Addressed daemon.sockMsgArr)
    (messages : List (I2cData × Vector UInt8 32)) :
    runComHandler.AllStates
        (fun state => handlerCalls state.sockMsgArr = handlerCalls daemon.sockMsgArr)
        daemon messages ↔
      runComHandler.AllSteps CarriesHandler daemon messages := by
  refine Machine.allStates_iff_allSteps addressed_next ?_ addressed rfl
  intro state message addressedState sameCalls
  rw [← sameCalls, handlerCalls_eq_iff addressedState (addressed_next state message addressedState)]
  exact sameHandlers_next_iff state message

/-! ## The frame of a write -/

/-- A write keeps the description of its register and stores the client's bytes
exactly if the message repeats the description and the bytes that were not
transmitted stand on the stack; that nothing else in the entry changes needs
moreover an entry that was written before.  A sequence of messages leaves the
calls of `i2c_events_handler` alone exactly if each write carries the handler
of its register. -/
theorem write_frame_iff (daemon : Daemon) (addressed : Addressed daemon.sockMsgArr) :
    (∀ sent stack, sent.opcode = .write →
      (OnlyValueChanged daemon sent (clientHandler daemon sent stack).1 ↔
        Repeats sent (daemon.sockMsgArr sent.addr) ∧ StackAgrees sent stack ∧
          (daemon.sockMsgArr sent.addr).opcode = .write ∧
          (daemon.sockMsgArr sent.addr).lenMsg = i2cMsgSize)) ∧
      (∀ sent stack, sent.opcode = .write →
        (FieldsKept daemon.sockMsgArr sent (clientHandler daemon sent stack).1.sockMsgArr ↔
          Repeats sent (daemon.sockMsgArr sent.addr) ∧ StackAgrees sent stack)) ∧
      ∀ messages,
        (runComHandler.AllStates
            (fun state => handlerCalls state.sockMsgArr = handlerCalls daemon.sockMsgArr)
            daemon messages ↔
          runComHandler.AllSteps CarriesHandler daemon messages) := by
  refine ⟨?_, ?_, handlerCalls_run_iff addressed⟩
  · intro sent stack isWrite
    exact onlyValueChanged_write_iff addressed stack isWrite
  · intro sent stack isWrite
    exact fieldsKept_write_iff addressed stack isWrite

/-- The daemon with its handlers somewhere in memory. -/
def linked : Daemon :=
  started fun register => UInt32.ofNat (4096 + 16 * register.1)

theorem addressed_linked : Addressed linked.sockMsgArr :=
  fun _ => rfl

/-- A message that repeats the entry of the relay keeps it. -/
theorem write_kept_by_repeating :
    Addressed linked.sockMsgArr ∧
      FieldsKept linked.sockMsgArr { linked.sockMsgArr relay1 with opcode := .write }
        (clientHandler linked { linked.sockMsgArr relay1 with opcode := .write }
          (linked.sockMsgArr relay1).value).1.sockMsgArr := by
  refine ⟨addressed_linked, ((write_frame_iff linked addressed_linked).2.1 _ _ rfl).mpr ⟨?_, ?_⟩⟩
  · exact ⟨rfl, rfl, rfl, rfl⟩
  · exact fun _ _ => rfl

theorem relay1_handled : (linked.sockMsgArr relay1).eventsHandler ≠ 0 := by
  decide +kernel

/-- `hwsys_ctrl relay set 1` takes the handler of the relay away. -/
theorem ctrl_write_loses_handler :
    (¬∀ sent stack, sent.opcode = .write →
      FieldsKept linked.sockMsgArr sent (clientHandler linked sent stack).1.sockMsgArr) ∧
      handlerCalls
          (clientHandler linked (i2cSetHandler (i2cParamFor relay1) 1)
            (Vector.replicate 32 0)).1.sockMsgArr ≠
        handlerCalls linked.sockMsgArr := by
  have isWrite : (i2cSetHandler (i2cParamFor relay1) 1).opcode = .write := rfl
  have noHandler : (i2cSetHandler (i2cParamFor relay1) 1).eventsHandler = 0 := rfl
  constructor
  · intro always
    have kept := always (i2cSetHandler (i2cParamFor relay1) 1) (Vector.replicate 32 0) isWrite
    have repeats := ((fieldsKept_write_iff addressed_linked _ isWrite).mp kept).1
    exact relay1_handled (repeats.eventsHandler.symm.trans noHandler)
  · intro sameCalls
    have carries := ((handlerCalls_run_iff addressed_linked
      [(i2cSetHandler (i2cParamFor relay1) 1, Vector.replicate 32 0)]).mp ⟨rfl, sameCalls⟩).1
    exact relay1_handled ((carries isWrite).symm.trans noHandler)

end TfortisPack.Hwsys
