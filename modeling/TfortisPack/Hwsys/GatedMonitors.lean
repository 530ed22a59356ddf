import TfortisPack.Hwsys.Contacts
import TfortisPack.Hwsys.RoundTrip
import TfortisPack.Hwsys.Temperatures

/-!
# Monitors that consult another register

`events_handlers.c`.  The handlers of the humidity sensor and of the SFP cages
first fetch another register with `i2c_getData` into a structure on the stack.
They ask for one or two bytes, and `value` begins at byte 48 of the structure:
what they compare is what the stack held before.  The number of bytes they ask
for is left in the table as `lenMSG`.
-/

namespace TfortisPack.Hwsys

/-! ## Fetching a part of a register -/

section Fetching

variable (word : UInt32 → Vector UInt8 4) (padding : Vector UInt8 3 × Vector UInt8 3)

/-- `i2c_getData` with the number of bytes the caller gives; `stack` is what the
target held before. -/
def i2cGetDataBytes (sockMsgArr : Registers) (addr : Register) (len : UInt8)
    (stack : Vector UInt8 80) : Registers × List UInt8 :=
  let entry := { sockMsgArr addr with lenMsg := len }
  (Function.update sockMsgArr addr entry,
    memcpy stack.toList (wireImage word padding entry) len.toNat)

/-- The offset of `value` in `i2c_data_t`. -/
def valueOffset : Nat := 48

/-- The member `value` of a structure in memory. -/
def valueMember (data : List UInt8) : EventValue :=
  Vector.ofFn fun place => data.getD (valueOffset + place.val) 0

/-- What a call leaves: the register table, the static variable and the event. -/
structure Called (σ ε : Type) where
  sockMsgArr : Registers
  prevValue : σ
  event : ε

/-- A handler that goes on if the value of another register is `yes`. -/
def gatedCall {σ : Type} (gate : Register) (handler : UInt8 → σ → EventValue → σ × Event)
    (sockMsgArr : Registers) (stack : Vector UInt8 80) (prevValue : σ)
    (i2cData : EventValue) : Called σ Event :=
  let data := i2cGetDataBytes word padding sockMsgArr gate 1 stack
  let handled := handler (firstByte (valueMember data.2)) prevValue i2cData
  ⟨data.1, handled.1, handled.2⟩

end Fetching

/-! ## Handlers behind a gate -/

def regShtHumidity : Limits := ⟨98, 0⟩

def regSfpVoltage : Limits := ⟨3600, 3000⟩

def regSfpCurrent : Limits := ⟨1000, 900⟩

def regSfpTxBias : Limits := ⟨33500, 32000⟩

def regSfpTxPower : Limits := ⟨65, 55⟩

def regSfpRxPower : Limits := ⟨65, 55⟩

/-- `connected` is `data.value[0]` after the call of `i2c_getData`. -/
def handlerShtHumidity (connected shtHimPrevValue : UInt8) (i2cData : EventValue) :
    UInt8 × Event :=
  if connected = regShtConnectedYes then
    let value := firstByte i2cData
    let event := regShtHumidity.check value.toUInt32 shtHimPrevValue.toUInt32
    let prevValue := if event = .changeValue then value else shtHimPrevValue
    let prevValue := if event = .overMax then value else prevValue
    (if event = .lessMin then value else prevValue, event)
  else (shtHimPrevValue, .ok)

/-- The body that the handlers of the other SFP quantities share. -/
def sfpHandler (limits : Limits) (present : UInt8) (prevValue : UInt16)
    (i2cData : EventValue) : UInt16 × Event :=
  if present = regSfpPresentYes then voltageHandler limits prevValue i2cData
  else (prevValue, .ok)

def handlerSfp1Voltage : UInt8 → UInt16 → EventValue → UInt16 × Event :=
  sfpHandler regSfpVoltage

def handlerSfp2Voltage : UInt8 → UInt16 → EventValue → UInt16 × Event :=
  sfpHandler regSfpVoltage

def handlerSfp1Current : UInt8 → UInt16 → EventValue → UInt16 × Event :=
  sfpHandler regSfpCurrent

def handlerSfp2Current : UInt8 → UInt16 → EventValue → UInt16 × Event :=
  sfpHandler regSfpCurrent

def handlerSfp1TxBias : UInt8 → UInt16 → EventValue → UInt16 × Event :=
  sfpHandler regSfpTxBias

def handlerSfp2TxBias : UInt8 → UInt16 → EventValue → UInt16 × Event :=
  sfpHandler regSfpTxBias

def handlerSfp1TxPowerDb : UInt8 → UInt16 → EventValue → UInt16 × Event :=
  sfpHandler regSfpTxPower

def handlerSfp2TxPowerDb : UInt8 → UInt16 → EventValue → UInt16 × Event :=
  sfpHandler regSfpTxPower

def handlerSfp1RxPowerDb : UInt8 → UInt16 → EventValue → UInt16 × Event :=
  sfpHandler regSfpRxPower

def handlerSfp2RxPowerDb : UInt8 → UInt16 → EventValue → UInt16 × Event :=
  sfpHandler regSfpRxPower

/-- The handlers that consult `REG_SHT_CONNECTED` or `REG_SFPx_PRESENT`. -/
inductive GatedMonitor where
  | shtTemperature
  | shtHumidity
  | sfp1Temper
  | sfp2Temper
  | sfp1Voltage
  | sfp2Voltage
  | sfp1Current
  | sfp2Current
  | sfp1TxBias
  | sfp2TxBias
  | sfp1TxPowerDb
  | sfp2TxPowerDb
  | sfp1RxPowerDb
  | sfp2RxPowerDb
  deriving DecidableEq, Repr

/-- The type of the static variable. -/
abbrev GatedMonitor.State : GatedMonitor → Type
  | shtHumidity => UInt8
  | _ => UInt16

/-- The handler as a function of the byte it compares. -/
def GatedMonitor.handler :
    (monitor : GatedMonitor) → UInt8 → monitor.State → EventValue → monitor.State × Event
  | shtTemperature => handlerShtTemperature
  | shtHumidity => handlerShtHumidity
  | sfp1Temper => handlerSfp1Temper
  | sfp2Temper => handlerSfp2Temper
  | sfp1Voltage => handlerSfp1Voltage
  | sfp2Voltage => handlerSfp2Voltage
  | sfp1Current => handlerSfp1Current
  | sfp2Current => handlerSfp2Current
  | sfp1TxBias => handlerSfp1TxBias
  | sfp2TxBias => handlerSfp2TxBias
  | sfp1TxPowerDb => handlerSfp1TxPowerDb
  | sfp2TxPowerDb => handlerSfp2TxPowerDb
  | sfp1RxPowerDb => handlerSfp1RxPowerDb
  | sfp2RxPowerDb => handlerSfp2RxPowerDb

theorem registers_consulted :
    50 ∈ registerAddresses ∧ 60 ∈ registerAddresses ∧ 87 ∈ registerAddresses ∧
      90 ∈ registerAddresses ∧ 117 ∈ registerAddresses := by
  decide

def regShtConnected : Register :=
  ⟨50, registers_consulted.1⟩

def regSfp1Present : Register :=
  ⟨60, registers_consulted.2.1⟩

def regSfp1RxPower : Register :=
  ⟨87, registers_consulted.2.2.1⟩

def regSfp2Present : Register :=
  ⟨90, registers_consulted.2.2.2.1⟩

def regSfp2RxPower : Register :=
  ⟨117, registers_consulted.2.2.2.2⟩

def GatedMonitor.gate : GatedMonitor → Register
  | shtTemperature | shtHumidity => regShtConnected
  | sfp1Temper | sfp1Voltage | sfp1Current | sfp1TxBias | sfp1TxPowerDb | sfp1RxPowerDb =>
      regSfp1Present
  | sfp2Temper | sfp2Voltage | sfp2Current | sfp2TxBias | sfp2TxPowerDb | sfp2RxPowerDb =>
      regSfp2Present

/-! ## Loss of signal -/

def regSfpLosNo : UInt8 := 0

def regSfpLosYes : UInt8 := 1

section Los

variable (word : UInt32 → Vector UInt8 4) (padding : Vector UInt8 3 × Vector UInt8 3)

/-- The body of the two handlers; beside the call, the power that is logged when the signal
comes back. -/
def losHandler (rxPower : Register) (sockMsgArr : Registers) (stack : Vector UInt8 80)
    (losPrevValue : UInt8) (i2cData : EventValue) :
    Called UInt8 ContactEvent × Option UInt16 :=
  let handled := contactHandler regSfpLosNo regSfpLosYes losPrevValue i2cData
  if handled.2 ≠ .ok then
    if firstByte i2cData ≠ 0 then (⟨sockMsgArr, handled.1, handled.2⟩, none)
    else
      let data := i2cGetDataBytes word padding sockMsgArr rxPower 2 stack
      (⟨data.1, handled.1, handled.2⟩, some (get16bitValue (valueMember data.2)))
  else (⟨sockMsgArr, handled.1, handled.2⟩, none)

def handlerSfp1Los : Registers → Vector UInt8 80 → UInt8 → EventValue →
    Called UInt8 ContactEvent × Option UInt16 :=
  losHandler word padding regSfp1RxPower

def handlerSfp2Los : Registers → Vector UInt8 80 → UInt8 → EventValue →
    Called UInt8 ContactEvent × Option UInt16 :=
  losHandler word padding regSfp2RxPower

end Los

/-- The handlers that consult `REG_SFPx_RX_POWER`. -/
inductive LosMonitor where
  | sfp1
  | sfp2
  deriving DecidableEq, Repr

def LosMonitor.handler (word : UInt32 → Vector UInt8 4)
    (padding : Vector UInt8 3 × Vector UInt8 3) : LosMonitor → Registers → Vector UInt8 80 →
    UInt8 → EventValue → Called UInt8 ContactEvent × Option UInt16
  | sfp1 => handlerSfp1Los word padding
  | sfp2 => handlerSfp2Los word padding

def LosMonitor.rxPower : LosMonitor → Register
  | sfp1 => regSfp1RxPower
  | sfp2 => regSfp2RxPower

/-! ## Dependence on the registers alone -/

section Laws

variable (word : UInt32 → Vector UInt8 4) (padding : Vector UInt8 3 × Vector UInt8 3)

/-- Two calls give the same event and the same static variable. -/
def SameOutcome {σ ε : Type} (call : Vector UInt8 80 → Called σ ε) : Prop :=
  ∀ stack other, (call stack).event = (call other).event ∧
    (call stack).prevValue = (call other).prevValue

/-- No call changes the register table. -/
def KeepsTable {σ ε : Type} (sockMsgArr : Registers) (call : Vector UInt8 80 → Called σ ε) :
    Prop :=
  ∀ stack, (call stack).sockMsgArr = sockMsgArr

def GatedMonitor.call (monitor : GatedMonitor) (sockMsgArr : Registers)
    (prevValue : monitor.State) (i2cData : EventValue) (stack : Vector UInt8 80) :
    Called monitor.State Event :=
  gatedCall word padding monitor.gate monitor.handler sockMsgArr stack prevValue i2cData

/-- The byte that the handler compares is 1. -/
def GatedMonitor.Passes (monitor : GatedMonitor) (sockMsgArr : Registers)
    (stack : Vector UInt8 80) : Prop :=
  firstByte (valueMember (i2cGetDataBytes word padding sockMsgArr monitor.gate 1 stack).2) = 1

/-- A call depends on the registers and the static variable only, goes on exactly if the
consulted register is 1, and leaves the table as it was. -/
structure GatedMonitor.DependsOnRegisters (monitor : GatedMonitor) (sockMsgArr : Registers)
    (prevValue : monitor.State) (i2cData : EventValue) : Prop where
  outcome : SameOutcome (monitor.call word padding sockMsgArr prevValue i2cData)
  gate : ∀ stack, monitor.Passes word padding sockMsgArr stack ↔
    firstByte (sockMsgArr monitor.gate).value = 1
  table : KeepsTable sockMsgArr (monitor.call word padding sockMsgArr prevValue i2cData)

def LosMonitor.call (monitor : LosMonitor) (sockMsgArr : Registers) (losPrevValue : UInt8)
    (i2cData : EventValue) (stack : Vector UInt8 80) : Called UInt8 ContactEvent :=
  (monitor.handler word padding sockMsgArr stack losPrevValue i2cData).1

/-- The same for a handler that only logs what it consults. -/
structure LosMonitor.DependsOnRegisters (monitor : LosMonitor) (sockMsgArr : Registers)
    (losPrevValue : UInt8) (i2cData : EventValue) : Prop where
  outcome : SameOutcome (monitor.call word padding sockMsgArr losPrevValue i2cData)
  table : KeepsTable sockMsgArr (monitor.call word padding sockMsgArr losPrevValue i2cData)

end Laws

/-! ## What the copy holds -/

section Copies

variable (word : UInt32 → Vector UInt8 4) (padding : Vector UInt8 3 × Vector UInt8 3)

theorem wireImage_length (message : I2cData) : (wireImage word padding message).length = 80 := by
  rw [wireImage, List.length_append, wireHead_length, Vector.length_toList]

/-- A copy that ends before `value` leaves the stack there. -/
theorem firstByte_i2cGetDataBytes (sockMsgArr : Registers) (addr : Register) {len : UInt8}
    (short : len.toNat ≤ valueOffset) (stack : Vector UInt8 80) :
    firstByte (valueMember (i2cGetDataBytes word padding sockMsgArr addr len stack).2) =
      stack.toList.getD valueOffset 0 := by
  have copied : ∀ source : List UInt8, source.length = 80 →
      (memcpy stack.toList source len.toNat).getD valueOffset 0 =
        stack.toList.getD valueOffset 0 := by
    intro source length
    have taken : (source.take len.toNat).length = len.toNat := by
      rw [List.length_take, length]
      simp only [valueOffset] at short
      omega
    have back : len.toNat + (valueOffset - len.toNat) = valueOffset := by omega
    rw [memcpy, List.getD_eq_getElem?_getD,
      List.getElem?_append_right (by rw [taken]; exact short), taken, List.getElem?_drop, back,
      List.getD_eq_getElem?_getD]
  rw [firstByte, valueMember, i2cGetDataBytes, Vector.getElem_ofFn, Nat.add_zero]
  exact copied _ (wireImage_length word padding _)

/-- The whole structure is the case of `clientHandler`. -/
theorem i2cGetDataBytes_all (daemon : Daemon) (addr : Register) (stack : Vector UInt8 80) :
    i2cGetDataBytes word padding daemon.sockMsgArr addr i2cMsgSize stack =
      ((i2cGetData daemon addr).1.sockMsgArr,
        wireImage word padding (i2cGetData daemon addr).2) := by
  have all : ∀ source : List UInt8, source.length = 80 →
      memcpy stack.toList source i2cMsgSize.toNat = source := by
    intro source length
    have size : i2cMsgSize.toNat = 80 := rfl
    rw [memcpy, size, List.take_of_length_le length.le,
      List.drop_of_length_le (Vector.length_toList).le, List.append_nil]
  rw [i2cGetDataBytes, all _ (wireImage_length word padding _)]
  rfl

/-- The table is left alone exactly if it already holds the number of bytes. -/
theorem i2cGetDataBytes_table_iff (sockMsgArr : Registers) (addr : Register) (len : UInt8)
    (stack : Vector UInt8 80) :
    (i2cGetDataBytes word padding sockMsgArr addr len stack).1 = sockMsgArr ↔
      (sockMsgArr addr).lenMsg = len := by
  rw [i2cGetDataBytes, Function.update_eq_self_iff]
  constructor
  · intro same
    exact (congrArg I2cData.lenMsg same).symm
  · rintro rfl
    rfl

end Copies

/-! ## The gated handlers -/

section Gated

variable (word : UInt32 → Vector UInt8 4) (padding : Vector UInt8 3 × Vector UInt8 3)

/-- A stack that holds `byte` where `value` begins. -/
def stackWith (byte : UInt8) : Vector UInt8 80 :=
  Vector.replicate 80 byte

theorem GatedMonitor.passes_stackWith (monitor : GatedMonitor) (sockMsgArr : Registers)
    (byte : UInt8) :
    monitor.Passes word padding sockMsgArr (stackWith byte) ↔ byte = 1 := by
  have short : (1 : UInt8).toNat ≤ valueOffset := by decide
  have atOffset : (stackWith byte).toList.getD valueOffset 0 = byte := by
    rw [stackWith, Vector.toList_replicate]
    rfl
  rw [GatedMonitor.Passes, firstByte_i2cGetDataBytes word padding _ _ short, atOffset]

/-- The gate follows the stack, whatever the consulted register holds. -/
theorem GatedMonitor.gate_ignores_register (monitor : GatedMonitor) (sockMsgArr : Registers) :
    ¬∀ stack, monitor.Passes word padding sockMsgArr stack ↔
      firstByte (sockMsgArr monitor.gate).value = 1 := by
  intro gate
  have opens := (monitor.passes_stackWith word padding sockMsgArr 1).mpr rfl
  have present := (gate (stackWith 1)).mp opens
  have passes := (gate (stackWith 0)).mpr present
  exact absurd ((monitor.passes_stackWith word padding sockMsgArr 0).mp passes) (by decide)

theorem GatedMonitor.handler_closed (monitor : GatedMonitor) {byte : UInt8} (closed : byte ≠ 1)
    (prevValue : monitor.State) (i2cData : EventValue) :
    monitor.handler byte prevValue i2cData = (prevValue, .ok) := by
  cases monitor <;> exact if_neg closed

/-- The outcome is the same for every stack only where an open gate changes nothing. -/
theorem GatedMonitor.sameOutcome_iff (monitor : GatedMonitor) (sockMsgArr : Registers)
    (prevValue : monitor.State) (i2cData : EventValue) :
    SameOutcome (monitor.call word padding sockMsgArr prevValue i2cData) ↔
      monitor.handler 1 prevValue i2cData = (prevValue, .ok) := by
  have opened : ∀ stack, monitor.Passes word padding sockMsgArr stack →
      (monitor.call word padding sockMsgArr prevValue i2cData stack).event =
          (monitor.handler 1 prevValue i2cData).2 ∧
        (monitor.call word padding sockMsgArr prevValue i2cData stack).prevValue =
          (monitor.handler 1 prevValue i2cData).1 := by
    intro stack passes
    rw [GatedMonitor.Passes] at passes
    rw [GatedMonitor.call, gatedCall, passes]
    exact ⟨rfl, rfl⟩
  have closed : ∀ stack, ¬monitor.Passes word padding sockMsgArr stack →
      (monitor.call word padding sockMsgArr prevValue i2cData stack).event = .ok ∧
        (monitor.call word padding sockMsgArr prevValue i2cData stack).prevValue =
          prevValue := by
    intro stack stays
    rw [GatedMonitor.call, gatedCall, monitor.handler_closed stays]
    exact ⟨rfl, rfl⟩
  constructor
  · intro same
    have one := opened (stackWith 1) ((monitor.passes_stackWith word padding sockMsgArr 1).mpr rfl)
    have zero := closed (stackWith 0) fun passes =>
      absurd ((monitor.passes_stackWith word padding sockMsgArr 0).mp passes) (by decide)
    have outcome := same (stackWith 1) (stackWith 0)
    rw [one.1, one.2, zero.1, zero.2] at outcome
    exact Prod.ext outcome.2 outcome.1
  · intro idle
    have always : ∀ stack,
        (monitor.call word padding sockMsgArr prevValue i2cData stack).event = .ok ∧
          (monitor.call word padding sockMsgArr prevValue i2cData stack).prevValue =
            prevValue := by
      intro stack
      by_cases passes : monitor.Passes word padding sockMsgArr stack
      · have outcome := opened stack passes
        rw [idle] at outcome
        exact outcome
      · exact closed stack passes
    intro stack other
    rw [(always stack).1, (always stack).2, (always other).1, (always other).2]
    exact ⟨rfl, rfl⟩

theorem GatedMonitor.keepsTable_iff (monitor : GatedMonitor) (sockMsgArr : Registers)
    (prevValue : monitor.State) (i2cData : EventValue) :
    KeepsTable sockMsgArr (monitor.call word padding sockMsgArr prevValue i2cData) ↔
      (sockMsgArr monitor.gate).lenMsg = 1 := by
  rw [← i2cGetDataBytes_table_iff word padding sockMsgArr monitor.gate 1 (stackWith 0)]
  exact ⟨fun keeps => keeps (stackWith 0), fun same _ => same⟩

end Gated

/-! ## The handlers of the loss of signal -/

section Los

variable {word : UInt32 → Vector UInt8 4} {padding : Vector UInt8 3 × Vector UInt8 3}

theorem LosMonitor.handler_eq (monitor : LosMonitor) :
    monitor.handler word padding = losHandler word padding monitor.rxPower := by
  cases monitor <;> rfl

/-- The signal comes back: the only case in which the power is fetched. -/
theorem los_consults_iff (losPrevValue : UInt8) (i2cData : EventValue) :
    ((contactHandler regSfpLosNo regSfpLosYes losPrevValue i2cData).2 ≠ .ok ∧
        firstByte i2cData = 0) ↔
      losPrevValue = regSfpLosYes ∧ firstByte i2cData = regSfpLosNo := by
  constructor
  · rintro ⟨event, cleared⟩
    refine ⟨?_, cleared⟩
    by_contra other
    apply event
    simp only [contactHandler, checkChangedState_eq, cleared]
    split
    · split
      · rw [if_neg fun both => other both.2, if_neg fun both => absurd both.1 (by decide)]
      · rfl
    · rfl
  · rintro ⟨rfl, cleared⟩
    refine ⟨?_, cleared⟩
    simp only [contactHandler, checkChangedState_eq, cleared]
    decide

theorem LosMonitor.call_eq (monitor : LosMonitor) (sockMsgArr : Registers)
    (losPrevValue : UInt8) (i2cData : EventValue) (stack : Vector UInt8 80) :
    monitor.call word padding sockMsgArr losPrevValue i2cData stack =
      { sockMsgArr :=
          if losPrevValue = regSfpLosYes ∧ firstByte i2cData = regSfpLosNo then
            (i2cGetDataBytes word padding sockMsgArr monitor.rxPower 2 stack).1
          else sockMsgArr
        prevValue := (contactHandler regSfpLosNo regSfpLosYes losPrevValue i2cData).1
        event := (contactHandler regSfpLosNo regSfpLosYes losPrevValue i2cData).2 } := by
  have consults := los_consults_iff losPrevValue i2cData
  rw [LosMonitor.call, monitor.handler_eq]
  simp only [losHandler, ← consults]
  split
  · rename_i event
    by_cases cleared : firstByte i2cData = 0
    · rw [if_neg (not_not.mpr cleared), if_pos ⟨event, cleared⟩]
    · rw [if_pos cleared, if_neg fun both => cleared both.2]
  · rename_i silent
    rw [if_neg fun both => silent both.1]

theorem LosMonitor.dependsOnRegisters_iff (monitor : LosMonitor) (sockMsgArr : Registers)
    (losPrevValue : UInt8) (i2cData : EventValue) :
    monitor.DependsOnRegisters word padding sockMsgArr losPrevValue i2cData ↔
      (losPrevValue = regSfpLosYes ∧ firstByte i2cData = regSfpLosNo →
        (sockMsgArr monitor.rxPower).lenMsg = 2) := by
  constructor
  · intro depends consults
    have kept := depends.table (stackWith 0)
    rw [monitor.call_eq, if_pos consults] at kept
    exact (i2cGetDataBytes_table_iff word padding _ _ _ (stackWith 0)).mp kept
  · intro known
    constructor
    · intro stack other
      rw [monitor.call_eq, monitor.call_eq]
      exact ⟨rfl, rfl⟩
    · intro stack
      rw [monitor.call_eq]
      by_cases consults : losPrevValue = regSfpLosYes ∧ firstByte i2cData = regSfpLosNo
      · rw [if_pos consults]
        exact (i2cGetDataBytes_table_iff word padding _ _ _ stack).mpr (known consults)
      · rw [if_neg consults]

/-- A handler behind a gate never depends on the registers alone.  A handler of the loss of
signal does so unless it fetches the power and the table holds another length for it. -/
theorem consulting_monitors_iff (word : UInt32 → Vector UInt8 4)
    (padding : Vector UInt8 3 × Vector UInt8 3) (sockMsgArr : Registers)
    (i2cData : EventValue) :
    (∀ (monitor : GatedMonitor) (prevValue : monitor.State),
      ¬monitor.DependsOnRegisters word padding sockMsgArr prevValue i2cData) ∧
    ∀ (monitor : LosMonitor) (losPrevValue : UInt8),
      monitor.DependsOnRegisters word padding sockMsgArr losPrevValue i2cData ↔
        (losPrevValue = regSfpLosYes ∧ firstByte i2cData = regSfpLosNo →
          (sockMsgArr monitor.rxPower).lenMsg = 2) := by
  constructor
  · intro monitor prevValue depends
    exact monitor.gate_ignores_register word padding sockMsgArr depends.gate
  · intro monitor losPrevValue
    exact monitor.dependsOnRegisters_iff sockMsgArr losPrevValue i2cData

end Los

/-- A cage at 100 degrees is reported as overheating or not, as the stack has it. -/
theorem sfp_temper_reads_stack :
    ¬∀ word padding (monitor : GatedMonitor) sockMsgArr prevValue i2cData,
      monitor.DependsOnRegisters word padding sockMsgArr prevValue i2cData := by
  intro depends
  have outcome := (depends (fun _ => Vector.replicate 4 0)
    (Vector.replicate 3 0, Vector.replicate 3 0) .sfp1Temper (started fun _ => 4096).sockMsgArr
    (40 : UInt16) (valueOf 100 0)).outcome
  have idle := (GatedMonitor.sfp1Temper.sameOutcome_iff _ _ _ _ _).mp outcome
  revert idle
  decide

end TfortisPack.Hwsys
