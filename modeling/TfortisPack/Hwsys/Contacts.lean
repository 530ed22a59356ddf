import TfortisPack.Hwsys.Monitors
import TfortisPack.Library.Signals

/-!
# The contact monitors

`events_handlers.c`.  The handler of a contact keeps the last byte it was called
with, has `check_changed_state` compare the next one with it and returns which
way the contact changed.  The initialiser `0xFF` of the kept byte stands for "no
reading yet", and so does every later reading `0xFF`.
-/

namespace TfortisPack.Hwsys

open TfortisPack.Library

/-! ## Handlers -/

/-- `event_t`, as far as the handlers of the contacts return it. -/
inductive ContactEvent where
  | ok
  | changedToOpen
  | changedToClose
  | changedToVac
  | changedToBat
  deriving DecidableEq, Repr

def regTamperOpen : UInt8 := 0

def regTamperClose : UInt8 := 1

def regRpsVacBattary : UInt8 := 0

def regRpsVacVac : UInt8 := 1

def checkChangedState (value preValue state1 state2 : UInt32) : ContactEvent :=
  if value = state1 ∧ preValue = state2 then .changedToClose
  else if value = state2 ∧ preValue = state1 then .changedToOpen
  else .ok

/-- The body that the handlers of a byte with two states share: the kept byte and
the reading give the new kept byte and the event. -/
def contactHandler (state1 state2 prevValue : UInt8) (i2cData : EventValue) :
    UInt8 × ContactEvent :=
  let value := firstByte i2cData
  if value ≠ prevValue then
    let event :=
      if prevValue ≠ 0xFF then
        checkChangedState value.toUInt32 prevValue.toUInt32 state1.toUInt32 state2.toUInt32
      else .ok
    (value, event)
  else (prevValue, .ok)

def handlerTamper : UInt8 → EventValue → UInt8 × ContactEvent :=
  contactHandler regTamperClose regTamperOpen

def handlerSensor1 : UInt8 → EventValue → UInt8 × ContactEvent :=
  contactHandler regTamperClose regTamperOpen

def handlerSensor2 : UInt8 → EventValue → UInt8 × ContactEvent :=
  contactHandler regTamperClose regTamperOpen

def handlerRelay1 : UInt8 → EventValue → UInt8 × ContactEvent :=
  contactHandler regTamperClose regTamperOpen

/-- The handler that gives the two directions names of their own. -/
def handlerRpsVac (vacPrevValue : UInt8) (i2cData : EventValue) : UInt8 × ContactEvent :=
  let handled := contactHandler regRpsVacVac regRpsVacBattary vacPrevValue i2cData
  let event :=
    if handled.2 ≠ .ok then
      if handled.2 = .changedToClose then .changedToVac else .changedToBat
    else .ok
  (handled.1, event)

inductive ContactMonitor where
  | tamper
  | sensor1
  | sensor2
  | relay1
  | rpsVac
  deriving DecidableEq, Repr

def ContactMonitor.handler : ContactMonitor → UInt8 → EventValue → UInt8 × ContactEvent
  | tamper => handlerTamper
  | sensor1 => handlerSensor1
  | sensor2 => handlerSensor2
  | relay1 => handlerRelay1
  | rpsVac => handlerRpsVac

/-! ## Reports -/

/-- The state that an event says the contact has now. -/
def ContactEvent.state : ContactEvent → Option UInt8
  | ok => none
  | changedToOpen => some regTamperOpen
  | changedToClose => some regTamperClose
  | changedToVac => some regRpsVacVac
  | changedToBat => some regRpsVacBattary

/-- The bytes that are a state of a contact. -/
def isContact (reading : UInt8) : Bool :=
  reading = regTamperOpen ∨ reading = regTamperClose

/-- A handler called with one reading after the other. -/
def ContactMonitor.machine (monitor : ContactMonitor) :
    Machine UInt8 EventValue ContactEvent where
  step prevValue i2cData :=
    let handled := monitor.handler prevValue i2cData
    (handled.1, [handled.2])

/-- The states reported for a sequence of readings, from the first call on. -/
def ContactMonitor.reports (monitor : ContactMonitor) (inputs : List EventValue) : List UInt8 :=
  (monitor.machine.outputs 0xFF inputs).filterMap ContactEvent.state

/-- The reports of a sequence change at each event, and the reported state is that of the last
valid reading. -/
def ContactMonitor.Keeps (monitor : ContactMonitor) (inputs : List EventValue) : Prop :=
  Follows isContact (inputs.map firstByte) (monitor.reports inputs)

/-! ## What a handler does -/

theorem contactHandler_stores (state1 state2 prevValue : UInt8) (i2cData : EventValue) :
    (contactHandler state1 state2 prevValue i2cData).1 = firstByte i2cData := by
  by_cases changed : firstByte i2cData ≠ prevValue
  · simp only [contactHandler, if_pos changed]
  · simp only [contactHandler, if_neg changed]
    exact (not_not.mp changed).symm

theorem checkChangedState_eq (value preValue state1 state2 : UInt8) :
    checkChangedState value.toUInt32 preValue.toUInt32 state1.toUInt32 state2.toUInt32 =
      if value = state1 ∧ preValue = state2 then .changedToClose
      else if value = state2 ∧ preValue = state1 then .changedToOpen
      else .ok := by
  have widened : ∀ left right : UInt8, left.toUInt32 = right.toUInt32 ↔ left = right :=
    fun _ _ => UInt8.toUInt32_inj
  simp only [checkChangedState, widened]

theorem isContact_iff (reading : UInt8) :
    isContact reading ↔ reading = regTamperOpen ∨ reading = regTamperClose := by
  rw [isContact, decide_eq_true_iff]

/-- `check_changed_state` compares the reading with the byte right before it. -/
theorem checkChangedState_told (value prevValue : UInt8) :
    (checkChangedState value.toUInt32 prevValue.toUInt32 regTamperClose.toUInt32
        regTamperOpen.toUInt32).state.toList =
      told isContact prevValue value := by
  rw [checkChangedState_eq]
  by_cases closed : value = regTamperClose ∧ prevValue = regTamperOpen
  · rw [if_pos closed, closed.1, closed.2]
    rfl
  · rw [if_neg closed]
    by_cases opened : value = regTamperOpen ∧ prevValue = regTamperClose
    · rw [if_pos opened, opened.1, opened.2]
      rfl
    · rw [if_neg opened, told, if_neg]
      · rfl
      · rintro ⟨prevValid, valueValid, different⟩
        rw [isContact_iff] at prevValid valueValid
        rcases prevValid with rfl | rfl <;> rcases valueValid with rfl | rfl
        · exact different rfl
        · exact closed ⟨rfl, rfl⟩
        · exact opened ⟨rfl, rfl⟩
        · exact different rfl

/-- Skipping a repeated reading and the byte `0xFF` hides no change. -/
theorem contactHandler_told (prevValue : UInt8) (i2cData : EventValue) :
    (contactHandler regTamperClose regTamperOpen prevValue i2cData).2.state.toList =
      told isContact prevValue (firstByte i2cData) := by
  by_cases changed : firstByte i2cData ≠ prevValue
  · by_cases known : prevValue ≠ 0xFF
    · simp only [contactHandler, if_pos changed, if_pos known]
      exact checkChangedState_told _ _
    · simp only [contactHandler, if_pos changed, if_neg known]
      rw [not_not.mp known]
      exact (told_of_not_valid_left (by decide) _).symm
  · simp only [contactHandler, if_neg changed]
    rw [not_not.mp changed, told_self]
    rfl

theorem handlerRpsVac_state (prevValue : UInt8) (i2cData : EventValue) :
    (handlerRpsVac prevValue i2cData).2.state =
      (contactHandler regTamperClose regTamperOpen prevValue i2cData).2.state := by
  have same : contactHandler regRpsVacVac regRpsVacBattary prevValue i2cData =
      contactHandler regTamperClose regTamperOpen prevValue i2cData := rfl
  rw [handlerRpsVac, same]
  by_cases changed : firstByte i2cData ≠ prevValue
  · by_cases known : prevValue ≠ 0xFF
    · simp only [contactHandler, if_pos changed, if_pos known, checkChangedState_eq]
      split
      · rfl
      · split <;> rfl
    · simp only [contactHandler, if_pos changed, if_neg known]
      rfl
  · simp only [contactHandler, if_neg changed]
    rfl

/-- Every contact handler keeps the reading and tells the change from the byte it
kept. -/
theorem ContactMonitor.handler_eq (monitor : ContactMonitor) (prevValue : UInt8)
    (i2cData : EventValue) :
    (monitor.handler prevValue i2cData).1 = firstByte i2cData ∧
      (monitor.handler prevValue i2cData).2.state.toList =
        told isContact prevValue (firstByte i2cData) := by
  have stores := contactHandler_stores regTamperClose regTamperOpen prevValue i2cData
  have tells := contactHandler_told prevValue i2cData
  cases monitor with
  | rpsVac =>
      refine ⟨contactHandler_stores regRpsVacVac regRpsVacBattary prevValue i2cData, ?_⟩
      rw [ContactMonitor.handler, handlerRpsVac_state]
      exact tells
  | tamper => exact ⟨stores, tells⟩
  | sensor1 => exact ⟨stores, tells⟩
  | sensor2 => exact ⟨stores, tells⟩
  | relay1 => exact ⟨stores, tells⟩

/-! ## Sequences of readings -/

theorem ContactMonitor.outputs_eq (monitor : ContactMonitor) (prevValue : UInt8)
    (inputs : List EventValue) :
    (monitor.machine.outputs prevValue inputs).filterMap ContactEvent.state =
      changes isContact prevValue (inputs.map firstByte) := by
  induction inputs generalizing prevValue with
  | nil =>
      rfl
  | cons i2cData rest inductionHypothesis =>
      have handled := monitor.handler_eq prevValue i2cData
      have emitted : (monitor.machine.emit prevValue i2cData).filterMap ContactEvent.state =
          told isContact prevValue (firstByte i2cData) := by
        rw [← handled.2]
        simp only [Machine.emit, ContactMonitor.machine]
        cases (monitor.handler prevValue i2cData).2 <;> rfl
      have stored : monitor.machine.next prevValue i2cData = firstByte i2cData := handled.1
      rw [Machine.outputs, List.filterMap_append, emitted, stored, inductionHypothesis]
      rfl

/-- At every point of a sequence of readings the reports follow it, exactly if no two different
valid readings have invalid ones in between. -/
theorem contact_monitors_keep_iff (monitor : ContactMonitor) (inputs : List EventValue) :
    (∀ heard, heard <+: inputs → monitor.Keeps heard) ↔
      Unbroken isContact (inputs.map firstByte) := by
  have initialNoise : ¬isContact 0xFF := by decide
  rw [← follows_iff_unbroken initialNoise]
  constructor
  · rintro keeps heard ⟨rest, equality⟩
    obtain ⟨front, back, split, fronts, _⟩ := List.map_eq_append_iff.mp equality.symm
    have kept := keeps front ⟨back, split.symm⟩
    rw [ContactMonitor.Keeps, ContactMonitor.reports, monitor.outputs_eq, fronts] at kept
    exact kept
  · rintro follows heard ⟨rest, rfl⟩
    rw [ContactMonitor.Keeps, ContactMonitor.reports, monitor.outputs_eq]
    apply follows
    rw [List.map_append]
    exact List.prefix_append _ _

/-- A message with the given first byte. -/
def contactReading (reading : UInt8) : EventValue :=
  Vector.ofFn fun place => if place.val = 0 then reading else 0

/-- The contact closes while the microcontroller answers `0xAA`. -/
theorem contact_change_lost :
    ¬∀ (monitor : ContactMonitor) (inputs : List EventValue),
      monitor.Keeps inputs := by
  intro keeps
  have kept := keeps .tamper [contactReading 0, contactReading 0xAA, contactReading 1]
  have lost := kept.current 0 rfl
  revert lost
  decide

end TfortisPack.Hwsys
