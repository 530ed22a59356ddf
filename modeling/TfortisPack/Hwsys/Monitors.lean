import Mathlib.Algebra.Order.Group.Int
import TfortisPack.Library.Hysteresis
import TfortisPack.Library.Runs

/-!
# The voltage monitors

`events_handlers.c`.  Every three seconds `i2c_events_handler` calls the handler
of each register with the bytes of its `value`.  The handler of a measured
quantity keeps a previous value in a static variable, has `check_out_of_range`
compare the reading with it and returns an event.

A monitor is judged on its whole history: which readings it was called with,
what it returned for each of them and what it remembered afterwards.
-/

namespace TfortisPack.Hwsys

open TfortisPack.Library

/-! ## Events -/

/-- `event_t`, as far as these handlers return it. -/
inductive Event where
  | overMax
  | lessMin
  | changeValue
  | ok
  deriving DecidableEq, Repr

/-- The member `value` of `i2c_event_data_t`. -/
abbrev EventValue := Vector UInt8 32

/-- `value[0]`. -/
def firstByte (value : EventValue) : UInt8 :=
  value[0]

/-- `get_16bitValue`. -/
def get16bitValue (value : EventValue) : UInt16 :=
  value[0].toUInt16 ||| value[1].toUInt16 <<< 8

/-- `STABLE_VALUE`. -/
def stableValue : Nat := 10

def checkOutOfRange (value prevValue max min : UInt32) : Event :=
  -- `dif` is an `uint16_t`
  let dif : UInt16 :=
    if value ≥ prevValue then (value - prevValue).toUInt16 else (prevValue - value).toUInt16
  if dif.toNat > stableValue then
    if prevValue ≠ 0xFFFF then
      if value > max then .overMax
      else if value < min then .lessMin
      else .changeValue
    else .changeValue
  else .ok

/-- The limits of a register, as `i2c_module.h` gives them. -/
structure Limits where
  max : Int
  min : Int
  deriving DecidableEq, Repr

/-- The call of `check_out_of_range` in a handler; the limits become
`uint32_t`. -/
def Limits.check (limits : Limits) (value prevValue : UInt32) : Event :=
  checkOutOfRange value prevValue (UInt32.ofInt limits.max) (UInt32.ofInt limits.min)

/-! ## Handlers -/

/-- The body that four of the five handlers share: the remembered value and the
reading give the new remembered value and the event. -/
def voltageHandler (limits : Limits) (prevValue : UInt16) (i2cData : EventValue) :
    UInt16 × Event :=
  let value := get16bitValue i2cData
  let event := limits.check value.toUInt32 prevValue.toUInt32
  let prevValue := if event = .changeValue then value else prevValue
  (if event = .overMax ∨ event = .lessMin then value else prevValue, event)

def regAdcCh1 : Limits := ⟨3500, 3000⟩

def regAdcCh2 : Limits := ⟨1700, 1300⟩

def regAdcCh3 : Limits := ⟨1300, 1000⟩

def regRpsBatVoltage : Limits := ⟨30000, 20500⟩

def regRpsChrgVoltage : Limits := ⟨30000, 20500⟩

def handlerAdcCh1 : UInt16 → EventValue → UInt16 × Event :=
  voltageHandler regAdcCh1

def handlerAdcCh2 : UInt16 → EventValue → UInt16 × Event :=
  voltageHandler regAdcCh2

def handlerAdcCh3 : UInt16 → EventValue → UInt16 × Event :=
  voltageHandler regAdcCh3

/-- The only handler that skips the check for a repeated reading. -/
def handlerRpsBatVoltage (batVoltPrevValue : UInt16) (i2cData : EventValue) :
    UInt16 × Event :=
  let value := get16bitValue i2cData
  let event :=
    if value ≠ batVoltPrevValue then
      regRpsBatVoltage.check value.toUInt32 batVoltPrevValue.toUInt32
    else .ok
  let prevValue := if event = .changeValue then value else batVoltPrevValue
  (if event = .overMax ∨ event = .lessMin then value else prevValue, event)

def handlerRpsChrgVoltage : UInt16 → EventValue → UInt16 × Event :=
  voltageHandler regRpsChrgVoltage

/-- The handlers of the voltages. -/
inductive VoltageMonitor where
  | adcCh1
  | adcCh2
  | adcCh3
  | rpsBatVoltage
  | rpsChrgVoltage
  deriving DecidableEq, Repr

def VoltageMonitor.limits : VoltageMonitor → Limits
  | adcCh1 => regAdcCh1
  | adcCh2 => regAdcCh2
  | adcCh3 => regAdcCh3
  | rpsBatVoltage => regRpsBatVoltage
  | rpsChrgVoltage => regRpsChrgVoltage

def VoltageMonitor.handler : VoltageMonitor → UInt16 → EventValue → UInt16 × Event
  | adcCh1 => handlerAdcCh1
  | adcCh2 => handlerAdcCh2
  | adcCh3 => handlerAdcCh3
  | rpsBatVoltage => handlerRpsBatVoltage
  | rpsChrgVoltage => handlerRpsChrgVoltage

/-! ## Histories -/

/-- What a handler remembers and, beside it, the reading of its last call. -/
structure History (σ : Type) where
  prevValue : σ
  last : Option Int

/-- A handler called again and again; `reading` is what an input says in the
unit of the register. -/
def watch {σ ι : Type} (handler : σ → ι → σ × Event) (reading : ι → Int) :
    Machine (History σ) ι Event where
  step history input :=
    let handled := handler history.prevValue input
    ({ prevValue := handled.1, last := some (reading input) }, [handled.2])

/-- The first call finds the initialiser of the static variable. -/
def History.first {σ : Type} (prevValue : σ) : History σ :=
  ⟨prevValue, none⟩

def Limits.Inside (limits : Limits) (reading : Int) : Prop :=
  limits.min ≤ reading ∧ reading ≤ limits.max

instance (limits : Limits) (reading : Int) : Decidable (limits.Inside reading) :=
  inferInstanceAs (Decidable (_ ∧ _))

/-- An event is returned only for a reading outside the limit it names. -/
structure Limits.Justifies (limits : Limits) (reading : Int) (event : Event) : Prop where
  overMax : event = .overMax → limits.max < reading
  lessMin : event = .lessMin → reading < limits.min

instance (limits : Limits) (reading : Int) (event : Event) :
    Decidable (limits.Justifies reading event) :=
  decidable_of_iff
    ((event = .overMax → limits.max < reading) ∧ (event = .lessMin → reading < limits.min))
    ⟨fun both => ⟨both.1, both.2⟩, fun justified => ⟨justified.overMax, justified.lessMin⟩⟩

/-! ## The comparison -/

/-- How far a reading is from the remembered value. -/
def apart (value prevValue : UInt16) : Int :=
  |(value.toNat : Int) - prevValue.toNat|

theorem dif_eq (value prevValue : UInt16) :
    ((if value.toUInt32 ≥ prevValue.toUInt32 then
        (value.toUInt32 - prevValue.toUInt32).toUInt16
      else (prevValue.toUInt32 - value.toUInt32).toUInt16).toNat : Int) =
      apart value prevValue := by
  have small := value.toNat_lt
  have prevSmall := prevValue.toNat_lt
  by_cases above : value.toUInt32 ≥ prevValue.toUInt32
  · have order : prevValue.toNat ≤ value.toNat := by
      simpa [UInt32.le_iff_toNat_le] using above
    rw [if_pos above, apart, abs_of_nonneg (by omega)]
    rw [UInt32.toNat_toUInt16, UInt32.toNat_sub_of_le _ _ above]
    simp only [UInt16.toNat_toUInt32]
    omega
  · have order : value.toUInt32 ≤ prevValue.toUInt32 := by
      rw [ge_iff_le, UInt32.le_iff_toNat_le] at above
      rw [UInt32.le_iff_toNat_le]
      omega
    have less : value.toNat ≤ prevValue.toNat := by
      simpa [UInt32.le_iff_toNat_le] using order
    rw [if_neg above, apart, abs_of_nonpos (by omega)]
    rw [UInt32.toNat_toUInt16, UInt32.toNat_sub_of_le _ _ order]
    simp only [UInt16.toNat_toUInt32]
    omega

theorem checkOutOfRange_eq (value prevValue : UInt16) (max min : UInt32) :
    checkOutOfRange value.toUInt32 prevValue.toUInt32 max min =
      if stableValue < apart value prevValue then
        if prevValue = 0xFFFF then .changeValue
        else if max < value.toUInt32 then .overMax
        else if value.toUInt32 < min then .lessMin
        else .changeValue
      else .ok := by
  have sentinel : prevValue.toUInt32 ≠ 0xFFFF ↔ ¬prevValue = 0xFFFF := by
    rw [← UInt16.toNat_inj, ne_eq, ← UInt32.toNat_inj]
    simp
  simp only [checkOutOfRange, gt_iff_lt]
  rw [← dif_eq value prevValue]
  simp only [Int.ofNat_lt, sentinel, ite_not]

/-- Limits that a 16-bit reading can be compared with, with room for the dead
zone below `0xFFFF`. -/
structure Limits.Word (limits : Limits) : Prop where
  nonnegative : 0 ≤ limits.min
  ordered : limits.min ≤ limits.max
  room : limits.max + stableValue < 0xFFFF

/-- A limit that is not negative is compared as it stands. -/
theorem toNat_ofInt {limit : Int} (nonnegative : 0 ≤ limit) (small : limit < 0xFFFF) :
    ((UInt32.ofInt limit).toNat : Int) = limit := by
  simp only [UInt32.ofInt, UInt32.toNat_ofNat']
  omega

theorem Limits.Word.check {limits : Limits} (word : limits.Word) (value prevValue : UInt16) :
    limits.check value.toUInt32 prevValue.toUInt32 =
      if stableValue < apart value prevValue then
        if prevValue = 0xFFFF then .changeValue
        else if limits.max < value.toNat then .overMax
        else if value.toNat < limits.min then .lessMin
        else .changeValue
      else .ok := by
  obtain ⟨nonnegative, ordered, room⟩ := word
  have max : UInt32.ofInt limits.max < value.toUInt32 ↔ limits.max < value.toNat := by
    have same := toNat_ofInt (nonnegative.trans ordered) (by simp [stableValue] at room; omega)
    rw [UInt32.lt_iff_toNat_lt, UInt16.toNat_toUInt32]
    omega
  have min : value.toUInt32 < UInt32.ofInt limits.min ↔ value.toNat < limits.min := by
    have same := toNat_ofInt nonnegative (by simp [stableValue] at room; omega)
    rw [UInt32.lt_iff_toNat_lt, UInt16.toNat_toUInt32]
    omega
  rw [Limits.check, checkOutOfRange_eq]
  simp only [max, min]

/-! ## What a voltage handler does -/

/-- A reading as a number. -/
def wordReading (i2cData : EventValue) : Int :=
  (get16bitValue i2cData).toNat

theorem Limits.check_eq_ok_iff (limits : Limits) (value prevValue : UInt16) :
    limits.check value.toUInt32 prevValue.toUInt32 = .ok ↔
      apart value prevValue ≤ stableValue := by
  rw [Limits.check, checkOutOfRange_eq]
  split
  · rename_i moved
    refine ⟨fun ok => ?_, fun steady => absurd steady (not_le.mpr moved)⟩
    split at ok
    · cases ok
    · split at ok
      · cases ok
      · split at ok <;> cases ok
  · rename_i steady
    exact ⟨fun _ => not_lt.mp steady, fun _ => rfl⟩

theorem stored_eq (event : Event) (value prevValue : UInt16) :
    (if event = .overMax ∨ event = .lessMin then value
      else if event = .changeValue then value else prevValue) =
      if event = .ok then prevValue else value := by
  cases event <;> rfl

/-- Every event but `I2C_ERR_OK` stores the reading. -/
theorem voltageHandler_stores (limits : Limits) (prevValue : UInt16) (i2cData : EventValue) :
    (voltageHandler limits prevValue i2cData).1 =
      if (voltageHandler limits prevValue i2cData).2 = .ok then prevValue
      else get16bitValue i2cData := by
  apply stored_eq

theorem voltageHandler_remembers (limits : Limits) (prevValue : UInt16)
    (i2cData : EventValue) :
    ((voltageHandler limits prevValue i2cData).1.toNat : Int) =
      track (stableValue : Int) prevValue.toNat (wordReading i2cData) := by
  have ok := limits.check_eq_ok_iff (get16bitValue i2cData) prevValue
  rw [voltageHandler_stores]
  by_cases moved : stableValue < apart (get16bitValue i2cData) prevValue
  · have event : (voltageHandler limits prevValue i2cData).2 ≠ .ok :=
      fun returned => absurd (ok.mp returned) (not_le.mpr moved)
    rw [if_neg event]
    exact (track_of_lt moved).symm
  · have event : (voltageHandler limits prevValue i2cData).2 = .ok :=
      ok.mpr (not_lt.mp moved)
    rw [if_pos event]
    exact (track_of_le (not_lt.mp moved)).symm

/-- An excursion that is out of the dead zone is reported. -/
theorem Limits.Word.voltageHandler_event {limits : Limits} (word : limits.Word)
    {prevValue : UInt16} {i2cData : EventValue} (known : prevValue ≠ 0xFFFF)
    (moved : stableValue < apart (get16bitValue i2cData) prevValue) :
    (voltageHandler limits prevValue i2cData).2 =
      if limits.max < wordReading i2cData then .overMax
      else if wordReading i2cData < limits.min then .lessMin
      else .changeValue := by
  simp only [voltageHandler, word.check]
  rw [if_pos moved, if_neg known]
  rfl

theorem Limits.Word.voltageHandler_justified {limits : Limits} (word : limits.Word)
    (prevValue : UInt16) (i2cData : EventValue) :
    limits.Justifies (wordReading i2cData) (voltageHandler limits prevValue i2cData).2 := by
  simp only [voltageHandler, word.check]
  constructor <;> intro returned
  · split at returned
    · split at returned
      · cases returned
      · split at returned
        · assumption
        · split at returned <;> cases returned
    · cases returned
  · split at returned
    · split at returned
      · cases returned
      · split at returned
        · cases returned
        · split at returned
          · assumption
          · cases returned
    · cases returned

/-- The check for a repeated reading changes nothing, since a repeated reading is
in the dead zone. -/
theorem handlerRpsBatVoltage_eq (prevValue : UInt16) (i2cData : EventValue) :
    handlerRpsBatVoltage prevValue i2cData =
      voltageHandler regRpsBatVoltage prevValue i2cData := by
  by_cases repeated : get16bitValue i2cData = prevValue
  · have steady : apart prevValue prevValue ≤ stableValue := by
      rw [apart, sub_self, abs_zero]
      decide
    have ok := (regRpsBatVoltage.check_eq_ok_iff prevValue prevValue).mpr steady
    simp only [handlerRpsBatVoltage, voltageHandler, repeated, ok, ne_eq, not_true_eq_false,
      if_false]
  · simp only [handlerRpsBatVoltage, voltageHandler, ne_eq, repeated, not_false_eq_true, if_true]

theorem VoltageMonitor.word (monitor : VoltageMonitor) : monitor.limits.Word := by
  cases monitor <;> exact ⟨by decide, by decide, by decide⟩

theorem VoltageMonitor.handler_eq (monitor : VoltageMonitor) (prevValue : UInt16)
    (i2cData : EventValue) :
    monitor.handler prevValue i2cData = voltageHandler monitor.limits prevValue i2cData := by
  cases monitor with
  | rpsBatVoltage => exact handlerRpsBatVoltage_eq prevValue i2cData
  | adcCh1 => rfl
  | adcCh2 => rfl
  | adcCh3 => rfl
  | rpsChrgVoltage => rfl

/-! ## Reports -/

/-- What a call of a voltage handler owes its caller: it remembers a value within
the dead zone of the reading, its events name a limit that is exceeded, and
the jump from inside the limits to the outside is reported. -/
structure VoltageReport (limits : Limits) (history : History UInt16) (reading : Int)
    (handled : UInt16 × Event) : Prop where
  remembers : |reading - handled.1.toNat| ≤ stableValue
  justified : limits.Justifies reading handled.2
  overMax : ∀ before ∈ history.last, limits.Inside before → limits.max < reading →
    2 * stableValue < |reading - before| → handled.2 = .overMax
  lessMin : ∀ before ∈ history.last, limits.Inside before → reading < limits.min →
    2 * stableValue < |reading - before| → handled.2 = .lessMin

/-- The remembered value is within the dead zone of the last reading. -/
def Tracks (history : History UInt16) : Prop :=
  ∀ before ∈ history.last, |before - history.prevValue.toNat| ≤ stableValue

/-- After a reading inside the limits the remembered value is not the sentinel, and a
jump leaves the dead zone. -/
theorem Tracks.jump {limits : Limits} (word : limits.Word) {history : History UInt16}
    (tracks : Tracks history) {before : Int} (last : before ∈ history.last)
    (inside : limits.Inside before) {i2cData : EventValue}
    (far : 2 * stableValue < |wordReading i2cData - before|) :
    history.prevValue ≠ 0xFFFF ∧
      stableValue < apart (get16bitValue i2cData) history.prevValue := by
  have near := tracks before last
  constructor
  · intro sentinel
    have room := word.room
    rw [sentinel, abs_le] at near
    have high : ((0xFFFF : UInt16).toNat : Int) = 0xFFFF := rfl
    have under := inside.2
    omega
  · have twice : 2 • (stableValue : Int) < |wordReading i2cData - before| := by
      rw [two_nsmul]
      omega
    exact lt_abs_sub_of_two_nsmul_lt near twice

theorem VoltageMonitor.report (monitor : VoltageMonitor) {history : History UInt16}
    (tracks : Tracks history) (i2cData : EventValue) :
    VoltageReport monitor.limits history (wordReading i2cData)
      (monitor.handler history.prevValue i2cData) := by
  have word := monitor.word
  rw [monitor.handler_eq]
  refine ⟨?_, word.voltageHandler_justified _ _, ?_, ?_⟩
  · rw [voltageHandler_remembers]
    exact abs_sub_track_le (by decide) _ _
  · intro before last inside above far
    obtain ⟨known, moved⟩ := tracks.jump word last inside far
    rw [word.voltageHandler_event known moved, if_pos above]
  · intro before last inside below far
    obtain ⟨known, moved⟩ := tracks.jump word last inside far
    have notAbove : ¬monitor.limits.max < wordReading i2cData :=
      not_lt.mpr (below.le.trans word.ordered)
    rw [word.voltageHandler_event known moved, if_neg notAbove, if_pos below]

/-- Every call of a voltage handler, in every sequence of readings, fulfils its
report.  The reading `0xFFFF` is no exception. -/
theorem voltage_monitor_reports (monitor : VoltageMonitor) (inputs : List EventValue) :
    (watch monitor.handler wordReading).AllSteps
      (fun history i2cData =>
        VoltageReport monitor.limits history (wordReading i2cData)
          (monitor.handler history.prevValue i2cData))
      (History.first 0xFFFF) inputs := by
  have initially : Tracks (History.first 0xFFFF) := by
    intro before last
    cases last
  refine Machine.allSteps_of_invariant ?_ ?_ initially
    (Machine.allSteps_of_forall (fun _ _ => trivial) _)
  · intro history i2cData tracks _ reading last
    cases last
    exact (monitor.report tracks i2cData).remembers
  · intro history i2cData tracks _
    exact monitor.report tracks i2cData

end TfortisPack.Hwsys
