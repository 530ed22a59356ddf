import Mathlib.Algebra.Order.Group.Unbundled.Int
import TfortisPack.Hwsys.Monitors

/-!
# The temperature monitors

The registers hold signed numbers and two of the limits are negative, but
`check_out_of_range` compares numbers of type `uint32_t`.  Each handler stores
the reading on its own choice of events: `handler_RPS_TEMPER` and the SFP
handlers not on `I2C_LESS_MIN`, `handler_SHT_TEMPERATURE` not on
`I2C_ERR_CHANGE_VALUE`.
-/

namespace TfortisPack.Hwsys

open TfortisPack.Library

/-! ## Handlers -/

def regRpsTemper : Limits := ⟨85, -60⟩

def regShtTemperature : Limits := ⟨500, -600⟩

def regSfpTemper : Limits := ⟨50, 20⟩

def regShtConnectedYes : UInt8 := 1

def regSfpPresentYes : UInt8 := 1

def handlerRpsTemper (temperPrevValue : UInt8) (i2cData : EventValue) : UInt8 × Event :=
  let value := firstByte i2cData
  let event := regRpsTemper.check value.toUInt32 temperPrevValue.toUInt32
  let prevValue := if event = .changeValue then value else temperPrevValue
  (if event = .overMax then value else prevValue, event)

/-- `connected` is `data.value[0]` after the call of `i2c_getData`. -/
def handlerShtTemperature (connected : UInt8) (shtTemperPrevValue : UInt16)
    (i2cData : EventValue) : UInt16 × Event :=
  if connected = regShtConnectedYes then
    let value : Int16 := (get16bitValue i2cData).toInt16
    let event := regShtTemperature.check value.toInt32.toUInt32 shtTemperPrevValue.toUInt32
    let prevValue := if event = .overMax then value.toUInt16 else shtTemperPrevValue
    (if event = .lessMin then value.toUInt16 else prevValue, event)
  else (shtTemperPrevValue, .ok)

/-- The body of the two SFP handlers; `present` is `data.value[0]` after the call of
`i2c_getData`. -/
def sfpTemperHandler (present : UInt8) (prevValue : UInt16) (i2cData : EventValue) :
    UInt16 × Event :=
  if present = regSfpPresentYes then
    let value := get16bitValue i2cData
    let event := regSfpTemper.check value.toUInt32 prevValue.toUInt32
    let prevValue := if event = .changeValue then value else prevValue
    (if event = .overMax then value else prevValue, event)
  else (prevValue, .ok)

def handlerSfp1Temper : UInt8 → UInt16 → EventValue → UInt16 × Event :=
  sfpTemperHandler

def handlerSfp2Temper : UInt8 → UInt16 → EventValue → UInt16 × Event :=
  sfpTemperHandler

/-! ## Readings and reports -/

/-- A byte as a signed number. -/
def signedByteReading (i2cData : EventValue) : Int :=
  (firstByte i2cData).toInt8.toInt

/-- A 16-bit value as a signed number. -/
def signedWordReading (i2cData : EventValue) : Int :=
  (get16bitValue i2cData).toInt16.toInt

/-- What a call of a temperature handler owes its caller: its events name a limit
that is exceeded, and a rise from inside the limits to more than the dead zone
allows is an overheat. -/
structure TemperatureReport (limits : Limits) (last : Option Int) (reading : Int)
    (event : Event) : Prop where
  justified : limits.Justifies reading event
  overMax : ∀ before ∈ last, limits.Inside before →
    limits.max + 2 * stableValue < reading → event = .overMax

/-- Every call in a sequence of readings fulfils its report. -/
def Reports {σ : Type} (handler : σ → EventValue → σ × Event) (reading : EventValue → Int)
    (limits : Limits) (prevValue : σ) (inputs : List EventValue) : Prop :=
  (watch handler reading).AllSteps
    (fun history i2cData =>
      TemperatureReport limits history.last (reading i2cData)
        (handler history.prevValue i2cData).2)
    (History.first prevValue) inputs

/-- Every step of the sequence meets a guard on what the handler remembers, the
reading before and the one it is called with. -/
def Throughout {σ : Type} (handler : σ → EventValue → σ × Event) (reading : EventValue → Int)
    (guard : History σ → EventValue → Prop) (prevValue : σ) (inputs : List EventValue) : Prop :=
  (watch handler reading).AllSteps guard (History.first prevValue) inputs

/-- A report that each step gives exactly if it meets its guard.  One direction may use an
invariant that guarded steps keep. -/
theorem reports_iff {σ : Type} {handler : σ → EventValue → σ × Event}
    {reading : EventValue → Int} {limits : Limits} {prevValue : σ}
    {guard : History σ → EventValue → Prop} {invariant : History σ → Prop}
    (initially : invariant (History.first prevValue))
    (preserved : ∀ history i2cData, invariant history → guard history i2cData →
      invariant ((watch handler reading).next history i2cData))
    (exact : ∀ history i2cData, invariant history →
      (TemperatureReport limits history.last (reading i2cData)
        (handler history.prevValue i2cData).2 ↔ guard history i2cData))
    (inputs : List EventValue) :
    Reports handler reading limits prevValue inputs ↔
      Throughout handler reading guard prevValue inputs := by
  constructor
  · intro reports
    refine Machine.allSteps_of_invariant ?_ ?_ initially reports
    · intro history i2cData invariant report
      exact preserved history i2cData invariant ((exact history i2cData invariant).mp report)
    · intro history i2cData invariant report
      exact (exact history i2cData invariant).mp report
  · intro guarded
    refine Machine.allSteps_of_invariant preserved ?_ initially guarded
    intro history i2cData invariant meets
    exact (exact history i2cData invariant).mpr meets

/-! ## Two's complement -/

theorem signedByteReading_eq (i2cData : EventValue) :
    signedByteReading i2cData =
      if (firstByte i2cData).toNat < 128 then ((firstByte i2cData).toNat : Int)
      else (firstByte i2cData).toNat - 256 := by
  have small := (firstByte i2cData).toNat_lt
  have signed : signedByteReading i2cData = (firstByte i2cData).toBitVec.toInt := rfl
  have unsigned : (firstByte i2cData).toBitVec.toNat = (firstByte i2cData).toNat := rfl
  rw [signed, BitVec.toInt_eq_toNat_cond, unsigned]
  split <;> split <;> omega

theorem signedWordReading_eq (i2cData : EventValue) :
    signedWordReading i2cData =
      if wordReading i2cData < 32768 then wordReading i2cData
      else wordReading i2cData - 65536 := by
  have small := (get16bitValue i2cData).toNat_lt
  have signed : signedWordReading i2cData = (get16bitValue i2cData).toBitVec.toInt := rfl
  have unsigned : (get16bitValue i2cData).toBitVec.toNat = (get16bitValue i2cData).toNat := rfl
  rw [signed, BitVec.toInt_eq_toNat_cond, unsigned, wordReading]
  split <;> split <;> omega

theorem wordReading_bounds (i2cData : EventValue) :
    0 ≤ wordReading i2cData ∧ wordReading i2cData < 65536 := by
  have small := (get16bitValue i2cData).toNat_lt
  simp only [wordReading]
  omega

/-! ## The board temperature -/

/-- The remembered byte is never the sentinel, and the converted minimum is above
every byte: outside the dead zone each reading is an excursion. -/
theorem handlerRpsTemper_event (temperPrevValue : UInt8) (i2cData : EventValue) :
    (handlerRpsTemper temperPrevValue i2cData).2 =
      if (stableValue : Int) < |((firstByte i2cData).toNat : Int) - temperPrevValue.toNat| then
        if 85 < (firstByte i2cData).toNat then .overMax else .lessMin
      else .ok := by
  have known : temperPrevValue.toUInt16 ≠ 0xFFFF := by
    intro sentinel
    have small := temperPrevValue.toNat_lt
    have same := congrArg UInt16.toNat sentinel
    simp at same
    omega
  have compared := checkOutOfRange_eq (firstByte i2cData).toUInt16 temperPrevValue.toUInt16
    (UInt32.ofInt regRpsTemper.max) (UInt32.ofInt regRpsTemper.min)
  rw [UInt8.toUInt32_toUInt16, UInt8.toUInt32_toUInt16] at compared
  have max : (UInt32.ofInt regRpsTemper.max).toNat = 85 := by decide
  have min : (UInt32.ofInt regRpsTemper.min).toNat = 4294967236 := by decide
  have small := (firstByte i2cData).toNat_lt
  have below : (firstByte i2cData).toUInt32 < UInt32.ofInt regRpsTemper.min := by
    rw [UInt32.lt_iff_toNat_lt, min, UInt8.toNat_toUInt32]
    omega
  simp only [handlerRpsTemper, Limits.check, compared, known, below, apart, if_false, if_true,
    UInt32.lt_iff_toNat_lt, max, UInt8.toNat_toUInt32, UInt8.toNat_toUInt16]

/-- The reading is within the dead zone of the remembered byte, or above the
maximum. -/
def SteadyOrHot (history : History UInt8) (i2cData : EventValue) : Prop :=
  |((firstByte i2cData).toNat : Int) - history.prevValue.toNat| ≤ stableValue ∨
    regRpsTemper.max < signedByteReading i2cData

/-- The remembered byte is out of reach of an overheat as long as readings inside the
limits stay in the dead zone. -/
def CoolByte (history : History UInt8) : Prop :=
  ∀ before ∈ history.last, regRpsTemper.Inside before →
    history.prevValue.toNat ≤ 95 ∨ 186 ≤ history.prevValue.toNat

theorem coolByte_next (history : History UInt8) (i2cData : EventValue)
    (meets : SteadyOrHot history i2cData) :
    CoolByte ((watch handlerRpsTemper signedByteReading).next history i2cData) := by
  intro reading last inside
  cases last
  have above : ¬regRpsTemper.max < signedByteReading i2cData := not_lt.mpr inside.2
  have steady := meets.resolve_right above
  have event := handlerRpsTemper_event history.prevValue i2cData
  rw [if_neg (not_lt.mpr steady)] at event
  have kept : (handlerRpsTemper history.prevValue i2cData).1 = history.prevValue := by
    simp only [handlerRpsTemper] at event ⊢
    rw [event]
    rfl
  have limits : regRpsTemper.max = 85 ∧ regRpsTemper.min = -60 := ⟨rfl, rfl⟩
  have signed := signedByteReading_eq i2cData
  have bounds := inside
  simp only [Limits.Inside, limits] at bounds
  rw [abs_le] at steady
  simp only [stableValue] at steady
  show (handlerRpsTemper history.prevValue i2cData).1.toNat ≤ 95 ∨
    186 ≤ (handlerRpsTemper history.prevValue i2cData).1.toNat
  rw [kept]
  split at signed <;> omega

theorem rpsTemper_report_iff (history : History UInt8) (i2cData : EventValue)
    (cool : CoolByte history) :
    TemperatureReport regRpsTemper history.last (signedByteReading i2cData)
        (handlerRpsTemper history.prevValue i2cData).2 ↔
      SteadyOrHot history i2cData := by
  have event := handlerRpsTemper_event history.prevValue i2cData
  have small := (firstByte i2cData).toNat_lt
  have signed := signedByteReading_eq i2cData
  have max : regRpsTemper.max = 85 := rfl
  have min : regRpsTemper.min = -60 := rfl
  constructor
  · intro report
    by_contra never
    simp only [SteadyOrHot, not_or, not_le, not_lt] at never
    rw [if_pos never.1] at event
    by_cases high : 85 < (firstByte i2cData).toNat
    · rw [if_pos high] at event
      exact absurd (report.justified.overMax event) (not_lt.mpr never.2)
    · rw [if_neg high] at event
      have below := report.justified.lessMin event
      rw [min] at below
      split at signed <;> omega
  · intro meets
    refine ⟨⟨?_, ?_⟩, ?_⟩
    · intro returned
      rw [event] at returned
      refine meets.resolve_left fun steady => ?_
      rw [if_neg (not_lt.mpr steady)] at returned
      cases returned
    · intro returned
      rw [event] at returned
      split at returned
      · rename_i moved
        have hot := meets.resolve_left (not_le.mpr moved)
        split at returned
        · cases returned
        · rw [max] at hot
          split at signed <;> omega
      · cases returned
    · intro before last inside rise
      have kept := cool before last inside
      rw [max] at rise
      simp only [stableValue] at rise
      have high : 85 < (firstByte i2cData).toNat := by
        split at signed <;> omega
      have moved : (stableValue : Int) <
          |((firstByte i2cData).toNat : Int) - history.prevValue.toNat| := by
        rw [lt_abs]
        simp only [stableValue]
        split at signed <;> omega
      rw [event, if_pos moved, if_pos high]

theorem rpsTemper_reports_iff (inputs : List EventValue) :
    Reports handlerRpsTemper signedByteReading regRpsTemper 0xFF inputs ↔
      Throughout handlerRpsTemper signedByteReading SteadyOrHot 0xFF inputs := by
  have initially : CoolByte (History.first 0xFF) := by
    intro before last
    cases last
  exact reports_iff initially (fun history i2cData _ meets => coolByte_next history i2cData meets)
    rpsTemper_report_iff inputs

/-! ## The connected sensor -/

/-- Compared with the sentinel, no reading is out of its limits. -/
theorem Limits.check_sentinel (limits : Limits) (value : UInt32) :
    limits.check value (0xFFFF : UInt16).toUInt32 = .changeValue ∨
      limits.check value (0xFFFF : UInt16).toUInt32 = .ok := by
  have sentinel : ¬(0xFFFF : UInt16).toUInt32 ≠ 0xFFFF := by decide
  simp only [Limits.check, checkOutOfRange, sentinel, if_false]
  generalize (ite (value ≥ _) _ _ : UInt16).toNat = dif
  by_cases moved : dif > stableValue
  · exact Or.inl (if_pos moved)
  · exact Or.inr (if_neg moved)

/-- Nothing but an excursion is stored, and nothing is an excursion before something
has been stored. -/
theorem handlerShtTemperature_sentinel (connected : UInt8) (i2cData : EventValue) :
    (handlerShtTemperature connected 0xFFFF i2cData).1 = 0xFFFF ∧
      (handlerShtTemperature connected 0xFFFF i2cData).2 ≠ .overMax ∧
      (handlerShtTemperature connected 0xFFFF i2cData).2 ≠ .lessMin := by
  simp only [handlerShtTemperature]
  split
  · rcases regShtTemperature.check_sentinel (get16bitValue i2cData).toInt16.toInt32.toUInt32 with
      event | event
    · simp only [event]
      exact ⟨rfl, by decide, by decide⟩
    · simp only [event]
      exact ⟨rfl, by decide, by decide⟩
  · decide

/-- The reading is no rise that calls for an overheat. -/
def NoRise (history : History UInt16) (i2cData : EventValue) : Prop :=
  ∀ before ∈ history.last, regShtTemperature.Inside before →
    signedWordReading i2cData ≤ regShtTemperature.max + 2 * stableValue

/-- Nothing has been stored. -/
def Unset (history : History UInt16) : Prop :=
  history.prevValue = 0xFFFF

theorem shtTemperature_reports_iff (inputs : List EventValue) :
    Reports (handlerShtTemperature regShtConnectedYes) signedWordReading regShtTemperature
        0xFFFF inputs ↔
      Throughout (handlerShtTemperature regShtConnectedYes) signedWordReading NoRise
        0xFFFF inputs := by
  have initially : Unset (History.first 0xFFFF) := rfl
  refine reports_iff initially ?_ ?_ inputs
  · intro history i2cData sentinel _
    have kept := (handlerShtTemperature_sentinel regShtConnectedYes i2cData).1
    rw [Unset] at sentinel
    rw [← sentinel] at kept
    exact kept.trans sentinel
  · intro history i2cData sentinel
    rw [Unset] at sentinel
    have silent := (handlerShtTemperature_sentinel regShtConnectedYes i2cData).2
    rw [← sentinel] at silent
    constructor
    · intro report before last inside
      by_contra rise
      exact silent.1 (report.overMax before last inside (not_le.mp rise))
    · intro noRise
      refine ⟨⟨fun hot => absurd hot silent.1, fun cold => absurd cold silent.2⟩, ?_⟩
      intro before last inside rise
      exact absurd rise (not_lt.mpr (noRise before last inside))

/-! ## The optical modules -/

theorem regSfpTemper_word : regSfpTemper.Word :=
  ⟨by decide, by decide, by decide⟩

/-- A negative reading, taken for a large one, is outside the dead zone of a
remembered value. -/
def Misread (history : History UInt16) (i2cData : EventValue) : Prop :=
  signedWordReading i2cData < 0 ∧ history.prevValue ≠ 0xFFFF ∧
    stableValue < apart (get16bitValue i2cData) history.prevValue

theorem sfpTemperHandler_event (prevValue : UInt16) (i2cData : EventValue) :
    (sfpTemperHandler regSfpPresentYes prevValue i2cData).2 =
      if stableValue < apart (get16bitValue i2cData) prevValue then
        if prevValue = 0xFFFF then .changeValue
        else if regSfpTemper.max < wordReading i2cData then .overMax
        else if wordReading i2cData < regSfpTemper.min then .lessMin
        else .changeValue
      else .ok := by
  simp only [sfpTemperHandler, if_true, regSfpTemper_word.check]
  rfl

/-- After a reading inside the limits the remembered value is within its dead
zone. -/
def TracksInside (history : History UInt16) : Prop :=
  ∀ before ∈ history.last, regSfpTemper.Inside before →
    |before - history.prevValue.toNat| ≤ stableValue

theorem tracksInside_next (history : History UInt16) (i2cData : EventValue) :
    TracksInside ((watch (sfpTemperHandler regSfpPresentYes) signedWordReading).next
      history i2cData) := by
  intro reading last inside
  cases last
  have event := sfpTemperHandler_event history.prevValue i2cData
  have signed := signedWordReading_eq i2cData
  have bounds := wordReading_bounds i2cData
  have max : regSfpTemper.max = 50 := rfl
  have min : regSfpTemper.min = 20 := rfl
  have within := inside
  simp only [Limits.Inside, max, min] at within
  have same : signedWordReading i2cData = wordReading i2cData := by
    split at signed <;> omega
  show |signedWordReading i2cData -
    (sfpTemperHandler regSfpPresentYes history.prevValue i2cData).1.toNat| ≤ stableValue
  rw [same]
  by_cases moved : stableValue < apart (get16bitValue i2cData) history.prevValue
  · have change : (sfpTemperHandler regSfpPresentYes history.prevValue i2cData).2 =
        .changeValue := by
      rw [event, if_pos moved]
      split
      · rfl
      · rw [if_neg (by omega), if_neg (by omega)]
    have stored : (sfpTemperHandler regSfpPresentYes history.prevValue i2cData).1 =
        get16bitValue i2cData := by
      simp only [sfpTemperHandler, if_true] at change ⊢
      rw [change]
      rfl
    rw [stored, wordReading, sub_self, abs_zero]
    decide
  · have ok : (sfpTemperHandler regSfpPresentYes history.prevValue i2cData).2 = .ok := by
      rw [event, if_neg moved]
    have kept : (sfpTemperHandler regSfpPresentYes history.prevValue i2cData).1 =
        history.prevValue := by
      simp only [sfpTemperHandler, if_true] at ok ⊢
      rw [ok]
      rfl
    rw [kept]
    exact not_lt.mp moved

theorem sfpTemper_report_iff (history : History UInt16) (i2cData : EventValue)
    (tracks : TracksInside history) :
    TemperatureReport regSfpTemper history.last (signedWordReading i2cData)
        (sfpTemperHandler regSfpPresentYes history.prevValue i2cData).2 ↔
      ¬Misread history i2cData := by
  have event := sfpTemperHandler_event history.prevValue i2cData
  have signed := signedWordReading_eq i2cData
  have bounds := wordReading_bounds i2cData
  have max : regSfpTemper.max = 50 := rfl
  have min : regSfpTemper.min = 20 := rfl
  constructor
  · intro report misread
    obtain ⟨negative, known, moved⟩ := misread
    have high : regSfpTemper.max < wordReading i2cData := by
      split at signed <;> omega
    rw [if_pos moved, if_neg known, if_pos high] at event
    have above := report.justified.overMax event
    omega
  · intro read
    refine ⟨⟨?_, ?_⟩, ?_⟩
    · intro returned
      rw [event] at returned
      split at returned
      · rename_i moved
        split at returned
        · cases returned
        · rename_i known
          split at returned
          · have negative : ¬signedWordReading i2cData < 0 :=
              fun negative => read ⟨negative, known, moved⟩
            split at signed <;> omega
          · split at returned <;> cases returned
      · cases returned
    · intro returned
      rw [event] at returned
      split at returned
      · split at returned
        · cases returned
        · split at returned
          · cases returned
          · split at returned
            · split at signed <;> omega
            · cases returned
      · cases returned
    · intro before last inside rise
      have near := tracks before last inside
      have under := inside.2
      rw [abs_le] at near
      rw [max] at rise under
      simp only [stableValue] at rise near
      have high : regSfpTemper.max < wordReading i2cData := by
        split at signed <;> omega
      have known : history.prevValue ≠ 0xFFFF := by
        intro sentinel
        have top : history.prevValue.toNat = 0xFFFF := congrArg UInt16.toNat sentinel
        omega
      have moved : stableValue < apart (get16bitValue i2cData) history.prevValue := by
        have reading : wordReading i2cData = (get16bitValue i2cData).toNat := rfl
        rw [apart, lt_abs]
        simp only [stableValue]
        split at signed <;> omega
      rw [event, if_pos moved, if_neg known, if_pos high]

theorem sfpTemper_reports_iff (inputs : List EventValue) :
    Reports (sfpTemperHandler regSfpPresentYes) signedWordReading regSfpTemper 0xFFFF inputs ↔
      Throughout (sfpTemperHandler regSfpPresentYes) signedWordReading
        (fun history i2cData => ¬Misread history i2cData) 0xFFFF inputs := by
  have initially : TracksInside (History.first 0xFFFF) := by
    intro before last
    cases last
  exact reports_iff initially (fun history i2cData _ _ => tracksInside_next history i2cData)
    sfpTemper_report_iff inputs

/-! ## All four handlers -/

/-- The handlers of the temperatures, with the sensor connected and the module
present. -/
inductive TemperatureMonitor where
  | rpsTemper
  | shtTemperature
  | sfp1Temper
  | sfp2Temper
  deriving DecidableEq, Repr

/-- Every call of the handler fulfils its report. -/
def TemperatureMonitor.Reports : TemperatureMonitor → List EventValue → Prop
  | rpsTemper => Hwsys.Reports handlerRpsTemper signedByteReading regRpsTemper 0xFF
  | shtTemperature =>
      Hwsys.Reports (handlerShtTemperature regShtConnectedYes) signedWordReading
        regShtTemperature 0xFFFF
  | sfp1Temper =>
      Hwsys.Reports (handlerSfp1Temper regSfpPresentYes) signedWordReading regSfpTemper 0xFFFF
  | sfp2Temper =>
      Hwsys.Reports (handlerSfp2Temper regSfpPresentYes) signedWordReading regSfpTemper 0xFFFF

/-- What the readings must be like. -/
def TemperatureMonitor.Tame : TemperatureMonitor → List EventValue → Prop
  | rpsTemper => Throughout handlerRpsTemper signedByteReading SteadyOrHot 0xFF
  | shtTemperature =>
      Throughout (handlerShtTemperature regShtConnectedYes) signedWordReading NoRise 0xFFFF
  | sfp1Temper =>
      Throughout (handlerSfp1Temper regSfpPresentYes) signedWordReading
        (fun history i2cData => ¬Misread history i2cData) 0xFFFF
  | sfp2Temper =>
      Throughout (handlerSfp2Temper regSfpPresentYes) signedWordReading
        (fun history i2cData => ¬Misread history i2cData) 0xFFFF

/-- For every sequence of readings: the events name exceeded limits and every rise is
reported, exactly if the board sensor leaves the dead zone only above its
maximum, the connected sensor shows no rise and the optical modules no
negative reading out of the dead zone of a remembered one. -/
theorem temperature_monitor_reports_iff (monitor : TemperatureMonitor)
    (inputs : List EventValue) : monitor.Reports inputs ↔ monitor.Tame inputs := by
  cases monitor with
  | rpsTemper => exact rpsTemper_reports_iff inputs
  | shtTemperature => exact shtTemperature_reports_iff inputs
  | sfp1Temper => exact sfpTemper_reports_iff inputs
  | sfp2Temper => exact sfpTemper_reports_iff inputs

/-- A value whose first two bytes are given. -/
def valueOf (low high : UInt8) : EventValue :=
  Vector.ofFn fun i => if i.val = 0 then low else if i.val = 1 then high else 0

/-- Readings that are misreported: 25 degrees on the board are below the minimum, a rise
from 20 to 60 degrees at the sensor is missed, and a module at -5 degrees after
one at 30 is too hot. -/
theorem temperature_monitor_misreports :
    (watch handlerRpsTemper signedByteReading).outputs (History.first 0xFF) [valueOf 25 0] =
        [.lessMin] ∧
      (watch (handlerShtTemperature regShtConnectedYes) signedWordReading).outputs
        (History.first 0xFFFF) [valueOf 200 0, valueOf 88 2] = [.changeValue, .changeValue] ∧
      (watch (handlerSfp1Temper regSfpPresentYes) signedWordReading).outputs
        (History.first 0xFFFF) [valueOf 30 0, valueOf 0xFB 0xFF] = [.changeValue, .overMax] ∧
      ¬∀ (monitor : TemperatureMonitor) (inputs : List EventValue), monitor.Reports inputs := by
  refine ⟨by decide, by decide, by decide, fun always => ?_⟩
  have report := (always .rpsTemper [valueOf 25 0]).1
  exact absurd (report.justified.lessMin (by decide)) (by decide)

end TfortisPack.Hwsys
