import TfortisPack.Hwsys.I2cModule

/-!
# The register table

`sock_msgArr` as `i2c_module.c` initialises it.  Both programs hold a copy: the
daemon serves its own, and `hwsys_ctrl` looks a register up by name in the one
it was built with (`get_i2c_addr_by_name`).
-/

namespace TfortisPack.Hwsys

/-! ## Rows -/

/-- `I2C_TYPE`. -/
inductive I2cType where
  | uint
  | pseudoFloat
  | floatSfp
  deriving DecidableEq, Repr

def I2cType.code : I2cType → UInt32
  | .uint => 1
  | .pseudoFloat => 2
  | .floatSfp => 3

/-- One initialiser.  A handler is named after its register, so the row only
says whether there is one. -/
structure Row where
  addr : Nat
  name : String
  lenData : UInt8
  type : I2cType
  handled : Bool
  /-- The first byte of `value`; the others are 0. -/
  first : UInt8
  deriving DecidableEq, Repr

def row (addr : Nat) (name : String) (lenData : UInt8) (type : I2cType) (handled : Bool) : Row :=
  ⟨addr, name, lenData, type, handled, 0⟩

/-- `// MAIN`. -/
def mainRows : List Row := [
  row 0 "INTSTAT" 1 .uint false,
  row 1 "INTMASK" 1 .uint false,
  row 2 "HW_VERS" 1 .uint false,
  row 3 "SW_VERS" 1 .uint false,
  row 4 "ADC_CH1" 2 .pseudoFloat true,
  row 5 "ADC_CH2" 2 .pseudoFloat true,
  row 6 "ADC_CH3" 2 .pseudoFloat true]

/-- `// SENSOR`. -/
def sensorRows : List Row := [
  row 10 "tamper" 1 .uint true,
  row 11 "sensor1" 1 .uint true,
  row 12 "sensor2" 1 .uint true,
  row 13 "relay" 1 .uint true,
  row 14 "DEFAULT_BUTTON" 1 .uint false,
  row 15 "DEFAULT_LED" 1 .uint false,
  row 16 "DEFAULT_LONG_PRESSED" 2 .uint true]

/-- `// UPS`. -/
def upsRows : List Row := [
  row 20 "upsModeAvalible" 1 .uint false,
  row 21 "RPS_HW_VERS" 1 .uint false,
  row 22 "RPS_SW_VERS" 1 .uint false,
  row 23 "upsPwrSource" 1 .uint true,
  row 24 "upsBatteryVoltage" 2 .pseudoFloat true,
  row 25 "RPS_CHRG_VOLTAGE" 2 .pseudoFloat true,
  row 26 "RPS_BAT_CURRENT" 2 .uint true,
  { row 27 "RPS_TEMPER" 1 .uint true with first := 123 },
  row 28 "RPS_LED_STATE" 1 .uint false,
  row 29 "RPS_BAT_KEY" 1 .uint false,
  row 30 "RPS_CHRG_KEY" 1 .uint false,
  row 31 "RPS_REL_STATE" 1 .uint false,
  row 32 "RPS_MIN_VOLTAGE" 2 .pseudoFloat false,
  row 33 "RPS_DISCH_VOLTAGE" 2 .pseudoFloat false,
  row 34 "upsBatteryTime" 2 .uint false,
  row 35 "RPS_TEST_OK" 1 .uint false,
  row 36 "RPS_CPU_ID" 2 .uint false,
  row 37 "RPS_LTC4151_OK" 1 .uint false,
  row 38 "RPS_ADC_BAT_VOLT" 2 .pseudoFloat false,
  row 39 "RPS_ADC_BAT_CURR" 2 .uint false,
  row 40 "RPS_TEST_MODE" 1 .uint false]

/-- `// SHT`. -/
def shtRows : List Row := [
  row 50 "sensorConnected" 1 .uint true,
  row 51 "SHT_TYPE" 10 .uint true,
  row 52 "sensorTemperature" 2 .floatSfp true,
  row 53 "sensorHumidity" 1 .uint true]

/-- `// SFP_1`. -/
def sfp1Rows : List Row := [
  row 60 "portSfpPresent_1" 1 .uint true,
  row 61 "portSfpSignalDetect_1" 1 .uint true,
  row 62 "portSfpVendor_1" 16 .uint false,
  row 63 "portSfpOui_1" 3 .uint false,
  row 64 "portSfpPartNumber_1" 16 .uint false,
  row 65 "portSfpRevision_1" 4 .uint false,
  row 66 "IDENTIFIER_1" 4 .uint false,
  row 67 "CONNECTOR_1" 30 .uint false,
  row 68 "TYPE_1" 16 .uint false,
  row 69 "LINK_LEN_1" 25 .uint false,
  row 70 "FIBER_TEC_1" 32 .uint false,
  row 71 "MEDIA_1" 32 .uint false,
  row 72 "SPEED_1" 16 .uint false,
  row 73 "ENCODING_1" 16 .uint false,
  row 79 "LENC_1" 2 .uint false,
  row 74 "WAVELEN_1" 2 .uint false,
  row 75 "NBR_1" 2 .uint false,
  row 76 "LEN9_1" 2 .uint false,
  row 77 "LEN50_1" 2 .uint false,
  row 78 "LEN62_1" 2 .uint false,
  row 80 "portSfpTemperature_1" 2 .uint true,
  row 81 "portSfpVoltage_1" 2 .pseudoFloat true,
  row 82 "CURRENT_1" 2 .uint false,
  row 83 "portSfpBiasCurrent_1" 2 .uint false,
  row 84 "portSfpTxOutPowerDb_1" 2 .floatSfp true,
  row 85 "portSfpRxOutPowerDb_1" 2 .floatSfp true,
  row 86 "portSfpTxOutPower_1" 2 .uint false,
  row 87 "portSfpRxOutPower_1" 2 .uint false]

/-- `// SFP_2`. -/
def sfp2Rows : List Row := [
  row 90 "portSfpPresent_2" 1 .uint true,
  row 91 "portSfpSignalDetect_2" 1 .uint true,
  row 92 "portSfpVendor_2" 16 .uint false,
  row 93 "portSfpOui_2" 3 .uint false,
  row 94 "portSfpPartNumber_2" 16 .uint false,
  row 95 "portSfpRevision_2" 4 .uint false,
  row 96 "IDENTIFIER_2" 4 .uint false,
  row 97 "CONNECTOR_2" 30 .uint false,
  row 98 "TYPE_2" 16 .uint false,
  row 99 "LINK_LEN_2" 25 .uint false,
  row 100 "FIBER_TEC_2" 32 .uint false,
  row 101 "MEDIA_2" 32 .uint false,
  row 102 "SPEED_2" 16 .uint false,
  row 103 "ENCODING_2" 16 .uint false,
  row 104 "WAVELEN_2" 2 .uint false,
  row 105 "NBR_2" 2 .uint false,
  row 106 "LEN9_2" 2 .uint false,
  row 107 "LEN50_2" 2 .uint false,
  row 108 "LEN62_2" 2 .uint false,
  row 109 "LENC_2" 2 .uint false,
  row 110 "portSfpTemperature_2" 2 .uint true,
  row 111 "portSfpVoltage_2" 2 .pseudoFloat true,
  row 112 "CURRENT_2" 2 .uint false,
  row 113 "portSfpBiasCurrent_2" 2 .uint false,
  row 114 "portSfpTxOutPowerDb_2" 2 .floatSfp true,
  row 115 "portSfpRxOutPowerDb_2" 2 .floatSfp true,
  row 116 "portSfpTxOutPower_2" 2 .uint false,
  row 117 "portSfpRxOutPower_2" 2 .uint false]

/-- `// RTC`. -/
def rtcRows : List Row := [
  row 120 "RTC_STATUS" 1 .uint false,
  row 121 "RTC_YEAR" 1 .uint false,
  row 122 "RTC_MONTH" 1 .uint false,
  row 123 "RTC_DAY" 1 .uint false,
  row 124 "RTC_WEEKDAY" 1 .uint false,
  row 125 "RTC_HOUR" 1 .uint false,
  row 126 "RTC_MINUTE" 1 .uint false,
  row 127 "RTC_SECOND" 1 .uint false]

/-- `// POE`. -/
def poeRows : List Row := [
  row 130 "POE_ID" 1 .uint false,
  row 131 "POE_STATE" 1 .uint false,
  row 132 "POE_BANK" 1 .uint false,
  row 133 "POE_MODE" 1 .uint false]

/-- The initialisers in their order. -/
def rows : List Row :=
  mainRows ++ sensorRows ++ upsRows ++ shtRows ++ sfp1Rows ++ sfp2Rows ++ rtcRows ++ poeRows

/-- Every address of the table has a row, and `get_id_by_addr` finds it. -/
theorem rows_cover : ∀ addr ∈ registerAddresses,
    (rows.find? fun row => row.addr == addr).isSome = true := by
  decide +kernel

/-- `get_id_by_addr`. -/
def rowOf (register : Register) : Row :=
  (rows.find? fun row => row.addr == register.1).get (rows_cover register.1 register.2)

theorem rowOf_addr (register : Register) : (rowOf register).addr = register.1 := by
  have found := List.find?_some
    (Option.some_get (rows_cover register.1 register.2)).symm
  exact eq_of_beq found

theorem rowOf_mem (register : Register) : rowOf register ∈ rows :=
  List.mem_of_find?_eq_some (Option.some_get (rows_cover register.1 register.2)).symm

/-- The registers in the order of the table. -/
def tableOrder : List Register :=
  rows.filterMap fun row =>
    if member : row.addr ∈ registerAddresses then some ⟨row.addr, member⟩ else none

theorem mem_tableOrder (register : Register) : register ∈ tableOrder := by
  apply List.mem_filterMap.mpr
  have member : (rowOf register).addr ∈ registerAddresses := by
    rw [rowOf_addr]
    exact register.2
  refine ⟨rowOf register, rowOf_mem register, ?_⟩
  rw [dif_pos member]
  congr 1
  exact Subtype.ext (rowOf_addr register)

/-! ## The table in memory -/

/-- A name as the bytes of its array. -/
def nameBytes (name : String) : Vector UInt8 24 :=
  Vector.ofFn fun i => (name.toList.map fun letter => UInt8.ofNat letter.toNat).getD i.val 0

/-- The entry of a register.  `link` is where the linker puts the handlers. -/
def initialEntry (link : Register → UInt32) (register : Register) : I2cData where
  lenMsg := 0
  addr := register
  name := nameBytes (rowOf register).name
  opcode := .idle
  lenData := (rowOf register).lenData
  type := (rowOf register).type.code
  eventsHandler := if (rowOf register).handled then link register else 0
  value := Vector.ofFn fun i => if i.val = 0 then (rowOf register).first else 0

/-- The daemon when its threads start. -/
def started (link : Register → UInt32) : Daemon where
  sockMsgArr := initialEntry link
  i2cData :=
    { initialEntry link ⟨0, by decide⟩ with
      name := Vector.replicate 24 0, lenData := 0, type := 0 }
  writeFlag := false
  writing := false

/-! ## The command line client -/

/-- The `i2CParam` of `hwsys_ctrl` after `get_i2c_addr_by_name`: a static
variable of which four fields have been filled in. -/
def i2cParamFor (register : Register) : I2cData where
  lenMsg := 0
  addr := register
  name := Vector.replicate 24 0
  opcode := .idle
  lenData := (rowOf register).lenData
  type := (rowOf register).type.code
  eventsHandler := 0
  value := Vector.replicate 32 0

/-- `i2c_setHandler`: the message that `set` sends.  The shifts of an eight bit
value leave the bytes after the first at 0. -/
def i2cSetHandler (i2cParam : I2cData) (val : UInt8) : I2cData :=
  { i2cParam with
    opcode := .write
    value := Vector.ofFn fun i =>
      if i.val = 0 then val else if i.val < 4 then 0 else i2cParam.value.get i }

end TfortisPack.Hwsys
