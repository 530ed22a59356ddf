import TfortisPack.Autorestart.Decimals
import TfortisPack.Hwsys.Monitors
import TfortisPack.Hwsys.SockMsgArr
import TfortisPack.Library.DecimalTexts

/-!
# What `hwsys_ctrl` prints

`i2c_getHandler` prints the value of the response by its length and its type.  A
measured quantity of two bytes is printed in two parts, the quotient and the
remainder of a division by ten or a thousand.  `i2c_parsingData` of the daemon
repeats the case distinction without the signed type.
-/

namespace TfortisPack.Hwsys

open TfortisPack.Library

/-! ## Printing -/

/-- The byte of `value` at a place. -/
def byteAt (value : EventValue) (place : Nat) : UInt8 :=
  value.toList.getD place 0

/-- Two bytes of `value` as `uint16_t`. -/
def word16 (value : EventValue) : UInt16 :=
  (byteAt value 0).toUInt16 ||| (byteAt value 1).toUInt16 <<< 8

/-- Four bytes of `value` as `uint32_t`. -/
def word32 (value : EventValue) : UInt32 :=
  (byteAt value 0).toUInt32 ||| (byteAt value 1).toUInt32 <<< 8 |||
    (byteAt value 2).toUInt32 <<< 16 ||| (byteAt value 3).toUInt32 <<< 24

/-- `%s`; a value without a zero byte is cut off at its end. -/
def valueString (value : EventValue) : List Char :=
  (value.toList.takeWhile (· ≠ 0)).map fun byte => Char.ofNat byte.toNat

/-- The branch `TYPE_PSEUDO_FLOAT`. -/
def pseudoFloatText (tmp16 : UInt16) : List Char :=
  if tmp16 < 1000 then
    DecimalTexts.point (tmp16 / 10).toNat (tmp16 % 10).toNat
  else DecimalTexts.point (tmp16 / 1000).toNat (tmp16 % 1000).toNat

/-- The branch `TYPE_FLOAT_SFP`; the division is that of `int`. -/
def floatSfpText (itmp16 : Int16) : List Char :=
  if itmp16 < 1000 then
    DecimalTexts.point (itmp16.toInt.tdiv 10) |itmp16.toInt.tmod 10|
  else DecimalTexts.point (itmp16.toInt.tdiv 1000) |itmp16.toInt.tmod 1000|

/-- The `switch` of `i2c_getHandler`. -/
def valueText (lenData : UInt8) (type : UInt32) (value : EventValue) : List Char :=
  if lenData = 1 then DecimalTexts.integer (byteAt value 0).toNat
  else if lenData = 2 then
    if type = I2cType.pseudoFloat.code then pseudoFloatText (word16 value)
    else if type = I2cType.floatSfp.code then floatSfpText (word16 value).toInt16
    else DecimalTexts.integer (word16 value).toNat
  -- `%d` shows an `uint32_t` as `int`
  else if lenData = 4 then DecimalTexts.integer (word32 value).toInt32.toInt
  else valueString value

def errorResponse : List Char :=
  "error response".toList

/-- The lines that `i2c_getHandler` prints after `SOCKET_READ_OK`. -/
def printResponse (i2cData : I2cData) : List (List Char) :=
  if i2cData.opcode = .response then
    (if byteAt i2cData.value 0 = 0xAA ∧ byteAt i2cData.value 1 = 0xAA then [errorResponse]
      else []) ++
      [valueText i2cData.lenData i2cData.type i2cData.value]
  else []

/-- `i2c_parsingData`, given the entry of the register. -/
def parsingData (entry : I2cData) : List Char :=
  if entry.lenData = 1 then DecimalTexts.integer (byteAt entry.value 0).toNat
  else if entry.lenData = 2 then
    if entry.type = I2cType.pseudoFloat.code then pseudoFloatText (word16 entry.value)
    else DecimalTexts.integer (word16 entry.value).toNat
  else if entry.lenData = 4 then DecimalTexts.integer (word32 entry.value).toInt32.toInt
  else valueString entry.value

/-- The response of the daemon for a register that holds `value`. -/
def responseOf (register : Register) (value : EventValue) : I2cData :=
  { i2cParamFor register with opcode := .response, value := value }

/-- The two switches differ in the signed type only. -/
theorem valueText_eq_parsingData {entry : I2cData}
    (unsigned : entry.type ≠ I2cType.floatSfp.code) :
    valueText entry.lenData entry.type entry.value = parsingData entry := by
  simp only [valueText, parsingData, if_neg unsigned]

/-! ## Measured quantities -/

/-- The registers of a type that is printed with a point. -/
abbrev FloatRegister := { register : Register // (rowOf register).type ≠ .uint }

/-- The number a register holds: two's complement for `TYPE_FLOAT_SFP`. -/
def FloatRegister.number (register : FloatRegister) (value : EventValue) : Int :=
  if (rowOf register.1).type = .floatSfp then (word16 value).toInt16.toInt
  else (word16 value).toNat

/-- What the text is to denote. -/
def scaled (number : Int) : Rat :=
  if number < 1000 then number / 10 else number / 1000

/-- The only line printed denotes the scaled number. -/
def FloatRegister.Reads (register : FloatRegister) (value : EventValue) : Prop :=
  ∃ text, printResponse (responseOf register.1 value) = [text] ∧
    DecimalTexts.reading text = scaled (register.number value)

/-- Two values are each printed as the number they stand for, and alike only if they are
equal. -/
structure FloatRegister.Distinguishes (register : FloatRegister) (value other : EventValue) :
    Prop where
  reads : register.Reads value
  otherReads : register.Reads other
  alike : (register.number value < 1000 ↔ register.number other < 1000) →
    printResponse (responseOf register.1 value) = printResponse (responseOf register.1 other) →
    word16 value = word16 other

/-- Neither the mark of an error nor a number whose text drops a zero or the sign. -/
def FloatRegister.Plain (register : FloatRegister) (value : EventValue) : Prop :=
  word16 value ≠ 0xAAAA ∧ ¬(-10 < register.number value ∧ register.number value < 0) ∧
    (1000 ≤ register.number value →
      register.number value % 1000 = 0 ∨ 100 ≤ register.number value % 1000)

/-! ## The text of a measured quantity -/

theorem toNat_word16 (value : EventValue) :
    (word16 value).toNat = (byteAt value 1).toNat * 256 + (byteAt value 0).toNat := by
  have low := (byteAt value 0).toNat_lt
  have high := (byteAt value 1).toNat_lt
  have shifted : ((byteAt value 1).toNat <<< 8) % 65536 = (byteAt value 1).toNat <<< 8 := by
    rw [Nat.shiftLeft_eq]
    omega
  rw [word16, UInt16.toNat_or, UInt16.toNat_shiftLeft, UInt8.toNat_toUInt16,
    UInt8.toNat_toUInt16]
  simp only [UInt16.reduceToNat, Nat.reduceMod, Nat.reducePow]
  rw [shifted, Nat.or_comm, ← Nat.shiftLeft_add_eq_or_of_lt low, Nat.shiftLeft_eq]

/-- The mark of an error is the number `0xAAAA`. -/
theorem errorBytes_iff (value : EventValue) :
    byteAt value 0 = 0xAA ∧ byteAt value 1 = 0xAA ↔ word16 value = 0xAAAA := by
  have low := (byteAt value 0).toNat_lt
  have high := (byteAt value 1).toNat_lt
  rw [← UInt16.toNat_inj, ← UInt8.toNat_inj, ← UInt8.toNat_inj, toNat_word16]
  simp only [UInt8.reduceToNat, UInt16.reduceToNat]
  omega

/-- The number by the scale that its size selects. -/
def scaledText (number : Int) : List Char :=
  if number < 1000 then DecimalTexts.divided number (10 : Nat)
  else DecimalTexts.divided number (1000 : Nat)

theorem pseudoFloatText_eq (tmp16 : UInt16) : pseudoFloatText tmp16 = scaledText tmp16.toNat := by
  have small : tmp16 < 1000 ↔ (tmp16.toNat : Int) < 1000 := by
    rw [UInt16.lt_iff_toNat_lt]
    simp only [UInt16.reduceToNat]
    omega
  simp only [pseudoFloatText, scaledText, small, DecimalTexts.divided_natCast,
    UInt16.toNat_div, UInt16.toNat_mod, UInt16.reduceToNat]

theorem floatSfpText_eq (itmp16 : Int16) : floatSfpText itmp16 = scaledText itmp16.toInt := by
  have small : itmp16 < 1000 ↔ itmp16.toInt < 1000 := Int16.lt_iff_toInt_lt
  simp only [floatSfpText, scaledText, small]
  rfl

theorem floatRows : ∀ row ∈ rows, row.type ≠ .uint → row.lenData = 2 := by
  decide +kernel

theorem FloatRegister.valueText_eq (register : FloatRegister) (value : EventValue) :
    valueText (rowOf register.1).lenData (rowOf register.1).type.code value =
      scaledText (register.number value) := by
  have length := floatRows (rowOf register.1) (rowOf_mem register.1) register.2
  have notOne : ¬(2 : UInt8) = 1 := by decide
  simp only [valueText, FloatRegister.number, length, if_neg notOne, if_true]
  cases type : (rowOf register.1).type with
  | uint =>
      exact absurd type register.2
  | pseudoFloat =>
      have other : ¬I2cType.pseudoFloat = I2cType.floatSfp := by decide
      rw [if_pos rfl, if_neg other, pseudoFloatText_eq]
  | floatSfp =>
      have other : ¬I2cType.floatSfp.code = I2cType.pseudoFloat.code := by decide
      rw [if_neg other, if_pos rfl, if_pos rfl, floatSfpText_eq]

theorem printResponse_responseOf (register : Register) (value : EventValue) :
    printResponse (responseOf register value) =
      (if word16 value = 0xAAAA then [errorResponse] else []) ++
        [valueText (rowOf register).lenData (rowOf register).type.code value] := by
  simp only [printResponse, responseOf, i2cParamFor, if_true, errorBytes_iff]

/-- The text denotes the number unless it drops a zero behind the point or the sign. -/
theorem reading_scaledText_iff (number : Int) :
    DecimalTexts.reading (scaledText number) = scaled number ↔
      ¬(-10 < number ∧ number < 0) ∧
        (1000 ≤ number → number % 1000 = 0 ∨ 100 ≤ number % 1000) := by
  by_cases small : number < 1000
  · have tenths : scaled number = (number : Rat) / 10 := if_pos small
    have text : scaledText number = DecimalTexts.divided number (10 : Nat) := if_pos small
    rw [tenths, text]
    cases number with
    | ofNat size =>
        rw [Int.ofNat_eq_natCast] at small ⊢
        have nonnegative := Int.natCast_nonneg size
        refine ⟨fun _ => ⟨by omega, fun large => absurd small (not_lt.mpr large)⟩, fun _ => ?_⟩
        rw [Int.cast_natCast]
        exact DecimalTexts.reading_tenths size
    | negSucc size =>
        have correct := DecimalTexts.reading_tenths_neg_iff size.succ_pos
        have cast : ((Int.negSucc size : Int) : Rat) = -((size.succ : Nat) : Rat) := by
          rw [Int.negSucc_eq, Int.cast_neg]
          rfl
        rw [cast, Int.negSucc_eq]
        refine correct.trans ?_
        omega
  · have thousandths : scaled number = (number : Rat) / 1000 := if_neg small
    have text : scaledText number = DecimalTexts.divided number (1000 : Nat) := if_neg small
    rw [thousandths, text]
    obtain ⟨size, rfl⟩ := Int.eq_ofNat_of_zero_le (show 0 ≤ number by omega)
    rw [Int.cast_natCast, DecimalTexts.reading_thousandths_iff]
    omega

theorem FloatRegister.reads_iff (register : FloatRegister) (value : EventValue) :
    register.Reads value ↔ register.Plain value := by
  rw [FloatRegister.Reads, FloatRegister.Plain, ← reading_scaledText_iff,
    printResponse_responseOf, register.valueText_eq]
  by_cases error : word16 value = 0xAAAA
  · rw [if_pos error]
    constructor
    · rintro ⟨text, lines, _⟩
      have lengths := congrArg List.length lines
      exact absurd lengths (by simp)
    · intro plain
      exact absurd error plain.1
  · rw [if_neg error, List.nil_append]
    constructor
    · rintro ⟨text, lines, reading⟩
      rw [List.singleton_inj.mp lines]
      exact ⟨error, reading⟩
    · rintro ⟨_, reading⟩
      exact ⟨_, rfl, reading⟩

/-- A scale tells its numbers apart. -/
theorem scaled_injective {first second : Int} (scale : first < 1000 ↔ second < 1000)
    (same : scaled first = scaled second) : first = second := by
  have casts : (first : Rat) = second := by
    by_cases small : first < 1000
    · rw [scaled, scaled, if_pos small, if_pos (scale.mp small)] at same
      linarith
    · rw [scaled, scaled, if_neg small, if_neg fun second => small (scale.mpr second)] at same
      linarith
  exact Int.cast_injective casts

theorem FloatRegister.number_injective (register : FloatRegister) {value other : EventValue}
    (same : register.number value = register.number other) : word16 value = word16 other := by
  rw [FloatRegister.number, FloatRegister.number] at same
  split at same
  · have signed := Int16.toInt_inj.mp same
    have unsigned := congrArg Int16.toUInt16 signed
    rw [UInt16.toUInt16_toInt16, UInt16.toUInt16_toInt16] at unsigned
    exact unsigned
  · exact UInt16.toNat_inj.mp (Int.ofNat_inj.mp same)

/-- Two values of a register are printed as the numbers they stand for, and apart, exactly if
neither is the mark of an error or one whose text drops a zero or the sign. -/
theorem decimal_output_iff (register : FloatRegister) (value other : EventValue) :
    register.Distinguishes value other ↔ register.Plain value ∧ register.Plain other := by
  rw [← register.reads_iff, ← register.reads_iff]
  constructor
  · intro distinguishes
    exact ⟨distinguishes.reads, distinguishes.otherReads⟩
  · rintro ⟨reads, otherReads⟩
    refine ⟨reads, otherReads, ?_⟩
    intro scale alike
    obtain ⟨text, printed, reading⟩ := reads
    obtain ⟨otherText, otherPrinted, otherReading⟩ := otherReads
    have texts : text = otherText := by
      rw [printed, otherPrinted] at alike
      exact List.singleton_inj.mp alike
    apply register.number_injective
    apply scaled_injective scale
    rw [← reading, ← otherReading, texts]

/-- A value with the given number in its first two bytes. -/
def rawValue (raw : UInt16) : EventValue :=
  Vector.ofFn fun place =>
    if place.val = 0 then raw.toUInt8 else if place.val = 1 then (raw >>> 8).toUInt8 else 0

/-- The voltage 3.005 is printed as `3.5`. -/
theorem decimal_output_drops_zero :
    ¬∀ (register : FloatRegister) (value other : EventValue),
      register.Distinguishes value other := by
  intro distinguishes
  have voltage : ∃ register : FloatRegister, (rowOf register.1).type = .pseudoFloat :=
    ⟨⟨⟨4, by decide⟩, by decide +kernel⟩, by decide +kernel⟩
  obtain ⟨register, unsigned⟩ := voltage
  have plain := (register.reads_iff (rawValue 3005)).mp
    (distinguishes register (rawValue 3005) (rawValue 3005)).reads
  have number : register.number (rawValue 3005) = 3005 := by
    rw [FloatRegister.number, unsigned]
    decide
  have zero := plain.2.2
  rw [number] at zero
  exact absurd (zero (by decide)) (by decide)

/-! ## Setting a number -/

/-- The registers that hold an unsigned number. -/
abbrev IntegerRegister :=
  { register : Register //
    (rowOf register).type = .uint ∧ (rowOf register).lenData ∈ ([1, 2, 4] : List UInt8) }

/-- `value` after `getOpt` for the command `set`. -/
def setArgument (argument : String) : UInt8 :=
  UInt8.ofInt (Autorestart.strtol argument)

/-- The message of `set` for an argument. -/
def IntegerRegister.sent (register : IntegerRegister) (argument : String) : I2cData :=
  i2cSetHandler (i2cParamFor register.1) (setArgument argument)

/-- The bytes sent for a decimal number are its little-endian encoding, and a response with
them is printed as the number. -/
structure IntegerRegister.KeepsNumber (register : IntegerRegister)
    (argument : Autorestart.DecimalText) : Prop where
  encoded : ∀ place < (rowOf register.1).lenData.toNat,
    ((byteAt (register.sent argument.text).value place).toNat : Int) =
      argument.number / 256 ^ place % 256
  printed : printResponse { register.sent argument.text with opcode := .response } =
    [DecimalTexts.integer argument.number]

theorem byteAt_i2cSetHandler (i2cParam : I2cData) (val : UInt8) {place : Nat}
    (early : place < 4) :
    byteAt (i2cSetHandler i2cParam val).value place = if place = 0 then val else 0 := by
  have inside : place < 32 := by omega
  rw [byteAt, List.getD_eq_getElem?_getD, Vector.getElem?_toList,
    Vector.getElem?_eq_getElem inside, Option.getD_some]
  simp only [i2cSetHandler, Vector.getElem_ofFn, if_pos early]

/-- The bytes as `i2c_setHandler` writes them: an eight bit value is shifted out of each byte
but the first. -/
theorem i2cSetHandler_shifts (i2cParam : I2cData) (val : UInt8) {place : Nat}
    (early : place < 4) :
    byteAt (i2cSetHandler i2cParam val).value place =
      (val.toUInt32 <<< UInt32.ofNat (8 * place)).toUInt8 := by
  have size := val.toNat_lt
  rw [byteAt_i2cSetHandler i2cParam val early, ← UInt8.toNat_inj]
  have places : place = 0 ∨ place = 1 ∨ place = 2 ∨ place = 3 := by omega
  rcases places with rfl | rfl | rfl | rfl <;>
    simp [UInt32.toNat_shiftLeft, Nat.shiftLeft_eq] <;> omega

/-- A byte followed by zeros is the same number as an `int`. -/
theorem toInt_byte (val : UInt8) :
    (val.toUInt32 ||| (0 : UInt8).toUInt32 <<< 8 ||| (0 : UInt8).toUInt32 <<< 16 |||
        (0 : UInt8).toUInt32 <<< 24).toInt32.toInt = val.toNat := by
  have small := val.toNat_lt
  have alone : val.toUInt32 ||| (0 : UInt8).toUInt32 <<< 8 ||| (0 : UInt8).toUInt32 <<< 16 |||
      (0 : UInt8).toUInt32 <<< 24 = val.toUInt32 := by
    simp
  have signed : val.toUInt32.toInt32.toInt = val.toUInt32.toBitVec.toInt := rfl
  have unsigned : val.toUInt32.toBitVec.toNat = val.toNat := UInt8.toNat_toUInt32 val
  rw [alone, signed, BitVec.toInt_eq_toNat_cond, unsigned, if_pos (by omega)]

theorem IntegerRegister.lenData_le (register : IntegerRegister) :
    (rowOf register.1).lenData.toNat ≤ 4 := by
  have lenData := register.2.2
  rw [List.mem_cons, List.mem_cons, List.mem_singleton] at lenData
  rcases lenData with length | length | length <;> rw [length] <;> decide

/-- What `set` sends is printed as the value after the conversion to `uint8_t`. -/
theorem IntegerRegister.printResponse_sent (register : IntegerRegister) (argument : String) :
    printResponse { register.sent argument with opcode := .response } =
      [DecimalTexts.integer (setArgument argument).toNat] := by
  have byte : ∀ place < 4, byteAt (register.sent argument).value place =
      if place = 0 then setArgument argument else 0 :=
    fun place early => byteAt_i2cSetHandler (i2cParamFor register.1) (setArgument argument) early
  have first := byte 0 (by decide)
  have second := byte 1 (by decide)
  have third := byte 2 (by decide)
  have fourth := byte 3 (by decide)
  rw [if_pos rfl] at first
  rw [if_neg (by decide)] at second third fourth
  have word : (word16 (register.sent argument).value).toNat = (setArgument argument).toNat := by
    rw [toNat_word16, first, second]
    exact Nat.zero_add _
  have double : (word32 (register.sent argument).value).toInt32.toInt =
      (setArgument argument).toNat := by
    rw [word32, first, second, third, fourth]
    exact toInt_byte (setArgument argument)
  have noError : ¬((0 : UInt8) = 0xAA) := by decide
  have types : ¬I2cType.uint.code = I2cType.pseudoFloat.code ∧
      ¬I2cType.uint.code = I2cType.floatSfp.code := by decide
  have lenData := register.2.2
  rw [List.mem_cons, List.mem_cons, List.mem_singleton] at lenData
  have text : valueText (rowOf register.1).lenData (rowOf register.1).type.code
      (register.sent argument).value = DecimalTexts.integer (setArgument argument).toNat := by
    rw [register.2.1]
    rcases lenData with length | length | length
    · rw [length, valueText, if_pos rfl, first]
    · rw [length, valueText, if_neg (by decide), if_pos rfl, if_neg types.1, if_neg types.2, word]
    · rw [length, valueText, if_neg (by decide), if_neg (by decide), if_pos rfl, double]
  simp only [printResponse, if_true, second, noError, and_false, if_false, List.nil_append]
  exact congrArg (fun line => [line]) text

theorem toNat_setArgument (argument : Autorestart.DecimalText) :
    ((setArgument argument.text).toNat : Int) =
      Autorestart.DecimalText.saturated argument.number % 256 := by
  rw [setArgument, argument.strtol_text, UInt8.ofInt, UInt8.toNat_ofNat']
  omega

/-- `set` keeps a number exactly if it fits into the byte that `getOpt` narrows it to. -/
theorem set_get_iff (register : IntegerRegister) (argument : Autorestart.DecimalText) :
    register.KeepsNumber argument ↔ 0 ≤ argument.number ∧ argument.number < 256 := by
  have narrowed := toNat_setArgument argument
  constructor
  · intro keeps
    have lines := keeps.printed
    rw [register.printResponse_sent] at lines
    have same := DecimalTexts.integer_injective (List.singleton_inj.mp lines)
    omega
  · rintro ⟨nonnegative, small⟩
    have kept : ((setArgument argument.text).toNat : Int) = argument.number := by
      rw [narrowed, Autorestart.DecimalText.saturated]
      omega
    constructor
    · intro place inside
      have early : place < 4 := inside.trans_le register.lenData_le
      rw [IntegerRegister.sent, byteAt_i2cSetHandler _ _ early]
      by_cases first : place = 0
      · rw [if_pos first, first, kept, pow_zero, Int.ediv_one, Int.emod_eq_of_lt nonnegative small]
      · rw [if_neg first]
        have large : (256 : Int) ≤ 256 ^ place := le_self_pow₀ (by decide) first
        rw [Int.ediv_eq_zero_of_lt nonnegative (small.trans_le large)]
        rfl
    · rw [register.printResponse_sent, kept]

/-- The number 256 is sent as 0. -/
theorem set_truncates :
    ¬∀ (register : IntegerRegister) (argument : Autorestart.DecimalText), 0 ≤ argument.number →
      argument.number < 2 ^ (8 * (rowOf register.1).lenData.toNat) →
      register.KeepsNumber argument := by
  intro keeps
  have longPressed : ∃ register : IntegerRegister, (rowOf register.1).lenData = 2 :=
    ⟨⟨⟨16, by decide⟩, by decide +kernel⟩, by decide +kernel⟩
  obtain ⟨register, length⟩ := longPressed
  have digits : ∀ digit ∈ ['2', '5', '6'], digit.isDigit = true := List.all_eq_true.mp rfl
  let argument : Autorestart.DecimalText := ⟨false, ['2', '5', '6'], by decide, digits⟩
  have number : argument.number = 256 := rfl
  have width : (rowOf register.1).lenData.toNat = 2 := by
    rw [length]
    rfl
  have kept := keeps register argument
  rw [width, number] at kept
  have printed := (kept (by norm_num) (by norm_num)).printed
  rw [register.printResponse_sent, number] at printed
  have same := DecimalTexts.integer_injective (List.singleton_inj.mp printed)
  have narrow := (setArgument argument.text).toNat_lt
  omega

end TfortisPack.Hwsys
