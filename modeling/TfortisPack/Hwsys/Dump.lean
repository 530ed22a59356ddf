import Mathlib.Data.List.Nodup
import TfortisPack.Library.LastWith
import TfortisPack.Hwsys.SockMsgArr

/-!
# Register dumps

The I/O controller hands out its registers as a dump: a sequence of TLVs, each of
a register address, a length and that many bytes.  `i2c_parse_tlv` copies the
bytes into `sock_msgArr`.

The memory from `i2c_raw_data` on is a function of the distance from its first
byte; the array itself is the first thousand bytes.  `get_id_by_addr` ends
without a `return` if no entry has the address.  The caller then goes on with
whatever the register for return values holds, here the value of `stray` at
the offset of the TLV.
-/

namespace TfortisPack.Hwsys

open TfortisPack.Library

/-! ## Entries -/

/-- `MAX_SENSORS`, the number of entries. -/
def maxSensors : Nat := 144

/-- `sizeof(sock_msgArr[id].value)`. -/
def valueSize : Nat := 32

/-- The column `addr` of the whole table; entries without an initialiser are
zero. -/
def addrColumn : List Nat :=
  rows.map Row.addr ++ List.replicate (maxSensors - rows.length) 0

def getIdByAddr (addr : UInt8) : Option Nat :=
  addrColumn.findIdx? fun entry => entry == addr.toNat

/-- The register at an index; none behind the initialised entries. -/
def entryOf (id : Nat) : Option Register :=
  tableOrder[id]?

/-- The address of a register as a byte of a dump. -/
def addrByte (register : Register) : UInt8 :=
  UInt8.ofNat register.1

theorem registerAddresses_found : ∀ addr ∈ registerAddresses,
    addr ≤ maxSensors ∧
      ((getIdByAddr (UInt8.ofNat addr)).bind entryOf).map Subtype.val = some addr := by
  decide +kernel

theorem entryOf_getIdByAddr (register : Register) :
    ∃ id, getIdByAddr (addrByte register) = some id ∧ entryOf id = some register := by
  have found := (registerAddresses_found register.1 register.2).2
  obtain ⟨entry, atId, address⟩ := Option.map_eq_some_iff.mp found
  obtain ⟨id, isId, atEntry⟩ := Option.bind_eq_some_iff.mp atId
  refine ⟨id, isId, ?_⟩
  rw [atEntry, Subtype.ext address]

theorem addrByte_toNat (register : Register) : (addrByte register).toNat = register.1 := by
  have bound := (registerAddresses_found register.1 register.2).1
  rw [addrByte, UInt8.toNat_ofNat']
  simp only [maxSensors] at bound
  omega

/-- An address of no register is not found. -/
theorem getIdByAddr_unknown {addr : UInt8} (unknown : addr.toNat ∉ registerAddresses) :
    getIdByAddr addr = none := by
  have column : ∀ entry ∈ addrColumn, entry ∈ registerAddresses := by
    decide +kernel
  rw [getIdByAddr, List.findIdx?_eq_none_iff]
  intro entry member
  have different : entry ≠ addr.toNat := by
    intro same
    rw [← same] at unknown
    exact unknown (column entry member)
  exact beq_false_of_ne different

/-! ## The parser -/

/-- `EXIT_SUCCESS` and `EXIT_FAILURE`. -/
inductive ExitCode where
  | success
  | failure
  deriving DecidableEq, Repr

/-- The bytes from `i2c_raw_data` on. -/
abbrev Memory := Nat → UInt8

/-- `memcpy` into the member `value` of an entry. -/
def copyValue (value : Vector UInt8 32) (len : Nat) (data : Nat → UInt8) : Vector UInt8 32 :=
  Vector.ofFn fun i => if i.val < len then data i.val else value.get i

/-- The copy of `len` bytes into the entry with index `id`. -/
def storeEntry (sockMsgArr : Registers) (id len : Nat) (data : Nat → UInt8) : Registers :=
  match entryOf id with
  | none => sockMsgArr
  | some register =>
      Function.update sockMsgArr register
        { sockMsgArr register with value := copyValue (sockMsgArr register).value len data }

/-- `tlv->len` for the TLV at an offset. -/
def tlvLen (memory : Memory) (offset : Nat) : Nat :=
  (memory (offset + 1)).toNat

/-- What the loop does with the TLV at an offset. -/
def storeTlv (memory : Memory) (stray : Nat → UInt8) (offset : Nat)
    (sockMsgArr : Registers) : Registers :=
  let id := (getIdByAddr (memory offset)).getD (stray offset).toNat
  if tlvLen memory offset < valueSize then
    storeEntry sockMsgArr id (tlvLen memory offset) fun i => memory (offset + 2 + i)
  else sockMsgArr

/-- The bytes it looks at. -/
def tlvTouched (memory : Memory) (offset : Nat) : List Nat :=
  offset :: (offset + 1) ::
    if tlvLen memory offset < valueSize then
      (List.range (tlvLen memory offset)).map (offset + 2 + ·)
    else []

/-- The outcome of `i2c_parse_tlv`, with the bytes that have been looked at and the
offsets of the TLVs that have been handled. -/
structure Parsed where
  errorCode : ExitCode
  sockMsgArr : Registers
  touched : List Nat
  tlvs : List Nat

def Parsed.after (offset : Nat) (touched : List Nat) (later : Parsed) : Parsed :=
  { later with touched := touched ++ later.touched, tlvs := offset :: later.tlvs }

/-- The loop of `i2c_parse_tlv` from an offset on, for at most `fuel` iterations. -/
def parseLoop (memory : Memory) (stray : Nat → UInt8) (len : UInt16) :
    (fuel : Nat) → UInt16 → Registers → Option Parsed
  | 0, _, _ => none
  | fuel + 1, offset, sockMsgArr =>
      if offset < len then
        if (memory offset.toNat).toNat > maxSensors then
          some ⟨.failure, sockMsgArr, [offset.toNat], []⟩
        else
          let stored := storeTlv memory stray offset.toNat sockMsgArr
          let next := offset + ((memory (offset.toNat + 1)).toUInt16 + 2)
          (parseLoop memory stray len fuel next stored).map
            (Parsed.after offset.toNat (tlvTouched memory offset.toNat))
      else some ⟨.success, sockMsgArr, [], []⟩

def i2cParseTlv (memory : Memory) (stray : Nat → UInt8) (len : UInt16) (fuel : Nat)
    (sockMsgArr : Registers) : Option Parsed :=
  parseLoop memory stray len fuel 0 sockMsgArr

/-! ## Well-formed dumps -/

/-- A TLV of a known register. -/
structure Tlv where
  register : Register
  data : List UInt8
  short : data.length ≤ valueSize

def Tlv.bytes (tlv : Tlv) : List UInt8 :=
  addrByte tlv.register :: UInt8.ofNat tlv.data.length :: tlv.data

def encode (tlvs : List Tlv) : List UInt8 :=
  tlvs.flatMap Tlv.bytes

/-- `sizeof(i2c_raw_data)`. -/
def rawDataSize : Nat := 1000

/-- TLVs that fit into `i2c_raw_data`. -/
structure Dump where
  tlvs : List Tlv
  fits : (encode tlvs).length ≤ rawDataSize

/-- The memory with the given bytes at its beginning. -/
def Memory.holding (bytes : List UInt8) (rest : Memory) : Memory :=
  fun i => bytes[i]?.getD (rest i)

/-- The given bytes stand at an offset. -/
def Memory.Holds (memory : Memory) (offset : Nat) (bytes : List UInt8) : Prop :=
  ∀ i byte, bytes[i]? = some byte → memory (offset + i) = byte

theorem Memory.holds_holding (bytes : List UInt8) (rest : Memory) :
    (Memory.holding bytes rest).Holds 0 bytes := by
  intro i byte atI
  rw [Nat.zero_add, Memory.holding, atI, Option.getD_some]

theorem Memory.Holds.tail {memory : Memory} {offset : Nat} {first rest : List UInt8}
    (holds : memory.Holds offset (first ++ rest)) : memory.Holds (offset + first.length) rest := by
  intro i byte atI
  have index : (first ++ rest)[first.length + i]? = some byte := by
    rw [List.getElem?_append_right (Nat.le_add_right _ _), Nat.add_sub_cancel_left]
    exact atI
  rw [Nat.add_assoc]
  exact holds _ byte index

theorem Memory.Holds.head {memory : Memory} {offset : Nat} {first rest : List UInt8}
    (holds : memory.Holds offset (first ++ rest)) : memory.Holds offset first := by
  intro i byte atI
  refine holds i byte ?_
  rw [List.getElem?_append_left]
  · exact atI
  · exact (List.getElem?_eq_some_iff.mp atI).1

/-- The data of a TLV as the bytes of an entry. -/
def writeData (value : Vector UInt8 32) (data : List UInt8) : Vector UInt8 32 :=
  Vector.ofFn fun i => data[i.val]?.getD (value.get i)

/-- The entry of a register with other bytes. -/
def setValue (sockMsgArr : Registers) (register : Register) (data : List UInt8) : Registers :=
  Function.update sockMsgArr register
    { sockMsgArr register with value := writeData (sockMsgArr register).value data }

/-- What the parser makes of a TLV: one with 32 bytes is left out. -/
def storeShort (sockMsgArr : Registers) (tlv : Tlv) : Registers :=
  if tlv.data.length < valueSize then setValue sockMsgArr tlv.register tlv.data else sockMsgArr

theorem Tlv.length_toNat (tlv : Tlv) :
    (UInt8.ofNat tlv.data.length).toNat = tlv.data.length := by
  have short := tlv.short
  simp only [valueSize] at short
  rw [UInt8.toNat_ofNat']
  omega

section Parse

variable {memory : Memory} {stray : Nat → UInt8} {offset : Nat} {tlv : Tlv}

theorem tlvLen_of_holds (holds : memory.Holds offset tlv.bytes) :
    tlvLen memory offset = tlv.data.length := by
  rw [tlvLen, holds 1 _ rfl]
  exact tlv.length_toNat

theorem address_of_holds (holds : memory.Holds offset tlv.bytes) :
    (memory offset).toNat = tlv.register.1 := by
  have address : memory offset = addrByte tlv.register := holds 0 _ rfl
  rw [address, addrByte_toNat]

theorem storeTlv_of_holds (holds : memory.Holds offset tlv.bytes) (sockMsgArr : Registers) :
    storeTlv memory stray offset sockMsgArr = storeShort sockMsgArr tlv := by
  obtain ⟨id, found, entry⟩ := entryOf_getIdByAddr tlv.register
  have address : memory offset = addrByte tlv.register := holds 0 _ rfl
  simp only [storeTlv, storeShort, tlvLen_of_holds holds, address, found, Option.getD_some,
    storeEntry, entry, setValue]
  have copied : copyValue (sockMsgArr tlv.register).value tlv.data.length
      (fun i => memory (offset + 2 + i)) = writeData (sockMsgArr tlv.register).value tlv.data := by
    rw [copyValue, writeData]
    congr 1
    funext i
    by_cases inside : i.val < tlv.data.length
    · rw [if_pos inside, List.getElem?_eq_getElem inside, Option.getD_some]
      have atData : tlv.bytes[i.val + 2]? = some tlv.data[i.val] := by
        rw [Tlv.bytes, List.getElem?_cons_succ, List.getElem?_cons_succ,
          List.getElem?_eq_getElem inside]
      rw [← holds _ _ atData]
      congr 1
      omega
    · rw [if_neg inside, List.getElem?_eq_none (Nat.not_lt.mp inside), Option.getD_none]
  rw [copied]

/-- The loop goes from TLV to TLV and stores each of them that is shorter than 32 bytes. -/
theorem parseLoop_encode {len : UInt16} (small : len.toNat ≤ rawDataSize) (tlvs : List Tlv)
    (fuel : Nat) (sockMsgArr : Registers) (holds : memory.Holds offset (encode tlvs))
    (ends : offset + (encode tlvs).length = len.toNat) :
    (parseLoop memory stray len fuel (UInt16.ofNat offset) sockMsgArr).map
        (fun parsed => (parsed.errorCode, parsed.sockMsgArr)) =
      if tlvs.length < fuel then some (.success, tlvs.foldl storeShort sockMsgArr) else none := by
  have bound := small
  simp only [rawDataSize] at bound
  induction tlvs generalizing offset fuel sockMsgArr with
  | nil =>
      cases fuel with
      | zero => rfl
      | succ fuel =>
          have atEnd : ¬UInt16.ofNat offset < len := by
            rw [UInt16.lt_iff_toNat_lt, UInt16.toNat_ofNat']
            simp only [encode, List.flatMap_nil, List.length_nil] at ends
            omega
          rw [parseLoop, if_neg atEnd]
          rfl
  | cons tlv tlvs inductionHypothesis =>
      cases fuel with
      | zero => rfl
      | succ fuel =>
          have split : encode (tlv :: tlvs) = tlv.bytes ++ encode tlvs := rfl
          have size : tlv.bytes.length = tlv.data.length + 2 := rfl
          rw [split] at holds ends
          rw [List.length_append, size] at ends
          have rest := holds.tail
          rw [size] at rest
          have first := holds.head
          have index : (UInt16.ofNat offset).toNat = offset := by
            rw [UInt16.toNat_ofNat']
            omega
          have inside : UInt16.ofNat offset < len := by
            rw [UInt16.lt_iff_toNat_lt, index]
            omega
          have known : ¬(memory offset).toNat > maxSensors := by
            rw [address_of_holds first]
            exact Nat.not_lt.mpr (registerAddresses_found _ tlv.register.2).1
          have next : UInt16.ofNat offset + ((memory (offset + 1)).toUInt16 + 2) =
              UInt16.ofNat (offset + (tlv.data.length + 2)) := by
            have length : (memory (offset + 1)).toNat = tlv.data.length := tlvLen_of_holds first
            apply UInt16.toNat_inj.mp
            simp only [UInt16.toNat_add, index, UInt8.toNat_toUInt16, length,
              UInt16.toNat_ofNat', UInt16.reduceToNat]
            omega
          have later := inductionHypothesis fuel (storeShort sockMsgArr tlv) rest (by omega)
          rw [parseLoop, if_pos inside, index, if_neg known]
          simp only [next, storeTlv_of_holds first, Option.map_map, List.length_cons,
            Nat.add_lt_add_iff_right, List.foldl_cons]
          exact later

end Parse

/-! ## What a dump should leave -/

def mentions (register : Register) (tlv : Tlv) : Bool :=
  tlv.register = register

/-- The TLV of a register is copied and has the byte with a number. -/
def reaches (register : Register) (i : Nat) (tlv : Tlv) : Bool :=
  tlv.register = register && (i < tlv.data.length && tlv.data.length < valueSize)

/-- A byte of the table after a dump: the one of the last copied TLV that has it, or the
one that was there. -/
def carried (tlvs : List Tlv) (sockMsgArr : Registers) (register : Register) (i : Fin 32) :
    UInt8 :=
  (lastWith (reaches register i.val) tlvs).elim ((sockMsgArr register).value.get i)
    fun tlv => tlv.data.getD i.val 0

theorem get_writeData (value : Vector UInt8 32) (data : List UInt8) (i : Fin 32) :
    (writeData value data).get i = data[i.val]?.getD (value.get i) :=
  Vector.getElem_ofFn i.isLt

theorem get_storeShort (sockMsgArr : Registers) (tlv : Tlv) (register : Register) (i : Fin 32) :
    (storeShort sockMsgArr tlv register).value.get i =
      if reaches register i.val tlv then tlv.data.getD i.val 0
      else (sockMsgArr register).value.get i := by
  by_cases copied : tlv.data.length < valueSize
  · rw [storeShort, if_pos copied, setValue]
    by_cases own : tlv.register = register
    · rw [← own, Function.update_self, get_writeData]
      by_cases inside : i.val < tlv.data.length
      · simp [reaches, inside, copied]
      · simp [reaches, inside]
    · rw [Function.update_of_ne (Ne.symm own)]
      simp [reaches, own]
  · rw [storeShort, if_neg copied]
    simp [reaches, copied]

theorem foldl_storeShort_get (tlvs : List Tlv) (sockMsgArr : Registers) (register : Register)
    (i : Fin 32) :
    ((tlvs.foldl storeShort sockMsgArr) register).value.get i =
      carried tlvs sockMsgArr register i := by
  have writes := fun sockMsgArr tlv => get_storeShort sockMsgArr tlv register i
  exact observe_foldl (fun table : Registers => (table register).value.get i) writes
    sockMsgArr tlvs

/-- Nothing but `value` changes in an entry. -/
theorem foldl_storeShort_frame (tlvs : List Tlv) (sockMsgArr : Registers)
    (register : Register) :
    (tlvs.foldl storeShort sockMsgArr) register =
      { sockMsgArr register with
        value := ((tlvs.foldl storeShort sockMsgArr) register).value } := by
  induction tlvs generalizing sockMsgArr with
  | nil =>
      rfl
  | cons tlv tlvs inductionHypothesis =>
      rw [List.foldl_cons, inductionHypothesis]
      by_cases copied : tlv.data.length < valueSize
      · rw [storeShort, if_pos copied, setValue]
        by_cases own : tlv.register = register
        · rw [← own, Function.update_self]
        · rw [Function.update_of_ne (Ne.symm own)]
      · rw [storeShort, if_neg copied]

/-- Each register that a dump mentions holds the data of its last TLV in the first bytes of
its value; the other bytes, and the registers not mentioned, are unchanged. -/
structure Decoded (tlvs : List Tlv) (before after : Registers) : Prop where
  mentioned : ∀ register tlv, lastWith (mentions register) tlvs = some tlv →
    after register =
      { before register with value := writeData (before register).value tlv.data }
  unmentioned : ∀ register, (∀ tlv ∈ tlvs, tlv.register ≠ register) →
    after register = before register

/-- For each register that is mentioned: if its last TLV has 32 bytes, these bytes are there
without it, and no TLV before the last one changes a byte behind the data of the
last one. -/
def NothingLost (tlvs : List Tlv) (before : Registers) : Prop :=
  ∀ register tlv, lastWith (mentions register) tlvs = some tlv → ∀ i : Fin 32,
    (tlv.data.length = valueSize → tlv.data[i.val]? = some (carried tlvs before register i)) ∧
      (tlv.data.length ≤ i.val →
        carried tlvs before register i = (before register).value.get i)

theorem reaches_mentions {register : Register} {i : Nat} (tlv : Tlv)
    (reached : reaches register i tlv = true) : mentions register tlv = true := by
  simp only [reaches, Bool.and_eq_true] at reached
  exact reached.1

theorem carried_of_unmentioned {tlvs : List Tlv} {register : Register}
    (unmentioned : ∀ tlv ∈ tlvs, tlv.register ≠ register) (before : Registers) (i : Fin 32) :
    carried tlvs before register i = (before register).value.get i := by
  have none : lastWith (reaches register i.val) tlvs = none := by
    rw [lastWith_eq_none_iff]
    intro tlv member reached
    have own := reaches_mentions tlv reached
    exact unmentioned tlv member (of_decide_eq_true own)
  rw [carried, none, Option.elim_none]

/-- Within the data of a last TLV shorter than 32 bytes nothing is lost. -/
theorem carried_of_last {tlvs : List Tlv} {register : Register} {tlv : Tlv}
    (last : lastWith (mentions register) tlvs = some tlv) (copied : tlv.data.length < valueSize)
    (before : Registers) {i : Fin 32} (inside : i.val < tlv.data.length) :
    tlv.data[i.val]? = some (carried tlvs before register i) := by
  have own := passes_of_lastWith last
  have reached : reaches register i.val tlv = true := by
    simp only [reaches, Bool.and_eq_true, decide_eq_true_eq]
    exact ⟨of_decide_eq_true own, inside, copied⟩
  have isLast := lastWith_of_imp reaches_mentions last reached
  rw [carried, isLast, Option.elim_some, List.getElem?_eq_getElem inside]
  simp [inside]

theorem value_ext {first second : Vector UInt8 32}
    (same : ∀ i, first.get i = second.get i) : first = second :=
  Vector.ext fun i inside => same ⟨i, inside⟩

theorem decoded_foldl_iff (tlvs : List Tlv) (before : Registers) :
    Decoded tlvs before (tlvs.foldl storeShort before) ↔ NothingLost tlvs before := by
  constructor
  · intro decoded register tlv last i
    have value : (tlvs.foldl storeShort before register).value =
        writeData (before register).value tlv.data := by
      rw [decoded.mentioned register tlv last]
    have byte := congrArg (fun bytes => Vector.get bytes i) value
    simp only [foldl_storeShort_get, get_writeData] at byte
    constructor
    · intro full
      have inside : i.val < tlv.data.length := by
        rw [full]
        exact i.isLt
      rw [byte, List.getElem?_eq_getElem inside, Option.getD_some]
    · intro behind
      rw [byte, List.getElem?_eq_none behind, Option.getD_none]
  · intro nothingLost
    refine ⟨?_, ?_⟩
    · intro register tlv last
      have value : (tlvs.foldl storeShort before register).value =
          writeData (before register).value tlv.data := by
        refine value_ext fun i => ?_
        rw [foldl_storeShort_get, get_writeData]
        by_cases inside : i.val < tlv.data.length
        · have byte : tlv.data[i.val]? = some (carried tlvs before register i) := by
            by_cases copied : tlv.data.length < valueSize
            · exact carried_of_last last copied before inside
            · have full : tlv.data.length = valueSize :=
                Nat.le_antisymm tlv.short (Nat.not_lt.mp copied)
              exact (nothingLost register tlv last i).1 full
          rw [byte, Option.getD_some]
        · have behind := Nat.not_lt.mp inside
          rw [List.getElem?_eq_none behind, Option.getD_none]
          exact (nothingLost register tlv last i).2 behind
      rw [foldl_storeShort_frame, value]
    · intro register unmentioned
      have value : (tlvs.foldl storeShort before register).value = (before register).value := by
        refine value_ext fun i => ?_
        rw [foldl_storeShort_get, carried_of_unmentioned unmentioned]
      rw [foldl_storeShort_frame, value]

/-! ## Decoding -/

/-- `i2c_parse_tlv` succeeds on the dump and decodes it. -/
def Decodes (dump : Dump) (rest : Memory) (stray : Nat → UInt8) (before : Registers) : Prop :=
  ∃ fuel parsed,
    i2cParseTlv (Memory.holding (encode dump.tlvs) rest) stray
        (UInt16.ofNat (encode dump.tlvs).length) fuel before = some parsed ∧
      parsed.errorCode = .success ∧ Decoded dump.tlvs before parsed.sockMsgArr

theorem i2cParseTlv_dump (dump : Dump) (rest : Memory) (stray : Nat → UInt8) (fuel : Nat)
    (before : Registers) :
    (i2cParseTlv (Memory.holding (encode dump.tlvs) rest) stray
        (UInt16.ofNat (encode dump.tlvs).length) fuel before).map
        (fun parsed => (parsed.errorCode, parsed.sockMsgArr)) =
      if dump.tlvs.length < fuel then
        some (.success, dump.tlvs.foldl storeShort before)
      else none := by
  have fits := dump.fits
  simp only [rawDataSize] at fits
  have length : (UInt16.ofNat (encode dump.tlvs).length).toNat = (encode dump.tlvs).length := by
    rw [UInt16.toNat_ofNat']
    omega
  refine parseLoop_encode ?_ dump.tlvs fuel before (Memory.holds_holding _ rest) ?_
  · rw [length]
    exact dump.fits
  · rw [length, Nat.zero_add]

theorem decodes_iff_decoded (dump : Dump) (rest : Memory) (stray : Nat → UInt8)
    (before : Registers) :
    Decodes dump rest stray before ↔
      Decoded dump.tlvs before (dump.tlvs.foldl storeShort before) := by
  constructor
  · rintro ⟨fuel, parsed, result, -, decoded⟩
    have outcome := i2cParseTlv_dump dump rest stray fuel before
    rw [result, Option.map_some] at outcome
    split at outcome
    · have table : parsed.sockMsgArr = dump.tlvs.foldl storeShort before :=
        congrArg Prod.snd (Option.some.inj outcome)
      rw [← table]
      exact decoded
    · cases outcome
  · intro decoded
    have outcome := i2cParseTlv_dump dump rest stray (dump.tlvs.length + 1) before
    rw [if_pos (Nat.lt_succ_self _)] at outcome
    obtain ⟨parsed, result, pair⟩ := Option.map_eq_some_iff.mp outcome
    have table : parsed.sockMsgArr = dump.tlvs.foldl storeShort before :=
      congrArg Prod.snd pair
    refine ⟨_, parsed, result, congrArg Prod.fst pair, ?_⟩
    rw [table]
    exact decoded

/-- A well-formed dump is decoded exactly if nothing of it is lost, whatever the table holds
before, whatever follows the dump in memory and whatever value is in the register
for return values. -/
theorem dump_decodes_iff (dump : Dump) (rest : Memory) (stray : Nat → UInt8)
    (before : Registers) :
    Decodes dump rest stray before ↔ NothingLost dump.tlvs before := by
  rw [decodes_iff_decoded, decoded_foldl_iff]

/-- Nothing is lost of a dump in which every register occurs once, with fewer than 32
bytes. -/
theorem nothingLost_of_nodup {tlvs : List Tlv} (distinct : (tlvs.map Tlv.register).Nodup)
    (copied : ∀ tlv ∈ tlvs, tlv.data.length < valueSize) (before : Registers) :
    NothingLost tlvs before := by
  intro register tlv last i
  have member := mem_of_lastWith last
  have isOwn := passes_of_lastWith last
  have own : tlv.register = register := of_decide_eq_true isOwn
  refine ⟨fun full => absurd full (Nat.ne_of_lt (copied tlv member)), fun behind => ?_⟩
  have none : lastWith (reaches register i.val) tlvs = none := by
    rw [lastWith_eq_none_iff]
    intro other isMember reached
    have same : other = tlv := by
      apply List.inj_on_of_nodup_map distinct isMember member
      rw [own]
      exact of_decide_eq_true (reaches_mentions other reached)
    simp only [reaches, same, Bool.and_eq_true, decide_eq_true_eq] at reached
    exact absurd reached.2.1 (Nat.not_lt.mpr behind)
  rw [carried, none, Option.elim_none]

/-- `FIBER_TEC_1`, whose `lenData` is 32. -/
def fiberTec1 : Register :=
  ⟨70, by decide⟩

def fullDump : Dump where
  tlvs := [⟨fiberTec1, List.replicate 32 1, by decide⟩]
  fits := by decide

/-- A dump of the 32 bytes of `FIBER_TEC_1` leaves the register as it was. -/
theorem full_register_not_decoded :
    (rowOf fiberTec1).lenData = 32 ∧
      ¬∀ (dump : Dump) (rest : Memory) (stray : Nat → UInt8) (before : Registers),
        Decodes dump rest stray before := by
  refine ⟨by decide +kernel, fun always => ?_⟩
  have decodes := always fullDump (fun _ => 0) (fun _ => 0) (initialEntry fun _ => 0)
  rw [decodes_iff_decoded] at decodes
  have entry := decodes.mentioned fiberTec1 _ rfl
  have byte := congrArg (fun data : I2cData => Vector.get data.value ⟨0, by decide⟩) entry
  exact absurd byte (by decide +kernel)

end TfortisPack.Hwsys
