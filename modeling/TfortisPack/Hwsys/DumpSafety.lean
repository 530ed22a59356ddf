import TfortisPack.Hwsys.Dump

/-!
# Dumps of any content

The length of a dump, the addresses and the lengths in it all come from the bus.
`open_i2c` takes the two lengths from whatever is in `i2c_raw_data`, also after
a transfer that failed or was answered with the error pattern.

The accesses to `i2c_raw_data` and the TLVs that are handled are read off a run
of `read_buffer` and `i2c_parse_tlv`, and compared with a predicate on the bytes
that says which dumps keep them within bounds.
-/

namespace TfortisPack.Hwsys

open TfortisPack.Library

/-! ## Transfers -/

/-- What `I2C_RDWR` does: it fails, or the device sends bytes. -/
abbrev Transfer := Option (Nat → UInt8)

/-- The memory after the driver has stored `len` bytes. -/
def Memory.filled (memory : Memory) (len : Nat) (bytes : Nat → UInt8) : Memory :=
  fun i => if i < len then bytes i else memory i

/-- The outcome of `read_buffer`, with the bytes of the buffer that have been
written or read. -/
structure Received where
  errorCode : ExitCode
  memory : Memory
  touched : List Nat

def readBuffer (memory : Memory) (len : Nat) (transfer : Transfer) : Received :=
  match transfer with
  | none => ⟨.failure, memory, []⟩
  | some bytes =>
      let memory := memory.filled len bytes
      -- the second byte is looked at only if the first one matches
      let compared := 0 :: if memory 0 = 0xAA then [1] else []
      let errorCode := if memory 0 = 0xAA ∧ memory 1 = 0xAA then .failure else .success
      ⟨errorCode, memory, List.range len ++ compared⟩

/-- `i2c_raw_data[1]<<8 | i2c_raw_data[0]`. -/
def lengthField (memory : Memory) : UInt16 :=
  (memory 1).toUInt16 <<< 8 ||| (memory 0).toUInt16

/-- The part of `open_i2c` that reads `hi_prio_len` and `low_prio_len`. -/
def openI2c (memory : Memory) (hiTransfer lowTransfer : Transfer) : (UInt16 × UInt16) × Memory :=
  let hi := readBuffer memory 2 hiTransfer
  let low := readBuffer hi.memory 2 lowTransfer
  ((lengthField hi.memory, lengthField low.memory), low.memory)

/-- The error pattern is taken for a length. -/
theorem openI2c_error_pattern (memory : Memory) :
    (openI2c memory (some fun _ => 0xAA) (some fun _ => 0xAA)).1 = (0xAAAA, 0xAAAA) := by
  have pattern : (170 : UInt16) <<< 8 ||| 170 = 43690 := by decide
  simp [openI2c, readBuffer, lengthField, Memory.filled, pattern]

/-- A run of the parser after other accesses. -/
def Parsed.behind (parsed : Parsed) (touched : List Nat) : Parsed :=
  { parsed with touched := touched ++ parsed.touched }

/-- The reading of a dump in `read_i2c`. -/
def readDump (memory : Memory) (len : UInt16) (transfer : Transfer) (stray : Nat → UInt8)
    (fuel : Nat) (sockMsgArr : Registers) : Option Parsed :=
  let received := readBuffer memory len.toNat transfer
  match received.errorCode with
  | .failure => some ⟨.failure, sockMsgArr, received.touched, []⟩
  | .success =>
      (i2cParseTlv received.memory stray len fuel sockMsgArr).map fun parsed =>
        parsed.behind received.touched

/-! ## Bounds -/

/-- The TLV at an offset changes no register, whatever the table holds and whatever
`get_id_by_addr` returns for an address it does not find. -/
def StoresNothing (memory : Memory) (offset : Nat) : Prop :=
  ∀ stray sockMsgArr, storeTlv memory stray offset sockMsgArr = sockMsgArr

/-- A run within bounds: it touches bytes of the dump and of the array only, and a
TLV that is cut off or has an unknown address changes no register. -/
structure Bounded (memory : Memory) (len : Nat) (parsed : Parsed) : Prop where
  touched : ∀ i ∈ parsed.touched, i < min len rawDataSize
  whole : ∀ offset ∈ parsed.tlvs, len < offset + 2 + tlvLen memory offset →
    StoresNothing memory offset
  known : ∀ offset ∈ parsed.tlvs, (memory offset).toNat ∉ registerAddresses →
    StoresNothing memory offset

/-- The data of the TLV at an offset are copied. -/
def Copies (memory : Memory) (offset : Nat) : Prop :=
  0 < tlvLen memory offset ∧ tlvLen memory offset < valueSize

/-- From an offset on, the dump is made of TLVs whose headers are whole and whose data, if
they are copied, are whole and of a known register; it ends with the last TLV, with one that is
too long to be copied, or with an address out of range. -/
inductive Enclosed (memory : Memory) (len : Nat) : Nat → Prop where
  | ended {offset : Nat} (atEnd : len ≤ offset) : Enclosed memory len offset
  | refused {offset : Nat} (inside : offset < len) (high : maxSensors < (memory offset).toNat) :
      Enclosed memory len offset
  | tlv {offset : Nat} (header : offset + 1 < len)
      (low : (memory offset).toNat ≤ maxSensors)
      (whole : Copies memory offset → offset + 2 + tlvLen memory offset ≤ len)
      (known : Copies memory offset → (memory offset).toNat ∈ registerAddresses)
      (later : Enclosed memory len (offset + (tlvLen memory offset + 2))) :
      Enclosed memory len offset

/-! ## Single TLVs -/

section Tlv

variable {memory : Memory} {offset : Nat}

theorem storesNothing_of_not_copies (short : ¬Copies memory offset) :
    StoresNothing memory offset := by
  intro stray sockMsgArr
  simp only [storeTlv]
  by_cases copied : tlvLen memory offset < valueSize
  · have empty : tlvLen memory offset = 0 := by
      by_contra positive
      exact short ⟨Nat.pos_of_ne_zero positive, copied⟩
    rw [if_pos copied, empty, storeEntry]
    cases entryOf _ with
    | none => rfl
    | some register =>
        have same : copyValue (sockMsgArr register).value 0
            (fun i => memory (offset + 2 + i)) = (sockMsgArr register).value := by
          refine value_ext fun i => ?_
          exact Vector.getElem_ofFn i.isLt
        simp only [same]
        exact Function.update_eq_self register sockMsgArr
  · rw [if_neg copied]

/-- An entry whose bytes all differ from a given one. -/
def differing (byte : UInt8) : I2cData :=
  { initialEntry (fun _ => 0) fiberTec1 with value := Vector.replicate 32 (byte + 1) }

/-- Data that are copied change a register of some table, for a return value that is the
index of a register. -/
theorem copies_stores (copies : Copies memory offset) : ¬StoresNothing memory offset := by
  intro nothing
  have unchanged := nothing (fun _ => 0) fun _ => differing (memory (offset + 2))
  simp only [storeTlv] at unchanged
  rw [if_pos copies.2] at unchanged
  have entry : ∃ register,
      entryOf ((getIdByAddr (memory offset)).getD ((fun _ => 0) offset : UInt8).toNat) =
        some register := by
    by_cases known : (memory offset).toNat ∈ registerAddresses
    · obtain ⟨id, found, entry⟩ := entryOf_getIdByAddr ⟨_, known⟩
      have address : addrByte ⟨(memory offset).toNat, known⟩ = memory offset :=
        UInt8.ofNat_toNat
      rw [address] at found
      rw [found, Option.getD_some, entry]
      exact ⟨_, rfl⟩
    · have first : entryOf 0 = some ⟨0, by decide⟩ := by decide +kernel
      rw [getIdByAddr_unknown known]
      exact ⟨_, first⟩
  obtain ⟨register, entry⟩ := entry
  rw [storeEntry, entry] at unchanged
  have atRegister := congrFun unchanged register
  simp only [Function.update_self] at atRegister
  have first := congrArg (fun data : I2cData => Vector.get data.value ⟨0, by decide⟩) atRegister
  have stored : (copyValue (differing (memory (offset + 2))).value (tlvLen memory offset)
      fun i => memory (offset + 2 + i)).get ⟨0, by decide⟩ = memory (offset + 2) := by
    refine (Vector.getElem_ofFn (by decide : 0 < 32)).trans ?_
    exact if_pos copies.1
  have different : (differing (memory (offset + 2))).value.get ⟨0, by decide⟩ =
      memory (offset + 2) + 1 :=
    Vector.getElem_replicate (by decide : 0 < 32)
  have same : memory (offset + 2) = memory (offset + 2) + 1 :=
    stored.symm.trans (first.trans different)
  have numbers := congrArg UInt8.toNat same
  have small := (memory (offset + 2)).toNat_lt
  rw [UInt8.toNat_add] at numbers
  simp only [UInt8.reduceToNat] at numbers
  omega

theorem storesNothing_iff : StoresNothing memory offset ↔ ¬Copies memory offset :=
  ⟨fun nothing copies => copies_stores copies nothing, storesNothing_of_not_copies⟩

/-- The bytes looked at are the header and, if they are copied, the data. -/
theorem mem_tlvTouched_iff {i : Nat} :
    i ∈ tlvTouched memory offset ↔
      i = offset ∨ i = offset + 1 ∨
        Copies memory offset ∧ offset + 2 ≤ i ∧ i < offset + 2 + tlvLen memory offset := by
  rw [tlvTouched, List.mem_cons, List.mem_cons]
  refine or_congr_right (or_congr_right ?_)
  by_cases copied : tlvLen memory offset < valueSize
  · rw [if_pos copied, List.mem_map]
    constructor
    · rintro ⟨j, inside, rfl⟩
      have below := List.mem_range.mp inside
      exact ⟨⟨Nat.zero_lt_of_lt below, copied⟩, by omega, by omega⟩
    · rintro ⟨-, above, below⟩
      exact ⟨i - (offset + 2), List.mem_range.mpr (by omega), by omega⟩
  · rw [if_neg copied]
    constructor
    · intro member
      cases member
    · rintro ⟨copies, -⟩
      exact absurd copies.2 copied

end Tlv

/-- Well-formed dumps are enclosed. -/
theorem enclosed_of_holds {memory : Memory} {offset : Nat} (tlvs : List Tlv)
    (holds : memory.Holds offset (encode tlvs)) :
    Enclosed memory (offset + (encode tlvs).length) offset := by
  induction tlvs generalizing offset with
  | nil =>
      exact .ended (Nat.le_refl offset)
  | cons tlv tlvs inductionHypothesis =>
      have split : encode (tlv :: tlvs) = tlv.bytes ++ encode tlvs := rfl
      have size : tlv.bytes.length = tlv.data.length + 2 := rfl
      rw [split] at holds
      have address := address_of_holds holds.head
      have length := tlvLen_of_holds holds.head
      have later := inductionHypothesis holds.tail
      rw [size] at later
      rw [split, List.length_append, size, ← Nat.add_assoc]
      refine .tlv (by omega) ?_ (fun _ => by omega) ?_ ?_
      · rw [address]
        exact (registerAddresses_found _ tlv.register.2).1
      · intro _
        rw [address]
        exact tlv.register.2
      · rw [length]
        exact later

/-! ## Runs of the parser -/

section Run

variable {memory : Memory} {stray : Nat → UInt8} {len : UInt16} {offset : Nat}

/-- Without the TLVs that are not handled, `Bounded` splits along a run. -/
theorem bounded_after_iff {touched : List Nat} {later : Parsed} :
    Bounded memory len.toNat (later.after offset touched) ↔
      (∀ i ∈ touched, i < min len.toNat rawDataSize) ∧
        (len.toNat < offset + 2 + tlvLen memory offset → ¬Copies memory offset) ∧
        ((memory offset).toNat ∉ registerAddresses → ¬Copies memory offset) ∧
        Bounded memory len.toNat later := by
  constructor
  · intro bounded
    refine ⟨?_, ?_, ?_, ?_, ?_, ?_⟩
    · exact fun i member => bounded.touched i (List.mem_append_left _ member)
    · exact fun cut => storesNothing_iff.mp (bounded.whole offset List.mem_cons_self cut)
    · exact fun unknown => storesNothing_iff.mp (bounded.known offset List.mem_cons_self unknown)
    · exact fun i member => bounded.touched i (List.mem_append_right _ member)
    · exact fun other member => bounded.whole other (List.mem_cons_of_mem _ member)
    · exact fun other member => bounded.known other (List.mem_cons_of_mem _ member)
  · rintro ⟨touched, whole, known, bounded⟩
    refine ⟨?_, ?_, ?_⟩
    · intro i member
      rcases List.mem_append.mp member with here | later
      · exact touched i here
      · exact bounded.touched i later
    · intro other member cut
      rcases List.mem_cons.mp member with rfl | later
      · exact storesNothing_of_not_copies (whole cut)
      · exact bounded.whole other later cut
    · intro other member unknown
      rcases List.mem_cons.mp member with rfl | later
      · exact storesNothing_of_not_copies (known unknown)
      · exact bounded.known other later unknown

theorem next_offset :
    UInt16.ofNat offset + ((memory (offset + 1)).toUInt16 + 2) =
      UInt16.ofNat (offset + (tlvLen memory offset + 2)) := by
  apply UInt16.toNat_inj.mp
  simp only [UInt16.toNat_add, UInt8.toNat_toUInt16, UInt16.toNat_ofNat', UInt16.reduceToNat,
    tlvLen]
  omega

theorem toNat_offset (small : offset < 65536) : (UInt16.ofNat offset).toNat = offset := by
  rw [UInt16.toNat_ofNat', Nat.mod_eq_of_lt small]

/-- One iteration within the dump. -/
theorem parseLoop_tlv (small : len.toNat ≤ rawDataSize) (inside : offset < len.toNat)
    (low : (memory offset).toNat ≤ maxSensors) (fuel : Nat) (sockMsgArr : Registers) :
    parseLoop memory stray len (fuel + 1) (UInt16.ofNat offset) sockMsgArr =
      (parseLoop memory stray len fuel (UInt16.ofNat (offset + (tlvLen memory offset + 2)))
        (storeTlv memory stray offset sockMsgArr)).map
        (Parsed.after offset (tlvTouched memory offset)) := by
  simp only [rawDataSize] at small
  have index : (UInt16.ofNat offset).toNat = offset := toNat_offset (by omega)
  have less : UInt16.ofNat offset < len := by
    rw [UInt16.lt_iff_toNat_lt, index]
    exact inside
  rw [parseLoop, if_pos less, index, if_neg (Nat.not_lt.mpr low)]
  simp only [next_offset]

variable (stray) in
/-- The loop runs to its end on an enclosed dump, within bounds. -/
theorem parseLoop_of_enclosed (small : len.toNat ≤ rawDataSize)
    (enclosed : Enclosed memory len.toNat offset) (near : offset ≤ len.toNat + 257)
    (sockMsgArr : Registers) :
    ∃ fuel parsed,
      parseLoop memory stray len fuel (UInt16.ofNat offset) sockMsgArr = some parsed ∧
        Bounded memory len.toNat parsed := by
  have room := small
  simp only [rawDataSize] at room
  have limit : min len.toNat rawDataSize = len.toNat := Nat.min_eq_left small
  induction enclosed generalizing sockMsgArr with
  | @ended offset atEnd =>
      have index : (UInt16.ofNat offset).toNat = offset := toNat_offset (by omega)
      have notLess : ¬UInt16.ofNat offset < len := by
        rw [UInt16.lt_iff_toNat_lt, index]
        exact Nat.not_lt.mpr atEnd
      refine ⟨1, ⟨.success, sockMsgArr, [], []⟩, ?_, ?_⟩
      · rw [parseLoop, if_neg notLess]
      · exact ⟨by simp, by simp, by simp⟩
  | @refused offset inside high =>
      have index : (UInt16.ofNat offset).toNat = offset := toNat_offset (by omega)
      have less : UInt16.ofNat offset < len := by
        rw [UInt16.lt_iff_toNat_lt, index]
        exact inside
      refine ⟨1, ⟨.failure, sockMsgArr, [offset], []⟩, ?_, ?_, by simp, by simp⟩
      · rw [parseLoop, if_pos less, index, if_pos high]
      · intro i member
        rw [List.mem_singleton.mp member, limit]
        exact inside
  | @tlv offset header low whole known later inductionHypothesis =>
      have byte := (memory (offset + 1)).toNat_lt
      have near : offset + (tlvLen memory offset + 2) ≤ len.toNat + 257 := by
        simp only [tlvLen]
        omega
      obtain ⟨fuel, parsed, run, bounded⟩ :=
        inductionHypothesis near (storeTlv memory stray offset sockMsgArr)
      refine ⟨fuel + 1, parsed.after offset (tlvTouched memory offset), ?_, ?_⟩
      · rw [parseLoop_tlv small (Nat.lt_of_succ_lt header) low, run, Option.map_some]
      · rw [bounded_after_iff]
        refine ⟨?_, ?_, ?_, bounded⟩
        · intro i member
          rw [limit]
          rcases mem_tlvTouched_iff.mp member with rfl | rfl | ⟨copies, -, below⟩
          · exact Nat.lt_of_succ_lt header
          · exact header
          · exact Nat.lt_of_lt_of_le below (whole copies)
        · exact fun cut copies => absurd (whole copies) (Nat.not_le.mpr cut)
        · exact fun unknown copies => unknown (known copies)

/-- A run within bounds has gone through an enclosed dump. -/
theorem enclosed_of_bounded (small : len.toNat ≤ rawDataSize) {fuel : Nat} {parsed : Parsed}
    {sockMsgArr : Registers} (near : offset ≤ len.toNat + 257)
    (run : parseLoop memory stray len fuel (UInt16.ofNat offset) sockMsgArr = some parsed)
    (bounded : Bounded memory len.toNat parsed) : Enclosed memory len.toNat offset := by
  have limit : min len.toNat rawDataSize = len.toNat := Nat.min_eq_left small
  induction fuel generalizing offset sockMsgArr parsed with
  | zero =>
      cases run
  | succ fuel inductionHypothesis =>
      by_cases inside : offset < len.toNat
      · by_cases low : (memory offset).toNat ≤ maxSensors
        · rw [parseLoop_tlv small inside low] at run
          obtain ⟨later, rest, rfl⟩ := Option.map_eq_some_iff.mp run
          obtain ⟨touched, whole, known, boundedLater⟩ := bounded_after_iff.mp bounded
          have byte := (memory (offset + 1)).toNat_lt
          have near : offset + (tlvLen memory offset + 2) ≤ len.toNat + 257 := by
            simp only [tlvLen]
            omega
          have header := touched (offset + 1) (mem_tlvTouched_iff.mpr (Or.inr (Or.inl rfl)))
          rw [limit] at header
          refine .tlv header low ?_ ?_ (inductionHypothesis near rest boundedLater)
          · intro copies
            by_contra cut
            exact whole (Nat.not_le.mp cut) copies
          · intro copies
            by_contra unknown
            exact known unknown copies
        · exact .refused inside (Nat.not_le.mp low)
      · exact .ended (Nat.not_lt.mp inside)

end Run

/-! ## Reading a dump -/

/-- Reading and parsing end, and stay within bounds, whatever the table holds and
whatever value is in the register for return values. -/
def ReadsSafely (memory : Memory) (len : UInt16) (transfer : Transfer) : Prop :=
  ∀ stray sockMsgArr, ∃ fuel parsed,
    readDump memory len transfer stray fuel sockMsgArr = some parsed ∧
      Bounded (readBuffer memory len.toNat transfer).memory len.toNat parsed

/-- The first two bytes are the error pattern. -/
def ErrorPattern (memory : Memory) : Prop :=
  memory 0 = 0xAA ∧ memory 1 = 0xAA

/-- The transfer fails; or the length is neither zero nor larger than the array, nor one with
the first byte `0xAA`, and the bytes received are the error pattern or an enclosed
dump. -/
def SafeDump (memory : Memory) (len : Nat) (transfer : Transfer) : Prop :=
  ∀ bytes ∈ transfer,
    0 < len ∧ len ≤ rawDataSize ∧ (memory.filled len bytes 0 = 0xAA → 1 < len) ∧
      (ErrorPattern (memory.filled len bytes) ∨ Enclosed (memory.filled len bytes) len 0)

theorem readsSafely_of_safeDump {memory : Memory} {len : UInt16} {transfer : Transfer}
    (safe : SafeDump memory len.toNat transfer) : ReadsSafely memory len transfer := by
  intro stray sockMsgArr
  cases transfer with
  | none =>
      refine ⟨0, ⟨.failure, sockMsgArr, [], []⟩, rfl, ?_⟩
      exact ⟨by simp, by simp, by simp⟩
  | some bytes =>
      obtain ⟨positive, small, compared, content⟩ := safe bytes rfl
      have limit : min len.toNat rawDataSize = len.toNat := Nat.min_eq_left small
      have received : ∀ i ∈ (readBuffer memory len.toNat (some bytes)).touched,
          i < min len.toNat rawDataSize := by
        intro i member
        rw [limit]
        rcases List.mem_append.mp member with written | read
        · exact List.mem_range.mp written
        · rcases List.mem_cons.mp read with rfl | second
          · exact positive
          · split at second
            · rename_i first
              rw [List.mem_singleton.mp second]
              exact compared first
            · cases second
      by_cases pattern : ErrorPattern (memory.filled len.toNat bytes)
      · have failed : (readBuffer memory len.toNat (some bytes)).errorCode = .failure :=
          if_pos pattern
        refine ⟨0, ⟨.failure, sockMsgArr, _, []⟩, ?_, received, by simp, by simp⟩
        simp only [readDump, failed]
      · have passed : (readBuffer memory len.toNat (some bytes)).errorCode = .success :=
          if_neg pattern
        have enclosed := content.resolve_left pattern
        obtain ⟨fuel, parsed, run, bounded⟩ :=
          parseLoop_of_enclosed stray small enclosed (Nat.zero_le _) sockMsgArr
        have parses : i2cParseTlv (readBuffer memory len.toNat (some bytes)).memory stray len
            fuel sockMsgArr = some parsed := run
        refine ⟨fuel, parsed.behind (readBuffer memory len.toNat (some bytes)).touched, ?_, ?_,
          bounded.whole, bounded.known⟩
        · simp only [readDump, passed, parses, Option.map_some]
        · intro i member
          rcases List.mem_append.mp member with here | later
          · exact received i here
          · exact bounded.touched i later

theorem safeDump_of_readsSafely {memory : Memory} {len : UInt16} {transfer : Transfer}
    (safely : ReadsSafely memory len transfer) : SafeDump memory len.toNat transfer := by
  intro bytes isSome
  cases isSome
  obtain ⟨fuel, parsed, result, bounded⟩ :=
    safely (fun _ => 0) (initialEntry fun _ => 0)
  have touched : ∀ i ∈ (readBuffer memory len.toNat (some bytes)).touched,
      i < min len.toNat rawDataSize := by
    intro i member
    apply bounded.touched
    simp only [readDump] at result
    split at result
    · cases result
      exact member
    · obtain ⟨later, -, rfl⟩ := Option.map_eq_some_iff.mp result
      exact List.mem_append_left _ member
  have positive : 0 < len.toNat :=
    Nat.lt_of_lt_of_le
      (touched 0 (List.mem_append_right _ List.mem_cons_self)) (Nat.min_le_left _ _)
  have small : len.toNat ≤ rawDataSize := by
    have last := touched (len.toNat - 1)
      (List.mem_append_left _ (List.mem_range.mpr (Nat.sub_one_lt_of_lt positive)))
    have within := Nat.lt_of_lt_of_le last (Nat.min_le_right _ _)
    omega
  refine ⟨positive, small, ?_, ?_⟩
  · intro first
    have second : 1 ∈ (readBuffer memory len.toNat (some bytes)).touched := by
      refine List.mem_append_right _ (List.mem_cons_of_mem _ ?_)
      rw [if_pos first]
      exact List.mem_singleton_self 1
    exact Nat.lt_of_lt_of_le (touched 1 second) (Nat.min_le_left _ _)
  · by_cases pattern : ErrorPattern (memory.filled len.toNat bytes)
    · exact Or.inl pattern
    · have passed : (readBuffer memory len.toNat (some bytes)).errorCode = .success :=
        if_neg pattern
      simp only [readDump, passed] at result
      obtain ⟨later, run, rfl⟩ := Option.map_eq_some_iff.mp result
      refine Or.inr (enclosed_of_bounded small (Nat.zero_le _) run ?_)
      exact ⟨fun i member => bounded.touched i (List.mem_append_right _ member), bounded.whole,
        bounded.known⟩

/-- For every content of the memory, every length and every transfer: reading a dump ends
and stays within bounds exactly if the dump is safe. -/
theorem reads_safely_iff (memory : Memory) (len : UInt16) (transfer : Transfer) :
    ReadsSafely memory len transfer ↔ SafeDump memory len.toNat transfer :=
  ⟨safeDump_of_readsSafely, readsSafely_of_safeDump⟩

/-! ## Dumps that are not safe -/

/-- A transfer of the given bytes. -/
def sending (bytes : List UInt8) : Transfer :=
  some fun i => bytes.getD i 0

/-- A dump is not safe if the data of its first TLV are copied, but are not whole or have no
register. -/
theorem not_readsSafely_of_copies {memory : Memory} {len : UInt16} {bytes : Memory}
    (inside : 0 < len.toNat) (regular : ¬ErrorPattern (memory.filled len.toNat bytes))
    (low : (memory.filled len.toNat bytes 0).toNat ≤ maxSensors)
    (copies : Copies (memory.filled len.toNat bytes) 0)
    (broken : ¬(2 + tlvLen (memory.filled len.toNat bytes) 0 ≤ len.toNat ∧
      (memory.filled len.toNat bytes 0).toNat ∈ registerAddresses)) :
    ¬ReadsSafely memory len (some bytes) := by
  intro safely
  rcases (safeDump_of_readsSafely safely bytes rfl).2.2.2 with pattern | enclosed
  · exact regular pattern
  · cases enclosed with
    | ended atEnd => exact absurd inside (Nat.not_lt.mpr atEnd)
    | refused _ high => exact absurd low (Nat.not_le.mpr high)
    | tlv _ _ whole known _ =>
        have complete := whole copies
        rw [Nat.zero_add] at complete
        exact broken ⟨complete, known copies⟩

/-- The length `0xAAAA` overruns the array; a TLV whose last byte is missing and one with
the unknown address 7 are stored. -/
theorem unsafe_dumps :
    ¬ReadsSafely (fun _ => 0) 0xAAAA (sending []) ∧
      ¬ReadsSafely (fun _ => 0) 4 (sending [10, 3, 1, 2]) ∧
      ¬ReadsSafely (fun _ => 0) 3 (sending [7, 1, 5]) ∧
      ¬∀ (memory : Memory) (len : UInt16) (transfer : Transfer),
        ReadsSafely memory len transfer := by
  have long : ¬ReadsSafely (fun _ => 0) 0xAAAA (sending []) := by
    intro safely
    have small := (safeDump_of_readsSafely safely _ rfl).2.1
    exact absurd small (by decide)
  refine ⟨long, ?_, ?_, fun always => long (always _ _ _)⟩
  · apply not_readsSafely_of_copies (by decide) (fun pattern => absurd pattern.1 (by decide))
      (by decide) ⟨by decide, by decide⟩
    exact fun whole => absurd whole.1 (by decide)
  · apply not_readsSafely_of_copies (by decide) (fun pattern => absurd pattern.1 (by decide))
      (by decide) ⟨by decide, by decide⟩
    exact fun known => absurd known.2 (by decide)

end TfortisPack.Hwsys
