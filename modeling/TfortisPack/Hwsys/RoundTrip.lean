import TfortisPack.Hwsys.Frames

/-!
# Reading a register over the socket

`i2c_data_t` takes 80 bytes on the wire, `socketMsg` and the buffer of
`receive_msg` hold 60.  The last twenty bytes of the answer are never read by
the client, so of a value only the first twelve bytes arrive.
-/

namespace TfortisPack.Hwsys

/-! ## The layout -/

/-- The first multiple of `alignment` from `offset` on. -/
def alignUp (offset alignment : Nat) : Nat :=
  (offset + alignment - 1) / alignment * alignment

/-- The offsets of fields given by size and alignment, and where the last of
them ends. -/
def fieldOffsets : Nat → List (Nat × Nat) → List Nat × Nat
  | offset, [] => ([], offset)
  | offset, (size, alignment) :: fields =>
      let start := alignUp offset alignment
      let rest := fieldOffsets (start + size) fields
      (start :: rest.1, rest.2)

/-- `lenMSG`, `addr`, `name`, `opcode`, `lenData`, `type`, `eventsHandler` and
`value`. -/
def i2cDataFields : List (Nat × Nat) :=
  [(1, 1), (4, 4), (24, 1), (4, 4), (1, 1), (4, 4), (4, 4), (32, 1)]

/-- The fields, their padding and the size of the structure. -/
theorem i2cData_layout :
    (fieldOffsets 0 i2cDataFields).1 = [0, 4, 8, 32, 36, 40, 44, 48] ∧
      alignUp (fieldOffsets 0 i2cDataFields).2 4 = i2cMsgSize.toNat := by
  decide

/-- The size of `msg` in `receive_msg`. -/
def msgSize : Nat := 60

def I2cOpcode.code : I2cOpcode → UInt32
  | .read => 1
  | .write => 2
  | .response => 3
  | .reset => 4
  | .idle => 5

/-- The bytes before `value`.  `word` is the byte order of the target, `padding`
what the gaps hold. -/
def wireHead (word : UInt32 → Vector UInt8 4) (padding : Vector UInt8 3 × Vector UInt8 3)
    (message : I2cData) : List UInt8 :=
  message.lenMsg :: padding.1.toList ++ (word (UInt32.ofNat message.addr.1)).toList ++
    message.name.toList ++ (word message.opcode.code).toList ++
    (message.lenData :: padding.2.toList) ++ (word message.type).toList ++
    (word message.eventsHandler).toList

/-- An `i2c_data_t` in memory. -/
def wireImage (word : UInt32 → Vector UInt8 4) (padding : Vector UInt8 3 × Vector UInt8 3)
    (message : I2cData) : List UInt8 :=
  wireHead word padding message ++ message.value.toList

theorem wireHead_length (word : UInt32 → Vector UInt8 4)
    (padding : Vector UInt8 3 × Vector UInt8 3) (message : I2cData) :
    (wireHead word padding message).length = 48 := by
  simp [wireHead]

/-- `memcpy` of the first `count` bytes. -/
def memcpy (target source : List UInt8) (count : Nat) : List UInt8 :=
  source.take count ++ target.drop count

theorem receiveMsg_value_toList (sent : I2cData) (stack : Vector UInt8 32) :
    (receiveMsg sent stack).value.toList =
      sent.value.toList.take valueReceived ++ stack.toList.drop valueReceived := by
  apply List.ext_getElem
  · simp [valueReceived]
  · intro i inFirst _
    have inside : i < 32 := by simpa using inFirst
    have atIndex := receiveMsg_get sent stack ⟨i, inside⟩
    by_cases early : i < valueReceived
    · have inTake : i < (sent.value.toList.take valueReceived).length := by
        simp only [List.length_take, Vector.length_toList]
        omega
      rw [List.getElem_append_left inTake, List.getElem_take]
      rw [if_pos early] at atIndex
      exact atIndex
    · rw [if_neg early] at atIndex
      rw [List.getElem_append_right (by simp [valueReceived] at early ⊢; omega)]
      simp only [List.getElem_drop, List.length_take, Vector.length_toList]
      have back : valueReceived + (i - min valueReceived 32) = i := by
        simp only [valueReceived] at early ⊢
        omega
      simp only [back]
      exact atIndex

/-- `receive_msg` copies the first 60 bytes of a message over what `rec_msg`
held; the model keeps the part of it that is read later. -/
theorem memcpy_wireImage (word : UInt32 → Vector UInt8 4)
    (padding : Vector UInt8 3 × Vector UInt8 3) (sent : I2cData)
    (target : List UInt8) (stack : Vector UInt8 32) (tail : target.drop 48 = stack.toList) :
    memcpy target (wireImage word padding sent) msgSize =
      wireImage word padding (receiveMsg sent stack) := by
  have sameHead : wireHead word padding (receiveMsg sent stack) = wireHead word padding sent := by
    simp only [wireHead, receiveMsg]
  have behind : target.drop msgSize = stack.toList.drop valueReceived := by
    rw [← tail, List.drop_drop]
    rfl
  rw [memcpy, wireImage, wireImage, sameHead, receiveMsg_value_toList, behind,
    List.take_append, wireHead_length, List.take_of_length_le (by rw [wireHead_length]; decide),
    List.append_assoc]
  rfl

/-! ## The round trip -/

/-- What `clientHandler` sends back. -/
def answered (actions : List Action) : Option I2cData :=
  actions.findSome? fun action =>
    match action with
    | .replied message => some message
    | _ => none

/-- `i2c_getHandler`: the request goes out, the daemon answers, and the answer
is received over the request. -/
def i2cGetHandler (daemon : Daemon) (i2cParam : I2cData) (stack : Vector UInt8 32) :
    Option I2cData :=
  let request := { i2cParam with lenMsg := i2cMsgSize, opcode := .read }
  (answered (clientHandler daemon request stack).2.2).map fun response =>
    receiveMsg response i2cParam.value

/-- The client holds the first `lenData` bytes of the stored value, the type and
the length. -/
def Delivers (stored : I2cData) (received : Option I2cData) : Prop :=
  ∃ response, received = some response ∧ response.opcode = .response ∧
    response.lenData = stored.lenData ∧ response.type = stored.type ∧
    ∀ i : Fin 32, i.val < stored.lenData.toNat → response.value.get i = stored.value.get i

theorem i2cGetHandler_eq (daemon : Daemon) (i2cParam : I2cData) (stack : Vector UInt8 32) :
    i2cGetHandler daemon i2cParam stack =
      some (receiveMsg
        { daemon.sockMsgArr i2cParam.addr with lenMsg := i2cMsgSize, opcode := .response }
        i2cParam.value) := by
  simp only [i2cGetHandler, clientHandler, receiveMsg, i2cGetData, answered, List.findSome?_cons,
    Option.map_some]

/-- The bytes behind the twelfth are the client's own. -/
theorem delivers_iff (daemon : Daemon) (i2cParam : I2cData) (stack : Vector UInt8 32) :
    Delivers (daemon.sockMsgArr i2cParam.addr) (i2cGetHandler daemon i2cParam stack) ↔
      ∀ i : Fin 32, valueReceived ≤ i.val →
        i.val < (daemon.sockMsgArr i2cParam.addr).lenData.toNat →
        i2cParam.value.get i = (daemon.sockMsgArr i2cParam.addr).value.get i := by
  rw [i2cGetHandler_eq]
  constructor
  · rintro ⟨response, same, _, _, _, bytes⟩ i late inside
    have atIndex := bytes i inside
    rw [← Option.some.inj same, receiveMsg_get, if_neg (Nat.not_lt.mpr late)] at atIndex
    exact atIndex
  · intro agree
    refine ⟨_, rfl, ?_, ?_, ?_, ?_⟩
    · simp only [receiveMsg]
    · simp only [receiveMsg]
    · simp only [receiveMsg]
    · intro i inside
      rw [receiveMsg_get]
      by_cases early : i.val < valueReceived
      · rw [if_pos early]
      · rw [if_neg early]
        exact agree i (Nat.not_lt.mp early) inside

/-- The daemon with `value` stored in a register. -/
def holding (link : Register → UInt32) (register : Register) (value : Vector UInt8 32) : Daemon :=
  { started link with
    sockMsgArr :=
      Function.update (initialEntry link) register
        { initialEntry link register with value := value } }

theorem holding_entry (link : Register → UInt32) (register : Register)
    (value : Vector UInt8 32) :
    (holding link register value).sockMsgArr register =
      { initialEntry link register with value := value } := by
  simp only [holding, Function.update_self]

/-- The registers whose value is longer than what arrives. -/
def longRegisters : List Nat :=
  [62, 64, 67, 68, 69, 70, 71, 72, 73, 92, 94, 97, 98, 99, 100, 101, 102, 103]

theorem longRows : ∀ row ∈ rows,
    valueReceived < row.lenData.toNat ↔ row.addr ∈ longRegisters := by
  decide +kernel

theorem lenData_le_iff (register : Register) :
    (rowOf register).lenData.toNat ≤ valueReceived ↔ register.1 ∉ longRegisters := by
  have long := longRows (rowOf register) (rowOf_mem register)
  rw [rowOf_addr] at long
  rw [← long, Nat.not_lt]

/-- A register is delivered whatever it holds exactly if its value fits. -/
theorem delivers_always_iff (link : Register → UInt32) (register : Register) :
    (∀ value stack, Delivers ((holding link register value).sockMsgArr register)
        (i2cGetHandler (holding link register value) (i2cParamFor register) stack)) ↔
      (rowOf register).lenData.toNat ≤ valueReceived := by
  constructor
  · intro always
    by_contra long
    have delivered := (delivers_iff (holding link register (Vector.replicate 32 1))
      (i2cParamFor register) (Vector.replicate 32 0)).mp (always _ _)
    have atIndex := delivered ⟨valueReceived, by decide⟩ (Nat.le_refl _)
    simp only [i2cParamFor, holding_entry, initialEntry] at atIndex
    have zeroIsOne := atIndex (Nat.not_le.mp long)
    revert zeroIsOne
    decide
  · intro fits value stack
    apply (delivers_iff (holding link register value) (i2cParamFor register) stack).mpr
    intro i late inside
    simp only [i2cParamFor, holding_entry, initialEntry] at inside
    omega

/-- `get` delivers a register exactly if the stored bytes from the thirteenth to
the last are those that the client held before, which are 0 in `hwsys_ctrl`.
Whatever is stored arrives for the registers of at most twelve bytes only. -/
theorem get_round_trip_iff (daemon : Daemon) (i2cParam : I2cData)
    (stack : Vector UInt8 32) (link : Register → UInt32) (register : Register) :
    (Delivers (daemon.sockMsgArr i2cParam.addr) (i2cGetHandler daemon i2cParam stack) ↔
      ∀ i : Fin 32, valueReceived ≤ i.val →
        i.val < (daemon.sockMsgArr i2cParam.addr).lenData.toNat →
        i2cParam.value.get i = (daemon.sockMsgArr i2cParam.addr).value.get i) ∧
    ((∀ value stack, Delivers ((holding link register value).sockMsgArr register)
        (i2cGetHandler (holding link register value) (i2cParamFor register) stack)) ↔
      register.1 ∉ longRegisters) := by
  refine ⟨delivers_iff daemon i2cParam stack, ?_⟩
  rw [delivers_always_iff, lenData_le_iff]

/-- `REG_SFP1_VENDOR`. -/
def sfp1Vendor : Register :=
  ⟨62, by decide⟩

/-- A vendor name, padded with spaces as the module stores it. -/
def vendorName : Vector UInt8 32 :=
  Vector.ofFn fun i => if i.val < 16 then 32 else 0

/-- Four of the sixteen bytes of a vendor name are lost. -/
theorem vendor_truncated :
    ¬∀ link register value stack, Delivers ((holding link register value).sockMsgArr register)
      (i2cGetHandler (holding link register value) (i2cParamFor register) stack) := by
  intro always
  have delivered := (delivers_iff (holding (fun _ => 4096) sfp1Vendor vendorName)
    (i2cParamFor sfp1Vendor) (Vector.replicate 32 0)).mp (always _ _ _ _)
  have atIndex := delivered ⟨12, by decide⟩ (by decide)
  simp only [i2cParamFor, holding_entry, initialEntry] at atIndex
  have blank := atIndex (by decide +kernel)
  revert blank
  decide

end TfortisPack.Hwsys
