import TfortisPack.Hwsys.I2cModule

/-!
# Handing writes over to the bus

`i2c_write` holds one write.  A write that arrives while the flag is raised
replaces the one before it, and a write that arrives between `write_buffer`
and the end of `read_i2c` is cleared with the flag of the one before it.
-/

namespace TfortisPack.Hwsys

open TfortisPack.Library

/-! ## What has to be delivered -/

def Action.acceptedWrite : Action → Option I2cData
  | .accepted message => some message
  | _ => none

def Action.busFrame : Action → Option (Option (List UInt8))
  | .written frame => some frame
  | _ => none

/-- The writes accepted, in order. -/
def acceptedWrites (trace : List Action) : List I2cData :=
  trace.filterMap Action.acceptedWrite

/-- The frames put on the bus, in order. -/
def busFrames (trace : List Action) : List (Option (List UInt8)) :=
  trace.filterMap Action.busFrame

/-- The address, the length and as many of the client's value bytes. -/
def frameOf (message : I2cData) : List UInt8 :=
  UInt8.ofNat message.addr :: message.lenData :: message.value.toList.take message.lenData.toNat

/-- An iteration of the main loop in which no dump is due. -/
def quiet (daemon : Daemon) : Input :=
  .mainLoop false false daemon.sockMsgArr

/-- What the bus sees once the main loop has gone through two quiet iterations
is the frame of each accepted write, once and in the order of acceptance. -/
def Delivered (memory : Daemon × List Action) : Prop :=
  busFrames (memory.2 ++ hwsysd.outputs memory.1 [quiet memory.1, quiet memory.1]) =
    (acceptedWrites memory.2).map fun message => some (frameOf message)

/-- A write finds the flag down and fits into `tmp`. -/
def Served (daemon : Daemon) : Input → Prop
  | .client sent _ =>
      sent.opcode = .write → daemon.writeFlag = false ∧ sent.lenData.toNat + 2 ≤ tmpSize
  | .mainLoop _ _ _ => True

/-- While the main loop writes, the flag is up. -/
def FlagHeld (memory : Daemon × List Action) : Prop :=
  memory.1.writing = true → memory.1.writeFlag = true

/-! ## Steps -/

theorem acceptedWrites_append (first second : List Action) :
    acceptedWrites (first ++ second) = acceptedWrites first ++ acceptedWrites second :=
  List.filterMap_append

theorem busFrames_append (first second : List Action) :
    busFrames (first ++ second) = busFrames first ++ busFrames second :=
  List.filterMap_append

/-- The frame that waits for the bus. -/
def waitingFrames (daemon : Daemon) : List (Option (List UInt8)) :=
  if daemon.writeFlag && !daemon.writing then
    [writeBuffer daemon.i2cData.addr daemon.i2cData.lenData daemon.i2cData.value]
  else []

theorem busFrames_quiet (daemon : Daemon) :
    busFrames (hwsysd.outputs daemon [quiet daemon, quiet daemon]) = waitingFrames daemon := by
  obtain ⟨registers, slot, flag, writing⟩ := daemon
  cases writing <;> cases flag <;> rfl

theorem delivered_iff (memory : Daemon × List Action) :
    Delivered memory ↔
      busFrames memory.2 ++ waitingFrames memory.1 =
        (acceptedWrites memory.2).map fun message => some (frameOf message) := by
  rw [Delivered, busFrames_append, busFrames_quiet]

theorem take_receiveMsg (sent : I2cData) (stack : Vector UInt8 32) {count : Nat}
    (few : count ≤ valueReceived) :
    (receiveMsg sent stack).value.toList.take count = sent.value.toList.take count := by
  apply List.ext_getElem
  · simp
  · intro position inFirst inSecond
    have early : position < valueReceived := by
      simp only [List.length_take] at inFirst
      omega
    simp [receiveMsg, early, Vector.get]

theorem writeBuffer_receiveMsg (sent : I2cData) (stack : Vector UInt8 32) :
    writeBuffer sent.addr sent.lenData (receiveMsg sent stack).value =
      if sent.lenData.toNat + 2 ≤ tmpSize then some (frameOf sent) else none := by
  unfold writeBuffer frameOf
  split
  · rename_i fits
    have few : sent.lenData.toNat ≤ valueReceived := by
      simp only [tmpSize, valueReceived] at fits ⊢
      omega
    rw [take_receiveMsg sent stack few]
  · rfl

/-! ### The two threads -/

theorem next_client (memory : Daemon × List Action) (sent : I2cData)
    (stack : Vector UInt8 32) (isWrite : sent.opcode = .write) :
    hwsysd.recording.next memory (.client sent stack) =
      (i2cSetData memory.1 { receiveMsg sent stack with lenMsg := i2cMsgSize },
        memory.2 ++ [.accepted sent]) := by
  have opcode : (receiveMsg sent stack).opcode = .write := by
    simp only [receiveMsg, isWrite]
  simp only [Machine.recording, Machine.next, Machine.emit, hwsysd, clientHandler, opcode]

theorem next_client_other (memory : Daemon × List Action) (sent : I2cData)
    (stack : Vector UInt8 32) (other : sent.opcode ≠ .write) :
    (hwsysd.recording.next memory (.client sent stack)).1.writeFlag = memory.1.writeFlag ∧
      (hwsysd.recording.next memory (.client sent stack)).1.writing = memory.1.writing ∧
      (hwsysd.recording.next memory (.client sent stack)).1.i2cData = memory.1.i2cData ∧
      busFrames (hwsysd.recording.next memory (.client sent stack)).2 = busFrames memory.2 ∧
      acceptedWrites (hwsysd.recording.next memory (.client sent stack)).2 =
        acceptedWrites memory.2 := by
  have opcode : (receiveMsg sent stack).opcode = sent.opcode := by
    simp only [receiveMsg]
  cases kind : sent.opcode with
  | write =>
      exact absurd kind other
  | _ =>
      simp [Machine.recording, Machine.next, Machine.emit, hwsysd, clientHandler, opcode, kind,
        i2cGetData, busFrames, acceptedWrites, Action.busFrame, Action.acceptedWrite]

/-- The main loop keeps the frames on the bus together with the one that
waits. -/
theorem next_mainLoop (memory : Daemon × List Action) (hiExpired lowExpired : Bool)
    (dumped : Registers) :
    busFrames (hwsysd.recording.next memory (.mainLoop hiExpired lowExpired dumped)).2 ++
        waitingFrames (hwsysd.recording.next memory (.mainLoop hiExpired lowExpired dumped)).1 =
      busFrames memory.2 ++ waitingFrames memory.1 ∧
    acceptedWrites (hwsysd.recording.next memory (.mainLoop hiExpired lowExpired dumped)).2 =
      acceptedWrites memory.2 := by
  obtain ⟨⟨registers, slot, flag, writing⟩, trace⟩ := memory
  cases writing <;> cases hiExpired <;> cases lowExpired <;> cases flag <;>
    simp [Machine.recording, Machine.next, Machine.emit, hwsysd, readI2c, waitingFrames,
      busFrames, acceptedWrites, Action.busFrame, Action.acceptedWrite]

theorem flagHeld_next (memory : Daemon × List Action) (input : Input) (held : FlagHeld memory) :
    FlagHeld (hwsysd.recording.next memory input) := by
  cases input with
  | client sent stack =>
      by_cases isWrite : sent.opcode = .write
      · rw [next_client memory sent stack isWrite]
        exact fun _ => rfl
      · obtain ⟨flag, writing, _⟩ := next_client_other memory sent stack isWrite
        intro nowWriting
        rw [flag]
        exact held (writing ▸ nowWriting)
  | mainLoop hiExpired lowExpired dumped =>
      obtain ⟨⟨registers, slot, flag, writing⟩, trace⟩ := memory
      cases writing <;> cases hiExpired <;> cases lowExpired <;> cases flag <;>
        simp [FlagHeld, Machine.recording, Machine.next, hwsysd, readI2c]

/-! ## Delivery -/

/-- A write is delivered exactly if it finds the flag down and its frame fits. -/
theorem delivered_write_iff {memory : Daemon × List Action} (held : FlagHeld memory)
    (delivered : Delivered memory) {sent : I2cData} (stack : Vector UInt8 32)
    (isWrite : sent.opcode = .write) :
    Delivered (hwsysd.recording.next memory (.client sent stack)) ↔
      memory.1.writeFlag = false ∧ sent.lenData.toNat + 2 ≤ tmpSize := by
  rw [delivered_iff] at delivered ⊢
  rw [next_client memory sent stack isWrite, busFrames_append, acceptedWrites_append]
  have sameBus : busFrames [.accepted sent] = [] := rfl
  have oneMore : acceptedWrites [.accepted sent] = [sent] := rfl
  have frame := writeBuffer_receiveMsg sent stack
  simp only [sameBus, oneMore, List.append_nil, List.map_append, List.map_cons, List.map_nil]
  have counted := congrArg List.length delivered
  simp only [List.length_append, List.length_map] at counted
  cases flag : memory.1.writeFlag with
  | true =>
      -- one frame is missing: the slot or the flag of an earlier write is lost
      refine ⟨fun same => ?_, fun impossible => nomatch impossible.1⟩
      have lengths := congrArg List.length same
      cases writing : memory.1.writing with
      | true =>
          simp [waitingFrames, i2cSetData, flag, writing] at lengths counted
          omega
      | false =>
          simp [waitingFrames, i2cSetData, flag, writing] at lengths counted
          omega
  | false =>
      have idle : memory.1.writing = false := by
        cases writing : memory.1.writing with
        | true => exact absurd (held writing) (by simp [flag])
        | false => rfl
      have onBus : busFrames memory.2 =
          (acceptedWrites memory.2).map fun message => some (frameOf message) := by
        simpa [waitingFrames, flag] using delivered
      have waits : waitingFrames
            (i2cSetData memory.1 { receiveMsg sent stack with lenMsg := i2cMsgSize }) =
          [if sent.lenData.toNat + 2 ≤ tmpSize then some (frameOf sent) else none] := by
        rw [← frame]
        simp [waitingFrames, i2cSetData, idle, receiveMsg]
      rw [onBus, waits, List.append_cancel_left_eq]
      constructor
      · intro same
        refine ⟨rfl, ?_⟩
        by_contra tooLong
        simp [tooLong] at same
      · rintro ⟨_, fits⟩
        rw [if_pos fits]

/-- Along every run, for messages of all kinds and dumps at any time: every
accepted write reaches the bus once, in the order of acceptance and with the
client's bytes, exactly if each write finds the flag down and is at most eight
bytes long. -/
theorem writes_delivered_iff (daemon : Daemon) (free : daemon.writeFlag = false)
    (idle : daemon.writing = false) (inputs : List Input) :
    hwsysd.recording.AllStates Delivered (daemon, []) inputs ↔
      hwsysd.recording.AllSteps (fun memory => Served memory.1) (daemon, []) inputs := by
  have held : FlagHeld (daemon, []) := by
    intro writing
    exact absurd writing (by simp [idle])
  have nothing : Delivered (daemon, []) := by
    rw [delivered_iff]
    simp [waitingFrames, free, busFrames, acceptedWrites]
  refine Machine.allStates_iff_allSteps flagHeld_next ?_ held nothing
  intro memory input held delivered
  cases input with
  | client sent stack =>
      by_cases isWrite : sent.opcode = .write
      · rw [delivered_write_iff held delivered stack isWrite]
        exact ⟨fun served _ => served, fun served => served isWrite⟩
      · refine ⟨fun _ kind => absurd kind isWrite, fun _ => ?_⟩
        obtain ⟨flag, writing, slot, bus, accepted⟩ :=
          next_client_other memory sent stack isWrite
        rw [delivered_iff] at delivered ⊢
        rw [bus, accepted, ← delivered]
        simp only [waitingFrames, flag, writing, slot]
  | mainLoop hiExpired lowExpired dumped =>
      refine ⟨fun _ => trivial, fun _ => ?_⟩
      obtain ⟨bus, accepted⟩ := next_mainLoop memory hiExpired lowExpired dumped
      rw [delivered_iff] at delivered ⊢
      rw [bus, accepted, delivered]

/-! ## Two writes in a row -/

/-- A message that writes one byte. -/
def setByte (addr : Register) (byte : UInt8) : I2cData where
  lenMsg := i2cMsgSize
  addr := addr
  name := Vector.replicate 24 0
  opcode := .write
  lenData := 1
  type := 1
  eventsHandler := 0
  value := Vector.ofFn fun i => if i.val = 0 then byte else 0

/-- `REG_RELAY1`. -/
def relay1 : Register :=
  ⟨13, by decide⟩

/-- `REG_DEFAULT_LED`. -/
def defaultLed : Register :=
  ⟨15, by decide⟩

/-- The daemon before the first message. -/
def boot : Daemon where
  sockMsgArr addr := { setByte addr 0 with opcode := .idle }
  i2cData := { setByte relay1 0 with opcode := .idle }
  writeFlag := false
  writing := false

/-- A write of one byte that finds the flag down. -/
theorem write_delivered_alone :
    boot.writeFlag = false ∧ boot.writing = false ∧
      hwsysd.recording.AllStates Delivered (boot, [])
        [.client (setByte relay1 1) (Vector.replicate 32 0)] := by
  refine ⟨rfl, rfl, (writes_delivered_iff boot rfl rfl _).mpr ⟨fun _ => ⟨rfl, ?_⟩, trivial⟩⟩
  decide

/-- The relay is not written if the LED follows before the main loop runs. -/
theorem second_write_replaces_first :
    ¬∀ inputs, hwsysd.recording.AllStates Delivered (boot, []) inputs := by
  intro always
  have lost := always
    [.client (setByte relay1 1) (Vector.replicate 32 0),
      .client (setByte defaultLed 1) (Vector.replicate 32 0)]
  have counted := congrArg List.length lost.2.2
  revert counted
  decide

end TfortisPack.Hwsys
