import Mathlib.Algebra.Ring.Nat
import Mathlib.Data.Rat.Defs
import TfortisPack.Library.Runs

/-!
# The PoE daemon and its command queue

`realtek-poe-tfortis/src/main.c`.  The daemon talks to the PoE controller in
frames of twelve bytes.  Commands wait in `cmd_pending`; only the first one is
on the wire, and every received frame is taken for the answer to it.  A
rejected command goes back to the head of the queue and is sent again when
`mcu_error_timeout` expires.

A command carries the number of its allocation, which stands for its address;
the actions of the machine refer to commands by it.  Frames are logged by the
source, which the model leaves out.  Readings that the source stores in a
`float` are the rational numbers it rounds.  A handler that indexes a table
behind its end reports the index as an action, and the access has no other
effect.
-/

namespace TfortisPack.RealtekPoe

open TfortisPack.Library

/-! ## Frames -/

/-- A frame of the serial protocol. -/
abbrev Frame := Vector UInt8 12

/-- The sum of the bytes 0 to 10 in an `unsigned char`. -/
def checksum (frame : Frame) : UInt8 :=
  (frame.toList.take 11).foldl (· + ·) 0

/-- The bytes handed to `poe_cmd_queue`; its callers pass ten at most. -/
abbrev Request := { bytes : List UInt8 // bytes.length ≤ 12 }

/-- `bcm_to_rtl_map` after `close_map`. -/
abbrev DialectMap := UInt8 → UInt8

/-- `bcm_to_rtl_cmd_id`; `rtl_to_bcm_cmd_id` is the same function. -/
def bcmToRtlCmdId (map : DialectMap) (cmd : UInt8) : UInt8 :=
  if map cmd ≠ 0 then map cmd else cmd

def read16Be (frame : Frame) (offset : Fin 11) : Nat :=
  frame[offset.val].toNat * 256 + frame[offset.val + 1].toNat

/-- The frame that `poe_cmd_queue` builds. -/
def buildFrame (map : DialectMap) (seq : UInt8) (request : Request) : Frame :=
  let cmd : Frame := Vector.ofFn fun i => request.val.getD i 0xff
  let cmd := (cmd.set 0 (bcmToRtlCmdId map cmd[0])).set 1 seq
  cmd.set 11 (checksum cmd)

/-! ## State -/

def maxPort : Nat := 24

def maxRetries : Nat := 5

/-- `struct cmd`. -/
structure Cmd where
  /-- The number of the allocation. -/
  serial : Nat
  cmd : Frame
  numRetries : Nat
  deriving DecidableEq, Repr

/-- `struct port_state`. -/
structure PortState where
  statusStr : Option String
  status : UInt8
  watt : ℚ
  voltage : ℚ
  current : Nat
  temperature : ℚ
  poeMode : Option String
  deriving DecidableEq

/-- The telemetry in `struct state`. -/
structure Telemetry where
  sysMode : Option String
  sysVersion : UInt8
  sysMcu : Option String
  sysStatus : Option String
  sysExtVersion : UInt8
  powerConsumption : ℚ
  numDetectedPorts : UInt8
  ports : List PortState
  deriving DecidableEq

/-- The daemon. -/
structure Poe where
  cmdPending : List Cmd
  cmdSeq : UInt8
  /-- `state.mcu_error_timeout.pending`. -/
  mcuErrorPending : Bool
  telemetry : Telemetry
  /-- The number of commands allocated so far. -/
  allocated : Nat
  deriving DecidableEq

/-- What the daemon does to its queue, to the line and to its tables. -/
inductive Action where
  /-- `list_add_tail` of a new command. -/
  | enqueued (serial : Nat)
  /-- `ustream_write`. -/
  | written (serial : Nat) (frame : Frame)
  /-- `list_del` of the head. -/
  | unlinked (serial : Nat)
  /-- `list_add` at the head. -/
  | relinked (serial : Nat)
  | freed (serial : Nat)
  /-- An access to `reply_handler`. -/
  | handlerIndexed (index : Nat)
  /-- An access to `state.ports`. -/
  | portIndexed (index : Nat)
  deriving DecidableEq

/-! ## Sending -/

/-- `poe_cmd_send`; the flag is whether it returns `-EBUSY`. -/
def poeCmdSend (poe : Poe) (cmd : Cmd) : Bool × List Action :=
  if poe.mcuErrorPending then (true, [])
  else (false, [.written cmd.serial cmd.cmd])

def poeCmdNext (poe : Poe) : List Action :=
  match poe.cmdPending with
  | [] => []
  | cmd :: _ => (poeCmdSend poe cmd).2

/-- `poe_cmd_queue`; the flag is whether it returns `-EBUSY`. -/
def poeCmdQueue (map : DialectMap) (poe : Poe) (request : Request) :
    Poe × Bool × List Action :=
  let seq := poe.cmdSeq + 1
  let cmd : Cmd :=
    { serial := poe.allocated, cmd := buildFrame map seq request, numRetries := 0 }
  let queued :=
    { poe with
      cmdPending := poe.cmdPending ++ [cmd], cmdSeq := seq, allocated := poe.allocated + 1 }
  if poe.cmdPending.isEmpty then
    let sent := poeCmdSend queued cmd
    (queued, sent.1, .enqueued cmd.serial :: sent.2)
  else (queued, false, [.enqueued cmd.serial])

/-! ## Reply handlers -/

/-- The table `status`. -/
def statusTable : List String :=
  ["Disabled", "Searching", "Delivering power", "rsvd", "Fault", "Other fault",
    "Requesting power"]

def sysModeTable : List String :=
  ["Semi-auto I2C", "Semi-auto UART", "Auto I2C", "Auto UART"]

def sysMcuTable : List String :=
  ["GigaDevice GD32F310", "GigaDevice GD32E230", "GigaDevice GD32F303",
    "GigaDevice GD32E103"]

def sysStatusTable : List String :=
  ["Global Disable pin is de-asserted:No system reset from the previous query cmd:Configuration saved",
    "Global Disable pin is de-asserted:No system reset from the previous query cmd:Configuration Dirty",
    "Global Disable pin is de-asserted:System reseted:Configuration saved",
    "Global Disable pin is de-asserted:System reseted:Configuration Dirty",
    "Global Disable Pin is asserted:No system reset from the previous query cmd:Configuration saved",
    "Global Disable Pin is asserted:No system reset from the previous query cmd:Configuration Dirty",
    "Global Disable Pin is asserted:System reseted:Configuration saved",
    "Global Disable Pin is asserted:System reseted:Configuration Dirty"]

def poeModeTable : List String :=
  ["PoE", "Legacy", "pre-PoE+", "PoE+"]

def getStr (index : UInt8) (table : List String) : Option String :=
  table[index.toNat]?

/-- Updates one entry of `state.ports`. -/
def Telemetry.setPort (telemetry : Telemetry) (index : Nat)
    (update : PortState → PortState) : Telemetry :=
  { telemetry with ports := telemetry.ports.modify index update }

def poeReplyStatus (reply : Frame) (telemetry : Telemetry) : Telemetry × List Action :=
  ({ telemetry with
      sysMode := getStr reply[2] sysModeTable
      numDetectedPorts := reply[3]
      sysVersion := reply[7]
      sysMcu := getStr reply[8] sysMcuTable
      sysStatus := getStr reply[9] sysStatusTable
      sysExtVersion := reply[10] }, [])

def poeReplyPowerStats (reply : Frame) (telemetry : Telemetry) :
    Telemetry × List Action :=
  ({ telemetry with powerConsumption := read16Be reply 7 * (1 / 10) }, [])

def poeReplyPortExtConfig (reply : Frame) (telemetry : Telemetry) :
    Telemetry × List Action :=
  let index := reply[2].toNat
  (telemetry.setPort index fun port => { port with poeMode := getStr reply[3] poeModeTable },
    [.portIndexed index])

/-- `poe_reply_port_config` only logs. -/
def poeReplyPortConfig (_reply : Frame) (telemetry : Telemetry) :
    Telemetry × List Action :=
  (telemetry, [])

/-- The iterations of the loop in `poe_reply_4_port_status` from `i` on, where
`4 - left` is `i`; a port number out of range ends it. -/
def reply4PortLoop (reply : Frame) : (left : Nat) → left ≤ 4 → Telemetry → Telemetry × List Action
  | 0, _, telemetry => (telemetry, [])
  | left + 1, within, telemetry =>
      let i := 3 - left
      let port := reply[2].toNat * 4 + i
      let pstate := reply[3 + i * 2]
      if port = 0xff then reply4PortLoop reply left (by omega) telemetry
      else if port ≥ maxPort then (telemetry, [])
      else
        let telemetry := telemetry.setPort port fun entry =>
          { entry with
            statusStr := getStr (pstate &&& 0xf) statusTable
            status := pstate &&& 0xf }
        let rest := reply4PortLoop reply left (by omega) telemetry
        (rest.1, .portIndexed port :: rest.2)

def poeReply4PortStatus (reply : Frame) (telemetry : Telemetry) :
    Telemetry × List Action :=
  reply4PortLoop reply 4 (Nat.le_refl 4) telemetry

def poeReplyPortPowerStats (reply : Frame) (telemetry : Telemetry) :
    Telemetry × List Action :=
  let index := reply[2].toNat
  (telemetry.setPort index fun port =>
      { port with
        voltage := read16Be reply 3 * (6545 / 100000)
        current := read16Be reply 5
        temperature := ((read16Be reply 7 : ℚ) - 120) * (-(5 / 4)) + 125
        watt := read16Be reply 9 * (1 / 10) },
    [.portIndexed index])

/-- `ARRAY_SIZE(reply_handler)`. -/
def replyHandlerSize : Nat := 0x4a

/-- `reply_handler`; the entries not listed are null. -/
def replyHandler (index : UInt8) : Option (Frame → Telemetry → Telemetry × List Action) :=
  if index = 0x40 then some poeReplyStatus
  else if index = 0x41 then some poeReplyPowerStats
  else if index = 0x43 then some poeReply4PortStatus
  else if index = 0x44 then some poeReplyPortPowerStats
  else if index = 0x48 then some poeReplyPortConfig
  else if index = 0x49 then some poeReplyPortExtConfig
  else none

/-! ## Replies -/

/-- `handle_poe_f0_reply` for a command that has been taken off the queue. -/
def handlePoeF0Reply (poe : Poe) (cmd : Cmd) : Poe × List Action :=
  if poe.mcuErrorPending then
    ({ poe with cmdPending := cmd :: poe.cmdPending }, [.relinked cmd.serial])
  else
    -- `num_retries` is an `unsigned int`
    let numRetries := (cmd.numRetries + 1) % 4294967296
    if numRetries > maxRetries then (poe, [.freed cmd.serial])
    else
      ({ poe with
          cmdPending := { cmd with numRetries := numRetries } :: poe.cmdPending
          mcuErrorPending := true }, [.relinked cmd.serial])

/-- The part of `poe_reply_consume` after the command has been freed. -/
def dispatchReply (map : DialectMap) (cmd : Cmd) (reply : Frame) (telemetry : Telemetry) :
    Telemetry × List Action :=
  let cmdId := bcmToRtlCmdId map cmd.cmd[0]
  let replyId := bcmToRtlCmdId map reply[0]
  if replyId ≠ cmdId ∨ replyId.toNat > replyHandlerSize then (telemetry, [])
  else if reply[1] ≠ cmd.cmd[1] then (telemetry, [])
  else
    match replyHandler replyId with
    | none => (telemetry, [.handlerIndexed replyId.toNat])
    | some handler =>
        let handled := handler reply telemetry
        (handled.1, .handlerIndexed replyId.toNat :: handled.2)

def poeReplyConsume (map : DialectMap) (poe : Poe) (reply : Frame) : Poe × List Action :=
  match poe.cmdPending with
  | [] => (poe, [])
  | cmd :: rest =>
      let poe := { poe with cmdPending := rest }
      if reply[11] ≠ checksum reply then
        (poe, [.unlinked cmd.serial, .freed cmd.serial])
      else if reply[0] &&& 0xf0 = 0xf0 then
        let rejected := handlePoeF0Reply poe cmd
        (rejected.1, .unlinked cmd.serial :: rejected.2)
      else
        let dispatched := dispatchReply map cmd reply poe.telemetry
        ({ poe with telemetry := dispatched.1 },
          .unlinked cmd.serial :: .freed cmd.serial :: dispatched.2)

/-! ## The machine -/

/-- What drives the daemon. -/
inductive Input where
  /-- A call of `poe_cmd_queue`. -/
  | queue (request : Request)
  /-- `poe_stream_msg_cb` with a complete frame. -/
  | frame (reply : Frame)
  /-- The event loop finds `mcu_error_timeout` expired. -/
  | timerExpired

/-- `uloop` runs `mcu_clear_timeout` only for a pending timer, and clears
`pending` first. -/
def mcuClearTimeout (poe : Poe) : Poe × List Action :=
  if poe.mcuErrorPending then
    let cleared := { poe with mcuErrorPending := false }
    (cleared, poeCmdNext cleared)
  else (poe, [])

def poeStreamMsgCb (map : DialectMap) (poe : Poe) (reply : Frame) : Poe × List Action :=
  let consumed := poeReplyConsume map poe reply
  (consumed.1, consumed.2 ++ poeCmdNext consumed.1)

/-- The daemon. -/
def daemon (map : DialectMap) : Machine Poe Input Action where
  step poe input :=
    match input with
    | .queue request =>
        let queued := poeCmdQueue map poe request
        (queued.1, queued.2.2)
    | .frame reply => poeStreamMsgCb map poe reply
    | .timerExpired => mcuClearTimeout poe

/-- The zero-initialised static state. -/
def initial : Poe where
  cmdPending := []
  cmdSeq := 0
  mcuErrorPending := false
  telemetry :=
    { sysMode := none, sysVersion := 0, sysMcu := none, sysStatus := none, sysExtVersion := 0
      powerConsumption := 0, numDetectedPorts := 0
      ports :=
        List.replicate maxPort
          { statusStr := none, status := 0, watt := 0, voltage := 0, current := 0
            temperature := 0, poeMode := none } }
  allocated := 0

/-! ## Acceptance of replies

`poe_reply_consume` has five ways to turn a frame down.  Telemetry changes
only on the path that passes all of them, and every path leaves the queue
without its head or as it was. -/

/-- Byte 11 is the sum of the bytes before it, modulo 256. -/
def ChecksumOk (frame : Frame) : Prop :=
  frame[11].toNat = ((frame.toList.take 11).map UInt8.toNat).sum % 256

instance : DecidablePred ChecksumOk :=
  fun _ => inferInstanceAs (Decidable (_ = _))

/-- The controller rejects the command. -/
def Rejects (frame : Frame) : Prop :=
  frame[0] &&& 0xf0 = 0xf0

instance : DecidablePred Rejects :=
  fun _ => inferInstanceAs (Decidable (_ = _))

/-- The frame answers the command: same identifier after translation and same
sequence number. -/
def Answers (map : DialectMap) (frame : Frame) (cmd : Cmd) : Prop :=
  bcmToRtlCmdId map frame[0] = bcmToRtlCmdId map cmd.cmd[0] ∧ frame[1] = cmd.cmd[1]

/-- The command id of a frame, as `reply_handler` is indexed with it. -/
def replyId (map : DialectMap) (frame : Frame) : UInt8 :=
  bcmToRtlCmdId map frame[0]

/-- The byte of a frame that names a port. -/
def portByte (frame : Frame) : UInt8 :=
  frame[2]

/-- A frame with the checksum of its first eleven bytes. -/
def withChecksum (bare : Frame) : Frame :=
  bare.set 11 (checksum bare)

/-- The command may be sent once more after a rejection. -/
def RetriesLeft (cmd : Cmd) : Prop :=
  (cmd.numRetries + 1) % 4294967296 ≤ maxRetries

/-- The command after a counted rejection. -/
def Cmd.retried (cmd : Cmd) : Cmd :=
  { cmd with numRetries := (cmd.numRetries + 1) % 4294967296 }

theorem foldl_add_toNat (bytes : List UInt8) (start : UInt8) :
    (bytes.foldl (· + ·) start).toNat =
      (start.toNat + (bytes.map UInt8.toNat).sum) % 256 := by
  induction bytes generalizing start with
  | nil =>
      have small := start.toNat_lt
      simp only [List.foldl_nil, List.map_nil, List.sum_nil, Nat.add_zero]
      omega
  | cons byte rest inductionHypothesis =>
      rw [List.foldl_cons, inductionHypothesis, UInt8.toNat_add, List.map_cons, List.sum_cons]
      omega

/-- The comparison of the code is the one of the protocol. -/
theorem checksum_iff (frame : Frame) : frame[11] = checksum frame ↔ ChecksumOk frame := by
  have sum : (checksum frame).toNat =
      ((frame.toList.take 11).map UInt8.toNat).sum % 256 := by
    rw [checksum, foldl_add_toNat]
    simp
  rw [← UInt8.toNat_inj, sum]
  rfl

/-- Telemetry is dispatched for an answer only. -/
theorem dispatchReply_telemetry {map : DialectMap} {cmd : Cmd} {reply : Frame}
    {telemetry : Telemetry} (other : ¬Answers map reply cmd) :
    (dispatchReply map cmd reply telemetry).1 = telemetry := by
  simp only [dispatchReply]
  split
  · rfl
  · rename_i sameId
    split
    · rfl
    · rename_i sameSeq
      refine absurd ⟨?_, ?_⟩ other
      · by_contra different
        exact sameId (Or.inl different)
      · simpa using sameSeq

/-- The table accesses of the reply handlers are the only actions of a
dispatch. -/
def TableAccess (action : Action) : Prop :=
  (∃ index, action = .handlerIndexed index) ∨ ∃ index, action = .portIndexed index

theorem reply4PortLoop_actions (reply : Frame) (left : Nat) (within : left ≤ 4)
    (telemetry : Telemetry) :
    ∀ action ∈ (reply4PortLoop reply left within telemetry).2, TableAccess action := by
  induction left generalizing telemetry with
  | zero =>
      simp [reply4PortLoop]
  | succ left inductionHypothesis =>
      simp only [reply4PortLoop]
      split
      · exact inductionHypothesis (by omega) telemetry
      · split
        · simp
        · intro action member
          rcases List.mem_cons.mp member with rfl | later
          · exact Or.inr ⟨_, rfl⟩
          · exact inductionHypothesis (by omega) _ action later

theorem replyHandler_actions {index : UInt8}
    {handler : Frame → Telemetry → Telemetry × List Action}
    (present : replyHandler index = some handler) (reply : Frame) (telemetry : Telemetry) :
    ∀ action ∈ (handler reply telemetry).2, TableAccess action := by
  unfold replyHandler at present
  split at present
  · obtain rfl := Option.some.inj present
    simp [poeReplyStatus]
  · split at present
    · obtain rfl := Option.some.inj present
      simp [poeReplyPowerStats]
    · split at present
      · obtain rfl := Option.some.inj present
        exact reply4PortLoop_actions reply 4 _ telemetry
      · split at present
        · obtain rfl := Option.some.inj present
          simp [poeReplyPortPowerStats, TableAccess]
        · split at present
          · obtain rfl := Option.some.inj present
            simp [poeReplyPortConfig]
          · split at present
            · obtain rfl := Option.some.inj present
              simp [poeReplyPortExtConfig, TableAccess]
            · simp at present

theorem dispatchReply_actions (map : DialectMap) (cmd : Cmd) (reply : Frame)
    (telemetry : Telemetry) :
    ∀ action ∈ (dispatchReply map cmd reply telemetry).2, TableAccess action := by
  simp only [dispatchReply]
  split
  · simp
  · split
    · simp
    · split
      · simp [TableAccess]
      · rename_i handler present
        intro action member
        rcases List.mem_cons.mp member with rfl | later
        · exact Or.inl ⟨_, rfl⟩
        · exact replyHandler_actions present reply telemetry action later

/-- Every way through `poe_reply_consume`. -/
inductive Consumed (map : DialectMap) (poe : Poe) (reply : Frame) :
    Poe × List Action → Prop where
  | unsolicited (empty : poe.cmdPending = []) :
      Consumed map poe reply (poe, [])
  | dropped {cmd : Cmd} {rest : List Cmd} (queue : poe.cmdPending = cmd :: rest)
      {telemetry : Telemetry} {accesses : List Action}
      (only : ∀ action ∈ accesses, TableAccess action)
      (accepted :
        telemetry ≠ poe.telemetry →
          ChecksumOk reply ∧ ¬Rejects reply ∧ Answers map reply cmd) :
      Consumed map poe reply
        ({ poe with cmdPending := rest, telemetry := telemetry },
          .unlinked cmd.serial :: .freed cmd.serial :: accesses)
  | held {cmd : Cmd} {rest : List Cmd} (queue : poe.cmdPending = cmd :: rest)
      (intact : ChecksumOk reply) (rejected : Rejects reply)
      (waiting : poe.mcuErrorPending = true) :
      Consumed map poe reply (poe, [.unlinked cmd.serial, .relinked cmd.serial])
  | retried {cmd : Cmd} {rest : List Cmd} (queue : poe.cmdPending = cmd :: rest)
      (intact : ChecksumOk reply) (rejected : Rejects reply)
      (free : poe.mcuErrorPending = false) (left : RetriesLeft cmd) :
      Consumed map poe reply
        ({ poe with cmdPending := cmd.retried :: rest, mcuErrorPending := true },
          [.unlinked cmd.serial, .relinked cmd.serial])

theorem poeReplyConsume_cases (map : DialectMap) (poe : Poe) (reply : Frame) :
    Consumed map poe reply (poeReplyConsume map poe reply) := by
  unfold poeReplyConsume
  split
  · exact .unsolicited ‹_›
  · rename_i cmd rest queue
    have unchanged : poe.telemetry ≠ poe.telemetry →
        ChecksumOk reply ∧ ¬Rejects reply ∧ Answers map reply cmd :=
      fun changed => absurd rfl changed
    by_cases intact : ChecksumOk reply
    · have sum : ¬reply[11] ≠ checksum reply := by
        simpa using (checksum_iff reply).mpr intact
      by_cases rejected : Rejects reply
      · have mask : reply[0] &&& 0xf0 = 0xf0 := rejected
        simp only [if_neg sum, if_pos mask, handlePoeF0Reply]
        by_cases waiting : poe.mcuErrorPending = true
        · have same : { poe with cmdPending := cmd :: rest } = poe := by
            rw [← queue]
          simp only [if_pos waiting]
          rw [same]
          exact .held queue intact rejected waiting
        · have free : poe.mcuErrorPending = false := by
            simpa using waiting
          simp only [if_neg waiting]
          by_cases left : RetriesLeft cmd
          · have enough : ¬(cmd.numRetries + 1) % 4294967296 > maxRetries := Nat.not_lt.mpr left
            simp only [if_neg enough]
            exact .retried queue intact rejected free left
          · have spent : (cmd.numRetries + 1) % 4294967296 > maxRetries := Nat.lt_of_not_le left
            simp only [if_pos spent]
            exact .dropped queue (by simp) unchanged
      · have mask : ¬reply[0] &&& 0xf0 = 0xf0 := rejected
        simp only [if_neg sum, if_neg mask]
        refine .dropped queue (dispatchReply_actions map cmd reply poe.telemetry) ?_
        intro changed
        refine ⟨intact, rejected, ?_⟩
        by_contra other
        exact changed (dispatchReply_telemetry other)
    · have sum : reply[11] ≠ checksum reply := fun same =>
        intact ((checksum_iff reply).mp same)
      simp only [if_pos sum]
      exact .dropped queue (by simp) unchanged

/-- For every state of the queue and every frame: telemetry changes only if the
queue is not empty, the checksum is right, the frame is no rejection and
answers the head; and the queue loses its head or stays as it was, the latter
for an empty queue or for an intact rejection that finds retries left or the
error timer pending. -/
theorem reply_acceptance (map : DialectMap) (poe : Poe) (reply : Frame) :
    ((poeReplyConsume map poe reply).1.telemetry ≠ poe.telemetry →
        ∃ cmd rest, poe.cmdPending = cmd :: rest ∧ ChecksumOk reply ∧
          bcmToRtlCmdId map reply[0] = bcmToRtlCmdId map cmd.cmd[0] ∧
          reply[1] = cmd.cmd[1] ∧ reply[0] &&& 0xf0 ≠ 0xf0) ∧
      (poe.cmdPending = [] ∧ (poeReplyConsume map poe reply).1.cmdPending = [] ∨
        ∃ cmd rest, poe.cmdPending = cmd :: rest ∧
          ((poeReplyConsume map poe reply).1.cmdPending = rest ∨
            ChecksumOk reply ∧ reply[0] &&& 0xf0 = 0xf0 ∧
              (poe.mcuErrorPending = true ∧
                  (poeReplyConsume map poe reply).1.cmdPending = cmd :: rest ∨
                poe.mcuErrorPending = false ∧ RetriesLeft cmd ∧
                  (poeReplyConsume map poe reply).1.cmdPending = cmd.retried :: rest))) := by
  have outcome := poeReplyConsume_cases map poe reply
  generalize poeReplyConsume map poe reply = result at outcome ⊢
  cases outcome with
  | unsolicited empty =>
      exact ⟨fun changed => absurd rfl changed, Or.inl ⟨empty, empty⟩⟩
  | dropped queue only accepted =>
      refine ⟨fun changed => ?_, Or.inr ⟨_, _, queue, Or.inl rfl⟩⟩
      obtain ⟨intact, noReject, sameId, sameSeq⟩ := accepted changed
      exact ⟨_, _, queue, intact, sameId, sameSeq, noReject⟩
  | held queue intact rejected waiting =>
      refine ⟨fun changed => absurd rfl changed, Or.inr ⟨_, _, queue, Or.inr ?_⟩⟩
      exact ⟨intact, rejected, Or.inl ⟨waiting, queue⟩⟩
  | retried queue intact rejected free left =>
      refine ⟨fun changed => absurd rfl changed, Or.inr ⟨_, _, queue, Or.inr ?_⟩⟩
      exact ⟨intact, rejected, Or.inr ⟨free, left, rfl⟩⟩

end TfortisPack.RealtekPoe
