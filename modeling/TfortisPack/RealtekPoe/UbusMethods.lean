import TfortisPack.RealtekPoe.Bounds

/-!
# The methods `sendframe` and `manage`

Both methods return what `poe_cmd_queue` returns.  That is the result of the
attempt to transmit: with the error timer pending and nothing else in the
queue it is `-EBUSY`, and the command has been linked into the queue before.
-/

namespace TfortisPack.RealtekPoe

open TfortisPack.Library

/-! ## Arguments -/

def isSpace (letter : Char) : Bool :=
  letter = ' ' || (9 ≤ letter.toNat && letter.toNat ≤ 13)

/-- The value of a hexadecimal digit. -/
def hexDigit (letter : Char) : Option Nat :=
  if 48 ≤ letter.toNat ∧ letter.toNat ≤ 57 then some (letter.toNat - 48)
  else if 97 ≤ letter.toNat ∧ letter.toNat ≤ 102 then some (letter.toNat - 87)
  else if 65 ≤ letter.toNat ∧ letter.toNat ≤ 70 then some (letter.toNat - 55)
  else none

/-- What `strtoul` leaves: the number, `errno` and the text behind the number. -/
structure Converted where
  value : Nat
  errno : Bool
  next : List Char
  deriving DecidableEq

/-- `strtoul(text, &next, 16)` with the 32-bit `unsigned long` of the target. -/
def strtoul16 (text : List Char) : Converted :=
  let trimmed := text.dropWhile isSpace
  let negative := trimmed.head? = some '-'
  let unsigned := if negative ∨ trimmed.head? = some '+' then trimmed.tail else trimmed
  let digits :=
    match unsigned with
    | '0' :: x :: digit :: rest =>
        if (x = 'x' ∨ x = 'X') ∧ (hexDigit digit).isSome then digit :: rest else unsigned
    | _ => unsigned
  let run := digits.takeWhile fun letter => (hexDigit letter).isSome
  if run = [] then ⟨0, false, text⟩
  else
    let value := run.foldl (fun number letter => 16 * number + (hexDigit letter).getD 0) 0
    let next := digits.drop run.length
    if value ≥ 4294967296 then ⟨4294967295, true, next⟩
    else ⟨if negative then (4294967296 - value) % 4294967296 else value, false, next⟩

/-- The loop of `ubus_poe_sendframe_cb` with room for `room` more bytes; nothing
if an argument is invalid. -/
def frameBytes : Nat → List Char → Option (List UInt8)
  | 0, _ => some []
  | room + 1, text =>
      if text = [] then some []
      else
        let converted := strtoul16 text
        if converted.errno ∨ converted.next.length = text.length ∨ converted.value > 0xff then none
        else (frameBytes room converted.next).map (UInt8.ofNat converted.value :: ·)

theorem length_frameBytes {room : Nat} {text : List Char} {bytes : List UInt8}
    (parsed : frameBytes room text = some bytes) : bytes.length ≤ room := by
  induction room generalizing text bytes with
  | zero =>
      rw [frameBytes, Option.some.injEq] at parsed
      rw [← parsed]
      exact Nat.le_refl 0
  | succ room inductionHypothesis =>
      rw [frameBytes] at parsed
      split at parsed
      · rw [← Option.some.inj parsed]
        exact Nat.zero_le _
      · simp only at parsed
        split at parsed
        · cases parsed
        · obtain ⟨later, parsedLater, rfl⟩ := Option.map_eq_some_iff.mp parsed
          exact Nat.succ_le_succ (inductionHypothesis parsedLater)

/-- What `sendframe` queues; `frame` is missing if the message has no such
string. -/
def sendframeRequest (frame : Option (List Char)) : Option Request :=
  match frame with
  | none => none
  | some text =>
      match parsed : frameBytes 9 text with
      | none => none
      | some bytes => some ⟨bytes, Nat.le_trans (length_frameBytes parsed) (by decide)⟩

/-- `struct port_config`, as far as `manage` reads it. -/
structure PortConfig where
  name : String
  enable : Bool
  deriving DecidableEq

/-- `poe_cmd_port_enable`. -/
def poeCmdPortEnable (port : Nat) (enable : Bool) : Request :=
  ⟨[0x01, 0x00, UInt8.ofNat port, if enable then 1 else 0], by simp⟩

/-- What `manage` queues. -/
def manageRequest (ports : List PortConfig) (port : Option String) (enable : Option Bool) :
    Option Request :=
  match port, enable with
  | some portName, some enabled =>
      (ports.findIdx? fun port => port.enable && port.name == portName).map fun i =>
        poeCmdPortEnable i enabled
  | _, _ => none

/-! ## The methods -/

/-- `UBUS_STATUS_INVALID_ARGUMENT`. -/
def invalidArgument : Int := 2

/-- `EBUSY`. -/
def eBusy : Int := 16

/-- The call of `poe_cmd_queue` at the end of a method. -/
def submit (map : DialectMap) (poe : Poe) : Option Request → Poe × Int × List Action
  | none => (poe, invalidArgument, [])
  | some request =>
      let queued := poeCmdQueue map poe request
      (queued.1, if queued.2.1 then -eBusy else 0, queued.2.2)

def ubusPoeSendframeCb (map : DialectMap) (poe : Poe) (frame : Option (List Char)) :
    Poe × Int × List Action :=
  submit map poe (sendframeRequest frame)

def ubusPoeManageCb (map : DialectMap) (ports : List PortConfig) (poe : Poe)
    (port : Option String) (enable : Option Bool) : Poe × Int × List Action :=
  submit map poe (manageRequest ports port enable)

inductive UbusRequest where
  | sendframe (frame : Option (List Char))
  | manage (port : Option String) (enable : Option Bool)

/-- The command of a request with valid arguments. -/
def UbusRequest.command (ports : List PortConfig) : UbusRequest → Option Request
  | sendframe frame => sendframeRequest frame
  | manage port enable => manageRequest ports port enable

def ubusCall (map : DialectMap) (ports : List PortConfig) (poe : Poe) :
    UbusRequest → Poe × Int × List Action
  | .sendframe frame => ubusPoeSendframeCb map poe frame
  | .manage port enable => ubusPoeManageCb map ports poe port enable

theorem ubusCall_eq (map : DialectMap) (ports : List PortConfig) (poe : Poe)
    (request : UbusRequest) :
    ubusCall map ports poe request = submit map poe (request.command ports) := by
  cases request <;> rfl

/-! ## Failed requests -/

/-- A request that fails leaves the queue alone and none of its commands is
written then or later; one that succeeds appends one command. -/
structure Atomic (map : DialectMap) (poe : Poe) (answer : Poe × Int × List Action) : Prop where
  failed : answer.2.1 ≠ 0 →
    answer.1.cmdPending = poe.cmdPending ∧
      ∀ (inputs : List Input) (serial : Nat) (frame : Frame),
        Action.written serial frame ∈ answer.2.2 ++ (daemon map).outputs answer.1 inputs →
          ¬(poe.allocated ≤ serial ∧ serial < answer.1.allocated)
  succeeded : answer.2.1 = 0 →
    ∃ cmd, cmd.serial = poe.allocated ∧ answer.1.cmdPending = poe.cmdPending ++ [cmd] ∧
      answer.1.allocated = poe.allocated + 1

theorem poeCmdQueue_busy_iff (map : DialectMap) (poe : Poe) (request : Request) :
    (poeCmdQueue map poe request).2.1 = true ↔
      poe.cmdPending = [] ∧ poe.mcuErrorPending = true := by
  simp only [poeCmdQueue]
  cases queue : poe.cmdPending with
  | nil => cases poe.mcuErrorPending <;> simp [poeCmdSend]
  | cons cmd rest => simp

theorem poeCmdQueue_appends (map : DialectMap) (poe : Poe) (request : Request) :
    ∃ cmd, cmd.serial = poe.allocated ∧
      (poeCmdQueue map poe request).1.cmdPending = poe.cmdPending ++ [cmd] ∧
      (poeCmdQueue map poe request).1.allocated = poe.allocated + 1 := by
  simp only [poeCmdQueue]
  split <;> exact ⟨_, rfl, rfl, rfl⟩

theorem atomic_submit_iff (map : DialectMap) (poe : Poe) (command : Option Request) :
    Atomic map poe (submit map poe command) ↔
      ¬(command.isSome = true ∧ poe.cmdPending = [] ∧ poe.mcuErrorPending = true) := by
  cases command with
  | none =>
      refine ⟨fun _ impossible => by simp at impossible, fun _ => ⟨?_, ?_⟩⟩
      · intro _
        refine ⟨rfl, fun _ serial _ _ allocated => ?_⟩
        exact absurd allocated.2 (Nat.not_lt.mpr allocated.1)
      · intro zero
        simp [submit, invalidArgument] at zero
  | some request =>
      have busy := poeCmdQueue_busy_iff map poe request
      obtain ⟨cmd, isNew, appended, allocated⟩ := poeCmdQueue_appends map poe request
      simp only [Option.isSome_some, true_and, submit]
      rw [← busy]
      constructor
      · rintro ⟨failed, -⟩ isBusy
        have nonzero : (if (poeCmdQueue map poe request).2.1 = true then -eBusy else 0) ≠ 0 := by
          rw [if_pos isBusy]
          decide
        -- the command is in the queue although the request failed
        have same := (failed nonzero).1
        rw [appended] at same
        exact absurd (congrArg List.length same) (by simp)
      · intro sent
        rw [if_neg sent]
        exact ⟨fun nonzero => absurd rfl nonzero, fun _ => ⟨cmd, isNew, appended, allocated⟩⟩

/-- For every state and every request: a failed request has no effect and a
successful one queues one command, exactly unless the arguments are valid, the
queue is empty and the error timer is pending. -/
theorem ubus_request_atomic_iff (map : DialectMap) (ports : List PortConfig) (poe : Poe)
    (request : UbusRequest) :
    Atomic map poe (ubusCall map ports poe request) ↔
      ¬((request.command ports).isSome = true ∧ poe.cmdPending = [] ∧
        poe.mcuErrorPending = true) := by
  rw [ubusCall_eq]
  apply atomic_submit_iff

/-! ## A command that is sent although its request failed -/

/-- `request-incomplete`, with its checksum. -/
def rejectReply : Frame :=
  withChecksum <| Vector.ofFn fun i => if i.val = 0 then 0xfd else 0

/-- A rejected command and then a frame with a bad checksum leave the queue
empty while the timer runs. -/
def emptyAndBusy : Poe :=
  (daemon fun _ => 0).final initial
    [.queue ⟨[0x40], by decide⟩, .frame rejectReply, .frame (Vector.replicate 12 1)]

/-- `sendframe 41` returns `-EBUSY` and its command is written when the timer
expires. -/
theorem busy_request_is_sent :
    (ubusCall (fun _ => 0) [] emptyAndBusy (.sendframe (some ['4', '1']))).2.1 = -eBusy ∧
      (∃ frame, Action.written 1 frame ∈ (daemon fun _ => 0).outputs
        (ubusCall (fun _ => 0) [] emptyAndBusy (.sendframe (some ['4', '1']))).1
        [.timerExpired]) ∧
      ¬∀ (map : DialectMap) (ports : List PortConfig) (poe : Poe) (request : UbusRequest),
        Atomic map poe (ubusCall map ports poe request) := by
  refine ⟨by decide +kernel, ⟨_, List.mem_singleton.mpr rfl⟩, ?_⟩
  intro always
  have atomic := always (fun _ => 0) [] emptyAndBusy (.sendframe (some ['4', '1']))
  rw [ubusCall_eq, atomic_submit_iff] at atomic
  exact atomic (by decide +kernel)

end TfortisPack.RealtekPoe
