import TfortisPack.Autorestart.Decimals
import TfortisPack.Autorestart.Statistics
import Mathlib.Data.List.GetD
import Mathlib.Logic.Function.Basic

/-!
# The client interface

A client of the daemon sends a `sock_msg_t`: the command in four bytes and the
port in a fifth.  `d_receive_msg` copies five bytes whatever `read` returned, so
a short message is completed by what the stack held; `clientHandler` and
`cmd_rebootHandler` index their arrays with the fields as they are.  The tool
`autorestart_ctrl` narrows the number of its argument before it checks it.
-/

namespace TfortisPack.Autorestart

open TfortisPack.Library

namespace ClientInterface

/-- `CMD_TYPE_e`. -/
inductive CmdType where
  | idle
  | status
  | reboot
  | error
  deriving DecidableEq, Repr

def CmdType.toNat : CmdType → Nat
  | .idle => 0
  | .status => 1
  | .reboot => 2
  | .error => 3

/-- The entry of `cmdHandler[max_cmd]` that a command indexes. -/
def CmdType.fromField : Nat → Option CmdType
  | 0 => some .idle
  | 1 => some .status
  | 2 => some .reboot
  | 3 => some .error
  | _ => none

inductive ByteOrder where
  | littleEndian
  | bigEndian
  deriving DecidableEq, Repr

/-- What a client can make the daemon read at once. -/
structure Message where
  bytes : List UInt8
  nonempty : bytes ≠ []
  short : bytes.length ≤ 5

/-- `msg_s.cmdType` of the bytes of a `sock_msg_t`. -/
def cmdTypeField (order : ByteOrder) (arr : Nat → UInt8) : Nat :=
  match order with
  | .littleEndian =>
      (arr 0).toNat + 256 * ((arr 1).toNat + 256 * ((arr 2).toNat + 256 * (arr 3).toNat))
  | .bigEndian =>
      (arr 3).toNat + 256 * ((arr 2).toNat + 256 * ((arr 1).toNat + 256 * (arr 0).toNat))

/-- `msg_s.port`. -/
def portField (arr : Nat → UInt8) : Nat :=
  (arr 4).toNat

/-- `d_receive_msg`: the bytes that `read` did not fill are those of the stack. -/
def dReceiveMsg (message : Message) (stack : Nat → UInt8) : Nat → UInt8 :=
  fun index => message.bytes.getD index (stack index)

/-- `portInfoArr` and `resetPortBuf`. -/
structure Server where
  portInfoArr : Fin numPorts → PortInfo
  resetPortBuf : Fin numPorts → ResetPort

/-- What `clientHandler` does with a message. -/
inductive Handled where
  /-- `OBJECT NOT FOUND`. -/
  | notFound
  | answered (server : Server)
  /-- The pointer of the handler is fetched from behind `cmdHandler`. -/
  | behindTable (cmdType : Nat)
  /-- The arrays of the ports are accessed at this index. -/
  | outsidePorts (index : Int)

def InBounds : Handled → Prop
  | .notFound | .answered _ => True
  | .behindTable _ | .outsidePorts _ => False

def answerIn (actions : List Action) : Option ResetPort :=
  actions.findSome? fun action =>
    match action with
    | .clientReply answer => some answer
    | _ => none

/-- `cmd_sendStatus`. -/
def cmdSendStatus (server : Server) : Handled :=
  .answered
    { server with
      resetPortBuf := fun index => Statistics.cmdSendStatus (server.portInfoArr index) }

/-- `cmd_rebootHandler` on the arrays. -/
def cmdRebootPort (server : Server) (port : Nat) : Handled :=
  if inside : 0 < port ∧ port ≤ numPorts then
    let index : Fin numPorts := ⟨port - 1, by omega⟩
    let handled := cmdRebootHandler (server.portInfoArr index)
    .answered
      { portInfoArr := Function.update server.portInfoArr index handled.1
        resetPortBuf :=
          Function.update server.resetPortBuf index
            ((answerIn handled.2).getD (server.resetPortBuf index)) }
  else .outsidePorts (port - 1)

/-- `clientHandler` after a successful `d_receive_msg`. -/
def clientHandler (order : ByteOrder) (server : Server) (arr : Nat → UInt8) : Handled :=
  match CmdType.fromField (cmdTypeField order arr) with
  | none => .behindTable (cmdTypeField order arr)
  | some .status => cmdSendStatus server
  | some .reboot => cmdRebootPort server (portField arr)
  | some _ => .notFound

/-! ## The tool -/

/-- `getPortNum`. -/
def getPortNum (portStr : String) : Nat :=
  let intValue := (strtol portStr % 256).toNat
  if intValue < 1 ∨ intValue > 8 then 0 else intValue

/-- `comHandler`: the message for a command and a port. -/
def sockMsg (order : ByteOrder) (cmdType : CmdType) (port : Nat) : Message where
  bytes :=
    match order with
    | .littleEndian => [UInt8.ofNat cmdType.toNat, 0, 0, 0, UInt8.ofNat port]
    | .bigEndian => [0, 0, 0, UInt8.ofNat cmdType.toNat, UInt8.ofNat port]
  nonempty := by cases order <;> exact List.cons_ne_nil _ _
  short := by cases order <;> exact le_rfl

/-- `ctrl_mainHandler` for `reboot` with an argument: nothing is sent when
`getPortNum` answers 0. -/
def ctrlReboot (order : ByteOrder) (argument : String) : Option Message :=
  if getPortNum argument ≠ 0 then some (sockMsg order .reboot (getPortNum argument)) else none

/-- The daemon after a run of the tool. -/
def afterReboot (order : ByteOrder) (server : Server) (stack : Nat → UInt8)
    (argument : String) : Server :=
  match ctrlReboot order argument with
  | none => server
  | some message =>
      match clientHandler order server (dReceiveMsg message stack) with
      | .answered server => server
      | _ => server

/-! ## The properties -/

/-- Whatever the stack held, no array is accessed outside its bounds. -/
def Safe (order : ByteOrder) (message : Message) : Prop :=
  ∀ server stack, InBounds (clientHandler order server (dReceiveMsg message stack))

/-- The command is complete and in the table; a `reboot` names a port. -/
def WellFormed (order : ByteOrder) (message : Message) : Prop :=
  let arr := dReceiveMsg message fun _ => 0
  4 ≤ message.bytes.length ∧ cmdTypeField order arr ≤ CmdType.error.toNat ∧
    (cmdTypeField order arr = CmdType.reboot.toNat →
      message.bytes.length = 5 ∧ 0 < portField arr ∧ portField arr ≤ numPorts)

/-- The port enters `REBOOT_STATE`. -/
def StartsCycle (before after : Server) (index : Fin numPorts) : Prop :=
  (before.portInfoArr index).portResetInfo.state ≠ .reboot ∧
    (after.portInfoArr index).portResetInfo.state = .reboot

/-- The tool starts a power cycle at most of the port that its argument
denotes. -/
def RebootsDenoted (order : ByteOrder) (argument : DecimalText) : Prop :=
  ∀ server stack index,
    StartsCycle server (afterReboot order server stack argument.text) index →
      argument.number = ((index + 1 : Nat) : Int)

/-- The number names a port, or what `getPortNum` makes of it does not. -/
def Unaliased (number : Int) : Prop :=
  (1 ≤ number ∧ number ≤ 8) ∨
    ¬(1 ≤ DecimalText.saturated number % 256 ∧ DecimalText.saturated number % 256 ≤ 8)

instance (order : ByteOrder) (message : Message) : Decidable (WellFormed order message) :=
  inferInstanceAs (Decidable (_ ∧ _ ∧ _))

instance : DecidablePred Unaliased :=
  fun _ => inferInstanceAs (Decidable (_ ∨ _))

/-! ## Messages -/

section Messages

variable (order : ByteOrder)

theorem inBounds_clientHandler_iff (server : Server) (arr : Nat → UInt8) :
    InBounds (clientHandler order server arr) ↔
      cmdTypeField order arr ≤ CmdType.error.toNat ∧
        (cmdTypeField order arr = CmdType.reboot.toNat →
          0 < portField arr ∧ portField arr ≤ numPorts) := by
  unfold clientHandler
  generalize cmdTypeField order arr = field
  match field with
  | 0 => simp [CmdType.fromField, InBounds, CmdType.toNat]
  | 1 => simp [CmdType.fromField, InBounds, CmdType.toNat, cmdSendStatus]
  | 2 =>
      simp only [CmdType.fromField, CmdType.toNat, cmdRebootPort]
      split
      · rename_i inside
        simp [InBounds, inside]
      · rename_i outside
        simp only [InBounds, false_iff]
        exact fun named => outside (named.2 trivial)
  | 3 => simp [CmdType.fromField, InBounds, CmdType.toNat]
  | field + 4 => simp [CmdType.fromField, InBounds, CmdType.toNat]

/-- The bytes that were read are those of the message. -/
theorem dReceiveMsg_of_lt {message : Message} (stack other : Nat → UInt8) {index : Nat}
    (read : index < message.bytes.length) :
    dReceiveMsg message stack index = dReceiveMsg message other index := by
  simp only [dReceiveMsg, List.getD_eq_getElem _ _ read]

theorem dReceiveMsg_of_ge {message : Message} (stack : Nat → UInt8) {index : Nat}
    (unread : message.bytes.length ≤ index) :
    dReceiveMsg message stack index = stack index := by
  simp only [dReceiveMsg, List.getD_eq_default _ _ unread]

theorem cmdTypeField_of_complete {message : Message} (stack other : Nat → UInt8)
    (complete : 4 ≤ message.bytes.length) :
    cmdTypeField order (dReceiveMsg message stack) =
      cmdTypeField order (dReceiveMsg message other) := by
  have same (index : Nat) (field : index < 4) :=
    dReceiveMsg_of_lt stack other (field.trans_le complete)
  cases order <;>
    simp only [cmdTypeField, same 0 (by decide), same 1 (by decide), same 2 (by decide),
      same 3 (by decide)]

/-- Every port is enabled and idle. -/
def poweredServer : Server where
  portInfoArr index :=
    { zeroPort (portNumOf index) with
      portStateInfo := { portState := .enable, poeState := .enable } }
  resetPortBuf index := resetPortAnswer (zeroPort (portNumOf index)) 0

/-- A stack that makes the worst of what was not read. -/
def worst : Nat → UInt8 :=
  fun _ => 255

theorem cmdTypeField_worst {message : Message} (incomplete : message.bytes.length < 4) :
    CmdType.error.toNat < cmdTypeField order (dReceiveMsg message worst) := by
  have last : dReceiveMsg message worst 3 = 255 :=
    dReceiveMsg_of_ge worst (by omega)
  have large : (255 : UInt8).toNat = 255 := rfl
  cases order <;>
    · simp only [cmdTypeField, last, large, CmdType.toNat]
      omega

theorem safe_iff_wellFormed (message : Message) :
    Safe order message ↔ WellFormed order message := by
  simp only [Safe, inBounds_clientHandler_iff, WellFormed]
  constructor
  · intro safe
    obtain ⟨inTable, named⟩ := safe poweredServer worst
    have complete : 4 ≤ message.bytes.length := by
      by_contra incomplete
      have beyond := cmdTypeField_worst order (not_le.mp incomplete)
      omega
    have same := cmdTypeField_of_complete order worst (fun _ => 0) complete
    rw [same] at inTable named
    refine ⟨complete, inTable, ?_⟩
    intro reboot
    obtain ⟨_, small⟩ := named reboot
    have whole : message.bytes.length = 5 := by
      by_contra partly
      have short := message.short
      have last : dReceiveMsg message worst 4 = 255 := dReceiveMsg_of_ge worst (by omega)
      rw [portField, last] at small
      exact absurd small (by decide)
    have samePort : dReceiveMsg message worst 4 = dReceiveMsg message (fun _ => 0) 4 :=
      dReceiveMsg_of_lt _ _ (by omega)
    refine ⟨whole, ?_⟩
    rw [portField, ← samePort]
    exact named reboot
  · intro wellFormed server stack
    obtain ⟨complete, inTable, named⟩ := wellFormed
    rw [cmdTypeField_of_complete order stack (fun _ => 0) complete]
    refine ⟨inTable, ?_⟩
    intro reboot
    obtain ⟨whole, inside⟩ := named reboot
    have samePort : dReceiveMsg message stack 4 = dReceiveMsg message (fun _ => 0) 4 :=
      dReceiveMsg_of_lt _ _ (by omega)
    rw [portField, samePort]
    exact inside

end Messages

/-! ## Arguments of the tool -/

section Arguments

variable (order : ByteOrder) (server : Server) (stack : Nat → UInt8)

theorem clientHandler_sockMsg {port : Nat} (small : port ≤ numPorts) :
    clientHandler order server (dReceiveMsg (sockMsg order .reboot port) stack) =
      cmdRebootPort server port := by
  have narrow : (UInt8.ofNat port).toNat = port :=
    Nat.mod_eq_of_lt (small.trans_lt (by decide))
  cases order <;>
    simp [clientHandler, cmdTypeField, portField, dReceiveMsg, sockMsg, CmdType.toNat,
      CmdType.fromField, narrow]

theorem getPortNum_le (portStr : String) : getPortNum portStr ≤ numPorts := by
  simp only [getPortNum]
  split
  · exact Nat.zero_le _
  · change _ ≤ 8
    omega

theorem exists_named {argument : String} (sent : getPortNum argument ≠ 0) :
    ∃ index : Fin numPorts, index.val + 1 = getPortNum argument := by
  have small := getPortNum_le argument
  have within : getPortNum argument - 1 < numPorts := by omega
  have named : getPortNum argument - 1 + 1 = getPortNum argument := by omega
  exact ⟨⟨getPortNum argument - 1, within⟩, named⟩

theorem getPortNum_text (argument : DecimalText) :
    (getPortNum argument.text : Int) =
      if 1 ≤ DecimalText.saturated argument.number % 256 ∧
          DecimalText.saturated argument.number % 256 ≤ 8 then
        DecimalText.saturated argument.number % 256
      else 0 := by
  rw [getPortNum, DecimalText.strtol_text]
  split <;> split <;> omega

theorem afterReboot_unsent {argument : String} (unsent : getPortNum argument = 0) :
    afterReboot order server stack argument = server := by
  have nothing : ctrlReboot order argument = none := by
    rw [ctrlReboot, if_neg (not_not_intro unsent)]
  delta afterReboot
  rw [nothing]

theorem afterReboot_of_answered {argument : String} {message : Message} {next : Server}
    (built : ctrlReboot order argument = some message)
    (answered : clientHandler order server (dReceiveMsg message stack) = .answered next) :
    afterReboot order server stack argument = next := by
  delta afterReboot
  simp only [built, answered]

/-- The daemon hands a message of the tool to the port that it names. -/
theorem afterReboot_sent {argument : String} (sent : getPortNum argument ≠ 0)
    {index : Fin numPorts} (named : index.val + 1 = getPortNum argument) :
    (afterReboot order server stack argument).portInfoArr =
      Function.update server.portInfoArr index
        (cmdRebootHandler (server.portInfoArr index)).1 := by
  have inside : 0 < getPortNum argument ∧ getPortNum argument ≤ numPorts :=
    ⟨Nat.pos_of_ne_zero sent, getPortNum_le argument⟩
  have isIndex : index = ⟨getPortNum argument - 1, by omega⟩ :=
    Fin.ext (Nat.eq_sub_of_add_eq named)
  have handled := clientHandler_sockMsg order server stack inside.2
  rw [cmdRebootPort, dif_pos inside] at handled
  rw [afterReboot_of_answered order server stack (if_pos sent) handled, isIndex]

/-- Only the entry that the tool names can change. -/
theorem afterReboot_portInfoArr {argument : String} {index : Fin numPorts}
    (other : index.val + 1 ≠ getPortNum argument) :
    (afterReboot order server stack argument).portInfoArr index = server.portInfoArr index := by
  by_cases sent : getPortNum argument ≠ 0
  · obtain ⟨target, named⟩ := exists_named sent
    have differs : index ≠ target := by
      intro same
      rw [same] at other
      exact other named
    rw [afterReboot_sent order server stack sent named, Function.update_of_ne differs]
  · rw [afterReboot_unsent order server stack (not_not.mp sent)]

theorem startsCycle_powered (argument : String) (sent : getPortNum argument ≠ 0) :
    ∃ index : Fin numPorts, index.val + 1 = getPortNum argument ∧
      StartsCycle poweredServer (afterReboot order poweredServer stack argument) index := by
  obtain ⟨index, named⟩ := exists_named sent
  refine ⟨index, named, ?_, ?_⟩
  · exact fun impossible => by cases impossible
  · rw [afterReboot_sent order poweredServer stack sent named, Function.update_self]
    rfl

theorem rebootsDenoted_iff_unaliased (argument : DecimalText) :
    RebootsDenoted order argument ↔ Unaliased argument.number := by
  have sent := getPortNum_text argument
  have range : 1 ≤ argument.number ∧ argument.number ≤ 8 →
      DecimalText.saturated argument.number % 256 = argument.number := by
    simp only [DecimalText.saturated]
    omega
  simp only [Unaliased]
  constructor
  · intro denoted
    by_cases aliased : 1 ≤ DecimalText.saturated argument.number % 256 ∧
        DecimalText.saturated argument.number % 256 ≤ 8
    · rw [if_pos aliased] at sent
      obtain ⟨index, named, starts⟩ :=
        startsCycle_powered order worst argument.text (by omega)
      have number := denoted poweredServer worst index starts
      omega
    · exact Or.inr aliased
  · intro unaliased server stack index starts
    have named : index.val + 1 = getPortNum argument.text := by
      by_contra other
      have same := afterReboot_portInfoArr order server stack other
      rw [StartsCycle, same] at starts
      exact starts.1 starts.2
    split at sent <;> omega

end Arguments

/-- For every message and every decimal argument, on a device of either byte
order: the daemon stays within its arrays exactly if the message is well formed,
and the tool restarts at most the port it is asked for exactly if the number
is no alias of a port. -/
theorem client_interface_iff (order : ByteOrder) (message : Message) (argument : DecimalText) :
    (Safe order message ↔ WellFormed order message) ∧
      (RebootsDenoted order argument ↔ Unaliased argument.number) :=
  ⟨safe_iff_wellFormed order message, rebootsDenoted_iff_unaliased order argument⟩

/-- A client that sends one byte. -/
def shortMessage : Message :=
  ⟨[2], List.cons_ne_nil _ _, by decide⟩

def twoHundredFiftySeven : DecimalText :=
  ⟨false, ['2', '5', '7'], List.cons_ne_nil _ _, List.all_eq_true.mp rfl⟩

/-- One byte is completed by the stack; `reboot 257` restarts port 1. -/
theorem short_message_and_alias :
    ¬Safe .bigEndian shortMessage ∧ getPortNum twoHundredFiftySeven.text = 1 ∧
      ¬RebootsDenoted .bigEndian twoHundredFiftySeven := by
  rw [safe_iff_wellFormed, rebootsDenoted_iff_unaliased]
  decide

end ClientInterface

end TfortisPack.Autorestart
