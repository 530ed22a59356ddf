import Mathlib.Data.List.Range
import TfortisPack.Library.Runs

/-!
# The hardware daemon and its register writes

`tf_hwsys`.  Two threads share one `i2c_write_t`: the socket thread stores the
register a client wants written and raises a flag (`i2c_setData`), the main
loop polls the flag in `read_i2c` and puts the register on the bus.

`i2c_data_t` is laid out as on the 32-bit target.  Its `value` begins at byte
48, and `receive_msg` takes 60 bytes from the socket: twelve bytes of `value`
come from the client, the rest is what the stack held before.

A register is an address that occurs in `sock_msgArr`.  `get_id_by_addr` finds
the entry of each of them, so the table is a function of the register.
-/

namespace TfortisPack.Hwsys

open TfortisPack.Library

/-! ## Data -/

/-- The column `addr` of `sock_msgArr`. -/
def registerAddresses : List Nat :=
  -- main, sensors, UPS
  List.range' 0 7 ++ List.range' 10 7 ++ List.range' 20 21 ++
    -- SHT and the two SFP cages
    List.range' 50 4 ++ List.range' 60 28 ++ List.range' 90 28 ++
    -- RTC, PoE
    List.range' 120 8 ++ List.range' 130 4

abbrev Register := { addr : Nat // addr ∈ registerAddresses }

/-- `I2C_OPCODE`. -/
inductive I2cOpcode where
  | read
  | write
  | response
  | reset
  | idle
  deriving DecidableEq, Repr

/-- `i2c_data_t`. -/
structure I2cData where
  lenMsg : UInt8
  addr : Register
  name : Vector UInt8 24
  opcode : I2cOpcode
  lenData : UInt8
  type : UInt32
  eventsHandler : UInt32
  value : Vector UInt8 32
  deriving DecidableEq

/-- `sizeof(i2c_data_t)`. -/
def i2cMsgSize : UInt8 := 80

/-- The bytes of `value` among the 60 that `receive_msg` copies. -/
def valueReceived : Nat := 12

/-- `sock_msgArr`. -/
abbrev Registers := Register → I2cData

/-- The daemon. -/
structure Daemon where
  sockMsgArr : Registers
  /-- `i2c_write.i2c_data`. -/
  i2cData : I2cData
  /-- `i2c_write.write_flag`. -/
  writeFlag : Bool
  /-- The main loop has called `write_buffer` and not yet cleared the flag. -/
  writing : Bool

inductive Action where
  /-- `i2c_setData` for the message as the client sent it. -/
  | accepted (message : I2cData)
  /-- `write_buffer` with the frame handed to the driver; none if the frame does
  not fit into `tmp`. -/
  | written (frame : Option (List UInt8))
  /-- `send_msg` to the client. -/
  | replied (message : I2cData)
  deriving DecidableEq

/-! ## The socket thread -/

/-- `CLIENT_STATE`. -/
inductive ClientState where
  | socketReadOk
  | socketReset
  deriving DecidableEq, Repr

/-- `receive_msg` for a whole message; `stack` is what `i2cRec` held before. -/
def receiveMsg (sent : I2cData) (stack : Vector UInt8 32) : I2cData :=
  { sent with
    value := Vector.ofFn fun i =>
      if i.val < valueReceived then sent.value.get i else stack.get i }

/-- `i2c_getData`. -/
def i2cGetData (daemon : Daemon) (addr : Register) : Daemon × I2cData :=
  let entry := { daemon.sockMsgArr addr with lenMsg := i2cMsgSize }
  ({ daemon with sockMsgArr := Function.update daemon.sockMsgArr addr entry }, entry)

/-- `i2c_setData`; the second copy replaces the whole entry. -/
def i2cSetData (daemon : Daemon) (i2cData : I2cData) : Daemon :=
  { daemon with
    i2cData := i2cData
    sockMsgArr := Function.update daemon.sockMsgArr i2cData.addr i2cData
    writeFlag := true }

def clientHandler (daemon : Daemon) (sent : I2cData) (stack : Vector UInt8 32) :
    Daemon × ClientState × List Action :=
  let i2cRec := receiveMsg sent stack
  match i2cRec.opcode with
  -- a request to read becomes a response
  | .read | .response =>
      let found := i2cGetData daemon i2cRec.addr
      (found.1, .socketReadOk, [.replied { found.2 with opcode := .response }])
  | .write =>
      (i2cSetData daemon { i2cRec with lenMsg := i2cMsgSize }, .socketReadOk, [.accepted sent])
  | .reset => (daemon, .socketReset, [])
  | .idle => (daemon, .socketReadOk, [])

/-! ## The main loop -/

/-- The size of `tmp` in `write_buffer`. -/
def tmpSize : Nat := 10

/-- The frame that `write_buffer` assembles in `tmp`. -/
def writeBuffer (regaddr : Nat) (len : UInt8) (buffer : Vector UInt8 32) :
    Option (List UInt8) :=
  if len.toNat + 2 ≤ tmpSize then
    some (UInt8.ofNat regaddr :: len :: buffer.toList.take len.toNat)
  else none

/-- `read_i2c`.  A write takes two steps, since the socket thread may run
between the return of `write_buffer` and the next statement.  `dumped` is the
register table that a dump leaves. -/
def readI2c (daemon : Daemon) (hiExpired lowExpired : Bool) (dumped : Registers) :
    Daemon × List Action :=
  if daemon.writing then
    ({ daemon with writeFlag := false, writing := false }, [])
  else if hiExpired then ({ daemon with sockMsgArr := dumped }, [])
  else if lowExpired then ({ daemon with sockMsgArr := dumped }, [])
  else if daemon.writeFlag then
    let data := daemon.i2cData
    ({ daemon with writing := true },
      [.written (writeBuffer data.addr data.lenData data.value)])
  else (daemon, [])

/-! ## The machine -/

inductive Input where
  /-- The socket thread handles a message. -/
  | client (sent : I2cData) (stack : Vector UInt8 32)
  /-- The main loop goes on. -/
  | mainLoop (hiExpired lowExpired : Bool) (dumped : Registers)

/-- The daemon. -/
def hwsysd : Machine Daemon Input Action where
  step daemon input :=
    match input with
    | .client sent stack =>
        let handled := clientHandler daemon sent stack
        (handled.1, handled.2.2)
    | .mainLoop hiExpired lowExpired dumped => readI2c daemon hiExpired lowExpired dumped

end TfortisPack.Hwsys
