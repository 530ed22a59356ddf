import TfortisPack.Library.PackedFields
import TfortisPack.Mstpd.Information

/-!
# BPDUs (`mstp.c`, `bridge_track.c`)

A port sends what its trees have selected, `txConfig`, `txMstp` or `txTcn`, in one
frame.  The port at the other end checks the frame and the BPDU and takes the
message vectors of its trees from it.  The packed structures stand in memory as
they stand in the frame.
-/

namespace TfortisPack.Mstpd

open Library Packed

/-! ## The structures -/

structure MstiConfigurationMessage where
  flags : Nat
  mstiRRootID : Nat
  mstiIntRootPathCost : Nat
  bridgeIdentifierPriority : Nat
  portIdentifierPriority : Nat
  remainingHops : Nat
  deriving DecidableEq, Repr

structure Bpdu where
  protocolIdentifier : Nat
  protocolVersion : Nat
  bpduType : Nat
  flags : Nat
  cistRootID : Nat
  cistExtRootPathCost : Nat
  cistRRootID : Nat
  cistPortID : Nat
  MessageAge : Nat × Nat
  MaxAge : Nat × Nat
  HelloTime : Nat × Nat
  ForwardDelay : Nat × Nat
  version1Len : Nat
  version3Len : Nat
  mstConfigurationIdentifier : Nat
  cistIntRootPathCost : Nat
  cistBridgeID : Nat
  cistRemainingHops : Nat
  mstConfiguration : List MstiConfigurationMessage
  deriving DecidableEq, Repr

def MstiConfigurationMessage.fields (mstiMsg : MstiConfigurationMessage) :
    List (Nat × Nat) :=
  [(1, mstiMsg.flags), (8, mstiMsg.mstiRRootID), (4, mstiMsg.mstiIntRootPathCost),
    (1, mstiMsg.bridgeIdentifierPriority), (1, mstiMsg.portIdentifierPriority),
    (1, mstiMsg.remainingHops)]

/-- All fields but the messages. -/
def Bpdu.fields (b : Bpdu) : List (Nat × Nat) :=
  [(2, b.protocolIdentifier), (1, b.protocolVersion), (1, b.bpduType), (1, b.flags),
    (8, b.cistRootID), (4, b.cistExtRootPathCost), (8, b.cistRRootID), (2, b.cistPortID),
    (1, b.MessageAge.1), (1, b.MessageAge.2), (1, b.MaxAge.1), (1, b.MaxAge.2),
    (1, b.HelloTime.1), (1, b.HelloTime.2), (1, b.ForwardDelay.1), (1, b.ForwardDelay.2),
    (1, b.version1Len), (2, b.version3Len), (51, b.mstConfigurationIdentifier),
    (4, b.cistIntRootPathCost), (8, b.cistBridgeID), (1, b.cistRemainingHops)]

def Bpdu.bytes (b : Bpdu) : List UInt8 :=
  layout b.fields ++ b.mstConfiguration.flatMap fun mstiMsg => layout mstiMsg.fields

def tcnBpduSize : Nat := 4
def configBpduSize : Nat := 35
def rstBpduSize : Nat := 36
def mstBpduSizeWoMstiMsgs : Nat := 102
def mstBpduVer3lenWoMstiMsgs : Nat := 64
def maxStandardMstis : Nat := 64
/-- `sizeof(msti_configuration_message_t)`. -/
def mstiMsgSize : Nat := 16

/-- The memory seen as a message. -/
def MstiConfigurationMessage.cast (memory : List UInt8) : MstiConfigurationMessage where
  flags := read memory 0 1
  mstiRRootID := read memory 1 8
  mstiIntRootPathCost := read memory 9 4
  bridgeIdentifierPriority := read memory 13 1
  portIdentifierPriority := read memory 14 1
  remainingHops := read memory 15 1

/-- The memory seen as a BPDU with all messages it has room for. -/
def Bpdu.cast (memory : List UInt8) : Bpdu where
  protocolIdentifier := read memory 0 2
  protocolVersion := read memory 2 1
  bpduType := read memory 3 1
  flags := read memory 4 1
  cistRootID := read memory 5 8
  cistExtRootPathCost := read memory 13 4
  cistRRootID := read memory 17 8
  cistPortID := read memory 25 2
  MessageAge := (read memory 27 1, read memory 28 1)
  MaxAge := (read memory 29 1, read memory 30 1)
  HelloTime := (read memory 31 1, read memory 32 1)
  ForwardDelay := (read memory 33 1, read memory 34 1)
  version1Len := read memory 35 1
  version3Len := read memory 36 2
  mstConfigurationIdentifier := read memory 38 51
  cistIntRootPathCost := read memory 89 4
  cistBridgeID := read memory 93 8
  cistRemainingHops := read memory 101 1
  mstConfiguration := (List.range maxStandardMstis).map fun i =>
    MstiConfigurationMessage.cast
      (memory.drop (mstBpduSizeWoMstiMsgs + mstiMsgSize * i))

/-! ## Sending -/

def protoSTP : Nat := 0
def protoRSTP : Nat := 2
def protoMSTP : Nat := 3
def bpduTypeConfig : Nat := 0
def bpduTypeRST : Nat := 2
def bpduTypeTCN : Nat := 128

/-- A flag at its offset. -/
def flag (set : Bool) (offset : Nat) : Nat :=
  if set then 2 ^ offset else 0

def offsetTc : Nat := 0
def offsetProposal : Nat := 1
def offsetRole : Nat := 2
def offsetLearnig : Nat := 4
def offsetForwarding : Nat := 5
def offsetAgreement : Nat := 6
def offsetTcAck : Nat := 7
def offsetMaster : Nat := offsetTcAck

def encodedRoleMaster : Nat := 0
def encodedRoleAlternateBackup : Nat := 1
def encodedRoleRoot : Nat := 2
def encodedRoleDesignated : Nat := 3

def bpduFlagsRoleGet (flags : Nat) : Nat :=
  flags / 2 ^ offsetRole % 4

/-- What `txMstp` reads of a tree at the port. -/
structure TxPerTreePort where
  MSTID : Nat
  role : Role
  tcWhile : Nat
  proposing : Bool
  learning : Bool
  forwarding : Bool
  agree : Bool
  master : Bool
  designatedPriority : PriorityVector
  designatedTimes : Times
  portTimes : Times
  deriving DecidableEq, Repr

/-- What the transmission reads of a port. -/
structure TxPort where
  deleted : Bool
  dontTxmtBpdu : Bool
  tcAck : Bool
  ForceProtocolVersion : Nat
  MstConfigId : Nat
  cist : TxPerTreePort
  mstis : List TxPerTreePort
  deriving DecidableEq, Repr

def messageRoleFromPortRole : Role → Nat
  | .roleRoot => encodedRoleRoot
  | .roleDesignated => encodedRoleDesignated
  | .roleAlternate => encodedRoleAlternateBackup
  | .roleBackup => encodedRoleAlternateBackup
  | .roleMaster => encodedRoleMaster
  | .roleDisabled => encodedRoleAlternateBackup

/-- The flags of a tree.  Each stands in bits of its own, so the sum is the bitwise or. -/
def TxPerTreePort.flags (ptp : TxPerTreePort) : Nat :=
  messageRoleFromPortRole ptp.role * 2 ^ offsetRole + flag (ptp.tcWhile ≠ 0) offsetTc +
    flag ptp.proposing offsetProposal + flag ptp.learning offsetLearnig +
    flag ptp.forwarding offsetForwarding + flag ptp.agree offsetAgreement

def getPriorityFromBridgeIdentifier (id : Nat) : Nat :=
  id / 2 ^ 60 % 16 * 16

def getPriorityFromPortIdentifier (id : Nat) : Nat :=
  id / 2 ^ 12 % 16 * 16

/-- The structure before `txConfig` or `txMstp` fills it.  What they leave is not sent. -/
def blank : Bpdu :=
  ⟨0, 0, 0, 0, 0, 0, 0, 0, (0, 0), (0, 0), (0, 0), (0, 0), 0, 0, 0, 0, 0, 0, []⟩

def mstiMessage (ptp : TxPerTreePort) : MstiConfigurationMessage where
  flags := ptp.flags + flag ptp.master offsetMaster
  mstiRRootID := ptp.designatedPriority.RRootID
  mstiIntRootPathCost := ptp.designatedPriority.IntRootPathCost
  bridgeIdentifierPriority :=
    getPriorityFromBridgeIdentifier ptp.designatedPriority.DesignatedBridgeID
  portIdentifierPriority :=
    getPriorityFromPortIdentifier ptp.designatedPriority.DesignatedPortID
  remainingHops := ptp.designatedTimes.remainingHops

section Transmission

variable (prt : TxPort)

/-- Nothing is sent by a port that is going away, Disabled or silent. -/
def TxPort.silent : Bool :=
  prt.deleted || prt.cist.role = .roleDisabled || prt.dontTxmtBpdu

def txConfig : Option (List UInt8) :=
  if prt.silent then none
  else
    let cist := prt.cist
    let b := { blank with
      protocolVersion := protoSTP
      bpduType := bpduTypeConfig
      flags := flag (cist.tcWhile ≠ 0) offsetTc + flag prt.tcAck offsetTcAck
      cistRootID := cist.designatedPriority.RootID
      cistExtRootPathCost := cist.designatedPriority.ExtRootPathCost
      cistRRootID := cist.designatedPriority.DesignatedBridgeID
      cistPortID := cist.designatedPriority.DesignatedPortID
      MessageAge := (cist.designatedTimes.messageAge, 0)
      MaxAge := (cist.designatedTimes.maxAge, 0)
      HelloTime := (cist.portTimes.helloTime, 0)
      ForwardDelay := (cist.designatedTimes.forwardDelay, 0) }
    some (b.bytes.take configBpduSize)

/-- The common part of RST and MST BPDUs. -/
def rstBpdu : Bpdu :=
  let cist := prt.cist
  { blank with
    bpduType := bpduTypeRST
    flags := cist.flags
    cistRootID := cist.designatedPriority.RootID
    cistExtRootPathCost := cist.designatedPriority.ExtRootPathCost
    cistRRootID := cist.designatedPriority.RRootID
    cistPortID := cist.designatedPriority.DesignatedPortID
    MessageAge := (cist.designatedTimes.messageAge, 0)
    MaxAge := (cist.designatedTimes.maxAge, 0)
    HelloTime := (cist.portTimes.helloTime, 0)
    ForwardDelay := (cist.designatedTimes.forwardDelay, 0)
    version1Len := 0 }

def mstBpdu : Bpdu :=
  { rstBpdu prt with
    protocolVersion := protoMSTP
    mstConfigurationIdentifier := prt.MstConfigId
    cistIntRootPathCost := prt.cist.designatedPriority.IntRootPathCost
    cistBridgeID := prt.cist.designatedPriority.DesignatedBridgeID
    cistRemainingHops := prt.cist.designatedTimes.remainingHops
    mstConfiguration := prt.mstis.map mstiMessage
    version3Len :=
      (mstBpduVer3lenWoMstiMsgs + prt.mstis.length * mstiMsgSize) % 2 ^ 16 }

def txMstp : Option (List UInt8) :=
  if prt.silent then none
  else if prt.ForceProtocolVersion < protoMSTP then
    some ({ rstBpdu prt with protocolVersion := protoRSTP }.bytes.take rstBpduSize)
  else
    some ((mstBpdu prt).bytes.take
      (mstBpduSizeWoMstiMsgs + prt.mstis.length * mstiMsgSize))

def txTcn : Option (List UInt8) :=
  if prt.silent then none
  else
    some ({ blank with protocolVersion := protoSTP, bpduType := bpduTypeTCN }.bytes.take
      tcnBpduSize)

end Transmission

/-! ## Frames -/

def bridgeGroupAddress : Nat := 0x0180c2000000
def llcSapBspan : Nat := 0x42
def llcPduTypeU : Nat := 3
def llcPduLenU : Nat := 3
def ethHlen : Nat := 14
def ethDataLen : Nat := 1500
/-- `sizeof(struct llc_header)`. -/
def llcHeaderSize : Nat := 17

/-- `MSTP_OUT_tx_bpdu` puts a header in front of the BPDU. -/
def frame (macaddr : Nat) (bpdu : List UInt8) : List UInt8 :=
  layout [(6, bridgeGroupAddress), (6, macaddr), (2, (bpdu.length + llcPduLenU) % 2 ^ 16),
    (1, llcSapBspan), (1, llcSapBspan), (1, llcPduTypeU)] ++ bpdu

/-- The BPDU that `bridge_bpdu_rcv` finds in the buffer, with its size; `len` bytes of the buffer
have been received. -/
def bridgeBpduRcv (data : List UInt8) (len : Nat) : Option (List UInt8 × Nat) :=
  let l := read data 12 2
  if llcHeaderSize < len ∧ read data 0 6 = bridgeGroupAddress ∧ l ≤ ethDataLen ∧
      l ≤ len - ethHlen ∧ llcPduLenU ≤ l ∧ read data 14 1 = llcSapBspan ∧
      read data 15 1 = llcSapBspan ∧ read data 16 1 % 4 = llcPduTypeU then
    some (data.drop llcHeaderSize, l - llcPduLenU)
  else none

/-! ## Receiving -/

/-- What `MSTP_IN_rx_bpdu` reads and writes of a port and its bridge. -/
structure RxPort where
  bridgeEnabled : Bool
  BpduGuardPort : Bool
  bpduFilterPort : Bool
  BpduGuardError : Bool
  BaInconsistent : Bool
  helloTime : Nat
  brAssuRcvdInfoWhile : Nat
  rcvdBpdu : Bool
  rcvdBpduData : Bpdu
  rcvdBpduNumOfMstis : Nat
  numRxBpdu : Nat
  numRxBpduFiltered : Nat
  numRxTcn : Nat
  deriving DecidableEq, Repr

/-- The validated version of a BPDU, and the number of its messages where it is an MST BPDU. -/
structure Validated where
  protocolVersion : Nat
  rcvdBpduNumOfMstis : Option Nat
  deriving DecidableEq, Repr

/-- The type of the BPDU, as its version and its size let it count. -/
def validated (b : Bpdu) (size : Nat) : Option Validated :=
  if size < tcnBpduSize ∨ b.protocolIdentifier ≠ 0 then none
  else if b.bpduType = bpduTypeTCN then some ⟨protoSTP, none⟩
  else if b.bpduType = bpduTypeConfig then
    if size < configBpduSize then none else some ⟨protoSTP, none⟩
  else if b.bpduType = bpduTypeRST then
    if b.protocolVersion = protoRSTP then
      if size < rstBpduSize then none else some ⟨protoRSTP, none⟩
    else if b.protocolVersion < protoMSTP then none
    -- The size of a Config BPDU is enough here
    else if size < configBpduSize then none
    else
      let mstisSize : Int := b.version3Len - mstBpduVer3lenWoMstiMsgs
      if size < mstBpduSizeWoMstiMsgs ∨ b.version1Len ≠ 0 ∨ mstisSize < 0 ∨
          (maxStandardMstis * mstiMsgSize : Int) < mstisSize ∨
          mstisSize % mstiMsgSize ≠ 0 then
        some ⟨protoRSTP, none⟩
      else some ⟨protoMSTP, some (mstisSize / mstiMsgSize).toNat⟩
  else none

/-- What happens to the port besides the change of its fields. -/
inductive RxOutcome where
  | shutdown
  | discarded
  | stateMachines
  deriving DecidableEq, Repr

def mstpInRxBpdu (prt : RxPort) (memory : List UInt8) (size : Nat) : RxPort × RxOutcome :=
  let prt := { prt with numRxBpdu := (prt.numRxBpdu + 1) % 2 ^ 32 }
  if prt.BpduGuardPort then ({ prt with BpduGuardError := true }, .shutdown)
  else if prt.bpduFilterPort then
    ({ prt with numRxBpduFiltered := (prt.numRxBpduFiltered + 1) % 2 ^ 32 }, .discarded)
  else if !prt.bridgeEnabled then (prt, .discarded)
  else if prt.rcvdBpdu then (prt, .discarded)
  else
    let bpdu := Bpdu.cast memory
    match validated bpdu size with
    | none => (prt, .discarded)
    | some valid =>
        let isTcn := bpdu.bpduType = bpduTypeTCN || bpdu.flags % 2 = 1
        ({ prt with
            rcvdBpduData := { bpdu with protocolVersion := valid.protocolVersion }
            rcvdBpdu := true
            rcvdBpduNumOfMstis := valid.rcvdBpduNumOfMstis.getD prt.rcvdBpduNumOfMstis
            numRxTcn := if isTcn then (prt.numRxTcn + 1) % 2 ^ 32 else prt.numRxTcn
            BaInconsistent := false
            brAssuRcvdInfoWhile := 3 * prt.helloTime }, .stateMachines)

/-! ## The messages of the trees -/

/-- The port of the MSTI that the message is for. -/
def msgMstid (mstiMsg : MstiConfigurationMessage) : Nat :=
  mstiMsg.mstiRRootID / 2 ^ 48 % 2 ^ 12

def fromSameRegion (MstConfigId : Nat) (b : Bpdu) : Bool :=
  !(b.protocolVersion < protoMSTP) && MstConfigId = b.mstConfigurationIdentifier

/-- The message for a tree, if the BPDU conveys one. -/
def rcvdMstiConfig (b : Bpdu) (rcvdBpduNumOfMstis MSTID : Nat) :
    Option MstiConfigurationMessage :=
  (b.mstConfiguration.take rcvdBpduNumOfMstis).find? fun mstiMsg => msgMstid mstiMsg = MSTID

def nearestWholeSecond (msgTime : Nat × Nat) : Nat :=
  (if msgTime.2 < 128 then msgTime.1 else msgTime.1 + 1) % 256

/-- The role that the flags convey for a tree; `none` where nothing more is read. -/
def roleIsDesignated (flags : Nat) : Option Bool :=
  if bpduFlagsRoleGet flags = encodedRoleAlternateBackup ∨
      bpduFlagsRoleGet flags = encodedRoleRoot then some false
  else if bpduFlagsRoleGet flags = encodedRoleDesignated then some true
  else none

/-- What `rcvInfo` reads for the common tree; `none` where it returns `OtherInfo` at once. -/
def cistMessage (MaxHops : Nat) (sameRegion : Bool) (b : Bpdu) : Option Message :=
  if b.bpduType = bpduTypeTCN then none
  else
    let role :=
      if b.protocolVersion = protoSTP then some true
      else if bpduFlagsRoleGet b.flags = encodedRoleMaster then
        if b.protocolVersion = protoRSTP then some true else none
      else roleIsDesignated b.flags
    role.map fun roleIsDesignated =>
      { msgPriority :=
          { RRootID := b.cistRRootID
            DesignatedPortID := b.cistPortID
            RootID := b.cistRootID
            ExtRootPathCost := b.cistExtRootPathCost
            IntRootPathCost := if b.protocolVersion < protoMSTP then 0 else b.cistIntRootPathCost
            DesignatedBridgeID :=
              if b.protocolVersion < protoMSTP then b.cistRRootID else b.cistBridgeID }
        msgTimes :=
          { forwardDelay := nearestWholeSecond b.ForwardDelay
            maxAge := nearestWholeSecond b.MaxAge
            messageAge := nearestWholeSecond b.MessageAge
            helloTime := nearestWholeSecond b.HelloTime
            remainingHops :=
              if b.protocolVersion < protoMSTP then MaxHops else b.cistRemainingHops }
        roleIsDesignated := roleIsDesignated
        sameRegion := sameRegion }

def setPriorityInBridgeIdentifier (pri id : Nat) : Nat :=
  pri / 16 % 16 * 2 ^ 60 + id % 2 ^ 60

def setPriorityInPortIdentifier (pri id : Nat) : Nat :=
  pri / 16 % 16 * 2 ^ 12 + id % 2 ^ 12

/-- What `rcvInfo` reads for an MSTI, over the vector and the times read before. -/
def mstiInfo (MSTID : Nat) (b : Bpdu) (mstiMsg : MstiConfigurationMessage)
    (msgPriority : PriorityVector) (msgTimes : Times) : Option (Bool × PriorityVector × Times) :=
  if b.bpduType = bpduTypeTCN ∨ b.protocolVersion < protoMSTP then none
  else
    (roleIsDesignated mstiMsg.flags).map fun roleIsDesignated =>
      (roleIsDesignated,
        { msgPriority with
          RRootID := mstiMsg.mstiRRootID
          IntRootPathCost := mstiMsg.mstiIntRootPathCost
          DesignatedBridgeID := setPriorityInBridgeIdentifier mstiMsg.bridgeIdentifierPriority
            (MSTID * 2 ^ 48 + b.cistBridgeID % 2 ^ 48)
          DesignatedPortID :=
            setPriorityInPortIdentifier mstiMsg.portIdentifierPriority b.cistPortID },
        { msgTimes with remainingHops := mstiMsg.remainingHops })

/-! ## The layout -/

section Layout

variable {memory rest : List UInt8}

/-- Every field holds its value. -/
def Fits (fields : List (Nat × Nat)) : Prop :=
  ∀ field ∈ fields, field.2 < 256 ^ field.1

theorem read_field {fields : List (Nat × Nat)} (fits : Fits fields) (k : Nat)
    {width value at_offset : Nat} (isField : fields[k]? = some (width, value))
    (begins : offset ((fields.map Prod.fst).take k) = at_offset) (rest : List UInt8) :
    read (layout fields ++ rest) at_offset width = value :=
  read_layout isField (fits _ (List.mem_of_getElem? isField)) begins rest

theorem cast_mstiMessage {mstiMsg : MstiConfigurationMessage} (fits : Fits mstiMsg.fields)
    (same : memory = layout mstiMsg.fields ++ rest) :
    MstiConfigurationMessage.cast memory = mstiMsg := by
  have field (k : Nat) {width value at_offset : Nat}
      (isField : mstiMsg.fields[k]? = some (width, value))
      (begins : offset ([1, 8, 4, 1, 1, 1].take k) = at_offset) :
      read memory at_offset width = value :=
    same ▸ read_field fits k isField begins rest
  have flags : read memory 0 1 = mstiMsg.flags := field 0 rfl (by decide)
  have mstiRRootID : read memory 1 8 = mstiMsg.mstiRRootID := field 1 rfl (by decide)
  have mstiIntRootPathCost : read memory 9 4 = mstiMsg.mstiIntRootPathCost :=
    field 2 rfl (by decide)
  have bridgeIdentifierPriority : read memory 13 1 = mstiMsg.bridgeIdentifierPriority :=
    field 3 rfl (by decide)
  have portIdentifierPriority : read memory 14 1 = mstiMsg.portIdentifierPriority :=
    field 4 rfl (by decide)
  have remainingHops : read memory 15 1 = mstiMsg.remainingHops := field 5 rfl (by decide)
  simp only [MstiConfigurationMessage.cast, flags, mstiRRootID, mstiIntRootPathCost,
    bridgeIdentifierPriority, portIdentifierPriority, remainingHops]

theorem cast_bpdu {b : Bpdu} (fits : Fits b.fields) (same : memory = layout b.fields ++ rest) :
    Bpdu.cast memory = { b with
      mstConfiguration := (Bpdu.cast memory).mstConfiguration } := by
  have field (k : Nat) {width value at_offset : Nat} (isField : b.fields[k]? = some (width, value))
      (begins :
        offset ([2, 1, 1, 1, 8, 4, 8, 2, 1, 1, 1, 1, 1, 1, 1, 1, 1, 2, 51, 4, 8, 1].take k) =
        at_offset) : read memory at_offset width = value :=
    same ▸ read_field fits k isField begins rest
  have protocolIdentifier : read memory 0 2 = b.protocolIdentifier := field 0 rfl (by decide)
  have protocolVersion : read memory 2 1 = b.protocolVersion := field 1 rfl (by decide)
  have bpduType : read memory 3 1 = b.bpduType := field 2 rfl (by decide)
  have flags : read memory 4 1 = b.flags := field 3 rfl (by decide)
  have cistRootID : read memory 5 8 = b.cistRootID := field 4 rfl (by decide)
  have cistExtRootPathCost : read memory 13 4 = b.cistExtRootPathCost := field 5 rfl (by decide)
  have cistRRootID : read memory 17 8 = b.cistRRootID := field 6 rfl (by decide)
  have cistPortID : read memory 25 2 = b.cistPortID := field 7 rfl (by decide)
  have MessageAgeWhole : read memory 27 1 = b.MessageAge.1 := field 8 rfl (by decide)
  have MessageAgePart : read memory 28 1 = b.MessageAge.2 := field 9 rfl (by decide)
  have MaxAgeWhole : read memory 29 1 = b.MaxAge.1 := field 10 rfl (by decide)
  have MaxAgePart : read memory 30 1 = b.MaxAge.2 := field 11 rfl (by decide)
  have HelloTimeWhole : read memory 31 1 = b.HelloTime.1 := field 12 rfl (by decide)
  have HelloTimePart : read memory 32 1 = b.HelloTime.2 := field 13 rfl (by decide)
  have ForwardDelayWhole : read memory 33 1 = b.ForwardDelay.1 := field 14 rfl (by decide)
  have ForwardDelayPart : read memory 34 1 = b.ForwardDelay.2 := field 15 rfl (by decide)
  have version1Len : read memory 35 1 = b.version1Len := field 16 rfl (by decide)
  have version3Len : read memory 36 2 = b.version3Len := field 17 rfl (by decide)
  have mstConfigurationIdentifier : read memory 38 51 = b.mstConfigurationIdentifier :=
    field 18 rfl (by decide)
  have cistIntRootPathCost : read memory 89 4 = b.cistIntRootPathCost := field 19 rfl (by decide)
  have cistBridgeID : read memory 93 8 = b.cistBridgeID := field 20 rfl (by decide)
  have cistRemainingHops : read memory 101 1 = b.cistRemainingHops := field 21 rfl (by decide)
  simp only [Bpdu.cast, protocolIdentifier, protocolVersion, bpduType, flags, cistRootID,
    cistExtRootPathCost, cistRRootID, cistPortID, MessageAgeWhole, MessageAgePart, MaxAgeWhole,
    MaxAgePart, HelloTimeWhole, HelloTimePart, ForwardDelayWhole, ForwardDelayPart,
    version1Len, version3Len, mstConfigurationIdentifier, cistIntRootPathCost, cistBridgeID,
    cistRemainingHops]

end Layout

/-! ## What a port can send -/

def PriorityVector.InRange (vec : PriorityVector) : Prop :=
  vec.RRootID < 2 ^ 64 ∧ vec.IntRootPathCost < 2 ^ 32 ∧ vec.DesignatedBridgeID < 2 ^ 64 ∧
    vec.DesignatedPortID < 2 ^ 16 ∧ vec.RootID < 2 ^ 64 ∧ vec.ExtRootPathCost < 2 ^ 32

def Times.InRange (times : Times) : Prop :=
  times.remainingHops < 2 ^ 8 ∧ times.forwardDelay < 2 ^ 8 ∧ times.maxAge < 2 ^ 8 ∧
    times.messageAge < 2 ^ 8 ∧ times.helloTime < 2 ^ 8

structure TxPerTreePort.InRange (ptp : TxPerTreePort) : Prop where
  designatedPriority : ptp.designatedPriority.InRange
  designatedTimes : ptp.designatedTimes.InRange
  portTimes : ptp.portTimes.InRange

/-- The identifiers of an MSTI have its MSTID behind their priorities, and the bridge and the port
have the same address and number in every tree. -/
structure Belongs (cist ptp : TxPerTreePort) : Prop where
  MSTID : ptp.MSTID < 2 ^ 12
  RRootID : ptp.designatedPriority.RRootID / 2 ^ 48 % 2 ^ 12 = ptp.MSTID
  DesignatedBridgeID : ptp.designatedPriority.DesignatedBridgeID % 2 ^ 60 =
    ptp.MSTID * 2 ^ 48 + cist.designatedPriority.DesignatedBridgeID % 2 ^ 48
  DesignatedPortID : ptp.designatedPriority.DesignatedPortID % 2 ^ 12 =
    cist.designatedPriority.DesignatedPortID % 2 ^ 12

structure TxPort.WellFormed (prt : TxPort) : Prop where
  MstConfigId : prt.MstConfigId < 256 ^ 51
  cist : prt.cist.InRange
  inRange : ∀ ptp ∈ prt.mstis, ptp.InRange
  belongs : ∀ ptp ∈ prt.mstis, Belongs prt.cist ptp
  distinct : (prt.mstis.map TxPerTreePort.MSTID).Nodup
  few : prt.mstis.length ≤ 63

section Sent

variable {prt : TxPort} {ptp : TxPerTreePort}

theorem flag_eq (set : Bool) (at_offset : Nat) :
    flag set at_offset = 0 ∨ flag set at_offset = 2 ^ at_offset := by
  cases set with
  | false => exact Or.inl rfl
  | true => exact Or.inr rfl

theorem messageRole_le (role : Role) : messageRoleFromPortRole role ≤ 3 := by
  cases role <;> decide

/-- The role stands in two bits, and the flags around it do not reach them. -/
theorem flags_shape (ptp : TxPerTreePort) :
    ∃ low high, ptp.flags = 16 * high + 4 * messageRoleFromPortRole ptp.role + low ∧ low < 4 ∧
      high < 8 := by
  have tc := flag_eq (ptp.tcWhile ≠ 0) offsetTc
  have proposal := flag_eq ptp.proposing offsetProposal
  have learning := flag_eq ptp.learning offsetLearnig
  have forwarding := flag_eq ptp.forwarding offsetForwarding
  have agreement := flag_eq ptp.agree offsetAgreement
  simp only [offsetTc, offsetProposal, offsetLearnig, offsetForwarding, offsetAgreement] at *
  refine ⟨flag (ptp.tcWhile ≠ 0) 0 + flag ptp.proposing 1,
    (flag ptp.learning 4 + flag ptp.forwarding 5 + flag ptp.agree 6) / 16, ?_, ?_, ?_⟩
  · simp only [TxPerTreePort.flags, offsetTc, offsetProposal, offsetLearnig, offsetForwarding,
      offsetAgreement, offsetRole]
    omega
  · omega
  · omega

theorem bpduFlagsRoleGet_flags (ptp : TxPerTreePort) (set : Bool) :
    bpduFlagsRoleGet (ptp.flags + flag set offsetMaster) =
      messageRoleFromPortRole ptp.role := by
  obtain ⟨low, high, shape, small, _⟩ := flags_shape ptp
  have role := messageRole_le ptp.role
  have master := flag_eq set 7
  simp only [bpduFlagsRoleGet, offsetMaster, offsetTcAck, offsetRole]
  omega

theorem flags_lt (ptp : TxPerTreePort) (set : Bool) :
    ptp.flags + flag set offsetMaster < 2 ^ 8 := by
  obtain ⟨low, high, shape, small, few⟩ := flags_shape ptp
  have role := messageRole_le ptp.role
  have master := flag_eq set 7
  simp only [offsetMaster, offsetTcAck]
  omega

theorem fits_mstiMessage (inRange : ptp.InRange) : Fits (mstiMessage ptp).fields := by
  obtain ⟨⟨RRootID, IntRootPathCost, _⟩, ⟨remainingHops, _⟩, _⟩ := inRange
  have flags := flags_lt ptp ptp.master
  simp only [Fits, MstiConfigurationMessage.fields, mstiMessage, List.forall_mem_cons,
    getPriorityFromBridgeIdentifier, getPriorityFromPortIdentifier]
  refine ⟨flags, RRootID, IntRootPathCost, ?_, ?_, remainingHops, by simp⟩
  · omega
  · omega

theorem fits_mstBpdu (wellFormed : prt.WellFormed) : Fits (mstBpdu prt).fields := by
  obtain ⟨⟨RRootID, IntRootPathCost, DesignatedBridgeID, DesignatedPortID, RootID,
    ExtRootPathCost⟩, ⟨remainingHops, forwardDelay, maxAge, messageAge, _⟩,
    ⟨_, _, _, _, helloTime⟩⟩ := wellFormed.cist
  have flags := flags_lt prt.cist false
  simp only [Fits, Bpdu.fields, mstBpdu, rstBpdu, blank, List.forall_mem_cons]
  have few := wellFormed.few
  refine ⟨by decide, by decide, by decide, flags, RootID, ExtRootPathCost, RRootID,
    DesignatedPortID, messageAge, by decide, maxAge, by decide, helloTime, by decide,
    forwardDelay, by decide, by decide, ?_, wellFormed.MstConfigId, IntRootPathCost,
    DesignatedBridgeID, remainingHops, by simp⟩
  exact Nat.mod_lt _ (by decide)

theorem length_bpdu_fields (b : Bpdu) :
    (layout b.fields).length = mstBpduSizeWoMstiMsgs := by
  rw [length_layout]
  change offset [2, 1, 1, 1, 8, 4, 8, 2, 1, 1, 1, 1, 1, 1, 1, 1, 1, 2, 51, 4, 8, 1] = 102
  decide

theorem length_msti_fields (mstiMsg : MstiConfigurationMessage) :
    (layout mstiMsg.fields).length = mstiMsgSize := by
  rw [length_layout]
  change offset [1, 8, 4, 1, 1, 1] = 16
  decide

/-- The message at an index of the memory behind a BPDU. -/
theorem cast_drop {b : Bpdu} {i : Nat} {mstiMsg : MstiConfigurationMessage}
    (isMessage : b.mstConfiguration[i]? = some mstiMsg) (fits : Fits mstiMsg.fields)
    (rest : List UInt8) :
    MstiConfigurationMessage.cast ((b.bytes ++ rest).drop
      (mstBpduSizeWoMstiMsgs + mstiMsgSize * i)) = mstiMsg := by
  obtain ⟨behind, same⟩ := exists_drop_flatMap length_msti_fields isMessage rest
  rw [Bpdu.bytes, List.append_assoc, ← List.drop_drop, ← length_bpdu_fields b, List.drop_left]
  exact cast_mstiMessage fits same

/-- Messages in a BPDU, one after another. -/
theorem cast_mstConfiguration (wellFormed : prt.WellFormed) (rest : List UInt8) :
    (Bpdu.cast ((mstBpdu prt).bytes ++ rest)).mstConfiguration.take prt.mstis.length =
      prt.mstis.map mstiMessage := by
  apply List.ext_getElem?
  intro i
  have few := wellFormed.few
  rw [List.getElem?_take, List.getElem?_map]
  split
  · rename_i inside
    have isMsti : prt.mstis[i]? = some prt.mstis[i] := List.getElem?_eq_getElem inside
    have inArray : i < maxStandardMstis := by
      rw [maxStandardMstis]
      omega
    rw [isMsti]
    have isMessage : (mstBpdu prt).mstConfiguration[i]? = some (mstiMessage prt.mstis[i]) := by
      simp only [mstBpdu, List.getElem?_map, isMsti]
      rfl
    have fits := fits_mstiMessage (wellFormed.inRange prt.mstis[i] (List.getElem_mem inside))
    simp only [Bpdu.cast, List.getElem?_map, List.getElem?_range inArray, Option.map_some,
      cast_drop isMessage fits rest]
  · rename_i outside
    rw [List.getElem?_eq_none (by omega)]
    rfl

theorem length_mstBpdu (prt : TxPort) : (mstBpdu prt).bytes.length =
    mstBpduSizeWoMstiMsgs + prt.mstis.length * mstiMsgSize := by
  rw [Bpdu.bytes, List.length_append, length_bpdu_fields, length_flatMap length_msti_fields,
    mstBpdu, List.length_map]

theorem txMstp_eq (awake : prt.silent = false) (version : ¬prt.ForceProtocolVersion < protoMSTP) :
    txMstp prt = some (mstBpdu prt).bytes := by
  rw [txMstp, if_neg (by rw [awake]; decide), if_neg version, ← length_mstBpdu, List.take_length]

theorem validated_mstBpdu (wellFormed : prt.WellFormed)
    (mstConfiguration : List MstiConfigurationMessage) :
    validated { mstBpdu prt with mstConfiguration := mstConfiguration } (mstBpdu prt).bytes.length =
      some ⟨protoMSTP, some prt.mstis.length⟩ := by
  have few := wellFormed.few
  rw [length_mstBpdu]
  have fits : (mstBpduVer3lenWoMstiMsgs + prt.mstis.length * mstiMsgSize) % 2 ^ 16 =
      64 + prt.mstis.length * 16 := by
    simp only [mstBpduVer3lenWoMstiMsgs, mstiMsgSize]
    omega
  have mstisSize : ((64 + prt.mstis.length * 16 : Nat) : Int) - mstBpduVer3lenWoMstiMsgs =
      prt.mstis.length * 16 := by
    simp only [mstBpduVer3lenWoMstiMsgs]
    omega
  have count : ((prt.mstis.length : Int) * 16 / mstiMsgSize).toNat = prt.mstis.length := by
    simp only [mstiMsgSize]
    omega
  unfold validated
  simp only [mstBpdu, rstBpdu, blank, fits, mstisSize, count]
  rw [if_neg (by simp only [tcnBpduSize, mstBpduSizeWoMstiMsgs]; omega),
    if_neg (by decide), if_neg (by decide), if_pos trivial, if_neg (by decide),
    if_neg (by decide), if_neg (by simp only [configBpduSize, mstBpduSizeWoMstiMsgs]; omega),
    if_neg]
  simp only [maxStandardMstis, mstiMsgSize]
  omega

/-! ## What the other end reads -/

/-- The port takes the next BPDU. -/
structure Ready (rx : RxPort) : Prop where
  bridgeEnabled : rx.bridgeEnabled = true
  BpduGuardPort : rx.BpduGuardPort = false
  bpduFilterPort : rx.bpduFilterPort = false
  rcvdBpdu : rx.rcvdBpdu = false

theorem rx_mstBpdu {rx : RxPort} (ready : Ready rx) (wellFormed : prt.WellFormed)
    (rest : List UInt8) : ∃ after mstConfiguration,
      mstpInRxBpdu rx ((mstBpdu prt).bytes ++ rest) (mstBpdu prt).bytes.length =
        (after, .stateMachines) ∧ after.rcvdBpdu = true ∧
      after.rcvdBpduNumOfMstis = prt.mstis.length ∧
      after.rcvdBpduData = { mstBpdu prt with mstConfiguration := mstConfiguration } ∧
      mstConfiguration.take prt.mstis.length = prt.mstis.map mstiMessage := by
  have same : (mstBpdu prt).bytes ++ rest =
      layout (mstBpdu prt).fields ++ (((mstBpdu prt).mstConfiguration.flatMap fun mstiMsg =>
        layout mstiMsg.fields) ++ rest) := by
    rw [Bpdu.bytes, List.append_assoc]
  have memory := cast_bpdu (fits_mstBpdu wellFormed) same
  have messages := cast_mstConfiguration wellFormed rest
  generalize arrived : Bpdu.cast ((mstBpdu prt).bytes ++ rest) = bpdu at memory messages
  have valid := validated_mstBpdu wellFormed bpdu.mstConfiguration
  rw [← memory] at valid
  unfold mstpInRxBpdu
  simp only [ready.BpduGuardPort, ready.bpduFilterPort, ready.bridgeEnabled, ready.rcvdBpdu,
    arrived, valid, Bool.false_eq_true, if_false, Bool.not_true]
  refine ⟨_, bpdu.mstConfiguration, rfl, rfl, rfl, ?_, messages⟩
  rw [memory]
  rfl

/-! ## The message of each tree -/

theorem nearestWholeSecond_whole {seconds : Nat} (fits : seconds < 2 ^ 8) :
    nearestWholeSecond (seconds, 0) = seconds := by
  unfold nearestWholeSecond
  exact Nat.mod_eq_of_lt fits

theorem roleIsDesignated_flags (ptp : TxPerTreePort) (set : Bool)
    (notMaster : ptp.role ≠ .roleMaster) :
    roleIsDesignated (ptp.flags + flag set offsetMaster) =
      some (decide (ptp.role = .roleDesignated)) := by
  unfold roleIsDesignated
  rw [bpduFlagsRoleGet_flags]
  cases role : ptp.role with
  | roleMaster => exact absurd role notMaster
  | roleDisabled => decide
  | roleRoot => decide
  | roleDesignated => decide
  | roleAlternate => decide
  | roleBackup => decide

theorem cistMessage_mstBpdu (wellFormed : prt.WellFormed) (notMaster : prt.cist.role ≠ .roleMaster)
    (MaxHops : Nat) (sameRegion : Bool)
    (mstConfiguration : List MstiConfigurationMessage) :
    cistMessage MaxHops sameRegion { mstBpdu prt with mstConfiguration := mstConfiguration } =
      some (designatedMessage prt.cist.role prt.cist.designatedPriority prt.cist.designatedTimes
        prt.cist.portTimes sameRegion) := by
  obtain ⟨_, ⟨_, forwardDelay, maxAge, messageAge, _⟩, ⟨_, _, _, _, helloTime⟩⟩ :=
    wellFormed.cist
  have flags : roleIsDesignated prt.cist.flags = some (decide (prt.cist.role = .roleDesignated)) :=
    roleIsDesignated_flags prt.cist false notMaster
  have encoded : bpduFlagsRoleGet prt.cist.flags = messageRoleFromPortRole prt.cist.role :=
    bpduFlagsRoleGet_flags prt.cist false
  have known : bpduFlagsRoleGet prt.cist.flags ≠ encodedRoleMaster := by
    rw [encoded]
    cases role : prt.cist.role with
    | roleMaster => exact absurd role notMaster
    | roleDisabled => decide
    | roleRoot => decide
    | roleDesignated => decide
    | roleAlternate => decide
    | roleBackup => decide
  unfold cistMessage
  simp only [mstBpdu, rstBpdu, blank, flags, if_neg known,
    nearestWholeSecond_whole forwardDelay, nearestWholeSecond_whole maxAge,
    nearestWholeSecond_whole messageAge, nearestWholeSecond_whole helloTime]
  rfl

theorem setPriorityInBridgeIdentifier_get {id other : Nat} (fits : id < 2 ^ 64)
    (same : id % 2 ^ 60 = other) :
    setPriorityInBridgeIdentifier (getPriorityFromBridgeIdentifier id) other = id := by
  unfold setPriorityInBridgeIdentifier getPriorityFromBridgeIdentifier
  omega

theorem setPriorityInPortIdentifier_get {id other : Nat} (fits : id < 2 ^ 16)
    (same : id % 2 ^ 12 = other % 2 ^ 12) :
    setPriorityInPortIdentifier (getPriorityFromPortIdentifier id) other = id := by
  unfold setPriorityInPortIdentifier getPriorityFromPortIdentifier
  omega

/-- Of an MSTI the priorities alone are sent, and the rest of the identifiers is put back. -/
theorem mstiInfo_mstBpdu (wellFormed : prt.WellFormed) (isMsti : ptp ∈ prt.mstis)
    (notMaster : ptp.role ≠ .roleMaster)
    (mstConfiguration : List MstiConfigurationMessage) (msgPriority : PriorityVector)
    (msgTimes : Times) :
    mstiInfo ptp.MSTID { mstBpdu prt with mstConfiguration := mstConfiguration } (mstiMessage ptp)
        msgPriority msgTimes =
      some (decide (ptp.role = .roleDesignated),
        { ptp.designatedPriority with
          RootID := msgPriority.RootID
          ExtRootPathCost := msgPriority.ExtRootPathCost },
        { msgTimes with remainingHops := ptp.designatedTimes.remainingHops }) := by
  have belongs := wellFormed.belongs ptp isMsti
  obtain ⟨⟨_, _, DesignatedBridgeID, DesignatedPortID, _⟩, _, _⟩ := wellFormed.inRange ptp isMsti
  have bridge := setPriorityInBridgeIdentifier_get DesignatedBridgeID
    belongs.DesignatedBridgeID
  have port := setPriorityInPortIdentifier_get DesignatedPortID belongs.DesignatedPortID
  have flags := roleIsDesignated_flags ptp ptp.master notMaster
  unfold mstiInfo
  simp only [mstBpdu, rstBpdu, blank, mstiMessage, flags, Option.map_some, bridge, port]
  rfl

theorem find?_mstiMessage {mstis : List TxPerTreePort}
    (belongs : ∀ other ∈ mstis, msgMstid (mstiMessage other) = other.MSTID)
    (distinct : (mstis.map TxPerTreePort.MSTID).Nodup) (isMsti : ptp ∈ mstis) :
    (mstis.map mstiMessage).find? (fun mstiMsg => msgMstid mstiMsg = ptp.MSTID) =
      some (mstiMessage ptp) := by
  induction mstis with
  | nil => cases isMsti
  | cons first mstis inductionHypothesis =>
    rw [List.map_cons, List.nodup_cons] at distinct
    have firstId := belongs first List.mem_cons_self
    rw [List.map_cons, List.find?_cons]
    rcases List.mem_cons.mp isMsti with rfl | later
    · simp [firstId]
    · have different : first.MSTID ≠ ptp.MSTID := by
        intro same
        exact distinct.1 (same ▸ List.mem_map_of_mem later)
      simp only [firstId, decide_eq_false different]
      exact inductionHypothesis (fun other member => belongs other (List.mem_cons_of_mem _ member))
        distinct.2 later

/-! ## From one port to the other -/

theorem bridgeBpduRcv_frame {macaddr : Nat} {bpdu : List UInt8} (address : macaddr < 2 ^ 48)
    (nonempty : 0 < bpdu.length) (short : bpdu.length + llcPduLenU ≤ ethDataLen)
    (rest : List UInt8) :
    bridgeBpduRcv (frame macaddr bpdu ++ rest) (frame macaddr bpdu).length =
      some (bpdu ++ rest, bpdu.length) := by
  have total : (bpdu.length + llcPduLenU) % 2 ^ 16 = bpdu.length + llcPduLenU := by
    simp only [ethDataLen] at short
    omega
  have fits : Fits [(6, bridgeGroupAddress), (6, macaddr),
      (2, (bpdu.length + llcPduLenU) % 2 ^ 16), (1, llcSapBspan), (1, llcSapBspan),
      (1, llcPduTypeU)] := by
    simp only [Fits, List.forall_mem_cons]
    exact ⟨by decide, address, Nat.mod_lt _ (by decide), by decide, by decide, by decide, by simp⟩
  have field (k : Nat) {width value at_offset : Nat}
      (isField : [(6, bridgeGroupAddress), (6, macaddr),
        (2, (bpdu.length + llcPduLenU) % 2 ^ 16), (1, llcSapBspan), (1, llcSapBspan),
        (1, llcPduTypeU)][k]? = some (width, value))
      (begins : offset ([6, 6, 2, 1, 1, 1].take k) = at_offset) :
      read (frame macaddr bpdu ++ rest) at_offset width = value := by
    rw [frame, List.append_assoc]
    exact read_field fits k isField begins (bpdu ++ rest)
  have header : (layout [(6, bridgeGroupAddress), (6, macaddr),
      (2, (bpdu.length + llcPduLenU) % 2 ^ 16), (1, llcSapBspan), (1, llcSapBspan),
      (1, llcPduTypeU)]).length = llcHeaderSize := by
    rw [length_layout]
    change offset [6, 6, 2, 1, 1, 1] = 17
    decide
  have length : (frame macaddr bpdu).length = llcHeaderSize + bpdu.length := by
    rw [frame, List.length_append, header]
  have behind : (frame macaddr bpdu ++ rest).drop llcHeaderSize = bpdu ++ rest := by
    rw [frame, List.append_assoc, ← header, List.drop_left]
  have group : read (frame macaddr bpdu ++ rest) 0 6 = bridgeGroupAddress :=
    field 0 rfl (by decide)
  have len8023 : read (frame macaddr bpdu ++ rest) 12 2 = bpdu.length + llcPduLenU :=
    (field 2 rfl (by decide)).trans total
  have dSap : read (frame macaddr bpdu ++ rest) 14 1 = llcSapBspan := field 3 rfl (by decide)
  have sSap : read (frame macaddr bpdu ++ rest) 15 1 = llcSapBspan := field 4 rfl (by decide)
  have llcCtrl : read (frame macaddr bpdu ++ rest) 16 1 = llcPduTypeU :=
    field 5 rfl (by decide)
  unfold bridgeBpduRcv
  simp only [group, len8023, dSap, sSap, llcCtrl, length, behind]
  rw [if_pos]
  · simp
  · simp only [llcHeaderSize, ethHlen, llcPduLenU] at *
    exact ⟨by omega, trivial, short, by omega, by omega, trivial, trivial, by decide⟩

/-- What a port sends in an MST BPDU arrives: the other end takes the frame, knows the region, and
reads for every tree the vector, the times and the role that the sender has for it, whatever
stands in its buffer behind the frame. -/
theorem rx_of_txMstp {rx : RxPort} {macaddr : Nat} (wellFormed : prt.WellFormed)
    (awake : prt.silent = false) (version : ¬prt.ForceProtocolVersion < protoMSTP)
    (address : macaddr < 2 ^ 48) (ready : Ready rx) (rest : List UInt8) :
    ∃ bpdu memory after, txMstp prt = some bpdu ∧
      bridgeBpduRcv (frame macaddr bpdu ++ rest) (frame macaddr bpdu).length =
        some (memory, bpdu.length) ∧
      mstpInRxBpdu rx memory bpdu.length = (after, .stateMachines) ∧
      after.rcvdBpdu = true ∧
      (∀ MstConfigId, fromSameRegion MstConfigId after.rcvdBpduData =
        decide (MstConfigId = prt.MstConfigId)) ∧
      (prt.cist.role ≠ .roleMaster → ∀ MaxHops sameRegion,
        cistMessage MaxHops sameRegion after.rcvdBpduData =
          some (designatedMessage prt.cist.role prt.cist.designatedPriority
            prt.cist.designatedTimes prt.cist.portTimes sameRegion)) ∧
      ∀ ptp ∈ prt.mstis, ptp.role ≠ .roleMaster → ∃ mstiMsg,
        rcvdMstiConfig after.rcvdBpduData after.rcvdBpduNumOfMstis ptp.MSTID = some mstiMsg ∧
        ∀ msgPriority msgTimes,
          mstiInfo ptp.MSTID after.rcvdBpduData mstiMsg msgPriority msgTimes =
            some (decide (ptp.role = .roleDesignated),
              { ptp.designatedPriority with
                RootID := msgPriority.RootID
                ExtRootPathCost := msgPriority.ExtRootPathCost },
              { msgTimes with remainingHops := ptp.designatedTimes.remainingHops }) := by
  have length := length_mstBpdu prt
  have few := wellFormed.few
  have nonempty : 0 < (mstBpdu prt).bytes.length := by
    rw [length]
    exact Nat.add_pos_left (by decide) _
  have short : (mstBpdu prt).bytes.length + llcPduLenU ≤ ethDataLen := by
    rw [length]
    simp only [mstBpduSizeWoMstiMsgs, mstiMsgSize, llcPduLenU, ethDataLen]
    omega
  have framed := bridgeBpduRcv_frame address nonempty short rest
  obtain ⟨after, mstConfiguration, run, rcvdBpdu, count, data, messages⟩ :=
    rx_mstBpdu ready wellFormed rest
  refine ⟨_, _, after, txMstp_eq awake version, framed, run, rcvdBpdu, ?_, ?_, ?_⟩
  · intro MstConfigId
    rw [data]
    rfl
  · intro notMaster MaxHops sameRegion
    rw [data]
    exact cistMessage_mstBpdu wellFormed notMaster MaxHops sameRegion mstConfiguration
  · intro ptp isMsti notMaster
    refine ⟨mstiMessage ptp, ?_, fun msgPriority msgTimes => ?_⟩
    · rw [rcvdMstiConfig, count, data, messages]
      exact find?_mstiMessage (fun other member => (wellFormed.belongs other member).RRootID)
        wellFormed.distinct isMsti
    · rw [data]
      exact mstiInfo_mstBpdu wellFormed isMsti notMaster mstConfiguration msgPriority msgTimes

end Sent

/-- The common tree and one MSTI, sent to a port whose buffer holds an old byte. -/
def sentPort : TxPort where
  deleted := false
  dontTxmtBpdu := false
  tcAck := false
  ForceProtocolVersion := 3
  MstConfigId := 5
  cist :=
    ⟨0, .roleDesignated, 0, false, true, true, false, false,
      ⟨2 ^ 63 + 7, 0, 2 ^ 63 + 7, 2 ^ 15 + 1, 2 ^ 63 + 7, 0⟩, ⟨20, 15, 20, 0, 2⟩,
      ⟨20, 15, 20, 0, 2⟩⟩
  mstis :=
    [⟨1, .roleRoot, 0, false, true, true, true, false,
      ⟨2 ^ 62 + 2 ^ 48 + 6, 20000, 2 ^ 63 + 2 ^ 48 + 7, 2 ^ 15 + 1, 0, 0⟩, ⟨19, 15, 20, 0, 2⟩,
      ⟨20, 15, 20, 0, 2⟩⟩]

def readyPort : RxPort :=
  ⟨true, false, false, false, false, 2, 0, false, blank, 0, 0, 0, 0⟩

theorem rx_of_txMstp_msti : ∃ bpdu memory after,
    txMstp sentPort = some bpdu ∧
      bridgeBpduRcv (frame 7 bpdu ++ [255]) (frame 7 bpdu).length = some (memory, bpdu.length) ∧
      mstpInRxBpdu readyPort memory bpdu.length = (after, .stateMachines) ∧
      after.rcvdBpdu = true := by
  have wellFormed : sentPort.WellFormed := by
    refine ⟨by decide, ⟨?_, ?_, ?_⟩, ?_, ?_, by decide, by decide⟩
    · unfold PriorityVector.InRange
      decide
    · unfold Times.InRange
      decide
    · unfold Times.InRange
      decide
    · intro ptp isMsti
      obtain rfl := List.mem_singleton.mp isMsti
      refine ⟨?_, ?_, ?_⟩
      · unfold PriorityVector.InRange
        decide
      · unfold Times.InRange
        decide
      · unfold Times.InRange
        decide
    · intro ptp isMsti
      obtain rfl := List.mem_singleton.mp isMsti
      exact ⟨by decide, by decide, by decide, by decide⟩
  obtain ⟨bpdu, memory, after, sent, framed, run, rcvdBpdu, _⟩ :=
    rx_of_txMstp wellFormed (by decide) (by decide) (show 7 < 2 ^ 48 by decide)
      (⟨rfl, rfl, rfl, rfl⟩ : Ready readyPort) [255]
  exact ⟨bpdu, memory, after, sent, framed, run, rcvdBpdu⟩

/-! ## Bytes that were not received -/

section Received

variable {memory other : List UInt8} {size : Nat}

/-- What a BPDU that counts must have in size. -/
theorem size_of_validated {b : Bpdu} {valid : Validated} (counts : validated b size = some valid) :
    b.bpduType = bpduTypeTCN ∧ valid.protocolVersion = protoSTP ∨ configBpduSize ≤ size ∧
      (valid.protocolVersion < protoMSTP ∨ mstBpduSizeWoMstiMsgs ≤ size) := by
  unfold validated at counts
  split at counts
  · cases counts
  split at counts
  · rename_i tcn
    cases counts
    exact Or.inl ⟨tcn, rfl⟩
  refine Or.inr ?_
  split at counts
  · split at counts
    · cases counts
    · rename_i enough
      cases counts
      exact ⟨Nat.le_of_not_lt enough, Or.inl (by decide)⟩
  split at counts
  · split at counts
    · split at counts
      · cases counts
      · rename_i enough
        cases counts
        simp only [rstBpduSize] at enough
        exact ⟨by simp only [configBpduSize]; omega, Or.inl (by decide)⟩
    · split at counts
      · cases counts
      · split at counts
        · cases counts
        · rename_i enough
          simp only at counts
          split at counts
          · cases counts
            exact ⟨Nat.le_of_not_lt enough, Or.inl (by decide)⟩
          · rename_i whole
            cases counts
            exact ⟨Nat.le_of_not_lt enough,
              Or.inr (Nat.le_of_not_lt fun small => whole (Or.inl small))⟩
  · cases counts

theorem validated_congr (agree : memory.take size = other.take size) :
    validated (Bpdu.cast memory) size = validated (Bpdu.cast other) size := by
  have same {at_offset width : Nat} (inside : at_offset + width ≤ size) :
      read memory at_offset width = read other at_offset width :=
    read_congr agree inside
  by_cases tiny : size < tcnBpduSize
  · simp [validated, tiny]
  simp only [tcnBpduSize] at tiny
  have protocolIdentifier : (Bpdu.cast memory).protocolIdentifier =
      (Bpdu.cast other).protocolIdentifier := same (by omega)
  have protocolVersion : (Bpdu.cast memory).protocolVersion =
      (Bpdu.cast other).protocolVersion := same (by omega)
  have bpduType : (Bpdu.cast memory).bpduType = (Bpdu.cast other).bpduType := same (by omega)
  by_cases small : size < mstBpduSizeWoMstiMsgs
  · simp only [validated, protocolIdentifier, protocolVersion, bpduType, small, true_or, if_true]
  · simp only [mstBpduSizeWoMstiMsgs] at small
    have version1Len : (Bpdu.cast memory).version1Len = (Bpdu.cast other).version1Len :=
      same (by omega)
    have version3Len : (Bpdu.cast memory).version3Len = (Bpdu.cast other).version3Len :=
      same (by omega)
    simp only [validated, protocolIdentifier, protocolVersion, bpduType, version1Len,
      version3Len]

/-- The two copies of a BPDU are read alike. -/
structure ReadAlike (size : Nat) (first second : Bpdu) : Prop where
  cist : ∀ MaxHops sameRegion,
    cistMessage MaxHops sameRegion first = cistMessage MaxHops sameRegion second
  region : ∀ MstConfigId, fromSameRegion MstConfigId first = fromSameRegion MstConfigId second
  messages : ∀ i, mstBpduSizeWoMstiMsgs + mstiMsgSize * (i + 1) ≤ size →
    first.mstConfiguration[i]? = second.mstConfiguration[i]?

theorem mstConfiguration_congr (agree : memory.take size = other.take size) (i : Nat)
    (inside : mstBpduSizeWoMstiMsgs + mstiMsgSize * (i + 1) ≤ size) :
    (Bpdu.cast memory).mstConfiguration[i]? = (Bpdu.cast other).mstConfiguration[i]? := by
  simp only [mstBpduSizeWoMstiMsgs, mstiMsgSize] at inside
  have window (packet : List UInt8) (at_offset width : Nat) :
      read (packet.drop (102 + 16 * i)) at_offset width =
        read packet (102 + 16 * i + at_offset) width := by
    unfold Packed.read
    rw [List.drop_drop]
  have same {at_offset width : Nat} (short : at_offset + width ≤ 16) :
      read (memory.drop (102 + 16 * i)) at_offset width =
        read (other.drop (102 + 16 * i)) at_offset width := by
    rw [window, window]
    exact read_congr agree (by omega)
  have message : MstiConfigurationMessage.cast (memory.drop (102 + 16 * i)) =
      MstiConfigurationMessage.cast (other.drop (102 + 16 * i)) := by
    unfold MstiConfigurationMessage.cast
    rw [same (by decide), same (by decide), same (by decide), same (by decide),
      same (by decide), same (by decide)]
  simp only [Bpdu.cast, List.getElem?_map, mstBpduSizeWoMstiMsgs, mstiMsgSize]
  cases index : (List.range maxStandardMstis)[i]? with
  | none => rfl
  | some j =>
    obtain ⟨_, rfl⟩ := List.getElem?_eq_some_iff.mp index
    simp only [List.getElem_range, Option.map_some, message]

theorem bpduType_congr (agree : memory.take size = other.take size) {valid : Validated}
    (counts : validated (Bpdu.cast memory) size = some valid) :
    (Bpdu.cast memory).bpduType = (Bpdu.cast other).bpduType := by
  have four : tcnBpduSize ≤ size := by
    apply Nat.le_of_not_lt
    intro tiny
    rw [validated, if_pos (Or.inl tiny)] at counts
    cases counts
  simp only [tcnBpduSize] at four
  exact read_congr agree (by omega)

theorem readAlike_of_validated (agree : memory.take size = other.take size) {valid : Validated}
    (counts : validated (Bpdu.cast memory) size = some valid) :
    ReadAlike size { Bpdu.cast memory with protocolVersion := valid.protocolVersion }
      { Bpdu.cast other with protocolVersion := valid.protocolVersion } := by
  have same {at_offset width : Nat} (inside : at_offset + width ≤ size) :
      read memory at_offset width = read other at_offset width :=
    read_congr agree inside
  have bpduType := bpduType_congr agree counts
  have messages := mstConfiguration_congr agree
  rcases size_of_validated counts with ⟨tcn, version⟩ | ⟨config, version⟩
  · refine ⟨fun MaxHops sameRegion => ?_, fun MstConfigId => ?_, messages⟩
    · have otherTcn := bpduType.symm.trans tcn
      simp only [cistMessage, tcn, otherTcn, if_true]
    · simp [fromSameRegion, version, protoSTP, protoMSTP]
  · simp only [configBpduSize] at config
    have flags : (Bpdu.cast memory).flags = (Bpdu.cast other).flags := same (by omega)
    have cistRootID : (Bpdu.cast memory).cistRootID = (Bpdu.cast other).cistRootID :=
      same (by omega)
    have cistExtRootPathCost : (Bpdu.cast memory).cistExtRootPathCost =
        (Bpdu.cast other).cistExtRootPathCost := same (by omega)
    have cistRRootID : (Bpdu.cast memory).cistRRootID = (Bpdu.cast other).cistRRootID :=
      same (by omega)
    have cistPortID : (Bpdu.cast memory).cistPortID = (Bpdu.cast other).cistPortID :=
      same (by omega)
    have MessageAge : (Bpdu.cast memory).MessageAge = (Bpdu.cast other).MessageAge :=
      Prod.ext (same (by omega)) (same (by omega))
    have MaxAge : (Bpdu.cast memory).MaxAge = (Bpdu.cast other).MaxAge :=
      Prod.ext (same (by omega)) (same (by omega))
    have HelloTime : (Bpdu.cast memory).HelloTime = (Bpdu.cast other).HelloTime :=
      Prod.ext (same (by omega)) (same (by omega))
    have ForwardDelay : (Bpdu.cast memory).ForwardDelay = (Bpdu.cast other).ForwardDelay :=
      Prod.ext (same (by omega)) (same (by omega))
    rcases version with older | whole
    · refine ⟨fun MaxHops sameRegion => ?_, fun MstConfigId => ?_, messages⟩
      · simp only [cistMessage, bpduType, flags, cistRootID, cistExtRootPathCost, cistRRootID,
          cistPortID, MessageAge, MaxAge, HelloTime, ForwardDelay, if_pos older]
      · simp [fromSameRegion, older]
    · simp only [mstBpduSizeWoMstiMsgs] at whole
      have mstConfigurationIdentifier : (Bpdu.cast memory).mstConfigurationIdentifier =
          (Bpdu.cast other).mstConfigurationIdentifier := same (by omega)
      have cistIntRootPathCost : (Bpdu.cast memory).cistIntRootPathCost =
          (Bpdu.cast other).cistIntRootPathCost := same (by omega)
      have cistBridgeID : (Bpdu.cast memory).cistBridgeID = (Bpdu.cast other).cistBridgeID :=
        same (by omega)
      have cistRemainingHops : (Bpdu.cast memory).cistRemainingHops =
          (Bpdu.cast other).cistRemainingHops := same (by omega)
      refine ⟨fun MaxHops sameRegion => ?_, fun MstConfigId => ?_, messages⟩
      · simp only [cistMessage, bpduType, flags, cistRootID, cistExtRootPathCost, cistRRootID,
          cistPortID, MessageAge, MaxAge, HelloTime, ForwardDelay, cistIntRootPathCost,
          cistBridgeID, cistRemainingHops]
      · simp only [fromSameRegion, mstConfigurationIdentifier]

theorem topologyChange_congr (agree : memory.take size = other.take size) {valid : Validated}
    (counts : validated (Bpdu.cast memory) size = some valid) :
    (decide ((Bpdu.cast memory).bpduType = bpduTypeTCN) ||
        decide ((Bpdu.cast memory).flags % 2 = 1)) =
      (decide ((Bpdu.cast other).bpduType = bpduTypeTCN) ||
        decide ((Bpdu.cast other).flags % 2 = 1)) := by
  have bpduType := bpduType_congr agree counts
  rcases size_of_validated counts with ⟨tcn, _⟩ | ⟨config, _⟩
  · simp [← bpduType, tcn]
  · simp only [configBpduSize] at config
    have flags : (Bpdu.cast memory).flags = (Bpdu.cast other).flags :=
      read_congr agree (by omega)
    rw [bpduType, flags]

/-- What a port makes of a BPDU depends on the bytes that it has received, but for messages that
the BPDU announces and that have not been sent with it. -/
theorem rx_depends_on_received (agree : memory.take size = other.take size) (rx : RxPort) :
    (mstpInRxBpdu rx memory size).2 = (mstpInRxBpdu rx other size).2 ∧
      ReadAlike size (mstpInRxBpdu rx memory size).1.rcvdBpduData
        (mstpInRxBpdu rx other size).1.rcvdBpduData ∧
      { (mstpInRxBpdu rx memory size).1 with rcvdBpduData := rx.rcvdBpduData } =
        { (mstpInRxBpdu rx other size).1 with rcvdBpduData := rx.rcvdBpduData } := by
  have unread (b : Bpdu) : ReadAlike size b b := ⟨fun _ _ => rfl, fun _ => rfl, fun _ _ => rfl⟩
  unfold mstpInRxBpdu
  simp only
  split
  · exact ⟨rfl, unread _, rfl⟩
  split
  · exact ⟨rfl, unread _, rfl⟩
  split
  · exact ⟨rfl, unread _, rfl⟩
  split
  · exact ⟨rfl, unread _, rfl⟩
  rw [← validated_congr agree]
  cases counts : validated (Bpdu.cast memory) size with
  | none => exact ⟨rfl, unread _, rfl⟩
  | some valid =>
    refine ⟨rfl, readAlike_of_validated agree counts, ?_⟩
    simp only [topologyChange_congr agree counts]

end Received

/-- A TCN BPDU of four bytes in two buffers. -/
theorem rx_depends_on_received_tcn :
    (mstpInRxBpdu readyPort [0, 0, 0, 128, 1] 4).2 =
      (mstpInRxBpdu readyPort [0, 0, 0, 128, 2] 4).2 :=
  (rx_depends_on_received (show [0, 0, 0, 128, 1].take 4 = [0, 0, 0, 128, 2].take 4 by decide)
    readyPort).1

end TfortisPack.Mstpd
