import TfortisPack.VlanCli.VlanModule

/-!
# The VLAN commands (`main_vlan.lua`)

A command reads the VLAN table together with the interfaces on the switch,
creates the sections of new VLANs, reads the table again when it has created
any, and then runs one operation.
-/

namespace TfortisPack.VlanCli

open Library
open Library.Lua (Pairs tostring tonumber)

/-- The texts that the command line passes as a range. -/
inductive RangeText where
  | all
  | switch
  | once (value : Nat)
  | pair (first last : Nat)
  deriving Repr, DecidableEq

def RangeText.text : RangeText → Text
  | .all => ['a', 'l', 'l']
  | .switch => switchName
  | .once value => tostring value
  | .pair first last => tostring first ++ '-' :: tostring last

inductive RangeKind where
  | all
  | switch
  | range
  | once
  deriving Repr, DecidableEq

structure CheckedRange extends Range where
  kind : RangeKind
  deriving Repr, DecidableEq

/-- A range whose bounds are in the wrong order is reported and becomes `nil`. -/
def checkPortRange : RangeText → Option CheckedRange
  | .all => some { min := 1, max := 10, kind := .all }
  | .switch => some { min := 0, max := 0, kind := .switch }
  | .once value => some { min := value, max := value, kind := .once }
  | .pair first last =>
      if first > last then none else some { min := first, max := last, kind := .range }

/-- The numbers of a range of the command line. -/
def RangeText.numbers (text : RangeText) : List Nat :=
  ((checkPortRange text).map fun range => range.toRange.numbers).getD []

inductive TaggedType where
  | tagged
  | untagged
  | notMemb
  deriving Repr, DecidableEq

/-- The entries of `cmdVlanList` that change the configuration of VLANs. -/
inductive Action where
  | change (cmd : Cmd) (type : TaggedType)
  | delete
  | mngtVlan (ifName : Text)
  deriving Repr, DecidableEq

structure Call where
  vlanRangeIn : RangeText
  action : Action
  portListIn : RangeText
  deriving Repr, DecidableEq

/-- What a command finds outside of the configuration: the order of its tables
and the interfaces that `network.interface` reports on the switch. -/
structure Surroundings where
  pairs : Pairs
  ifList : List Text

def getVlanArr (surroundings : Surroundings) (network : Network) : Except Failure VlanArr := do
  let vlanArr ← getBridgeVlanList surroundings.pairs network
  surroundings.ifList.foldlM
    (fun vlanArr ifName =>
      getMngmntVlan ((network.lookup ifName).bind Section.device) vlanArr ifName)
    vlanArr

/-- The VLANs that an `add` looks for. -/
def askedVlans (vlanRange : CheckedRange) : List Nat :=
  match vlanRange.kind with
  | .range => vlanRange.numbers
  | .once => [vlanRange.min]
  | .all => []
  | .switch => []

/-- Those of them that are not in the table are created. -/
def newVlans (vlanArr : VlanArr) (vlanRange : CheckedRange) : List Nat :=
  (askedVlans vlanRange).filter fun vlan => (vlanArr.lookup (tostring vlan)).isNone

/-- `vlan_add` and `vlan_edit`: the tagged operation is always called with `add`,
the untagged one refuses a range of VLANs. -/
def vlanChange (pairs : Pairs) (cmd : Cmd) (type : TaggedType) (vlanArr : VlanArr)
    (vlanRange portRange : CheckedRange) (network : Network) : Except Failure Network :=
  match type with
  | .tagged => addTagged pairs vlanArr vlanRange.toRange portRange.toRange .add network
  | .untagged =>
      if vlanRange.kind = .range then .ok network
      else addUntagged pairs vlanArr vlanRange.min portRange.toRange cmd network
  | .notMemb => addNotMemberPorts pairs vlanArr vlanRange.toRange portRange.toRange network

/-- The sections of the VLANs in the range go, one after the other; a VLAN whose
number is not a numeral stops the loop. -/
def vlanDelete (vlanRange : Range) :
    List ((_ : Text) × VlanList) → Network → Network × Option Failure
  | [], network => (network, none)
  | vlan :: rest, network =>
      match tonumber vlan.1 with
      | none => (network, some .missingNumber)
      | some index =>
          vlanDelete vlanRange rest
            (if vlanRange.min ≤ index ∧ index ≤ vlanRange.max then delete vlan.2.id network
            else network)

def vlanMngtVlan (ifList : List Text) (vlanId ifName : Text) (vlanArr : VlanArr)
    (network : Network) : Network :=
  if ifName ∈ ifList then
    match vlanArr.lookup vlanId with
    | none => network
    | some vlanList => mngtVlan vlanList vlanId ifName network
  else
    network

/-- The configuration that an operation leaves, and what stopped it. -/
def settle (network : Network) : Except Failure Network → Network × Option Failure
  | .ok next => (next, none)
  | .error failure => (network, some failure)

/-- `cmdList.func(vlanArr)`, when both ranges are there. -/
def runAction (surroundings : Surroundings) (call : Call) (vlanArr : VlanArr) (network : Network) :
    Network × Option Failure :=
  match checkPortRange call.portListIn, checkPortRange call.vlanRangeIn with
  | some portRange, some vlanRange =>
      match call.action with
      | .change cmd type =>
          settle network
            (vlanChange surroundings.pairs cmd type vlanArr vlanRange portRange network)
      | .delete =>
          vlanDelete vlanRange.toRange (surroundings.pairs.order vlanArr.entries) network
      | .mngtVlan ifName =>
          (vlanMngtVlan surroundings.ifList call.vlanRangeIn.text ifName vlanArr network, none)
  | _, _ => (network, none)

def addVlans (vlans : List Nat) (network : Network) : Network :=
  vlans.foldl (fun network vlan => uciAddVlan vlan network) network

/-- The VLANs that a call creates before its operation; an `add` looks into its
range without a check. -/
def createdVlans (call : Call) (vlanArr : VlanArr) : Except Failure (List Nat) :=
  match call.action with
  | .change .add _ =>
      match checkPortRange call.vlanRangeIn with
      | none => .error .missingRange
      | some vlanRange => .ok (newVlans vlanArr vlanRange)
  | _ => .ok []

def runConfigVlan (surroundings : Surroundings) (call : Call) (network : Network) :
    Network × Option Failure :=
  match getVlanArr surroundings network with
  | .error failure => (network, some failure)
  | .ok vlanArr =>
      match createdVlans call vlanArr with
      | .error failure => (network, some failure)
      | .ok [] => runAction surroundings call vlanArr network
      | .ok (vlan :: rest) =>
          let extended := addVlans (vlan :: rest) network
          match getVlanArr surroundings extended with
          | .error failure => (extended, some failure)
          | .ok vlanArr => runAction surroundings call vlanArr extended

end TfortisPack.VlanCli
