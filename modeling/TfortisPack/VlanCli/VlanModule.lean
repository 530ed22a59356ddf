import TfortisPack.Library.Texts
import TfortisPack.VlanCli.VlanUtils

/-!
# Operations on the VLAN table (`vlan_module.lua`)

Every operation gets the table that `getBridgeVlanList` has read, decides from
it which ports are busy, edits copies of the port lists of its VLANs and writes
them back.
-/

namespace TfortisPack.VlanCli

open Library
open Library.Lua (Pairs tostring tonumber)

/-! ## Reading the table -/

def addBridgeVlan (pairs : Pairs) (vlanArr : VlanArr) (entry : (_ : Text) × Section) :
    Except Failure VlanArr :=
  if entry.2.type = .bridgeVlan then do
    let ports ← setPorts pairs entry.2.ports
    let num := setVlanParam entry.2.vlan
    .ok (vlanArr.insert num { id := entry.1, num := num, ports := ports })
  else
    .ok vlanArr

/-- Of two sections with one number the later one stays. -/
def getBridgeVlanList (pairs : Pairs) (netData : Network) : Except Failure VlanArr :=
  (pairs.order netData.entries).foldlM (addBridgeVlan pairs) ∅

def switchName : Text :=
  ['s', 'w', 'i', 't', 'c', 'h']

/-- `devInfo` is the answer for the `device` option of the interface.  The part
of the device name behind the first point is looked up without a check. -/
def getMngmntVlan (devInfo : Option Text) (vlanArr : VlanArr) (ifName : Text) :
    Except Failure VlanArr :=
  match devInfo with
  | none => .error .missingDevice
  | some device =>
      let mngtVlan := Texts.tokens '.' device
      if mngtVlan[0]? = some switchName then
        match mngtVlan[1]? with
        | none => .error .missingVlan
        | some num =>
            match vlanArr.lookup num with
            | none => .error .missingVlan
            | some vlanList =>
                .ok (vlanArr.insert num { vlanList with mngtVlan := true, ifname := some ifName })
      else
        .ok vlanArr

/-! ## Editing port lists -/

inductive Cmd where
  | add
  | edit
  deriving Repr, DecidableEq

structure Range where
  min : Nat
  max : Nat
  deriving Repr, DecidableEq

namespace Range

/-- The numbers a `for` loop over the range counts through. -/
def numbers (range : Range) : List Nat :=
  List.range' range.min (range.max + 1 - range.min)

theorem mem_numbers {range : Range} {number : Nat} :
    number ∈ range.numbers ↔ range.min ≤ number ∧ number ≤ range.max := by
  rw [numbers, List.mem_range'_1]
  omega

theorem nodup_numbers (range : Range) : range.numbers.Nodup :=
  List.nodup_range'

end Range

/-- A port of a VLAN, as the nested loops over `vlanArr` meet it. -/
structure Member where
  id : Text
  port : Nat
  state : Tag
  deriving Repr, DecidableEq

def members (vlanArr : VlanArr) : List Member :=
  vlanArr.entries.flatMap fun vlan =>
    match vlan.2.ports with
    | none => []
    | some ports => ports.entries.map fun port => ⟨vlan.1, port.1, port.2⟩

/-- The copies of the port lists that an operation edits, and how many edits it
has made. -/
structure Saved where
  lists : List (Nat × Ports)
  count : Nat := 0

/-- The VLANs of the range that are in the table.  The numbers ascend, so
`table.insert` moves no entry. -/
def savedLists (vlanArr : VlanArr) (vlans : List Nat) : List (Nat × Ports) :=
  vlans.filterMap fun vlan => (vlanArr.lookup (tostring vlan)).map fun vlanList =>
    (vlan, saveVlan vlanList)

def changeLists (change : Ports → Ports × Nat) (saved : Saved) : Saved where
  lists := saved.lists.map fun list => (list.1, (change list.2).1)
  count := saved.lists.foldl (fun count list => count + (change list.2).2) saved.count

/-- The loop over the port range: a free port is edited in every saved list. -/
def changePorts (busy : Nat → Except Failure Bool) (change : Nat → Ports → Ports × Nat)
    (ports : List Nat) (saved : Saved) : Except Failure Saved :=
  ports.foldlM
    (fun saved port => do
      if ← busy port then .ok saved else .ok (changeLists (change port) saved))
    saved

/-- `add` sets a port that is not in the list, `edit` one that is. -/
def setPort (cmd : Cmd) (state : Tag) (port : Nat) (portList : Ports) : Ports × Nat :=
  match cmd, portList.lookup port with
  | .add, none => (portList.insert port state, 1)
  | .add, some _ => (portList, 0)
  | .edit, some _ => (portList.insert port state, 1)
  | .edit, none => (portList, 0)

def removePort (port : Nat) (portList : Ports) : Ports × Nat :=
  match portList.lookup port with
  | some _ => (portList.erase port, 1)
  | none => (portList, 0)

def writeSaved (pairs : Pairs) (vlanArr : VlanArr) (saved : Saved) (network : Network) : Network :=
  if saved.count > 0 then uciSetVlanParam pairs vlanArr saved.lists network else network

/-- A port is busy for `add` in any VLAN, for `edit` in any other VLAN. -/
def untaggedBusy (vlanArr : VlanArr) (vlanId : Nat) (cmd : Cmd) (port : Nat) : Bool :=
  (members vlanArr).any fun member =>
    member.port == port &&
      match cmd with
      | .add => true
      | .edit => member.id != tostring vlanId

def addUntagged (pairs : Pairs) (vlanArr : VlanArr) (vlanId : Nat) (portRange : Range) (cmd : Cmd)
    (network : Network) : Except Failure Network := do
  -- `busy_vlanPortList` is a table even without the VLAN, so its branch for `nil` is dead
  let saved ← changePorts (fun port => .ok (untaggedBusy vlanArr vlanId cmd port))
    (setPort cmd .untagged) portRange.numbers { lists := savedLists vlanArr [vlanId] }
  .ok (writeSaved pairs vlanArr saved network)

/-- `tonumber(id) < vlanRangeMin or tonumber(id) > vlanRangeMax` -/
def outside (vlanRange : Range) (id : Text) : Except Failure Bool :=
  match tonumber id with
  | none => .error .missingNumber
  | some number => .ok (decide (number < vlanRange.min ∨ number > vlanRange.max))

/-- One member seen by the scan of `add_tagged`: `add` looks for an untagged member,
`edit` for one outside of the range. -/
def scanMember (vlanRange : Range) (cmd : Cmd) (port : Nat) (busy : Bool) (member : Member) :
    Except Failure Bool := do
  match cmd with
  | .add =>
      .ok (busy || (member.port == port && member.state == .untagged))
  | .edit =>
      if ← outside vlanRange member.id then
        .ok (busy || (member.port == port && member.state == .untagged))
      else
        .ok busy

def taggedBusy (vlanArr : VlanArr) (vlanRange : Range) (cmd : Cmd) (port : Nat) :
    Except Failure Bool :=
  (members vlanArr).foldlM (scanMember vlanRange cmd port) false

def addTagged (pairs : Pairs) (vlanArr : VlanArr) (vlanRange portRange : Range) (cmd : Cmd)
    (network : Network) : Except Failure Network := do
  let saved ← changePorts (taggedBusy vlanArr vlanRange cmd) (setPort cmd .tagged)
    portRange.numbers { lists := savedLists vlanArr vlanRange.numbers }
  .ok (writeSaved pairs vlanArr saved network)

def addNotMemberPorts (pairs : Pairs) (vlanArr : VlanArr) (vlanRange portRange : Range)
    (network : Network) : Except Failure Network := do
  let saved ← changePorts (fun _ => .ok false) removePort
    portRange.numbers { lists := savedLists vlanArr vlanRange.numbers }
  .ok (writeSaved pairs vlanArr saved network)

/-! ## Sections -/

def delete (id : Text) (network : Network) : Network :=
  network.erase id

/-- `ubus call uci add` with a name: a section of that name gets the new type and
keeps its options. -/
def addSection (type : SectionType) (name : Text) (network : Network) : Network :=
  match network.lookup name with
  | some found => network.insert name { found with type := type }
  | none => network.insert name { type := type }

def vlanSection (id : Nat) : Text :=
  ['v', 'l', 'a', 'n'] ++ tostring id

def switchSection (id : Nat) : Text :=
  switchName ++ tostring id

def deviceName (vlanId : Text) : Text :=
  switchName ++ '.' :: vlanId

/-- The options of a new device. -/
def vlanDevice (id : Nat) : DeviceOptions where
  name := some (deviceName (tostring id))
  type := some ['8', '0', '2', '1', 'q']
  ifname := some switchName
  vid := some (tostring id)
  macaddr := some
    ['C', '0', ':', '1', '1', ':', 'A', '6', ':', '0', '0', ':', '0', '0', ':', '0', '0']

/-- The option `.name` is the name that the section has already. -/
def uciAddVlan (id : Nat) (network : Network) : Network :=
  let bridged := addSection .bridgeVlan (vlanSection id) network
  let named := modifySection (vlanSection id)
    (fun found =>
      { found with
        device := some switchName
        vlan := some (tostring id)
        state := some ['e', 'n', 'a', 'b', 'l', 'e'] })
    bridged
  modifySection (switchSection id) (fun found => { found with deviceOptions := vlanDevice id })
    (addSection .device (switchSection id) named)

def mngtVlan (vlanList : VlanList) (vlanId ifName : Text) (network : Network) : Network :=
  if vlanList.ports.isNone then
    network
  else if vlanList.mngtVlan = true ∧ vlanList.ifname = some ifName then
    network
  else
    modifySection ifName (fun found => { found with device := some (deviceName vlanId) }) network

end TfortisPack.VlanCli
