import Mathlib.Data.List.Basic

/-!
# The object tables of `snmp_base.lua`

The agent serves the objects below `1.3.6.1.4.1.42019`.  `main_list` is the
tree that `get_OidElement` descends; `mib_list` says where the value of a
scalar or a column comes from.  Object identifiers are written as their
components below the base, and the names in the tree, which nothing reads, are
left out.
-/

namespace TfortisPack.SnmpAgent

abbrev Oid := List Nat

inductive NodeType where
  | table
  | entry
  | row
  | column
  | scalar
  | list
  | notDefined
  | index
  deriving Repr, DecidableEq

/-- A row `{ oid, name, third, type }`.  The third field is nil, a list of
nodes, or one node. -/
inductive Node where
  | leaf (oid : Oid) (type : NodeType)
  | items (oid : Oid) (children : List Node) (type : NodeType)
  | holder (oid : Oid) (child : Node) (type : NodeType)

namespace Node

def oid : Node → Oid
  | leaf oid _ => oid
  | items oid _ _ => oid
  | holder oid _ _ => oid

def type : Node → NodeType
  | leaf _ type => type
  | items _ _ type => type
  | holder _ _ type => type

/-- The third field where the code reads it as a list. -/
def children : Node → List Node
  | leaf _ _ => []
  | items _ children _ => children
  | holder _ _ _ => []

/-- The length operator on the third field: a runtime error for nil, and four
for a node. -/
def thirdLength : Node → Option Nat
  | leaf _ _ => none
  | items _ children _ => some children.length
  | holder _ _ _ => some 4

end Node

inductive UbusType where
  | arConfig
  | poeConfig
  | i2c
  | fw
  | poeStatus
  | arStatus
  | spf
  | nd
  deriving Repr, DecidableEq

structure MibObject where
  nodetype : NodeType
  valueType : String
  ubusType : UbusType
  name : String
  deriving Repr, DecidableEq

section Tree

/-- The columns of a row, numbered from one. -/
def columns (row : Oid) (count : Nat) : List Node :=
  (List.range count).map fun number => .leaf (row ++ [number + 1]) .column

/-- The scalars of a list, numbered from one. -/
def scalars (list : Oid) (count : Nat) : List Node :=
  (List.range count).map fun number => .leaf (list ++ [number + 1]) .scalar

def autoRestartEntry : List Node :=
  columns [3, 2, 1, 2, 1, 1] 9

def portPoeEntry : List Node :=
  columns [3, 2, 1, 3, 1, 1] 2

def inputStatusEntry : List Node :=
  columns [3, 2, 2, 2, 1, 1] 4

def poeStatusEntry : List Node :=
  columns [3, 2, 2, 5, 1, 1] 3

def autoRestartErrorsEntry : List Node :=
  columns [3, 2, 2, 6, 1, 1, 1] 2

def sfpStatusEntry : List Node :=
  columns [3, 2, 2, 7, 1, 1] 14

/-- A table with its entry of `oid_table` and its row of `oid_Entry`. -/
def table (oid : Oid) (columns : List Node) : Node :=
  .holder oid (.holder (oid ++ [1]) (.items (oid ++ [1, 1]) columns .row) .entry) .table

def fwStatusList : List Node :=
  scalars [3, 2, 2, 3] 1

def specialStatusList : List Node :=
  [table [3, 2, 2, 6, 1] autoRestartErrorsEntry]

def upsStatusList : List Node :=
  scalars [3, 2, 2, 1] 4

def sensorList : List Node :=
  scalars [3, 2, 2, 8] 7

def outStatePSWList : List Node :=
  scalars [3, 2, 1, 4] 1

def configPSWList : List Node :=
  [.leaf [3, 2, 1, 1] .notDefined,
    table [3, 2, 1, 2] autoRestartEntry,
    table [3, 2, 1, 3] portPoeEntry,
    .items [3, 2, 1, 4] outStatePSWList .list]

def statusPSWList : List Node :=
  [.items [3, 2, 2, 1] upsStatusList .list,
    table [3, 2, 2, 2] inputStatusEntry,
    .items [3, 2, 2, 3] fwStatusList .list,
    .leaf [3, 2, 2, 4] .notDefined,
    table [3, 2, 2, 5] poeStatusEntry,
    .items [3, 2, 2, 6] specialStatusList .list,
    table [3, 2, 2, 7] sfpStatusEntry,
    .items [3, 2, 2, 8] sensorList .list]

def pswList : List Node :=
  [.items [3, 2, 1] configPSWList .list, .items [3, 2, 2] statusPSWList .list]

def switchList : List Node :=
  [.leaf [3, 1] .notDefined, .items [3, 2] pswList .list]

def mainList : List Node :=
  [.leaf [1] .notDefined, .leaf [2] .notDefined, .items [3] switchList .list,
    .leaf [4] .notDefined]

end Tree

/-- The scalars and columns of `mib_list`; those that no handler serves have
the type `nd`. -/
def mibList : List (Oid × MibObject) :=
  [([3, 2, 1, 1, 1], ⟨.scalar, "INTEGER", .nd, "comfortStartTime"⟩),
    ([3, 2, 1, 1, 2, 1, 1], ⟨.column, "INTEGER", .nd, "comfStIndex"⟩),
    ([3, 2, 1, 1, 2, 1, 2], ⟨.column, "INTEGER", .nd, "comfStState"⟩),
    ([3, 2, 1, 2, 1, 1, 1], ⟨.column, "INTEGER", .arConfig, "autoRstIndex"⟩),
    ([3, 2, 1, 2, 1, 1, 2], ⟨.column, "INTEGER", .arConfig, "autoRstMode"⟩),
    ([3, 2, 1, 2, 1, 1, 3], ⟨.column, "IpAddress", .arConfig, "autoRstDstIP"⟩),
    ([3, 2, 1, 2, 1, 1, 4], ⟨.column, "INTEGER", .arConfig, "autoRstSpeedDown"⟩),
    ([3, 2, 1, 2, 1, 1, 5], ⟨.column, "INTEGER", .arConfig, "autoRstSpeedUp"⟩),
    ([3, 2, 1, 2, 1, 1, 6], ⟨.column, "INTEGER", .arConfig, "autoReStartTimeOnHour"⟩),
    ([3, 2, 1, 2, 1, 1, 7], ⟨.column, "INTEGER", .arConfig, "autoReStartTimeOnMin"⟩),
    ([3, 2, 1, 2, 1, 1, 8], ⟨.column, "INTEGER", .arConfig, "autoReStartTimeOffHour"⟩),
    ([3, 2, 1, 2, 1, 1, 9], ⟨.column, "INTEGER", .arConfig, "autoReStartTimeOffMin"⟩),
    ([3, 2, 1, 3, 1, 1, 1], ⟨.column, "INTEGER", .poeConfig, "portPoeIndex"⟩),
    ([3, 2, 1, 3, 1, 1, 2], ⟨.column, "INTEGER", .poeConfig, "portPoeState"⟩),
    ([3, 2, 1, 4, 1], ⟨.scalar, "INTEGER", .i2c, "relay"⟩),
    ([3, 2, 2, 1, 1], ⟨.scalar, "INTEGER", .i2c, "upsModeAvalible"⟩),
    ([3, 2, 2, 1, 2], ⟨.scalar, "INTEGER", .i2c, "upsPwrSource"⟩),
    ([3, 2, 2, 1, 3], ⟨.scalar, "INTEGER", .i2c, "upsBatteryVoltage"⟩),
    ([3, 2, 2, 1, 4], ⟨.scalar, "INTEGER", .i2c, "upsBatteryTime"⟩),
    ([3, 2, 2, 2, 1, 1, 1], ⟨.column, "INTEGER", .i2c, "inputIndex"⟩),
    ([3, 2, 2, 2, 1, 1, 2], ⟨.column, "INTEGER", .i2c, "inputType"⟩),
    ([3, 2, 2, 2, 1, 1, 3], ⟨.column, "INTEGER", .i2c, "inputState"⟩),
    ([3, 2, 2, 2, 1, 1, 4], ⟨.column, "INTEGER", .i2c, "inputAlarm"⟩),
    ([3, 2, 2, 3, 1], ⟨.scalar, "STRING", .fw, "fwVersion"⟩),
    ([3, 2, 2, 5, 1, 1, 1], ⟨.column, "INTEGER", .poeStatus, "portPoeStatusIndex"⟩),
    ([3, 2, 2, 5, 1, 1, 2], ⟨.column, "INTEGER", .poeStatus, "portPoeStatusState"⟩),
    ([3, 2, 2, 5, 1, 1, 3], ⟨.column, "INTEGER", .poeStatus, "portPoeStatusPower"⟩),
    ([3, 2, 2, 6, 1, 1, 1, 1], ⟨.column, "INTEGER", .arStatus, "arPortIndex"⟩),
    ([3, 2, 2, 6, 1, 1, 1, 2], ⟨.column, "INTEGER", .arStatus, "arPortStatus"⟩),
    ([3, 2, 2, 6, 2, 1, 1, 1], ⟨.column, "INTEGER", .nd, "csPortIndex"⟩),
    ([3, 2, 2, 6, 2, 1, 1, 2], ⟨.column, "INTEGER", .nd, "csPortStatus"⟩),
    ([3, 2, 2, 7, 1, 1, 1], ⟨.column, "INTEGER", .spf, "portSfpIndex"⟩),
    ([3, 2, 2, 7, 1, 1, 2], ⟨.column, "INTEGER", .spf, "portSfpPresent"⟩),
    ([3, 2, 2, 7, 1, 1, 3], ⟨.column, "INTEGER", .spf, "portSfpSignalDetect"⟩),
    ([3, 2, 2, 7, 1, 1, 4], ⟨.column, "STRING", .spf, "portSfpVendor"⟩),
    ([3, 2, 2, 7, 1, 1, 5], ⟨.column, "STRING", .spf, "portSfpOui"⟩),
    ([3, 2, 2, 7, 1, 1, 6], ⟨.column, "STRING", .spf, "portSfpPartNumber"⟩),
    ([3, 2, 2, 7, 1, 1, 7], ⟨.column, "STRING", .spf, "portSfpRevision"⟩),
    ([3, 2, 2, 7, 1, 1, 8], ⟨.column, "INTEGER", .spf, "portSfpTemperature"⟩),
    ([3, 2, 2, 7, 1, 1, 9], ⟨.column, "INTEGER", .spf, "portSfpVoltage"⟩),
    ([3, 2, 2, 7, 1, 1, 10], ⟨.column, "INTEGER", .spf, "portSfpBiasCurrent"⟩),
    ([3, 2, 2, 7, 1, 1, 11], ⟨.column, "INTEGER", .spf, "portSfpTxOutPower"⟩),
    ([3, 2, 2, 7, 1, 1, 12], ⟨.column, "INTEGER", .spf, "portSfpTxOutPowerDb"⟩),
    ([3, 2, 2, 7, 1, 1, 13], ⟨.column, "INTEGER", .spf, "portSfpRxOutPower"⟩),
    ([3, 2, 2, 7, 1, 1, 14], ⟨.column, "INTEGER", .spf, "portSfpRxOutPowerDb"⟩),
    ([3, 2, 2, 8, 1], ⟨.scalar, "INTEGER", .i2c, "sensorConnected"⟩),
    ([3, 2, 2, 8, 2], ⟨.scalar, "INTEGER", .i2c, "sensorTemperature"⟩),
    ([3, 2, 2, 8, 3], ⟨.scalar, "INTEGER", .i2c, "sensorHumidity"⟩),
    ([3, 2, 2, 8, 4], ⟨.scalar, "INTEGER", .i2c, "sensorTemperatureMin"⟩),
    ([3, 2, 2, 8, 5], ⟨.scalar, "INTEGER", .i2c, "sensorTemperatureMax"⟩),
    ([3, 2, 2, 8, 6], ⟨.scalar, "INTEGER", .i2c, "sensorHumidityMin"⟩),
    ([3, 2, 2, 8, 7], ⟨.scalar, "INTEGER", .i2c, "sensorHumidityMax"⟩),
    ([4, 2, 2, 1, 1, 1], ⟨.column, "INTEGER", .nd, "inputIndexTLP"⟩),
    ([4, 2, 2, 1, 1, 2], ⟨.column, "INTEGER", .nd, "inputStateTLP"⟩),
    ([4, 2, 3, 1, 1, 1], ⟨.column, "INTEGER", .nd, "outIndex"⟩),
    ([4, 2, 3, 1, 1, 2], ⟨.column, "INTEGER", .nd, "outState"⟩),
    ([4, 2, 4, 1], ⟨.scalar, "OCTET STRING", .nd, "fwVersionTLP"⟩)]

end TfortisPack.SnmpAgent
