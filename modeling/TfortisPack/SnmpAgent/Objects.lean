import Mathlib.Tactic.IntervalCases
import TfortisPack.SnmpAgent.SnmpModule

/-!
# The objects behind the tables

Four lists of scalars and six tables hang below `configPSW` and `statusPSW`.
They are named here once, with what the value handlers answer for them and with
what `get_OidElement` finds at and below them.
-/

namespace TfortisPack.SnmpAgent

/-- The two lists below `psw`. -/
inductive Part where
  | config
  | status
  deriving Repr, DecidableEq

namespace Part

def number : Part → Nat
  | config => 1
  | status => 2

def list : Part → List Node
  | config => configPSWList
  | status => statusPSWList

def count : Part → Nat
  | config => 4
  | status => 8

def row (part : Part) : Element :=
  .node (.items [3, 2, part.number] part.list .list)

end Part

inductive ScalarList where
  | outState
  | upsStatus
  | fwStatus
  | sensor
  deriving Repr, DecidableEq

namespace ScalarList

def part : ScalarList → Part
  | outState => .config
  | upsStatus => .status
  | fwStatus => .status
  | sensor => .status

def number : ScalarList → Nat
  | outState => 4
  | upsStatus => 1
  | fwStatus => 3
  | sensor => 8

def count : ScalarList → Nat
  | outState => 1
  | upsStatus => 4
  | fwStatus => 1
  | sensor => 7

def oid (list : ScalarList) : Oid :=
  [3, 2, list.part.number, list.number]

def row (list : ScalarList) : Element :=
  .node (.items list.oid (scalars list.oid list.count) .list)

end ScalarList

inductive Table where
  | autoRestart
  | portPoe
  | inputStatus
  | poeStatus
  | autoRestartErrors
  | sfpStatus
  deriving Repr, DecidableEq

namespace Table

def part : Table → Part
  | autoRestart => .config
  | portPoe => .config
  | inputStatus => .status
  | poeStatus => .status
  | autoRestartErrors => .status
  | sfpStatus => .status

def number : Table → Nat
  | autoRestart => 2
  | portPoe => 3
  | inputStatus => 2
  | poeStatus => 5
  | autoRestartErrors => 6
  | sfpStatus => 7

/-- The identifier of the table itself, below the list `specialStatus` for one
of them. -/
def oid : Table → Oid
  | autoRestart => [3, 2, 1, 2]
  | portPoe => [3, 2, 1, 3]
  | inputStatus => [3, 2, 2, 2]
  | poeStatus => [3, 2, 2, 5]
  | autoRestartErrors => [3, 2, 2, 6, 1]
  | sfpStatus => [3, 2, 2, 7]

def columnCount : Table → Nat
  | autoRestart => 9
  | portPoe => 2
  | inputStatus => 4
  | poeStatus => 3
  | autoRestartErrors => 2
  | sfpStatus => 14

def rowOid (table : Table) : Oid :=
  table.oid ++ [1, 1]

/-- The rows that the device reports; nil where asking for one is an error. -/
def rows (device : Device) : Table → Option Nat
  | autoRestart => some (device.arSections - 2)
  | portPoe => some (device.poeSections - 2)
  | inputStatus => device.inputs
  | poeStatus => some device.poePorts
  | autoRestartErrors => some device.arPorts
  | sfpStatus => some 2

end Table

section Values

variable (device : Device)

theorem getResult_scalar (list : ScalarList) {number : Nat} (positive : 1 ≤ number)
    (within : number ≤ list.count) :
    (getResult device (list.oid ++ [number]) 0).map (fun answer => (answer.1, answer.2.oid)) =
      some (.ok, list.oid ++ [number, 0]) := by
  cases list with
  | outState =>
      have bound : number ≤ 1 := within
      interval_cases number
      rfl
  | upsStatus =>
      have bound : number ≤ 4 := within
      interval_cases number <;> rfl
  | fwStatus =>
      have bound : number ≤ 1 := within
      interval_cases number
      rfl
  | sensor =>
      have bound : number ≤ 7 := within
      interval_cases number <;> rfl

/-- The handler that serves the columns of a table. -/
def Table.ubusType : Table → UbusType
  | .autoRestart => .arConfig
  | .portPoe => .poeConfig
  | .inputStatus => .i2c
  | .poeStatus => .poeStatus
  | .autoRestartErrors => .arStatus
  | .sfpStatus => .spf

theorem getMibObj_column (table : Table) {number : Nat} (positive : 1 ≤ number)
    (within : number ≤ table.columnCount) :
    ∃ valueType name, getMibObj (table.rowOid ++ [number]) =
        some ⟨.column, valueType, table.ubusType, name⟩ ∧
      (table = .inputStatus → name = "inputState" ∨ name = "inputType" ∨ name = "inputAlarm" ∨
        name = "inputIndex") := by
  cases table with
  | autoRestart =>
      have bound : number ≤ 9 := within
      interval_cases number <;> exact ⟨_, _, rfl, by simp⟩
  | portPoe =>
      have bound : number ≤ 2 := within
      interval_cases number <;> exact ⟨_, _, rfl, by simp⟩
  | inputStatus =>
      have bound : number ≤ 4 := within
      interval_cases number <;> exact ⟨_, _, rfl, by simp⟩
  | poeStatus =>
      have bound : number ≤ 3 := within
      interval_cases number <;> exact ⟨_, _, rfl, by simp⟩
  | autoRestartErrors =>
      have bound : number ≤ 2 := within
      interval_cases number <;> exact ⟨_, _, rfl, by simp⟩
  | sfpStatus =>
      have bound : number ≤ 14 := within
      interval_cases number <;> exact ⟨_, _, rfl, by simp⟩

theorem portStatus_eq {inRange : Bool} {index : Nat} (positive : 1 ≤ index) :
    portStatus inRange index = if inRange = true then .ok else .overIndex := by
  have notZero : ¬index < 1 := by omega
  cases inRange <;> simp [portStatus, notZero]

/-- The handlers compare an index with the rows of its table. -/
theorem valueStatus_column (table : Table) {mibObj : MibObject} {index : Nat}
    (handler : mibObj.ubusType = table.ubusType)
    (names : table = .inputStatus → mibObj.name = "inputState" ∨ mibObj.name = "inputType" ∨
      mibObj.name = "inputAlarm" ∨ mibObj.name = "inputIndex")
    (positive : 1 ≤ index) :
    valueStatus device mibObj index =
      (table.rows device).map fun count => if index ≤ count then .ok else .overIndex := by
  cases table with
  | autoRestart =>
      have shifted : index + 2 ≤ device.arSections ↔ index ≤ device.arSections - 2 := by omega
      simp [valueStatus, handler, Table.ubusType, Table.rows, portStatus_eq positive, shifted]
  | portPoe =>
      have shifted : index + 2 ≤ device.poeSections ↔ index ≤ device.poeSections - 2 := by omega
      simp [valueStatus, handler, Table.ubusType, Table.rows, portStatus_eq positive, shifted]
  | inputStatus =>
      simp only [valueStatus, handler, Table.ubusType, i2cHandler, Table.rows]
      rw [if_pos (names rfl)]
      cases device.inputs with
      | none =>
          rfl
      | some count =>
          by_cases inRange : index ≤ count
          · simp [inRange, Nat.not_lt.mpr inRange]
          · simp [inRange, Nat.lt_of_not_le inRange]
  | poeStatus =>
      simp [valueStatus, handler, Table.ubusType, Table.rows, portStatus_eq positive]
  | autoRestartErrors =>
      simp [valueStatus, handler, Table.ubusType, Table.rows, portStatus_eq positive]
  | sfpStatus =>
      simp [valueStatus, handler, Table.ubusType, Table.rows]

/-- A cell of a table: its value, the end of the rows, or an error. -/
theorem getResult_column (table : Table) {number index : Nat} (positive : 1 ≤ number)
    (within : number ≤ table.columnCount) (fromOne : 1 ≤ index) :
    (getResult device (table.rowOid ++ [number]) index).map (fun answer => (answer.1, answer.2.oid)) =
      (table.rows device).map fun count =>
        (if index ≤ count then .ok else .overIndex, table.rowOid ++ [number, index]) := by
  obtain ⟨valueType, name, isMib, names⟩ := getMibObj_column table positive within
  have status := valueStatus_column device table
    (show (MibObject.mk .column valueType table.ubusType name).ubusType = table.ubusType from rfl)
    names fromOne
  simp only [getResult, isMib, status]
  simp [Function.comp_def]

end Values

end TfortisPack.SnmpAgent
