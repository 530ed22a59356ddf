import TfortisPack.SnmpAgent.SnmpBase

/-!
# GET-NEXT requests

`get_OidElement` follows a request through the object tree and leaves the rows
it met in `obj_arr`.  `GET_NEXT_requestHandler` answers from the last of them,
or names an identifier to follow next.  The loop of `main_handler` alternates
between the two, at most fifty times, and has a branch of its own for running
past a list, past a table's rows, and for a component zero.
-/

namespace TfortisPack.SnmpAgent

inductive Status where
  | ok
  | inProgress
  | found
  | overList
  | overIndex
  | zeroIndex
  | oidOver
  | notDefined
  | failed
  deriving Repr, DecidableEq

/-- What ubus and the i2c module report. -/
structure Device where
  /-- the sections of the autorestart configuration, two of which are no ports -/
  arSections : Nat
  /-- the sections of the port configuration, two of which are no ports -/
  poeSections : Nat
  /-- the ports of the PoE status -/
  poePorts : Nat
  /-- the ports of the autorestart status -/
  arPorts : Nat
  /-- the length of `i2c.inputStatus_list`, or nil: `i2c_module.lua` has no
  such field -/
  inputs : Option Nat
  /-- the value of an object at an index that is in range -/
  value : MibObject → Nat → String

section Values

/-- An index against the number of ports. -/
def portStatus (inRange : Bool) (index : Nat) : Status :=
  if inRange = false then .overIndex
  else if index < 1 then .zeroIndex
  else .ok

/-- The status of `i2c_handler`; nil where it raises an error. -/
def i2cHandler (device : Device) (mibObj : MibObject) (index : Nat) : Option Status :=
  if mibObj.name = "inputState" ∨ mibObj.name = "inputType" ∨ mibObj.name = "inputAlarm" ∨
      mibObj.name = "inputIndex" then
    match device.inputs with
    | none => none
    | some count => some (if index > count then .overIndex else .ok)
  else if mibObj.name = "outStatePSW" then
    some (if index > 1 then .overIndex else .ok)
  else
    some .ok

/-- `snmp_module.main_handler`, which picks the handler of the object. -/
def valueStatus (device : Device) (mibObj : MibObject) (index : Nat) : Option Status :=
  match mibObj.ubusType with
  | .i2c => i2cHandler device mibObj index
  | .poeStatus => some (portStatus (index ≤ device.poePorts) index)
  | .poeConfig => some (portStatus (index + 2 ≤ device.poeSections) index)
  | .arStatus => some (portStatus (index ≤ device.arPorts) index)
  | .arConfig => some (portStatus (index + 2 ≤ device.arSections) index)
  | .fw => some (if index > 1 then .overIndex else .ok)
  | .spf => some (if index ≤ 2 then .ok else .overIndex)
  | .nd => some .failed

def getMibObj (oid : Oid) : Option MibObject :=
  mibList.lookup oid

/-- `res_obj`.  An identifier that is the empty string has no components. -/
structure ResObj where
  oid : Oid
  mibObj : Option MibObject
  res : Option String

/-- `getResult` and the assignments to `res_obj` behind it. -/
def getResult (device : Device) (oid : Oid) (index : Nat) : Option (Status × ResObj) :=
  match getMibObj oid with
  | none => some (.inProgress, ⟨oid ++ [index], none, none⟩)
  | some mibObj =>
      if mibObj.nodetype = .column ∨ mibObj.nodetype = .scalar then
        (valueStatus device mibObj index).map fun status =>
          (status, ⟨oid ++ [index], some mibObj,
            if status = .ok then some (device.value mibObj index) else none⟩)
      else
        some (.inProgress, ⟨oid ++ [index], some mibObj, none⟩)

end Values

section Descent

/-- An element of `obj_arr`: a row of the tables, or the index behind a column. -/
inductive Element where
  | node (row : Node)
  | index (component : Nat)

namespace Element

def type : Element → NodeType
  | node row => row.type
  | index _ => .index

/-- The components that `get_oidArr` finds in the first field. -/
def oid : Element → Oid
  | node row => row.oid
  | index _ => []

/-- The length operator on the third field, an empty string for an index. -/
def thirdLength : Element → Option Nat
  | node row => row.thirdLength
  | index _ => some 0

end Element

/-- `tableHandler`: the one row in the third field, if the component at the
position (counted from one) is that row's. -/
def tableHandler (component : Nat) (row : Node) (position : Nat) : Option Node :=
  match row with
  | .holder _ child _ => if child.oid[position - 1]? = some component then some child else none
  | _ => none

/-- `get_OidElement`, from the position `position` on. -/
def descend (oidArr : Oid) : List Node → List Element → Nat → Oid → List Element × Status
  | _, objArr, _, [] => (objArr, .found)
  | current, objArr, position, component :: rest =>
      if component > current.length then
        (objArr, .overList)
      else if component = 0 then
        (objArr, .zeroIndex)
      else
        match current[component - 1]? with
        | none => (objArr, .overList)
        | some row =>
            match row.type with
            | .table =>
                match rest with
                | [] => (objArr ++ [.node row], .found)
                | first :: rest =>
                    match tableHandler first row (position + 1) with
                    | none => (objArr ++ [.node row], .failed)
                    | some entry =>
                        match rest with
                        | [] => (objArr ++ [.node row, .node entry], .found)
                        | second :: rest =>
                            match tableHandler second entry (position + 2) with
                            | none => (objArr ++ [.node row, .node entry], .failed)
                            | some tableRow =>
                                descend oidArr tableRow.children
                                  (objArr ++ [.node row, .node entry, .node tableRow])
                                  (position + 3) rest
            | .column =>
                if oidArr.length - row.oid.length = 0 then
                  (objArr ++ [.node row], .found)
                else if oidArr.length - row.oid.length = 1 then
                  (objArr ++ [.node row, .index (rest.headD 0)], .found)
                else
                  (objArr ++ [.node row], .oidOver)
            | .list => descend oidArr row.children (objArr ++ [.node row]) (position + 1) rest
            | .notDefined => (objArr ++ [.node row], .found)
            | _ => descend oidArr current (objArr ++ [.node row]) (position + 1) rest

def getOidElement (oidArr : Oid) : List Element × Status :=
  descend oidArr mainList [] 1 oidArr

end Descent

section Requests

/-- An identifier with its last component increased, as `splitNextOid` and the
branches of the main loop build it. -/
def bump (oid : Oid) : Oid :=
  oid.dropLast ++ [oid.getLastD 0 + 1]

/-- `GET_NEXT_requestHandler` for two elements or more; nil is a runtime error. -/
def getNextRequestHandler (device : Device) (objArr : List Element) : Option (Status × ResObj) :=
  match objArr.getLast?, objArr.dropLast.getLast? with
  | some last, some prev =>
      match last.type with
      | .notDefined =>
          prev.thirdLength.map fun count =>
            if last.oid.getLastD 0 ≤ count then
              (.inProgress, ⟨bump last.oid, none, none⟩)
            else
              (.overList, ⟨[], none, none⟩)
      | .column => getResult device last.oid 1
      | .index =>
          match last with
          | .index component => getResult device prev.oid (component + 1)
          | .node _ => none
      | .scalar => getResult device last.oid 0
      | _ => some (.inProgress, ⟨last.oid ++ [1], none, none⟩)
  | _, _ => none

/-- The variables of `main_handler` that a later iteration reads. -/
structure LoopState where
  status : Status
  objArr : List Element
  resObj : ResObj

/-- The end of one iteration. -/
inductive Control where
  | next (state : LoopState)
  | leave (state : LoopState)
  | error

/-- The branch `oid_over_list`: the fourth component of the request is
increased, or the third. -/
def overListBranch (input : Oid) (state : LoopState) : Control :=
  let third : Control :=
    if 2 < input.length then
      match state.objArr[1]?.bind Element.thirdLength with
      | none => .error
      | some count =>
          if (input.take 3).getLastD 0 + 1 > count then
            .leave { state with status := .failed }
          else
            .next { state with
              status := .inProgress
              resObj := { state.resObj with oid := bump (input.take 3) } }
    else
      .next state
  if 3 < input.length then
    match state.objArr[2]?.bind Element.thirdLength with
    | none => .error
    | some count =>
        if (input.take 4).getLastD 0 + 1 > count then
          third
        else
          .next { state with
            status := .inProgress
            resObj := { state.resObj with oid := bump (input.take 4) } }
  else
    third

/-- The branch `over_index`: the request without its last component, and the
one before it increased. -/
def overIndexBranch (input : Oid) (state : LoopState) : Control :=
  if 1 < input.length then
    .next { state with
      status := .inProgress
      resObj := { state.resObj with oid := bump input.dropLast } }
  else
    .error

/-- The branch `zero_index`: the scalar behind the last one, or what follows
its list. -/
def zeroIndexBranch (state : LoopState) : Control :=
  match state.objArr.getLast? with
  | none => .error
  | some last =>
      if last.type = .scalar then
        match state.objArr.dropLast.getLast? with
        | none => .error
        | some prev =>
            match prev.thirdLength with
            | none => .error
            | some count =>
                .next { state with
                  status := .inProgress
                  resObj := { state.resObj with
                    oid := if last.oid.getLastD 0 + 1 ≤ count then bump last.oid
                      else bump prev.oid } }
      else
        .next { state with status := .inProgress }

/-- The branch `found` of a GET-NEXT request. -/
def foundBranch (device : Device) (state : LoopState) : Control :=
  if 1 < state.objArr.length then
    match getNextRequestHandler device state.objArr with
    | none => .error
    | some (status, resObj) => .next { state with status := status, resObj := resObj }
  else if state.objArr.length = 1 then
    .next { state with
      status := .inProgress
      resObj := { state.resObj with oid := [3, 1] } }
  else
    .next state

/-- One iteration behind the first. -/
def iteration (device : Device) (input : Oid) (state : LoopState) : Control :=
  match state.status with
  | .inProgress =>
      let found := getOidElement state.resObj.oid
      .next { state with objArr := found.1, status := found.2 }
  | .overList => overListBranch input state
  | .overIndex => overIndexBranch input state
  | .zeroIndex => zeroIndexBranch state
  | .found => foundBranch device state
  | .notDefined => .leave state
  | .failed => .leave state
  | .oidOver => .next state
  | .ok => .leave state

inductive Outcome where
  /-- `send_Get_result` behind the loop, with the status the loop ended in -/
  | sent (status : Status) (resObj : ResObj)
  | whileNotStopped
  | error

/-- The loop of `main_handler` with `left` iterations before its guard. -/
def mainLoop (device : Device) (input : Oid) : Nat → LoopState → Outcome
  | left, state =>
      if state.status = .ok then
        .sent .ok state.resObj
      else
        match left with
        | 0 => .whileNotStopped
        | left + 1 =>
            match iteration device input state with
            | .next state => mainLoop device input left state
            | .leave state => .sent state.status state.resObj
            | .error => .error

/-- `main_handler`.  The first of its fifty iterations follows the request. -/
def mainHandler (device : Device) (input : Oid) : Outcome :=
  let found := getOidElement input
  mainLoop device input 49 ⟨found.2, found.1, ⟨[], none, none⟩⟩

/-- The position of the first list in `main_list`. -/
def getFirstOidIndex : Nat :=
  mainList.findIdx (fun row => row.type = .list) + 1

/-- A GET-NEXT request; `tf_run_snmp` extends a request for the base itself. -/
def runSnmp (device : Device) (oid : Oid) : Outcome :=
  mainHandler device (if oid = [] then [getFirstOidIndex] else oid)

/-- The identifier of a result.  What is sent in another status than `OK` has
neither type nor value. -/
def Outcome.result : Outcome → Option Oid
  | .sent .ok resObj => some resObj.oid
  | _ => none

def getNext (device : Device) (oid : Oid) : Option Oid :=
  (runSnmp device oid).result

end Requests

end TfortisPack.SnmpAgent
