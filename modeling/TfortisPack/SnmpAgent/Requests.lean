import TfortisPack.SnmpAgent.Successor

/-!
# GET, GET-NEXT and SET

All three requests go through the one loop of `main_handler`.  They differ in
the handler that the branch `found` calls; the branches that rewrite the
identifier do not look at the kind of request.
-/

namespace TfortisPack.SnmpAgent

/-- `setParam`, with what `tonumber` makes of its value. -/
structure SetParam where
  valueType : String
  value : String
  number : Option Rat

inductive Request where
  | get
  | getNext
  | set (setParam : SetParam)

/-- What a SET request changes: `tf_hwsys_ctrl relay set`. -/
structure Command where
  relay : String
  deriving Repr, DecidableEq

section Handlers

/-- `GET_requestHandler`; nil is a runtime error. -/
def getRequestHandler (device : Device) (objArr : List Element) : Option (Status × ResObj) :=
  match objArr.getLast? with
  | none => none
  | some last =>
      match last with
      | .index component =>
          objArr.dropLast.getLast?.bind fun prev => getResult device prev.oid component
      | .node row =>
          if row.type = .scalar then
            -- the identifier of a scalar is printed without the zero
            (getResult device row.oid 0).map fun answer =>
              (answer.1, { answer.2 with oid := row.oid })
          else
            some (.failed, ⟨[], none, none⟩)

/-- The status of `snmp_setPoeState`; nil is a runtime error, since `tf_poe_module`
has no `managePoE`. -/
def snmpSetPoeState (device : Device) (mibObj : MibObject) (portNum : Nat)
    (setParam : SetParam) : Option Status :=
  if mibObj.name = "portPoeState" then
    if device.poeSections < portNum + 2 then some .failed
    else if portNum < 1 then some .failed
    else if setParam.valueType ≠ "integer" ∧ setParam.valueType ≠ "INTEGER" then some .failed
    else
      match setParam.number with
      | none => some .failed
      | some poeState => if poeState < 1 ∨ poeState > 2 then some .ok else none
  else
    some .ok

/-- `snmp_setOutPutState`. -/
def snmpSetOutPutState (mibObj : MibObject) (setParam : SetParam) : List Command :=
  if mibObj.name = "relay" then
    if setParam.number = some 0 ∨ setParam.number = some 1 then
      if setParam.valueType = "integer" ∨ setParam.valueType = "INTEGER" then
        [⟨setParam.value⟩]
      else []
    else []
  else []

/-- `setValue`.  The status is nil where it is a text that `main_handler` does
not know, or nil. -/
def setValue (device : Device) (oid : Oid) (index : Nat) (setParam : SetParam) :
    Option (Option Status × List Command) :=
  match getMibObj oid with
  | none => none
  | some mibObj =>
      if mibObj.nodetype = .column ∨ mibObj.nodetype = .scalar then
        match mibObj.ubusType with
        | .poeConfig =>
            (snmpSetPoeState device mibObj index setParam).map fun status => (some status, [])
        | .i2c => some (none, snmpSetOutPutState mibObj setParam)
        | _ => some (none, [])
      else
        some (some .failed, [])

/-- `SET_requestHandler`.  For a scalar the status of `setValue` is dropped. -/
def setRequestHandler (device : Device) (setParam : SetParam) (objArr : List Element) :
    Option (Option Status × ResObj × List Command) :=
  match objArr.getLast? with
  | none => none
  | some last =>
      match last with
      | .index component =>
          objArr.dropLast.getLast?.bind fun prev =>
            (setValue device prev.oid component setParam).map fun answer =>
              (answer.1, ⟨prev.oid ++ [component], getMibObj prev.oid, none⟩, answer.2)
      | .node row =>
          if row.type = .scalar then
            (setValue device row.oid 0 setParam).map fun answer =>
              (none, ⟨[], none, none⟩, answer.2)
          else
            some (some .failed, ⟨[], none, none⟩, [])

/-- The branch `found`; nil is a runtime error. -/
def foundHandler (device : Device) (request : Request) (objArr : List Element)
    (resObj : ResObj) : Option (Option Status × ResObj × List Command) :=
  match request with
  | .get => (getRequestHandler device objArr).map fun answer => (some answer.1, answer.2, [])
  | .getNext =>
      match foundBranch device ⟨.found, objArr, resObj⟩ with
      | .next state => some (some state.status, state.resObj, [])
      | _ => none
  | .set setParam => setRequestHandler device setParam objArr

end Handlers

section Loop

/-- The loop of `main_handler` with `left` iterations before its guard. -/
def requestLoop (device : Device) (request : Request) (input : Oid) :
    Nat → Option Status → List Element → ResObj → Outcome × List Command
  | left, status, objArr, resObj =>
      if status = some .ok then
        (.sent .ok resObj, [])
      else
        match left with
        | 0 => (.whileNotStopped, [])
        | left + 1 =>
            match status with
            | none => requestLoop device request input left none objArr resObj
            | some .found =>
                match foundHandler device request objArr resObj with
                | none => (.error, [])
                | some (status, resObj, commands) =>
                    let later := requestLoop device request input left status objArr resObj
                    (later.1, commands ++ later.2)
            | some status =>
                match iteration device input ⟨status, objArr, resObj⟩ with
                | .next state =>
                    requestLoop device request input left (some state.status) state.objArr
                      state.resObj
                | .leave state => (.sent state.status state.resObj, [])
                | .error => (.error, [])

/-- `main_handler`. -/
def handleRequest (device : Device) (request : Request) (input : Oid) : Outcome × List Command :=
  let found := getOidElement input
  requestLoop device request input 49 (some found.2) found.1 ⟨[], none, none⟩

/-- What is printed in the status `OK`. -/
def Outcome.printed : Outcome → Option ResObj
  | .sent .ok resObj => some resObj
  | _ => none

/-- The loop ends by itself. -/
def Outcome.Finishes (outcome : Outcome) : Prop :=
  ∃ status resObj, outcome = .sent status resObj

end Loop

section Steps

variable {device : Device} {request : Request} {input : Oid}

theorem requestLoop_inProgress (left : Nat) (objArr : List Element) (resObj : ResObj) :
    requestLoop device request input (left + 1) (some .inProgress) objArr resObj =
      requestLoop device request input left (some (getOidElement resObj.oid).2)
        (getOidElement resObj.oid).1 resObj :=
  rfl

theorem requestLoop_oidOver (left : Nat) (objArr : List Element) (resObj : ResObj) :
    requestLoop device request input left (some .oidOver) objArr resObj =
      (.whileNotStopped, []) := by
  induction left with
  | zero =>
      rfl
  | succ left inductionHypothesis =>
      exact inductionHypothesis

theorem requestLoop_found {objArr : List Element} {resObj answer : ResObj}
    {status : Option Status} {commands : List Command}
    (handled : foundHandler device request objArr resObj = some (status, answer, commands))
    (left : Nat) :
    requestLoop device request input (left + 1) (some .found) objArr resObj =
      ((requestLoop device request input left status objArr answer).1,
        commands ++ (requestLoop device request input left status objArr answer).2) := by
  rw [requestLoop]
  simp only [Option.some.injEq, reduceCtorEq, if_false, handled]

theorem requestLoop_found_error {objArr : List Element} {resObj : ResObj}
    (raised : foundHandler device request objArr resObj = none) (left : Nat) :
    requestLoop device request input (left + 1) (some .found) objArr resObj = (.error, []) := by
  rw [requestLoop]
  simp only [Option.some.injEq, reduceCtorEq, if_false, raised]

/-- The branches that rewrite the identifier are those of a GET-NEXT request. -/
theorem requestLoop_iteration {status : Status} {objArr : List Element} {resObj : ResObj}
    (notOk : status ≠ .ok) (notFound : status ≠ .found) (left : Nat) :
    requestLoop device request input (left + 1) (some status) objArr resObj =
      match iteration device input ⟨status, objArr, resObj⟩ with
      | .next state =>
          requestLoop device request input left (some state.status) state.objArr state.resObj
      | .leave state => (.sent state.status state.resObj, [])
      | .error => (.error, []) := by
  cases status with
  | ok => exact absurd rfl notOk
  | found => exact absurd rfl notFound
  | _ => rfl

/-- For GET-NEXT the loop is the one above. -/
theorem requestLoop_getNext (left : Nat) (state : LoopState) :
    requestLoop device .getNext input left (some state.status) state.objArr state.resObj =
      (mainLoop device input left state, []) := by
  induction left generalizing state with
  | zero =>
      obtain ⟨status, objArr, resObj⟩ := state
      cases status <;> rfl
  | succ left inductionHypothesis =>
      obtain ⟨status, objArr, resObj⟩ := state
      by_cases isOk : status = .ok
      · subst isOk
        rfl
      · by_cases isFound : status = .found
        · subst isFound
          rw [mainLoop]
          simp only [reduceCtorEq, if_false, iteration]
          have shape : (∃ next, foundBranch device ⟨.found, objArr, resObj⟩ = .next next ∧
              next.objArr = objArr) ∨ foundBranch device ⟨.found, objArr, resObj⟩ = .error := by
            unfold foundBranch
            split
            · split
              · exact Or.inr rfl
              · exact Or.inl ⟨_, rfl, rfl⟩
            · split
              · exact Or.inl ⟨_, rfl, rfl⟩
              · exact Or.inl ⟨_, rfl, rfl⟩
          rcases shape with ⟨next, isNext, same⟩ | isError
          · have handled : foundHandler device .getNext objArr resObj =
                some (some next.status, next.resObj, []) := by
              simp only [foundHandler, isNext]
            rw [requestLoop_found handled, isNext]
            have later := inductionHypothesis next
            rw [same] at later
            rw [later]
            rfl
          · have raised : foundHandler device .getNext objArr resObj = none := by
              simp only [foundHandler, isError]
            rw [requestLoop_found_error raised, isError]
        · rw [requestLoop_iteration isOk isFound, mainLoop, if_neg isOk]
          cases iteration device input ⟨status, objArr, resObj⟩ with
          | next state => exact inductionHypothesis state
          | leave state => rfl
          | error => rfl

theorem handleRequest_getNext (device : Device) (input : Oid) :
    handleRequest device .getNext input = (mainHandler device input, []) :=
  requestLoop_getNext 49 ⟨(getOidElement input).2, (getOidElement input).1, ⟨[], none, none⟩⟩

end Steps

end TfortisPack.SnmpAgent
