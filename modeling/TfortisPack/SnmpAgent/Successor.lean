import TfortisPack.SnmpAgent.Descent

/-!
# The answers of the main loop

Every identifier that the main loop follows on its own account is a row of the
tree, and leads to the first object at or behind that row.  From this the
answer to a request is read off the place where its descent stopped.  The
tables are assumed to have a row, or none because asking is an error.
-/

namespace TfortisPack.SnmpAgent

/-- The loop behind the descent along `oid`. -/
def follow (device : Device) (input oid : Oid) (left : Nat) (resObj : ResObj) : Outcome :=
  mainLoop device input left ⟨(getOidElement oid).2, (getOidElement oid).1, resObj⟩

variable {device : Device} {input : Oid} {left : Nat} {resObj : ResObj}

theorem mainHandler_eq_follow (device : Device) (input : Oid) :
    mainHandler device input = follow device input input 49 ⟨[], none, none⟩ :=
  rfl

theorem mainLoop_inProgress (objArr : List Element) :
    mainLoop device input (left + 1) ⟨.inProgress, objArr, resObj⟩ =
      follow device input resObj.oid left resObj :=
  rfl

section NoResult

theorem result_failed (objArr : List Element) :
    (mainLoop device input left ⟨.failed, objArr, resObj⟩).result = none := by
  cases left <;> rfl

theorem result_oidOver (objArr : List Element) :
    (mainLoop device input left ⟨.oidOver, objArr, resObj⟩).result = none := by
  induction left with
  | zero =>
      rfl
  | succ left inductionHypothesis =>
      exact inductionHypothesis

/-- A descent that met nothing leaves the loop where it is. -/
theorem mainLoop_found_nothing (left : Nat) :
    mainLoop device input left ⟨.found, [], resObj⟩ = .whileNotStopped := by
  induction left with
  | zero =>
      rfl
  | succ left inductionHypothesis =>
      exact inductionHypothesis

theorem result_zero_of_not_scalar {objArr : List Element} {last : Element}
    (isLast : objArr.getLast? = some last) (notScalar : last.type ≠ .scalar) :
    (mainLoop device input left ⟨.zeroIndex, objArr, ⟨[], none, none⟩⟩).result = none := by
  have continues : zeroIndexBranch ⟨.zeroIndex, objArr, ⟨[], none, none⟩⟩ =
      .next ⟨.inProgress, objArr, ⟨[], none, none⟩⟩ := by
    simp [zeroIndexBranch, isLast, notScalar]
  cases left with
  | zero =>
      rfl
  | succ left =>
      cases left with
      | zero =>
          simp [mainLoop, iteration, continues, Outcome.result]
      | succ left =>
          have looped : mainLoop device input (left + 1 + 1)
              ⟨.zeroIndex, objArr, ⟨[], none, none⟩⟩ =
                mainLoop device input left ⟨.found, [], ⟨[], none, none⟩⟩ := by
            rw [mainLoop]
            simp only [iteration, continues, reduceCtorEq, if_false]
            rfl
          rw [looped, mainLoop_found_nothing]
          rfl

end NoResult

section Rows

theorem mainLoop_ok (objArr : List Element) :
    mainLoop device input left ⟨.ok, objArr, resObj⟩ = .sent .ok resObj := by
  cases left <;> rfl

theorem mainLoop_found {objArr : List Element} (many : 1 < objArr.length) :
    mainLoop device input (left + 1) ⟨.found, objArr, resObj⟩ =
      match getNextRequestHandler device objArr with
      | none => .error
      | some (status, answer) => mainLoop device input left ⟨status, objArr, answer⟩ := by
  rw [mainLoop]
  simp only [iteration, foundBranch, reduceCtorEq, if_false, if_pos many]
  cases getNextRequestHandler device objArr <;> rfl

/-- Tables have a row, or asking for one is an error. -/
def Populated (device : Device) : Prop :=
  ∀ table : Table, table.rows device ≠ some 0

theorem getOidElement_scalar (list : ScalarList) {number : Nat}
    (named : Names list.count number) :
    getOidElement (list.oid ++ [number]) =
      ([switchRow, pswRow, list.part.row, list.row, scalarRow list.oid number], .found) := by
  rw [getOidElement_scalarList, descend_scalars_cons _ _ named]
  rfl

/-- A scalar that ends `obj_arr` is answered, whatever stands before it. -/
theorem result_scalar (list : ScalarList) {number : Nat} (named : Names list.count number)
    {objArr : List Element} (below : objArr ≠ []) :
    (mainLoop device input (left + 1)
        ⟨.found, objArr ++ [scalarRow list.oid number], resObj⟩).result =
      some (list.oid ++ [number, 0]) := by
  obtain ⟨⟨status, answer⟩, answered, isOk⟩ :=
    Option.map_eq_some_iff.mp (getResult_scalar device list named.1 named.2)
  obtain ⟨rfl, isScalar⟩ := Prod.mk.inj isOk
  have many : 1 < (objArr ++ [scalarRow list.oid number]).length := by
    rw [List.length_append, List.length_singleton]
    have positive := List.length_pos_iff.mpr below
    omega
  have handled : getNextRequestHandler device (objArr ++ [scalarRow list.oid number]) =
      some (.ok, answer) := by
    obtain ⟨prev, isPrev⟩ := Option.ne_none_iff_exists'.mp
      (fun empty => below (List.getLast?_eq_none_iff.mp empty))
    rw [getNextRequestHandler, List.getLast?_concat, List.dropLast_concat, isPrev]
    exact answered
  rw [mainLoop_found many, handled]
  simp only [mainLoop_ok]
  rw [Outcome.result, isScalar]

theorem follow_scalar (left : Nat) (list : ScalarList) {number : Nat}
    (named : Names list.count number) :
    (follow device input (list.oid ++ [number]) (left + 1) resObj).result =
      some (list.oid ++ [number, 0]) := by
  rw [follow, getOidElement_scalar list named]
  exact result_scalar list named (List.cons_ne_nil switchRow [pswRow, list.part.row, list.row])

theorem one_lt_length_toRow_append (table : Table) (more : List Element) :
    1 < (table.toRow ++ more).length := by
  simp only [Table.toRow, List.length_append, List.length_cons, List.length_nil]
  omega

theorem getLast?_toRow (table : Table) :
    table.toRow.getLast? = some (.node table.tableRow) := by
  simp [Table.toRow]

theorem getNextRequestHandler_column (table : Table) (number : Nat) :
    getNextRequestHandler device (table.toRow ++ [columnRow table number]) =
      getResult device (table.rowOid ++ [number]) 1 := by
  rw [getNextRequestHandler, List.getLast?_concat, List.dropLast_concat, getLast?_toRow]
  rfl

theorem getNextRequestHandler_index (table : Table) (number index : Nat) :
    getNextRequestHandler device (table.toRow ++ [columnRow table number, .index index]) =
      getResult device (table.rowOid ++ [number]) (index + 1) := by
  have split : table.toRow ++ [columnRow table number, .index index] =
      table.toRow ++ [columnRow table number] ++ [.index index] := by
    simp
  rw [split, getNextRequestHandler, List.getLast?_concat, List.dropLast_concat,
    List.getLast?_concat]
  rfl

theorem follow_column (left : Nat) (populated : Populated device) (table : Table) {number : Nat}
    (named : Names table.columnCount number) :
    (follow device input (table.rowOid ++ [number]) (left + 1) resObj).result =
      (table.rows device).map fun _ => table.rowOid ++ [number, 1] := by
  have answer := getResult_column device table named.1 named.2 (Nat.le_refl 1)
  rw [follow, getOidElement_column table named,
    mainLoop_found (one_lt_length_toRow_append table _), getNextRequestHandler_column]
  cases reported : table.rows device with
  | none =>
      rw [reported] at answer
      rw [Option.map_eq_none_iff.mp answer]
      rfl
  | some count =>
      have positive : 1 ≤ count := by
        have nonzero := populated table
        rw [reported] at nonzero
        exact Nat.one_le_iff_ne_zero.mpr fun zero => nonzero (by rw [zero])
      rw [reported, Option.map_some, if_pos positive] at answer
      obtain ⟨⟨status, found⟩, answered, isOk⟩ := Option.map_eq_some_iff.mp answer
      obtain ⟨rfl, isCell⟩ := Prod.mk.inj isOk
      rw [answered]
      simp only [mainLoop_ok]
      rw [Outcome.result, isCell]
      rfl

/-- The first cell of a table. -/
def Table.first (device : Device) (table : Table) : Option Oid :=
  (table.rows device).map fun _ => table.rowOid ++ [1, 1]

theorem follow_table (left : Nat) (populated : Populated device) (table : Table) :
    (follow device input table.oid (left + 7) resObj).result = table.first device := by
  have reached : ∃ answer, follow device input table.oid (left + 7) resObj =
      follow device input (table.rowOid ++ [1]) (left + 1) answer := by
    cases table <;> exact ⟨_, rfl⟩
  obtain ⟨answer, same⟩ := reached
  have named : Names table.columnCount 1 := by
    cases table <;> decide
  rw [same, follow_column left populated table named]
  rfl

end Rows

section Lists

/-- The first object at or behind an element of `configPSW` or `statusPSW`. -/
def firstFrom (device : Device) : Part → Nat → Option Oid
  | .config, 1 => Table.autoRestart.first device
  | .config, 2 => Table.autoRestart.first device
  | .config, 3 => Table.portPoe.first device
  | .config, 4 => some [3, 2, 1, 4, 1, 0]
  | .status, 1 => some [3, 2, 2, 1, 1, 0]
  | .status, 2 => Table.inputStatus.first device
  | .status, 3 => some [3, 2, 2, 3, 1, 0]
  | .status, 4 => Table.poeStatus.first device
  | .status, 5 => Table.poeStatus.first device
  | .status, 6 => Table.autoRestartErrors.first device
  | .status, 7 => Table.sfpStatus.first device
  | .status, 8 => some [3, 2, 2, 8, 1, 0]
  | _, _ => none

/-- The first object behind an element and all that is below it. -/
def firstAfter (device : Device) (part : Part) (number : Nat) : Option Oid :=
  if number + 1 ≤ part.count then
    firstFrom device part (number + 1)
  else
    match part with
    | .config => firstFrom device .status 1
    | .status => none

theorem follow_firstScalar (left : Nat) (list : ScalarList) :
    (follow device input list.oid (left + 3) resObj).result = some (list.oid ++ [1, 0]) := by
  have reached : ∃ answer, follow device input list.oid (left + 3) resObj =
      follow device input (list.oid ++ [1]) (left + 1) answer := by
    cases list <;> exact ⟨_, rfl⟩
  obtain ⟨answer, same⟩ := reached
  have named : Names list.count 1 := by
    cases list <;> decide
  rw [same, follow_scalar left list named]

theorem follow_first (left : Nat) (populated : Populated device) (part : Part) {number : Nat}
    (named : Names part.count number) :
    (follow device input [3, 2, part.number, number] (left + 9) resObj).result =
      firstFrom device part number := by
  obtain ⟨positive, within⟩ := named
  cases part with
  | config =>
      have bound : number ≤ 4 := within
      interval_cases number
      · -- the gap leads to the table behind it
        exact follow_table left populated .autoRestart
      · exact follow_table (left + 2) populated .autoRestart
      · exact follow_table (left + 2) populated .portPoe
      · exact follow_firstScalar (left + 6) .outState
  | status =>
      have bound : number ≤ 8 := within
      interval_cases number
      · exact follow_firstScalar (left + 6) .upsStatus
      · exact follow_table (left + 2) populated .inputStatus
      · exact follow_firstScalar (left + 6) .fwStatus
      · exact follow_table left populated .poeStatus
      · exact follow_table (left + 2) populated .poeStatus
      · exact follow_table left populated .autoRestartErrors
      · exact follow_table (left + 2) populated .sfpStatus
      · exact follow_firstScalar (left + 6) .sensor

theorem overListBranch_eq (part : Part) (number : Nat) (rest : Oid) (more : List Element) :
    overListBranch (3 :: 2 :: part.number :: number :: rest)
        ⟨.overList, switchRow :: pswRow :: part.row :: more, resObj⟩ =
      if number + 1 > part.count then
        if part.number + 1 > 2 then
          .leave ⟨.failed, switchRow :: pswRow :: part.row :: more, resObj⟩
        else
          .next ⟨.inProgress, switchRow :: pswRow :: part.row :: more,
            { resObj with oid := [3, 2, part.number + 1] }⟩
      else
        .next ⟨.inProgress, switchRow :: pswRow :: part.row :: more,
          { resObj with oid := [3, 2, part.number, number + 1] }⟩ := by
  have third : part.row.thirdLength = some part.count := by
    cases part <;> rfl
  have second : pswRow.thirdLength = some 2 := rfl
  simp [overListBranch, third, second, bump]

/-- Past a list below `psw`, the loop goes on behind the fourth component of
the request. -/
theorem result_overList (left : Nat) (populated : Populated device) (part : Part) (number : Nat)
    (rest : Oid) (more : List Element) :
    (mainLoop device (3 :: 2 :: part.number :: number :: rest) (left + 13)
        ⟨.overList, switchRow :: pswRow :: part.row :: more, resObj⟩).result =
      firstAfter device part number := by
  rw [mainLoop]
  simp only [reduceCtorEq, if_false, iteration, overListBranch_eq]
  by_cases inPart : number + 1 ≤ part.count
  · have named : Names part.count (number + 1) := ⟨by omega, inPart⟩
    rw [if_neg (by omega)]
    simp only [firstAfter, if_pos inPart]
    exact follow_first (left + 2) populated part named
  · rw [if_pos (by omega)]
    simp only [firstAfter, if_neg inPart]
    cases part with
    | config =>
        have reached : ∃ answer, mainLoop device (3 :: 2 :: 1 :: number :: rest) (left + 12)
            ⟨.inProgress, switchRow :: pswRow :: Part.config.row :: more,
              { resObj with oid := [3, 2, 2] }⟩ =
            follow device (3 :: 2 :: 1 :: number :: rest) [3, 2, 2, 1] (left + 9) answer :=
          ⟨_, rfl⟩
        obtain ⟨answer, same⟩ := reached
        apply (congrArg Outcome.result same).trans
        exact follow_first left populated .status (show Names 8 1 by decide)
    | status =>
        rfl

end Lists

end TfortisPack.SnmpAgent
