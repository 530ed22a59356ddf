import TfortisPack.SnmpAgent.Successor

/-!
# The answer to every request

A request stops in one of the lists of scalars, in one of the tables, or above
them.  Here is the answer in each of these places.
-/

namespace TfortisPack.SnmpAgent

variable {device : Device}

theorem getNext_eq_follow {oid : Oid} (notBase : oid ≠ []) :
    getNext device oid = (follow device oid oid 49 ⟨[], none, none⟩).result := by
  rw [getNext, runSnmp, if_neg notBase, mainHandler_eq_follow]

theorem getNext_of_descent {oid : Oid} {objArr : List Element} {status : Status}
    (notBase : oid ≠ []) (descended : getOidElement oid = (objArr, status)) :
    getNext device oid =
      (mainLoop device oid 49 ⟨status, objArr, ⟨[], none, none⟩⟩).result := by
  rw [getNext_eq_follow notBase, follow, descended]

/-- A request that the loop carries on to another identifier. -/
theorem getNext_of_reached {oid : Oid} {result : Option Oid} (target : Oid) (left : Nat)
    (notBase : oid ≠ [])
    (reached : ∃ answer, follow device oid oid 49 ⟨[], none, none⟩ =
      follow device oid target left answer)
    (answers : ∀ answer, (follow device oid target left answer).result = result) :
    getNext device oid = result := by
  obtain ⟨answer, same⟩ := reached
  rw [getNext_eq_follow notBase, same]
  exact answers answer

theorem follow_behind (left : Nat) (populated : Populated device) (part : Part) (number : Nat)
    (rest : Oid) (resObj : ResObj) :
    (follow device (3 :: 2 :: part.number :: number :: rest) [3, 2, part.number, number + 1]
        (left + 13) resObj).result =
      firstAfter device part number := by
  by_cases inPart : number + 1 ≤ part.count
  · have named : Names part.count (number + 1) := ⟨by omega, inPart⟩
    rw [follow_first (left + 4) populated part named]
    simp only [firstAfter, if_pos inPart]
  · rw [follow, getOidElement_over_part part (Nat.lt_of_not_le inPart)]
    exact result_overList left populated part number rest []

section Scalars

variable (list : ScalarList)

theorem scalarList_append_ne_nil (rest : Oid) : list.oid ++ rest ≠ [] := by
  simp [ScalarList.oid]

def ScalarList.toList (list : ScalarList) : List Element :=
  [switchRow, pswRow, list.part.row, list.row]

theorem getOidElement_run {run : Oid} (named : ∀ number ∈ run, Names list.count number)
    (rest : Oid) :
    ∃ oidArr behind, getOidElement (list.oid ++ (run ++ rest)) =
      descend oidArr (scalars list.oid list.count)
        (list.toList ++ run.map (scalarRow list.oid)) behind rest := by
  obtain ⟨behind, reached⟩ := descend_scalars_append (list.oid ++ (run ++ rest)) list.oid named
    list.toList 5 rest
  exact ⟨_, behind, by rw [getOidElement_scalarList]; exact reached⟩

theorem getNext_scalarList : getNext device list.oid = some (list.oid ++ [1, 0]) := by
  rw [getNext_eq_follow (by simp [ScalarList.oid])]
  exact follow_firstScalar 46 list

theorem getOidElement_scalar_run {front : Oid} {number : Nat}
    (namedFront : ∀ other ∈ front, Names list.count other) (named : Names list.count number) :
    getOidElement (list.oid ++ (front ++ [number])) =
      (list.toList ++ front.map (scalarRow list.oid) ++ [scalarRow list.oid number], .found) := by
  have namedRun : ∀ other ∈ front ++ [number], Names list.count other := by
    intro other member
    rcases List.mem_append.mp member with inFront | isLast
    · exact namedFront other inFront
    · rw [List.mem_singleton.mp isLast]
      exact named
  obtain ⟨oidArr, behind, reached⟩ := getOidElement_run list namedRun []
  rw [List.append_nil] at reached
  rw [reached, descend]
  simp

theorem getNext_run {front : Oid} {number : Nat}
    (namedFront : ∀ other ∈ front, Names list.count other) (named : Names list.count number) :
    getNext device (list.oid ++ (front ++ [number])) = some (list.oid ++ [number, 0]) := by
  rw [getNext_of_descent (scalarList_append_ne_nil list _)
    (getOidElement_scalar_run list namedFront named)]
  exact result_scalar list named (by simp [ScalarList.toList])

theorem getOidElement_zero_scalar {number : Nat} (named : Names list.count number) (rest : Oid) :
    getOidElement (list.oid ++ number :: 0 :: rest) =
      (list.toList ++ [scalarRow list.oid number], .zeroIndex) := by
  rw [getOidElement_scalarList, descend_scalars_cons _ _ named, descend_zero]
  rfl

/-- The zero of an instance leads to the next scalar, or behind the list. -/
theorem zeroIndexBranch_scalar (number : Nat) (resObj : ResObj) :
    zeroIndexBranch ⟨.zeroIndex, list.toList ++ [scalarRow list.oid number], resObj⟩ =
      .next ⟨.inProgress, list.toList ++ [scalarRow list.oid number],
        { resObj with
          oid := if number + 1 ≤ list.count then list.oid ++ [number + 1]
            else [3, 2, list.part.number, list.number + 1] }⟩ := by
  have third : list.row.thirdLength = some list.count := by
    simp [ScalarList.row, Element.thirdLength, Node.thirdLength, length_scalars]
  have isScalar : (scalarRow list.oid number).type = .scalar := rfl
  have oidOf : (scalarRow list.oid number).oid = list.oid ++ [number] := rfl
  have oidOfList : list.row.oid = list.oid := rfl
  simp [zeroIndexBranch, ScalarList.toList, third, isScalar, oidOf, oidOfList, bump]
  rfl

/-- The instance of a scalar leads to the scalar behind it. -/
theorem getNext_zero_scalar (populated : Populated device) {number : Nat}
    (named : Names list.count number) (rest : Oid) :
    getNext device (list.oid ++ number :: 0 :: rest) =
      if number + 1 ≤ list.count then some (list.oid ++ [number + 1, 0])
      else firstAfter device list.part list.number := by
  rw [getNext_of_descent (scalarList_append_ne_nil list _)
    (getOidElement_zero_scalar list named rest), mainLoop]
  simp only [reduceCtorEq, if_false, iteration, zeroIndexBranch_scalar]
  by_cases inList : number + 1 ≤ list.count
  · have namedNext : Names list.count (number + 1) := ⟨by omega, inList⟩
    rw [if_pos inList, if_pos inList]
    exact follow_scalar 46 list namedNext
  · rw [if_neg inList, if_neg inList]
    exact follow_behind 34 populated list.part list.number (number :: 0 :: rest) _

/-- A zero below more than one scalar: the length of nil is asked for. -/
theorem getNext_zero_run {front : Oid} {number : Nat} (several : front ≠ [])
    (named : ∀ other ∈ front ++ [number], Names list.count other) (rest : Oid) :
    getNext device (list.oid ++ ((front ++ [number]) ++ 0 :: rest)) = none := by
  have descended : getOidElement (list.oid ++ ((front ++ [number]) ++ 0 :: rest)) =
      (list.toList ++ front.map (scalarRow list.oid) ++ [scalarRow list.oid number],
        .zeroIndex) := by
    obtain ⟨oidArr, behind, reached⟩ := getOidElement_run list named (0 :: rest)
    rw [reached, descend_zero]
    simp
  obtain ⟨earlier, prev, rfl⟩ : ∃ earlier prev, front = earlier ++ [prev] :=
    ⟨_, _, (List.dropLast_append_getLast several).symm⟩
  have branch : zeroIndexBranch ⟨.zeroIndex,
      list.toList ++ (earlier ++ [prev]).map (scalarRow list.oid) ++ [scalarRow list.oid number],
      ⟨[], none, none⟩⟩ = .error := by
    have isScalar : (scalarRow list.oid number).type = .scalar := rfl
    have nil : (scalarRow list.oid prev).thirdLength = none := rfl
    have last : (list.toList ++ (earlier ++ [prev]).map (scalarRow list.oid)).getLast? =
        some (scalarRow list.oid prev) := by
      simp
    simp only [zeroIndexBranch, List.getLast?_concat, List.dropLast_concat, isScalar, if_true,
      last, nil]
  rw [getNext_of_descent (scalarList_append_ne_nil list _) descended, mainLoop]
  simp only [reduceCtorEq, if_false, iteration, branch]
  rfl

theorem getOidElement_over_list {run : Oid} {component : Nat}
    (named : ∀ number ∈ run, Names list.count number) (beyond : list.count < component)
    (rest : Oid) :
    getOidElement (list.oid ++ (run ++ component :: rest)) =
      (list.toList ++ run.map (scalarRow list.oid), .overList) := by
  obtain ⟨oidArr, behind, reached⟩ := getOidElement_run list named (component :: rest)
  rw [reached, descend_over _ (by rw [length_scalars]; exact beyond)]

/-- A component past the list, below any number of its scalars. -/
theorem getNext_over_list (populated : Populated device) {run : Oid} {component : Nat}
    (named : ∀ number ∈ run, Names list.count number) (beyond : list.count < component)
    (rest : Oid) :
    getNext device (list.oid ++ (run ++ component :: rest)) =
      firstAfter device list.part list.number := by
  rw [getNext_of_descent (scalarList_append_ne_nil list _)
    (getOidElement_over_list list named beyond rest)]
  exact result_overList 36 populated list.part list.number (run ++ component :: rest)
    (list.row :: run.map (scalarRow list.oid))

end Scalars

section Tables

variable (table : Table)

theorem table_append_ne_nil (rest : Oid) : table.oid ++ rest ≠ [] := by
  cases table <;> simp [Table.oid]

theorem row_append_ne_nil (rest : Oid) : table.rowOid ++ rest ≠ [] := by
  cases table <;> simp [Table.rowOid, Table.oid]

theorem getNext_table (populated : Populated device) :
    getNext device table.oid = table.first device := by
  have notBase := table_append_ne_nil table []
  rw [List.append_nil] at notBase
  rw [getNext_eq_follow notBase]
  exact follow_table 42 populated table

theorem getNext_entry (populated : Populated device) :
    getNext device (table.oid ++ [1]) = table.first device := by
  have named : Names table.columnCount 1 := by
    cases table <;> decide
  refine getNext_of_reached (table.rowOid ++ [1]) 45 (table_append_ne_nil table [1]) ?_
    (fun _ => follow_column 44 populated table named)
  cases table <;> exact ⟨_, rfl⟩

theorem getNext_row (populated : Populated device) :
    getNext device table.rowOid = table.first device := by
  have named : Names table.columnCount 1 := by
    cases table <;> decide
  have notBase := row_append_ne_nil table []
  rw [List.append_nil] at notBase
  refine getNext_of_reached (table.rowOid ++ [1]) 47 notBase ?_
    (fun _ => follow_column 46 populated table named)
  cases table <;> exact ⟨_, rfl⟩

theorem getNext_wrong_entry {first : Nat} (wrong : first ≠ 1) (rest : Oid) :
    getNext device (table.oid ++ first :: rest) = none := by
  rw [getNext_eq_follow (table_append_ne_nil table _), follow,
    getOidElement_wrong_entry table wrong]
  exact result_failed _

theorem getNext_wrong_row {second : Nat} (wrong : second ≠ 1) (rest : Oid) :
    getNext device (table.oid ++ 1 :: second :: rest) = none := by
  rw [getNext_eq_follow (table_append_ne_nil table _), follow,
    getOidElement_wrong_row table wrong]
  exact result_failed _

theorem table_in_part :
    (∃ tail, table.rowOid = 3 :: 2 :: table.part.number :: table.number :: tail) ∧
      ∃ more, table.toRow = switchRow :: pswRow :: table.part.row :: more := by
  cases table <;> exact ⟨⟨_, rfl⟩, ⟨_, rfl⟩⟩

theorem result_over_column (left : Nat) (populated : Populated device) (rest : Oid)
    (resObj : ResObj) :
    (mainLoop device (table.rowOid ++ rest) (left + 13)
        ⟨.overList, table.toRow, resObj⟩).result =
      firstAfter device table.part table.number := by
  obtain ⟨⟨tail, isRow⟩, more, isPath⟩ := table_in_part table
  rw [isRow, isPath]
  exact result_overList left populated table.part table.number (tail ++ rest) more

theorem getNext_over_column (populated : Populated device) {number : Nat}
    (beyond : table.columnCount < number) (rest : Oid) :
    getNext device (table.rowOid ++ number :: rest) =
      firstAfter device table.part table.number := by
  rw [getNext_of_descent (row_append_ne_nil table _) (getOidElement_over_column table beyond rest)]
  exact result_over_column table 36 populated (number :: rest) _

theorem getNext_column (populated : Populated device) {number : Nat}
    (named : Names table.columnCount number) :
    getNext device (table.rowOid ++ [number]) =
      (table.rows device).map fun _ => table.rowOid ++ [number, 1] := by
  rw [getNext_eq_follow (row_append_ne_nil table _)]
  exact follow_column 48 populated table named

theorem getNext_below_cell {number : Nat} (named : Names table.columnCount number)
    (index below : Nat) (rest : Oid) :
    getNext device (table.rowOid ++ number :: index :: below :: rest) = none := by
  rw [getNext_of_descent (row_append_ne_nil table _) (getOidElement_column table named _)]
  exact result_oidOver _

theorem getNext_past_rows {number index count : Nat} (named : Names table.columnCount number)
    (reported : table.rows device = some count) (past : ¬index + 1 ≤ count) :
    ∃ answer, getNext device (table.rowOid ++ [number, index]) =
      (mainLoop device (table.rowOid ++ [number, index]) 48
        ⟨.overIndex, table.toRow ++ [columnRow table number, .index index], answer⟩).result := by
  have answer := getResult_column device table named.1 named.2 (show 1 ≤ index + 1 by omega)
  rw [reported, Option.map_some, if_neg past] at answer
  obtain ⟨⟨status, found⟩, answered, isAnswer⟩ := Option.map_eq_some_iff.mp answer
  obtain ⟨rfl, -⟩ := Prod.mk.inj isAnswer
  refine ⟨found, ?_⟩
  rw [getNext_of_descent (row_append_ne_nil table _) (getOidElement_column table named [index]),
    mainLoop_found (one_lt_length_toRow_append table _), getNextRequestHandler_index, answered]

theorem bump_dropLast_cell (front : Oid) (number index : Nat) :
    bump (front ++ [number, index]).dropLast = front ++ [number + 1] := by
  have split : front ++ [number, index] = front ++ [number] ++ [index] := by
    simp
  rw [split, List.dropLast_concat]
  simp [bump]

theorem overIndexBranch_cell (number index : Nat) (objArr : List Element) (resObj : ResObj) :
    overIndexBranch (table.rowOid ++ [number, index]) ⟨.overIndex, objArr, resObj⟩ =
      .next ⟨.inProgress, objArr, { resObj with oid := table.rowOid ++ [number + 1] }⟩ := by
  have two : 1 < (table.rowOid ++ [number, index]).length := by
    rw [List.length_append]
    simp
  simp only [overIndexBranch, if_pos two, bump_dropLast_cell]

/-- A cell leads down its column, then to the next column, then out of the
table. -/
theorem getNext_cell (populated : Populated device) {number : Nat}
    (named : Names table.columnCount number) (index : Nat) :
    getNext device (table.rowOid ++ [number, index]) =
      (table.rows device).bind fun count =>
        if index + 1 ≤ count then some (table.rowOid ++ [number, index + 1])
        else if number + 1 ≤ table.columnCount then some (table.rowOid ++ [number + 1, 1])
        else firstAfter device table.part table.number := by
  have answer := getResult_column device table named.1 named.2 (show 1 ≤ index + 1 by omega)
  have descended : getOidElement (table.rowOid ++ [number, index]) =
      (table.toRow ++ [columnRow table number, .index index], .found) :=
    getOidElement_column table named [index]
  cases reported : table.rows device with
  | none =>
      rw [reported] at answer
      rw [getNext_of_descent (row_append_ne_nil table _) descended,
        mainLoop_found (one_lt_length_toRow_append table _), getNextRequestHandler_index,
        Option.map_eq_none_iff.mp answer]
      rfl
  | some count =>
      rw [Option.bind_some]
      by_cases inRows : index + 1 ≤ count
      · rw [reported, Option.map_some, if_pos inRows] at answer
        obtain ⟨⟨status, found⟩, answered, isAnswer⟩ := Option.map_eq_some_iff.mp answer
        obtain ⟨rfl, isCell⟩ := Prod.mk.inj isAnswer
        rw [if_pos inRows, getNext_of_descent (row_append_ne_nil table _) descended,
          mainLoop_found (one_lt_length_toRow_append table _), getNextRequestHandler_index, answered]
        simp only [mainLoop_ok]
        rw [Outcome.result, isCell]
      · obtain ⟨found, past⟩ := getNext_past_rows table named reported inRows
        rw [past, if_neg inRows, mainLoop]
        simp only [reduceCtorEq, if_false, iteration, overIndexBranch_cell]
        by_cases inColumns : number + 1 ≤ table.columnCount
        · have namedNext : Names table.columnCount (number + 1) := ⟨by omega, inColumns⟩
          have next : (follow device (table.rowOid ++ [number, index])
              (table.rowOid ++ [number + 1]) 46
              { found with oid := table.rowOid ++ [number + 1] }).result = _ :=
            follow_column 45 populated table namedNext
          rw [reported] at next
          rw [if_pos inColumns]
          exact next
        · rw [if_neg inColumns, mainLoop_inProgress, follow,
            getOidElement_over_column table (Nat.lt_of_not_le inColumns) []]
          exact result_over_column table 33 populated [number, index]
            { found with oid := table.rowOid ++ [number + 1] }

end Tables

section Above

theorem follow_psw (left : Nat) (populated : Populated device) (input : Oid) (resObj : ResObj) :
    (follow device input [3, 2] (left + 13) resObj).result = Table.autoRestart.first device := by
  have reached : ∃ answer, follow device input [3, 2] (left + 13) resObj =
      follow device input [3, 2, 1, 1] (left + 9) answer :=
    ⟨_, rfl⟩
  obtain ⟨answer, same⟩ := reached
  rw [same]
  exact follow_first left populated .config (show Names 4 1 by decide)

/-- One row of `main_list` leads below the list there, wherever it stands
itself. -/
theorem getNext_single (populated : Populated device) {oid : Oid} {row : Element}
    (notBase : oid ≠ []) (descended : getOidElement oid = ([row], .found)) :
    getNext device oid = Table.autoRestart.first device := by
  have reached : ∃ answer,
      mainLoop device oid 49 ⟨.found, [row], ⟨[], none, none⟩⟩ =
        follow device oid [3, 2] 45 answer :=
    ⟨_, rfl⟩
  obtain ⟨answer, same⟩ := reached
  rw [getNext_of_descent notBase descended, same]
  exact follow_psw 32 populated oid answer

theorem getNext_gap (populated : Populated device) {first : Nat}
    (isGap : first = 1 ∨ first = 2 ∨ first = 4) (rest : Oid) :
    getNext device (first :: rest) = Table.autoRestart.first device := by
  rcases isGap with rfl | rfl | rfl
  · exact getNext_single populated (List.cons_ne_nil 1 rest) rfl
  · exact getNext_single populated (List.cons_ne_nil 2 rest) rfl
  · exact getNext_single populated (List.cons_ne_nil 4 rest) rfl

theorem getNext_switch (populated : Populated device) :
    getNext device [3] = Table.autoRestart.first device :=
  getNext_single populated (List.cons_ne_nil 3 []) rfl

/-- The base itself is extended to the first list of `main_list`. -/
theorem getNext_base : getNext device [] = getNext device [3] := by
  have first : getFirstOidIndex = 3 := by decide
  simp [getNext, runSnmp, first]

theorem getNext_switch_gap (populated : Populated device) (rest : Oid) :
    getNext device (3 :: 1 :: rest) = Table.autoRestart.first device := by
  refine getNext_of_reached [3, 2] 47 (List.cons_ne_nil 3 (1 :: rest)) ?_
    (follow_psw 34 populated (3 :: 1 :: rest))
  exact ⟨_, rfl⟩

theorem getNext_psw (populated : Populated device) :
    getNext device [3, 2] = Table.autoRestart.first device := by
  rw [getNext_eq_follow (List.cons_ne_nil _ _)]
  exact follow_psw 36 populated _ _

theorem getNext_part (populated : Populated device) (part : Part) :
    getNext device [3, 2, part.number] = firstFrom device part 1 := by
  have named : Names part.count 1 := by
    cases part <;> decide
  refine getNext_of_reached [3, 2, part.number, 1] 47 (List.cons_ne_nil 3 [2, part.number]) ?_
    (fun _ => follow_first 38 populated part named)
  cases part <;> exact ⟨_, rfl⟩

/-- The gaps below `configPSW` and `statusPSW` are passed over. -/
theorem getNext_part_gap (populated : Populated device) {part : Part} {number : Nat}
    (isGap : part = .config ∧ number = 1 ∨ part = .status ∧ number = 4) (rest : Oid) :
    getNext device (3 :: 2 :: part.number :: number :: rest) = firstAfter device part number := by
  refine getNext_of_reached [3, 2, part.number, number + 1] 47
    (List.cons_ne_nil 3 (2 :: part.number :: number :: rest)) ?_
    (follow_behind 34 populated part number rest)
  rcases isGap with ⟨rfl, rfl⟩ | ⟨rfl, rfl⟩
  · exact ⟨_, rfl⟩
  · exact ⟨_, rfl⟩

theorem getNext_special (populated : Populated device) :
    getNext device [3, 2, 2, 6] = Table.autoRestartErrors.first device := by
  rw [getNext_eq_follow (List.cons_ne_nil _ _)]
  exact follow_first 40 populated .status (show Names 8 6 by decide)

theorem getNext_over_part (populated : Populated device) (part : Part) {number : Nat}
    (beyond : part.count < number) (rest : Oid) :
    getNext device (3 :: 2 :: part.number :: number :: rest) = firstAfter device part number := by
  rw [getNext_of_descent (List.cons_ne_nil _ _) (getOidElement_over_part part beyond rest)]
  exact result_overList 36 populated part number rest []

theorem getNext_over_special (populated : Populated device) (more : Nat) (rest : Oid) :
    getNext device (3 :: 2 :: 2 :: 6 :: (more + 2) :: rest) = firstAfter device .status 6 := by
  have descended : getOidElement (3 :: 2 :: 2 :: 6 :: (more + 2) :: rest) =
      ([switchRow, pswRow, Part.status.row, .node (.items [3, 2, 2, 6] specialStatusList .list)],
        .overList) :=
    rfl
  rw [getNext_of_descent (List.cons_ne_nil _ _) descended]
  exact result_overList 36 populated .status 6 ((more + 2) :: rest) _

end Above

section Silence

theorem result_overList_short {input : Oid} {left : Nat} {objArr : List Element}
    {resObj : ResObj} (short : objArr.length ≤ 1) :
    (mainLoop device input left ⟨.overList, objArr, resObj⟩).result = none := by
  have third : objArr[2]? = none := List.getElem?_eq_none (by omega)
  have second : objArr[1]? = none := List.getElem?_eq_none (by omega)
  have branch : overListBranch input ⟨.overList, objArr, resObj⟩ = .error ∨
      overListBranch input ⟨.overList, objArr, resObj⟩ = .next ⟨.overList, objArr, resObj⟩ := by
    simp only [overListBranch, third, second, Option.bind_none]
    split
    · exact Or.inl rfl
    · split
      · exact Or.inl rfl
      · exact Or.inr rfl
  induction left with
  | zero =>
      rfl
  | succ left inductionHypothesis =>
      rw [mainLoop]
      simp only [reduceCtorEq, if_false, iteration]
      rcases branch with failed | stuck
      · rw [failed]
        rfl
      · rw [stuck]
        exact inductionHypothesis

theorem getNext_over_main (more : Nat) (rest : Oid) :
    getNext device ((more + 5) :: rest) = none := by
  have descended : getOidElement ((more + 5) :: rest) = ([], .overList) := rfl
  rw [getNext_of_descent (List.cons_ne_nil _ _) descended]
  exact result_overList_short (by simp)

theorem getNext_over_switch (more : Nat) (rest : Oid) :
    getNext device (3 :: (more + 3) :: rest) = none := by
  have descended : getOidElement (3 :: (more + 3) :: rest) = ([switchRow], .overList) := rfl
  rw [getNext_of_descent (List.cons_ne_nil _ _) descended]
  exact result_overList_short (by simp)

theorem getNext_over_psw (more : Nat) (rest : Oid) :
    getNext device (3 :: 2 :: (more + 3) :: rest) = none := by
  have descended : getOidElement (3 :: 2 :: (more + 3) :: rest) =
      ([switchRow, pswRow], .overList) := rfl
  rw [getNext_of_descent (List.cons_ne_nil _ _) descended]
  cases rest <;> rfl

theorem getNext_zero_main (rest : Oid) : getNext device (0 :: rest) = none :=
  rfl

/-- A descent that ends at a zero behind another row than a scalar. -/
def AtZero (input : Oid) : Prop :=
  ∃ objArr last, getOidElement input = (objArr, .zeroIndex) ∧ objArr.getLast? = some last ∧
    last.type ≠ .scalar

theorem atZero_switch (rest : Oid) : AtZero (3 :: 0 :: rest) :=
  ⟨_, switchRow, rfl, rfl, by decide⟩

theorem atZero_psw (rest : Oid) : AtZero (3 :: 2 :: 0 :: rest) :=
  ⟨_, pswRow, rfl, rfl, by decide⟩

theorem atZero_part (part : Part) (rest : Oid) :
    AtZero (3 :: 2 :: part.number :: 0 :: rest) := by
  have descended : getOidElement (3 :: 2 :: part.number :: 0 :: rest) =
      ([switchRow, pswRow, part.row], .zeroIndex) := by
    rw [getOidElement_part, descend_zero]
  exact ⟨_, part.row, descended, rfl, by cases part <;> decide⟩

theorem atZero_special (rest : Oid) : AtZero (3 :: 2 :: 2 :: 6 :: 0 :: rest) := by
  have descended : getOidElement (3 :: 2 :: 2 :: 6 :: 0 :: rest) =
      ([switchRow, pswRow, Part.status.row, .node (.items [3, 2, 2, 6] specialStatusList .list)],
        .zeroIndex) :=
    descend_zero _ specialStatusList _ 5 rest
  exact ⟨_, _, descended, rfl, by decide⟩

theorem atZero_list (list : ScalarList) (rest : Oid) : AtZero (list.oid ++ 0 :: rest) := by
  have descended : getOidElement (list.oid ++ 0 :: rest) = (list.toList, .zeroIndex) := by
    rw [getOidElement_scalarList, descend_zero]
    rfl
  exact ⟨_, list.row, descended, rfl, by cases list <;> decide⟩

theorem atZero_column (table : Table) (rest : Oid) : AtZero (table.rowOid ++ 0 :: rest) :=
  ⟨_, _, getOidElement_zero_column table rest, getLast?_toRow table,
    by simp [Table.tableRow, Element.type, Node.type]⟩

theorem getNext_atZero {oid : Oid} (atZero : AtZero oid) : getNext device oid = none := by
  obtain ⟨objArr, last, descended, isLast, notScalar⟩ := atZero
  have notBase : oid ≠ [] := by
    rintro rfl
    cases congrArg Prod.snd descended
  rw [getNext_of_descent notBase descended]
  exact result_zero_of_not_scalar isLast notScalar

end Silence

end TfortisPack.SnmpAgent
