import TfortisPack.SnmpAgent.Stuck

/-!
# When a request finishes

GET-NEXT is followed place by place.  Where the search ends at a table without
rows, all depends on the identifier with which the loop starts again: it comes
back to a table without rows, runs into a nil, or stops somewhere else.
-/

namespace TfortisPack.SnmpAgent

variable {device : Device} {input oid : Oid} {table : Table} {count : Nat}

theorem Lacks.cases (lacks : Lacks device table) :
    table.rows device = none ∨ table.rows device = some 0 := by
  match reported : table.rows device with
  | none => exact Or.inl rfl
  | some 0 => exact Or.inr rfl
  | some (count + 1) => exact absurd reported (lacks count)

theorem lacks_of_empty (empty : table.rows device = some 0) : Lacks device table := by
  intro count
  rw [empty]
  simp

section Endless

/-- A search for the first column of a table without rows is endless if the new
start is. -/
theorem Passes.endless_of_lacks (passes : Passes device input count oid (table.rowOid ++ [1]))
    (lacks : Lacks device table)
    (again : table.rows device = some 0 → Endless device input (bump input.dropLast)) :
    Endless device input oid := by
  rcases lacks.cases with missing | empty
  · exact passes.endless_table missing
  · exact (passes.overruns_table empty).endless (again empty)

/-- The loop goes round where the new start leads to a table without rows. -/
theorem Overruns.endless_again {target : Oid} (isTarget : bump input.dropLast = target)
    (again : Overruns device input count target) :
    Endless device input (bump input.dropLast) := by
  rw [← isTarget] at again
  exact again.circling again

theorem Passes.endless_again {target : Oid} (isTarget : bump input.dropLast = target)
    (passes : Passes device input count target (table.rowOid ++ [1]))
    (lacks : Lacks device table) : Endless device input (bump input.dropLast) := by
  rcases lacks.cases with missing | empty
  · rw [isTarget]
    exact passes.endless_table missing
  · exact (passes.overruns_table empty).endless_again isTarget

/-- Behind the last part there is no list whose length could be taken. -/
theorem endless_overPsw (long : 3 < input.length) : Endless device input [3, 2, 3] := by
  apply endless_of_error 0
  intro resObj
  have isState : startAt [3, 2, 3] resObj = ⟨.overList, [switchRow, pswRow], resObj⟩ := rfl
  refine ⟨_, rfl, by simp [isState], ?_⟩
  rw [isState]
  simp only [iteration, overListBranch, if_pos long]
  rfl

theorem passes_above (device : Device) (input : Oid) (above : Above oid) :
    ∃ count ≤ 16, Passes device input count oid (Table.autoRestart.rowOid ++ [1]) := by
  cases above with
  | gap isGap rest =>
      rcases isGap with rfl | rfl | rfl
      · exact ⟨16, by decide, fun _ => ⟨_, rfl⟩⟩
      · exact ⟨16, by decide, fun _ => ⟨_, rfl⟩⟩
      · exact ⟨16, by decide, fun _ => ⟨_, rfl⟩⟩
  | switch => exact ⟨16, by decide, fun _ => ⟨_, rfl⟩⟩
  | switchGap rest => exact ⟨14, by decide, fun _ => ⟨_, rfl⟩⟩
  | psw => exact ⟨12, by decide, fun _ => ⟨_, rfl⟩⟩
  | config => exact ⟨10, by decide, fun _ => ⟨_, rfl⟩⟩
  | configGap rest => exact ⟨8, by decide, fun _ => ⟨_, rfl⟩⟩

/-- With one or two components nothing is left to increase behind `main_list`. -/
theorem endless_overMain (short : input.length ≤ 2) : Endless device input [5] := by
  have stays : Passes device input 1 [5] [5] := by
    intro resObj
    refine ⟨resObj, ?_⟩
    have isState : startAt [5] resObj = ⟨.overList, [], resObj⟩ := rfl
    simp only [advance, isState, reduceCtorEq, if_false, iteration, overListBranch]
    rw [if_neg (by omega), if_neg (by omega)]
  exact stays.circling

theorem endless_again_of_above {target : Oid} (isTarget : bump input.dropLast = target)
    (above : Above target) (lacks : Lacks device .autoRestart) :
    Endless device input (bump input.dropLast) := by
  obtain ⟨count, -, passes⟩ := passes_above device input above
  exact passes.endless_again isTarget lacks

theorem endless_again_above (above : Above input) (notGap : input ≠ [3, 2, 1, 1])
    (lacks : Lacks device .autoRestart) :
    Endless device input (bump input.dropLast) := by
  cases above with
  | @gap first isGap rest =>
      rcases restart_cases [] first rest with ⟨rfl, target⟩ | ⟨last, rfl, target⟩ |
        ⟨-, later, target⟩
      · exact endless_again_of_above target (.gap (Or.inl rfl) []) lacks
      · rcases isGap with rfl | rfl | rfl
        · exact endless_again_of_above target (.gap (Or.inr (Or.inl rfl)) []) lacks
        · exact endless_again_of_above target .switch lacks
        · exact endless_overMain (by simp)
      · exact endless_again_of_above target (.gap isGap later) lacks
  | switch => exact endless_again_of_above rfl (.gap (Or.inl rfl) []) lacks
  | switchGap rest =>
      rcases restart_cases [3] 1 rest with ⟨rfl, target⟩ | ⟨last, rfl, target⟩ |
        ⟨-, later, target⟩
      · exact endless_again_of_above target (.gap (Or.inr (Or.inr rfl)) []) lacks
      · exact endless_again_of_above target .psw lacks
      · exact endless_again_of_above target (.switchGap later) lacks
  | psw => exact endless_again_of_above rfl (.gap (Or.inr (Or.inr rfl)) []) lacks
  | config =>
      apply endless_of_error 0
      intro resObj
      refine ⟨_, rfl, ?_, rfl⟩
      intro isOk
      cases isOk
  | configGap rest =>
      rcases restart_cases [3, 2, 1] 1 rest with ⟨rfl, target⟩ | ⟨last, rfl, target⟩ |
        ⟨-, later, target⟩
      · exact absurd rfl notGap
      · exact (passes_table .autoRestart).endless_again target lacks
      · exact endless_again_of_above target (.configGap later) lacks

theorem endless_above (above : Above input) (notGap : input ≠ [3, 2, 1, 1])
    (lacks : Lacks device .autoRestart) : Endless device input input := by
  obtain ⟨count, -, passes⟩ := passes_above device input above
  exact passes.endless_of_lacks lacks fun _ => endless_again_above above notGap lacks

theorem passes_statusGap (rest : Oid) :
    Passes device input 8 (3 :: 2 :: 2 :: 4 :: rest) (Table.poeStatus.rowOid ++ [1]) :=
  fun _ => ⟨_, rfl⟩

theorem endless_statusGap (rest : Oid) (lacks : Lacks device .poeStatus) :
    Endless device (3 :: 2 :: 2 :: 4 :: rest) (3 :: 2 :: 2 :: 4 :: rest) := by
  apply (passes_statusGap rest).endless_of_lacks lacks
  intro empty
  rcases restart_cases [3, 2, 2] 4 rest with ⟨rfl, target⟩ | ⟨last, rfl, target⟩ |
    ⟨-, later, target⟩
  · exact endless_overPsw (by simp)
  · exact (passes_table .poeStatus).endless_again target lacks
  · exact (passes_statusGap later).endless_again target lacks

theorem endless_special (lacks : Lacks device .autoRestartErrors) :
    Endless device [3, 2, 2, 6] [3, 2, 2, 6] := by
  have named : Names Part.status.count 6 := by decide
  obtain ⟨count, -, passes⟩ := exists_passes_tableAt device [3, 2, 2, 6] named rfl
  apply passes.endless_of_lacks lacks
  intro empty
  exact endless_overPsw (by simp)

theorem names_count (list : ScalarList) : Names list.count list.count := by
  cases list <;> decide

/-- The zero behind the last scalar of a list leads behind the list. -/
theorem passes_lastScalar (list : ScalarList) (rest : Oid) :
    Passes device input 2 (list.oid ++ list.count :: 0 :: rest)
      [3, 2, list.part.number, list.number + 1] := by
  intro resObj
  refine ⟨{ resObj with oid := [3, 2, list.part.number, list.number + 1] }, ?_⟩
  simp only [advance, startAt, getOidElement_zero_scalar list (names_count list) rest,
    reduceCtorEq, if_false, iteration, zeroIndexBranch_scalar, Nat.not_succ_le_self]

theorem endless_lastScalar (list : ScalarList) (rest : Oid) {next : Table}
    (isNext : nextTable list.part list.number = some next) (lacks : Lacks device next)
    (kept : rest.length = 1 → next.rows device = none) :
    Endless device (list.oid ++ list.count :: 0 :: rest)
      (list.oid ++ list.count :: 0 :: rest) := by
  obtain ⟨inPart, isTable⟩ := nextTable_inPart isNext
  have namedNext : Names list.part.count (list.number + 1) := ⟨by omega, inPart⟩
  obtain ⟨count, -, passes⟩ :=
    exists_passes_tableAt device (list.oid ++ list.count :: 0 :: rest) namedNext isTable
  apply ((passes_lastScalar list rest).trans passes).endless_of_lacks lacks
  intro empty
  rcases restart_cases (list.oid ++ [list.count]) 0 rest with ⟨rfl, target⟩ |
    ⟨last, rfl, target⟩ | ⟨-, later, target⟩
  · have isTarget : bump (list.oid ++ [list.count, 0]).dropLast = list.oid ++ [list.count + 1] := by
      simp [bump]
    obtain ⟨more, -, overruns⟩ := overruns_behind [list.count, 0]
      (getOidElement_over_list list (List.forall_mem_nil _) (Nat.lt_succ_self _) []) isNext empty
    exact overruns.endless_again isTarget
  · rw [kept rfl] at empty
    cases empty
  · have isTarget : bump (list.oid ++ list.count :: 0 :: rest).dropLast =
        list.oid ++ list.count :: 0 :: later := by
      simpa using target
    exact ((passes_lastScalar list later).trans passes).endless_again isTarget lacks

theorem endless_overList (list : ScalarList) {run : Oid} {component : Nat}
    (named : ∀ other ∈ run, Names list.count other) (beyond : list.count < component)
    (rest : Oid) {next : Table} (isNext : nextTable list.part list.number = some next)
    (lacks : Lacks device next)
    (kept : rest = [] → ∀ last, run.getLast? = some last → last + 1 ≤ list.count →
      next.rows device = none) :
    Endless device (list.oid ++ (run ++ component :: rest))
      (list.oid ++ (run ++ component :: rest)) := by
  rcases lacks.cases with missing | empty
  · exact endless_behind (run ++ component :: rest)
      (getOidElement_over_list list named beyond rest) isNext missing
  · have overruns {front : Oid} {past : Nat} (namedFront : ∀ other ∈ front, Names list.count other)
        (isPast : list.count < past) (back : Oid) :
        ∃ count ≤ 11, Overruns device (list.oid ++ (run ++ component :: rest)) count
          (list.oid ++ (front ++ past :: back)) :=
      overruns_behind (run ++ component :: rest)
        (getOidElement_over_list list namedFront isPast back) isNext empty
    obtain ⟨count, -, begins⟩ := overruns named beyond rest
    apply begins.endless
    rcases restart_cases (list.oid ++ run) component rest with ⟨rfl, target⟩ |
      ⟨last, rfl, target⟩ | ⟨-, later, target⟩
    · rw [List.append_assoc] at target
      rcases List.eq_nil_or_concat' run with rfl | ⟨front, last, rfl⟩
      · obtain ⟨inPart, isTable⟩ := nextTable_inPart isNext
        obtain ⟨more, -, again⟩ := overruns_rowAt ⟨by omega, inPart⟩ isTable empty
        exact again.endless_again (target.trans (by rw [List.append_nil]; rfl))
      · have past : list.count < last + 1 := by
          by_contra inList
          rw [kept rfl last List.getLast?_concat (Nat.le_of_not_lt inList)] at empty
          cases empty
        have namedFront : ∀ other ∈ front, Names list.count other := fun other member =>
          named other (List.mem_append_left [last] member)
        obtain ⟨more, -, again⟩ := overruns namedFront past []
        refine again.endless_again (target.trans ?_)
        rw [bump_append _ (by simp)]
        simp [bump]
    · obtain ⟨more, -, again⟩ := overruns named (Nat.lt_succ_of_lt beyond) []
      rw [List.append_assoc, List.append_assoc] at target
      exact again.endless_again target
    · obtain ⟨more, -, again⟩ := overruns named beyond later
      rw [List.append_assoc, List.append_assoc] at target
      exact again.endless_again target

theorem endless_missing (missing : table.rows device = none)
    (inside : oid = table.oid ∨ oid = table.oid ++ [1] ∨ oid = table.rowOid ∨
      (∃ number, Names table.columnCount number ∧ oid = table.rowOid ++ [number]) ∨
      ∃ number index, Names table.columnCount number ∧ oid = table.rowOid ++ [number, index]) :
    Endless device input oid := by
  have first : Endless device input (table.rowOid ++ [1]) :=
    (asks_first table).endless (names_one table) missing
  rcases inside with rfl | rfl | rfl | ⟨number, named, rfl⟩ | ⟨number, index, named, rfl⟩
  · exact (passes_table table).endless first
  · exact (passes_entry table).endless first
  · exact (passes_row table).endless first
  · exact (asks_column table named).endless named missing
  · exact (asks_cell table named index).endless named missing

theorem endless_statusTable (isStatus : table = .inputStatus ∨ table = .poeStatus)
    (lacks : Lacks device table) : Endless device table.oid table.oid := by
  apply (passes_table table).endless_of_lacks lacks
  intro empty
  rcases isStatus with rfl | rfl
  · exact endless_overPsw (by decide)
  · exact endless_overPsw (by decide)

/-- Below a table the loop goes on behind the row of its part. -/
theorem bump_table_oid {next : Table} (isNext : nextTable table.part table.number = some next)
    (lacks : Lacks device next) :
    bump (table.oid ++ [1]).dropLast = [3, 2, table.part.number, table.number + 1] := by
  rw [List.dropLast_concat]
  cases table with
  | autoRestartErrors =>
      cases isNext
      exact absurd rfl (lacks 1)
  | autoRestart | portPoe | inputStatus | poeStatus | sfpStatus => rfl

theorem endless_entry (lacks : Lacks device table) {next : Table}
    (isNext : nextTable table.part table.number = some next) (nextLacks : Lacks device next) :
    Endless device (table.oid ++ [1]) (table.oid ++ [1]) := by
  apply (passes_entry table).endless_of_lacks lacks
  intro empty
  obtain ⟨inPart, isTable⟩ := nextTable_inPart isNext
  have namedNext : Names table.part.count (table.number + 1) := ⟨by omega, inPart⟩
  obtain ⟨count, -, passes⟩ := exists_passes_tableAt device (table.oid ++ [1]) namedNext isTable
  exact passes.endless_again (bump_table_oid isNext nextLacks) nextLacks

theorem endless_cell (empty : table.rows device = some 0) {number : Nat}
    (named : Names table.columnCount (number + 1)) (positive : 1 ≤ number) (index : Nat) :
    Endless device (table.rowOid ++ [number, index]) (table.rowOid ++ [number, index]) := by
  have namedHere : Names table.columnCount number := ⟨positive, by have := named.2; omega⟩
  apply ((asks_cell table namedHere index).overruns namedHere empty (by omega)).endless
  exact ((asks_column table named).overruns named empty (by omega)).endless_again
    (bump_dropLast_cell _ _ _)

/-- Past the last column of a table the loop is past a list of its part. -/
theorem over_column_in_part (table : Table) {number : Nat} (beyond : table.columnCount < number)
    (rest back : Oid) :
    ∃ tail more,
      table.rowOid ++ back = 3 :: 2 :: table.part.number :: table.number :: tail ∧
        getOidElement (table.rowOid ++ number :: rest) =
          (switchRow :: pswRow :: table.part.row :: more, .overList) := by
  obtain ⟨⟨tail, isRow⟩, more, isPath⟩ := table_in_part table
  refine ⟨tail ++ back, more, by rw [isRow]; rfl, ?_⟩
  rw [getOidElement_over_column table beyond rest, isPath]

theorem endless_again_over_column {number : Nat} (beyond : table.columnCount < number)
    {rest back : Oid} {next : Table} (isNext : nextTable table.part table.number = some next)
    (lacks : Lacks device next)
    (isTarget : bump (table.rowOid ++ back).dropLast = table.rowOid ++ number :: rest) :
    Endless device (table.rowOid ++ back) (bump (table.rowOid ++ back).dropLast) := by
  obtain ⟨tail, more, isInput, descended⟩ := over_column_in_part table beyond rest back
  rcases lacks.cases with missing | empty
  · rw [isTarget, isInput]
    exact endless_behind tail descended isNext missing
  · rw [isInput] at isTarget ⊢
    obtain ⟨count, -, overruns⟩ := overruns_behind tail descended isNext empty
    exact overruns.endless_again isTarget

theorem endless_lastCell {count index : Nat} (reported : table.rows device = some count)
    (past : count ≤ index) {next : Table}
    (isNext : nextTable table.part table.number = some next) (lacks : Lacks device next) :
    Endless device (table.rowOid ++ [table.columnCount, index])
      (table.rowOid ++ [table.columnCount, index]) := by
  have named : Names table.columnCount table.columnCount := by
    cases table <;> decide
  apply ((asks_cell table named index).overruns named reported (by omega)).endless
  exact endless_again_over_column (Nat.lt_succ_self _) isNext lacks (bump_dropLast_cell _ _ _)

theorem endless_overColumn {number : Nat} (beyond : table.columnCount < number) {rest : Oid}
    (nonempty : rest ≠ []) {next : Table}
    (isNext : nextTable table.part table.number = some next) (lacks : Lacks device next) :
    Endless device (table.rowOid ++ number :: rest) (table.rowOid ++ number :: rest) := by
  obtain ⟨tail, more, isInput, descended⟩ :=
    over_column_in_part table beyond rest (number :: rest)
  have again : Endless device (table.rowOid ++ number :: rest)
      (bump (table.rowOid ++ number :: rest).dropLast) := by
    rcases restart_cases table.rowOid number rest with ⟨isEmpty, -⟩ | ⟨last, rfl, target⟩ |
      ⟨-, later, target⟩
    · exact absurd isEmpty nonempty
    · exact endless_again_over_column (Nat.lt_succ_of_lt beyond) isNext lacks target
    · exact endless_again_over_column beyond isNext lacks target
  rcases lacks.cases with missing | empty
  · have endless := endless_behind tail descended isNext missing
    rw [← isInput] at endless
    exact endless
  · obtain ⟨count, -, overruns⟩ := overruns_behind tail descended isNext empty
    rw [← isInput] at overruns
    exact overruns.endless again

/-- A GET-NEXT that is stuck searches without end. -/
theorem NextStuck.endless (stuck : NextStuck device input) : Endless device input input := by
  cases stuck with
  | above above notGap lacks => exact endless_above above notGap lacks
  | statusGap rest lacks => exact endless_statusGap rest lacks
  | special lacks => exact endless_special lacks
  | lastScalar list rest isNext lacks kept => exact endless_lastScalar list rest isNext lacks kept
  | overList list named beyond rest isNext lacks kept =>
      exact endless_overList list named beyond rest isNext lacks kept
  | missing table none inside => exact endless_missing none inside
  | statusTable isStatus lacks => exact endless_statusTable isStatus lacks
  | entry table lacks isNext nextLacks => exact endless_entry lacks isNext nextLacks
  | cell table empty named positive index => exact endless_cell empty named positive index
  | lastCell table reported past isNext lacks => exact endless_lastCell reported past isNext lacks
  | overColumn table beyond nonempty isNext lacks =>
      exact endless_overColumn beyond nonempty isNext lacks

end Endless

section Ending

end Ending

section Requests

end Requests

end TfortisPack.SnmpAgent
