import TfortisPack.SnmpAgent.Addressing

/-!
# How a GET-NEXT search ends

The loop follows one identifier after the other.  A search for an identifier
passes to another one, ends, or meets a table without rows; then the loop
starts again from the request with its last component dropped and the one
before it increased.  A search that comes back to itself ends only at the
guard.
-/

namespace TfortisPack.SnmpAgent

section Rounds

variable (device : Device) (input : Oid)

/-- The state after some iterations, if the loop has not ended before. -/
def advance : Nat → LoopState → Option LoopState
  | 0, state => some state
  | count + 1, state =>
      if state.status = .ok then
        none
      else
        match iteration device input state with
        | .next state => advance count state
        | _ => none

variable {device input}

theorem advance_succ {count : Nat} {state reached : LoopState}
    (advanced : advance device input (count + 1) state = some reached) :
    state.status ≠ .ok ∧ ∃ middle, iteration device input state = .next middle ∧
      advance device input count middle = some reached := by
  rw [advance] at advanced
  split at advanced
  · cases advanced
  · rename_i notOk
    split at advanced
    · rename_i middle isNext
      exact ⟨notOk, middle, isNext, advanced⟩
    · cases advanced

theorem mainLoop_advance {count : Nat} {state reached : LoopState}
    (advanced : advance device input count state = some reached) (left : Nat) :
    mainLoop device input (left + count) state = mainLoop device input left reached := by
  induction count generalizing state with
  | zero =>
      rw [Option.some.inj advanced]
      rfl
  | succ count inductionHypothesis =>
      obtain ⟨notOk, middle, isNext, later⟩ := advance_succ advanced
      rw [← Nat.add_assoc, mainLoop, if_neg notOk]
      simp only [isNext]
      exact inductionHypothesis later

theorem mainLoop_of_lt {count left : Nat} {state reached : LoopState}
    (advanced : advance device input count state = some reached) (early : left < count) :
    mainLoop device input left state = .whileNotStopped := by
  induction left generalizing count state with
  | zero =>
      obtain ⟨count, rfl⟩ := Nat.exists_eq_succ_of_ne_zero (Nat.ne_of_gt early)
      obtain ⟨notOk, -⟩ := advance_succ advanced
      rw [mainLoop, if_neg notOk]
  | succ left inductionHypothesis =>
      obtain ⟨count, rfl⟩ := Nat.exists_eq_succ_of_ne_zero (Nat.ne_of_gt (Nat.zero_lt_of_lt early))
      obtain ⟨notOk, middle, isNext, later⟩ := advance_succ advanced
      rw [mainLoop, if_neg notOk]
      simp only [isNext]
      exact inductionHypothesis later (Nat.lt_of_succ_lt_succ early)

theorem advance_trans {first second : Nat} {state middle reached : LoopState}
    (begins : advance device input first state = some middle)
    (continues : advance device input second middle = some reached) :
    advance device input (first + second) state = some reached := by
  induction first generalizing state with
  | zero =>
      rw [Option.some.inj begins, Nat.zero_add]
      exact continues
  | succ first inductionHypothesis =>
      obtain ⟨notOk, next, isNext, later⟩ := advance_succ begins
      rw [Nat.succ_add, advance, if_neg notOk]
      simp only [isNext]
      exact inductionHypothesis later

end Rounds

/-- The loop behind the descent along `oid`. -/
def startAt (oid : Oid) (resObj : ResObj) : LoopState :=
  ⟨(getOidElement oid).2, (getOidElement oid).1, resObj⟩

section Searches

variable (device : Device) (input : Oid)

/-- After `count` iterations the search for `oid` is the one for `target`. -/
def Passes (count : Nat) (oid target : Oid) : Prop :=
  ∀ resObj, ∃ answer,
    advance device input count (startAt oid resObj) = some (startAt target answer)

/-- After `count` iterations the search has met a table without rows. -/
def Overruns (count : Nat) (oid : Oid) : Prop :=
  ∀ resObj, ∃ objArr answer,
    advance device input count (startAt oid resObj) = some ⟨.overIndex, objArr, answer⟩

/-- The search never ends by itself. -/
def Endless (oid : Oid) : Prop :=
  ∀ left resObj, ¬(follow device input oid left resObj).Finishes

end Searches

section Rules

variable {device : Device} {input oid target : Oid} {count more : Nat}

theorem follow_eq (left : Nat) (resObj : ResObj) :
    follow device input oid left resObj = mainLoop device input left (startAt oid resObj) :=
  rfl

theorem not_finishes_error : ¬Outcome.error.Finishes := by
  rintro ⟨status, resObj, impossible⟩
  cases impossible

theorem not_finishes_stopped : ¬Outcome.whileNotStopped.Finishes := by
  rintro ⟨status, resObj, impossible⟩
  cases impossible

theorem finishes_of_result {outcome : Outcome} {answer : Oid}
    (result : outcome.result = some answer) : outcome.Finishes := by
  unfold Outcome.result at result
  split at result
  · exact ⟨_, _, rfl⟩
  · cases result

theorem Passes.trans {first second : Nat} {middle : Oid}
    (begins : Passes device input first oid middle)
    (continues : Passes device input second middle target) :
    Passes device input (first + second) oid target := by
  intro resObj
  obtain ⟨answer, reached⟩ := begins resObj
  obtain ⟨later, ended⟩ := continues answer
  exact ⟨later, advance_trans reached ended⟩

theorem Passes.overruns (passes : Passes device input count oid target)
    (overruns : Overruns device input more target) :
    Overruns device input (count + more) oid := by
  intro resObj
  obtain ⟨answer, reached⟩ := passes resObj
  obtain ⟨objArr, later, ended⟩ := overruns answer
  exact ⟨objArr, later, advance_trans reached ended⟩

theorem Passes.endless (passes : Passes device input count oid target)
    (endless : Endless device input target) : Endless device input oid := by
  intro left resObj
  obtain ⟨answer, reached⟩ := passes resObj
  by_cases early : left < count
  · rw [follow_eq, mainLoop_of_lt reached early]
    exact not_finishes_stopped
  · obtain ⟨fewer, rfl⟩ := Nat.exists_eq_add_of_le' (Nat.le_of_not_lt early)
    rw [follow_eq, mainLoop_advance reached]
    exact endless fewer answer

/-- A search that passes to itself is endless. -/
theorem Passes.circling (passes : Passes device input (count + 1) oid oid) :
    Endless device input oid := by
  intro left
  induction left using Nat.strong_induction_on with
  | _ left inductionHypothesis =>
      intro resObj
      obtain ⟨answer, reached⟩ := passes resObj
      by_cases early : left < count + 1
      · rw [follow_eq, mainLoop_of_lt reached early]
        exact not_finishes_stopped
      · obtain ⟨fewer, rfl⟩ := Nat.exists_eq_add_of_le' (Nat.le_of_not_lt early)
        rw [follow_eq, mainLoop_advance reached]
        exact inductionHypothesis fewer (by omega) answer

/-- A search that runs into a nil is endless. -/
theorem endless_of_error (count : Nat)
    (faults : ∀ resObj, ∃ state, advance device input count (startAt oid resObj) = some state ∧
      state.status ≠ .ok ∧ iteration device input state = .error) :
    Endless device input oid := by
  intro left resObj
  obtain ⟨state, reached, notOk, isError⟩ := faults resObj
  by_cases early : left < count
  · rw [follow_eq, mainLoop_of_lt reached early]
    exact not_finishes_stopped
  · obtain ⟨fewer, rfl⟩ := Nat.exists_eq_add_of_le' (Nat.le_of_not_lt early)
    rw [follow_eq, mainLoop_advance reached]
    cases fewer with
    | zero =>
        rw [mainLoop, if_neg notOk]
        exact not_finishes_stopped
    | succ fewer =>
        rw [mainLoop, if_neg notOk]
        simp only [isError]
        exact not_finishes_error

/-- Behind a table without rows the loop starts again from the request. -/
theorem Overruns.restarts (overruns : Overruns device input count oid)
    (long : 1 < input.length) :
    Passes device input (count + 2) oid (bump input.dropLast) := by
  intro resObj
  obtain ⟨objArr, answer, reached⟩ := overruns resObj
  refine ⟨{ answer with oid := bump input.dropLast }, advance_trans reached ?_⟩
  simp only [advance, reduceCtorEq, if_false, iteration, overIndexBranch, if_pos long]
  rfl

theorem Overruns.endless_of_short (overruns : Overruns device input count oid)
    (short : ¬1 < input.length) : Endless device input oid := by
  apply endless_of_error count
  intro resObj
  obtain ⟨objArr, answer, reached⟩ := overruns resObj
  refine ⟨_, reached, by simp, ?_⟩
  simp only [iteration, overIndexBranch, if_neg short]

theorem Overruns.endless (overruns : Overruns device input count oid)
    (endless : Endless device input (bump input.dropLast)) : Endless device input oid := by
  by_cases long : 1 < input.length
  · exact (overruns.restarts long).endless endless
  · exact overruns.endless_of_short long

/-- Where the new start leads to a table without rows once more, the loop goes
round. -/
theorem Overruns.circling (overruns : Overruns device input count oid)
    (again : Overruns device input more (bump input.dropLast)) : Endless device input oid := by
  apply overruns.endless
  by_cases long : 1 < input.length
  · exact (again.restarts long).circling
  · exact again.endless_of_short long

end Rules

section Cells

variable {device : Device} {input oid : Oid} {table : Table} {number index count : Nat}

/-- The search for `oid` asks for a row of a column, the one behind `index`. -/
def Asks (table : Table) (number index : Nat) (oid : Oid) : Prop :=
  ∃ objArr, getOidElement oid = (objArr, .found) ∧ 1 < objArr.length ∧
    ∀ device, getNextRequestHandler device objArr =
      getResult device (table.rowOid ++ [number]) (index + 1)

theorem asks_column (table : Table) (named : Names table.columnCount number) :
    Asks table number 0 (table.rowOid ++ [number]) :=
  ⟨_, getOidElement_column table named [], one_lt_length_toRow_append table _,
    fun _ => getNextRequestHandler_column table number⟩

theorem asks_cell (table : Table) (named : Names table.columnCount number) (index : Nat) :
    Asks table number index (table.rowOid ++ [number, index]) :=
  ⟨_, getOidElement_column table named [index], one_lt_length_toRow_append table _,
    fun _ => getNextRequestHandler_index table number index⟩

theorem advance_found {objArr : List Element} {status : Status} {answer : ResObj}
    (descended : getOidElement oid = (objArr, .found)) (many : 1 < objArr.length)
    (handled : getNextRequestHandler device objArr = some (status, answer)) (input : Oid)
    (resObj : ResObj) :
    advance device input 1 (startAt oid resObj) = some ⟨status, objArr, answer⟩ := by
  simp only [advance, startAt, descended, reduceCtorEq, if_false, iteration, foundBranch,
    if_pos many, handled]

theorem Asks.overruns (asks : Asks table number index oid)
    (named : Names table.columnCount number) (reported : table.rows device = some count)
    (past : ¬index + 1 ≤ count) : Overruns device input 1 oid := by
  obtain ⟨objArr, descended, many, handled⟩ := asks
  have answer := getResult_column device table named.1 named.2 (show 1 ≤ index + 1 by omega)
  rw [reported, Option.map_some, if_neg past] at answer
  obtain ⟨⟨status, found⟩, answered, isAnswer⟩ := Option.map_eq_some_iff.mp answer
  obtain ⟨rfl, -⟩ := Prod.mk.inj isAnswer
  intro resObj
  exact ⟨objArr, found,
    advance_found descended many ((handled device).trans answered) input resObj⟩

theorem Asks.endless (asks : Asks table number index oid)
    (named : Names table.columnCount number) (missing : table.rows device = none) :
    Endless device input oid := by
  obtain ⟨objArr, descended, many, handled⟩ := asks
  have answer := getResult_column device table named.1 named.2 (show 1 ≤ index + 1 by omega)
  rw [missing, Option.map_none, Option.map_eq_none_iff] at answer
  apply endless_of_error 0
  intro resObj
  refine ⟨startAt oid resObj, rfl, ?_, ?_⟩
  · simp [startAt, descended]
  · simp only [iteration, startAt, descended, foundBranch, if_pos many, handled device, answer]

end Cells

section Rows

variable {device : Device} {input : Oid}

theorem passes_table (table : Table) :
    Passes device input 6 table.oid (table.rowOid ++ [1]) := by
  intro resObj
  cases table <;> exact ⟨_, rfl⟩

theorem passes_entry (table : Table) :
    Passes device input 4 (table.oid ++ [1]) (table.rowOid ++ [1]) := by
  intro resObj
  cases table <;> exact ⟨_, rfl⟩

theorem passes_row (table : Table) :
    Passes device input 2 table.rowOid (table.rowOid ++ [1]) := by
  intro resObj
  cases table <;> exact ⟨_, rfl⟩

theorem names_one (table : Table) : Names table.columnCount 1 := by
  cases table <;> decide

theorem asks_first (table : Table) : Asks table 1 0 (table.rowOid ++ [1]) :=
  asks_column table (names_one table)

section FirstColumn

variable {oid : Oid} {table : Table} {count : Nat}

theorem Passes.overruns_table (passes : Passes device input count oid (table.rowOid ++ [1]))
    (empty : table.rows device = some 0) : Overruns device input (count + 1) oid :=
  passes.overruns ((asks_first table).overruns (names_one table) empty (by decide))

theorem Passes.endless_table (passes : Passes device input count oid (table.rowOid ++ [1]))
    (missing : table.rows device = none) : Endless device input oid :=
  passes.endless ((asks_first table).endless (names_one table) missing)

end FirstColumn

/-- The table that the search for a row of `configPSW` or `statusPSW` asks. -/
def tableAt : Part → Nat → Option Table
  | .config, 1 => some .autoRestart
  | .config, 2 => some .autoRestart
  | .config, 3 => some .portPoe
  | .status, 2 => some .inputStatus
  | .status, 4 => some .poeStatus
  | .status, 5 => some .poeStatus
  | .status, 6 => some .autoRestartErrors
  | .status, 7 => some .sfpStatus
  | _, _ => none

/-- Such a search gets to the first column of that table. -/
theorem exists_passes_tableAt (device : Device) (input : Oid) {part : Part} {number : Nat}
    {table : Table} (named : Names part.count number) (isTable : tableAt part number = some table) :
    ∃ count ≤ 8, Passes device input count [3, 2, part.number, number] (table.rowOid ++ [1]) := by
  obtain ⟨positive, within⟩ := named
  cases part with
  | config =>
      have bound : number ≤ 4 := within
      interval_cases number <;> cases isTable
      · exact ⟨8, Nat.le_refl 8, fun _ => ⟨_, rfl⟩⟩
      · exact ⟨6, by decide, passes_table .autoRestart⟩
      · exact ⟨6, by decide, passes_table .portPoe⟩
  | status =>
      have bound : number ≤ 8 := within
      interval_cases number <;> cases isTable
      · exact ⟨6, by decide, passes_table .inputStatus⟩
      · exact ⟨8, Nat.le_refl 8, fun _ => ⟨_, rfl⟩⟩
      · exact ⟨6, by decide, passes_table .poeStatus⟩
      · exact ⟨8, Nat.le_refl 8, fun _ => ⟨_, rfl⟩⟩
      · exact ⟨6, by decide, passes_table .sfpStatus⟩

theorem overruns_rowAt {part : Part} {number : Nat} {table : Table}
    (named : Names part.count number) (isTable : tableAt part number = some table)
    (empty : table.rows device = some 0) :
    ∃ count ≤ 9, Overruns device input count [3, 2, part.number, number] := by
  obtain ⟨count, within, passes⟩ := exists_passes_tableAt device input named isTable
  exact ⟨count + 1, by omega, passes.overruns_table empty⟩

theorem endless_rowAt {part : Part} {number : Nat} {table : Table}
    (named : Names part.count number) (isTable : tableAt part number = some table)
    (missing : table.rows device = none) :
    Endless device input [3, 2, part.number, number] := by
  obtain ⟨count, -, passes⟩ := exists_passes_tableAt device input named isTable
  exact passes.endless_table missing

end Rows

section Behind

variable {device : Device} {part : Part} {number : Nat} {oid : Oid} {more : List Element}

/-- The table that the loop asks behind a row of `configPSW` or `statusPSW`. -/
def nextTable (part : Part) (number : Nat) : Option Table :=
  if number + 1 ≤ part.count then tableAt part (number + 1) else none

/-- Past a list or the columns of a table, the loop goes on behind the fourth
component of the request. -/
theorem passes_behind (rest : Oid)
    (descended : getOidElement oid = (switchRow :: pswRow :: part.row :: more, .overList))
    (inPart : number + 1 ≤ part.count) :
    Passes device (3 :: 2 :: part.number :: number :: rest) 2 oid
      [3, 2, part.number, number + 1] := by
  intro resObj
  refine ⟨{ resObj with oid := [3, 2, part.number, number + 1] }, ?_⟩
  have notPast : ¬number + 1 > part.count := by omega
  simp only [advance, startAt, descended, reduceCtorEq, if_false, iteration, overListBranch_eq,
    if_neg notPast]

theorem nextTable_inPart {table : Table} (isNext : nextTable part number = some table) :
    number + 1 ≤ part.count ∧ tableAt part (number + 1) = some table := by
  unfold nextTable at isNext
  split at isNext
  · exact ⟨‹_›, isNext⟩
  · cases isNext

theorem overruns_behind {table : Table} (rest : Oid)
    (descended : getOidElement oid = (switchRow :: pswRow :: part.row :: more, .overList))
    (isNext : nextTable part number = some table) (empty : table.rows device = some 0) :
    ∃ count ≤ 11, Overruns device (3 :: 2 :: part.number :: number :: rest) count oid := by
  obtain ⟨inPart, isTable⟩ := nextTable_inPart isNext
  obtain ⟨count, within, overruns⟩ := overruns_rowAt ⟨by omega, inPart⟩ isTable empty
  exact ⟨2 + count, by omega, (passes_behind rest descended inPart).overruns overruns⟩

theorem endless_behind {table : Table} (rest : Oid)
    (descended : getOidElement oid = (switchRow :: pswRow :: part.row :: more, .overList))
    (isNext : nextTable part number = some table) (missing : table.rows device = none) :
    Endless device (3 :: 2 :: part.number :: number :: rest) oid := by
  obtain ⟨inPart, isTable⟩ := nextTable_inPart isNext
  exact (passes_behind rest descended inPart).endless
    (endless_rowAt ⟨by omega, inPart⟩ isTable missing)

end Behind

section Restarts

theorem bump_append (front : Oid) {back : Oid} (nonempty : back ≠ []) :
    bump (front ++ back) = front ++ bump back := by
  obtain ⟨middle, last, rfl⟩ : ∃ middle last, back = middle ++ [last] :=
    ⟨_, _, (List.dropLast_append_getLast nonempty).symm⟩
  simp only [bump]
  rw [← List.append_assoc]
  simp

/-- The identifier that `over_index` starts again with. -/
theorem restart_cases (front : Oid) (component : Nat) (rest : Oid) :
    rest = [] ∧ bump (front ++ component :: rest).dropLast = bump front ∨
      (∃ last, rest = [last] ∧
        bump (front ++ component :: rest).dropLast = front ++ [component + 1]) ∨
      2 ≤ rest.length ∧
        ∃ later, bump (front ++ component :: rest).dropLast = front ++ component :: later := by
  match rest with
  | [] =>
      left
      simp
  | [last] =>
      right
      left
      refine ⟨last, rfl, ?_⟩
      simp [bump, List.dropLast_append_of_ne_nil]
  | first :: second :: more =>
      right
      right
      refine ⟨by simp, bump (first :: (second :: more).dropLast), ?_⟩
      have nonempty : first :: (second :: more).dropLast ≠ [] := List.cons_ne_nil _ _
      have cut : (front ++ component :: first :: second :: more).dropLast =
          front ++ [component] ++ first :: (second :: more).dropLast := by
        simp
      rw [cut, bump_append _ nonempty]
      simp

end Restarts

end TfortisPack.SnmpAgent
