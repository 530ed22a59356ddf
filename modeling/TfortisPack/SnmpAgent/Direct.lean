import TfortisPack.SnmpAgent.Places
import TfortisPack.SnmpAgent.Requests

/-!
# GET and SET outside scalars and cells

The two requests act on scalars and cells only.  At every other place they
fail, run into a nil, or stay in the loop until its guard.
-/

namespace TfortisPack.SnmpAgent

/-- GET and SET. -/
def Direct : Request → Prop
  | .getNext => False
  | _ => True

theorem direct_get : Direct .get :=
  trivial

theorem direct_set (setParam : SetParam) : Direct (.set setParam) :=
  trivial

/-- The end of the loop in the status `failed`. -/
def Fails (answer : Outcome × List Command) : Prop :=
  ∃ resObj, answer = (.sent .failed resObj, [])

variable {device : Device} {request : Request} {input : Oid} {objArr : List Element}
variable {resObj : ResObj}

section Rows

theorem foundHandler_nothing (direct : Direct request) :
    foundHandler device request [] resObj = none := by
  cases request with
  | getNext => exact direct.elim
  | get | set => rfl

/-- A zero behind a row that is no scalar. -/
theorem error_zeroIndex (direct : Direct request) {last : Element}
    (isLast : objArr.getLast? = some last) (notScalar : last.type ≠ .scalar) (left : Nat) :
    requestLoop device request input (left + 3) (some .zeroIndex) objArr ⟨[], none, none⟩ =
      (.error, []) := by
  have continues : zeroIndexBranch ⟨.zeroIndex, objArr, ⟨[], none, none⟩⟩ =
      .next ⟨.inProgress, objArr, ⟨[], none, none⟩⟩ := by
    simp [zeroIndexBranch, isLast, notScalar]
  rw [requestLoop_iteration (by decide) (by decide)]
  simp only [iteration, continues, requestLoop_inProgress]
  exact requestLoop_found_error (foundHandler_nothing direct) left

end Rows

section Above

variable (direct : Direct request)

theorem handleRequest_of_descent {status : Status}
    (descended : getOidElement input = (objArr, status)) :
    handleRequest device request input =
      requestLoop device request input 49 (some status) objArr ⟨[], none, none⟩ := by
  rw [handleRequest, descended]

include direct

theorem direct_base : handleRequest device request [] = (.error, []) :=
  requestLoop_found_error (foundHandler_nothing direct) 48

/-- A zero that no scalar precedes. -/
theorem direct_atZero (atZero : AtZero input) :
    handleRequest device request input = (.error, []) := by
  obtain ⟨objArr, last, descended, isLast, notScalar⟩ := atZero
  rw [handleRequest_of_descent descended]
  exact error_zeroIndex direct isLast notScalar 46

end Above

section AnyRequest

theorem any_zeroMain (rest : Oid) : handleRequest device request (0 :: rest) = (.error, []) :=
  rfl

/-- With at most two components nothing is left to increase. -/
theorem stopped_overList (short : input.length ≤ 2) (left : Nat) :
    requestLoop device request input left (some .overList) objArr resObj =
      (.whileNotStopped, []) := by
  have stays : overListBranch input ⟨.overList, objArr, resObj⟩ =
      .next ⟨.overList, objArr, resObj⟩ := by
    simp only [overListBranch]
    rw [if_neg (by omega), if_neg (by omega)]
  induction left with
  | zero =>
      rfl
  | succ left inductionHypothesis =>
      rw [requestLoop_iteration (by decide) (by decide)]
      simp only [iteration, stays]
      exact inductionHypothesis

/-- Past the first or the second list the loop never ends by itself. -/
theorem any_overMain (more : Nat) (rest : Oid) :
    handleRequest device request ((more + 5) :: rest) = (.error, []) ∨
      handleRequest device request ((more + 5) :: rest) = (.whileNotStopped, []) := by
  have descended : getOidElement ((more + 5) :: rest) = ([], .overList) := rfl
  rw [handleRequest_of_descent descended]
  match rest with
  | [] => exact Or.inr (stopped_overList (by simp) 49)
  | [_] => exact Or.inr (stopped_overList (by simp) 49)
  | [_, _] => exact Or.inl rfl
  | _ :: _ :: _ :: _ => exact Or.inl rfl

theorem any_overSwitch (more : Nat) (rest : Oid) :
    handleRequest device request (3 :: (more + 3) :: rest) = (.error, []) ∨
      handleRequest device request (3 :: (more + 3) :: rest) = (.whileNotStopped, []) := by
  have descended : getOidElement (3 :: (more + 3) :: rest) = ([switchRow], .overList) := rfl
  rw [handleRequest_of_descent descended]
  match rest with
  | [] => exact Or.inr (stopped_overList (by simp) 49)
  | [_] => exact Or.inl rfl
  | _ :: _ :: _ => exact Or.inl rfl

theorem any_below_overPsw (more next : Nat) (rest : Oid) :
    handleRequest device request (3 :: 2 :: (more + 3) :: next :: rest) = (.error, []) :=
  rfl

theorem any_belowCell (table : Table) {number : Nat} (named : Names table.columnCount number)
    (index below : Nat) (rest : Oid) :
    handleRequest device request (table.rowOid ++ number :: index :: below :: rest) =
      (.whileNotStopped, []) := by
  rw [handleRequest_of_descent (getOidElement_column table named _)]
  exact requestLoop_oidOver 49 _ _

/-- A zero behind several scalars: the row in front of the last has no list. -/
theorem any_zeroRun (list : ScalarList) {front : Oid} {number : Nat} (several : front ≠ [])
    (named : ∀ other ∈ front ++ [number], Names list.count other) (rest : Oid) :
    handleRequest device request (list.oid ++ (front ++ [number] ++ 0 :: rest)) =
      (.error, []) := by
  obtain ⟨oidArr, behind, reached⟩ := getOidElement_run list named (0 :: rest)
  rw [descend_zero] at reached
  rw [handleRequest_of_descent reached, requestLoop_iteration (by decide) (by decide)]
  obtain ⟨first, last, rfl⟩ : ∃ first last, front = first ++ [last] := by
    rcases List.eq_nil_or_concat' front with rfl | ⟨first, last, rfl⟩
    · exact absurd rfl several
    · exact ⟨first, last, rfl⟩
  have path : list.toList ++ (first ++ [last] ++ [number]).map (scalarRow list.oid) =
      list.toList ++ first.map (scalarRow list.oid) ++ [scalarRow list.oid last] ++
        [scalarRow list.oid number] := by
    simp
  have isScalar : (scalarRow list.oid number).type = .scalar := rfl
  have noList : (scalarRow list.oid last).thirdLength = none := rfl
  simp only [iteration, zeroIndexBranch, path, List.getLast?_concat, List.dropLast_concat,
    isScalar, noList, if_true]

end AnyRequest

section Lists

variable (direct : Direct request)
include direct

end Lists

section Tables

variable (direct : Direct request)
include direct

end Tables

section Broken

/-- Identifiers for which no request finishes.  `tf_run_snmp` extends the base if
it is written with a dot in front. -/
inductive Broken : Oid → Prop where
  | base : Broken []
  | zeroMain (rest : Oid) : Broken (0 :: rest)
  | overMain (more : Nat) (rest : Oid) : Broken ((more + 5) :: rest)
  | zeroSwitch (rest : Oid) : Broken (3 :: 0 :: rest)
  | overSwitch (more : Nat) (rest : Oid) : Broken (3 :: (more + 3) :: rest)
  | zeroPsw (rest : Oid) : Broken (3 :: 2 :: 0 :: rest)
  | belowOverPsw (more next : Nat) (rest : Oid) : Broken (3 :: 2 :: (more + 3) :: next :: rest)
  | zeroPart (part : Part) (rest : Oid) : Broken (3 :: 2 :: part.number :: 0 :: rest)
  | zeroSpecial (rest : Oid) : Broken (3 :: 2 :: 2 :: 6 :: 0 :: rest)
  | zeroList (list : ScalarList) (rest : Oid) : Broken (list.oid ++ 0 :: rest)
  | zeroRun (list : ScalarList) {front : Oid} {number : Nat} (several : front ≠ [])
      (named : ∀ other ∈ front ++ [number], Names list.count other) (rest : Oid) :
      Broken (list.oid ++ (front ++ [number] ++ 0 :: rest))
  | zeroColumn (table : Table) (rest : Oid) : Broken (table.rowOid ++ 0 :: rest)
  | belowCell (table : Table) {number : Nat} (named : Names table.columnCount number)
      (index below : Nat) (rest : Oid) : Broken (table.rowOid ++ number :: index :: below :: rest)

theorem atZero_outcome (atZero : AtZero input) :
    handleRequest device request input = (.error, []) ∨
      handleRequest device request input = (.whileNotStopped, []) := by
  cases request with
  | get => exact Or.inl (direct_atZero direct_get atZero)
  | set setParam => exact Or.inl (direct_atZero (direct_set setParam) atZero)
  | getNext =>
      obtain ⟨objArr, last, descended, isLast, notScalar⟩ := atZero
      have continues : zeroIndexBranch ⟨.zeroIndex, objArr, ⟨[], none, none⟩⟩ =
          .next ⟨.inProgress, objArr, ⟨[], none, none⟩⟩ := by
        simp [zeroIndexBranch, isLast, notScalar]
      have loops : mainHandler device input =
          mainLoop device input 47 ⟨.found, [], ⟨[], none, none⟩⟩ := by
        rw [mainHandler, descended, mainLoop]
        simp only [reduceCtorEq, if_false, iteration, continues]
        rfl
      right
      rw [handleRequest_getNext, loops, mainLoop_found_nothing]

theorem base_outcome :
    handleRequest device request [] = (.error, []) ∨
      handleRequest device request [] = (.whileNotStopped, []) := by
  cases request with
  | get => exact Or.inl (direct_base direct_get)
  | set setParam => exact Or.inl (direct_base (direct_set setParam))
  | getNext =>
      have loops : mainHandler device [] =
          mainLoop device [] 49 ⟨.found, [], ⟨[], none, none⟩⟩ := rfl
      right
      rw [handleRequest_getNext, loops, mainLoop_found_nothing]

/-- What becomes of such a request. -/
theorem Broken.outcome (broken : Broken input) :
    handleRequest device request input = (.error, []) ∨
      handleRequest device request input = (.whileNotStopped, []) := by
  cases broken with
  | base => exact base_outcome
  | zeroMain rest => exact Or.inl (any_zeroMain rest)
  | overMain more rest => exact any_overMain more rest
  | zeroSwitch rest => exact atZero_outcome (atZero_switch rest)
  | overSwitch more rest => exact any_overSwitch more rest
  | zeroPsw rest => exact atZero_outcome (atZero_psw rest)
  | belowOverPsw more next rest => exact Or.inl (any_below_overPsw more next rest)
  | zeroPart part rest => exact atZero_outcome (atZero_part part rest)
  | zeroSpecial rest => exact atZero_outcome (atZero_special rest)
  | zeroList list rest => exact atZero_outcome (atZero_list list rest)
  | zeroRun list several named rest => exact Or.inl (any_zeroRun list several named rest)
  | zeroColumn table rest => exact atZero_outcome (atZero_column table rest)
  | belowCell table named index below rest =>
      exact Or.inr (any_belowCell table named index below rest)

end Broken

end TfortisPack.SnmpAgent
