import TfortisPack.SnmpAgent.Answers

/-!
# Requests and answers in the order of identifiers

Identifiers are compared component by component.  With a row in every table,
the answer is behind the request except in two places: below `4`, where the
answer comes from the list before it, and below a scalar, where the descent
goes round in the scalar's own list.
-/

namespace TfortisPack.SnmpAgent

variable {device : Device}

/-- A result of the request is behind the request. -/
def Increasing (device : Device) (oid : Oid) : Prop :=
  ∀ answer, getNext device oid = some answer → oid < answer

/-- Below `4`, or at a scalar that is named below one of its own list and does
not come behind it there. -/
def Misplaced (oid : Oid) : Prop :=
  (∃ rest, oid = 4 :: rest) ∨
    ∃ (list : ScalarList) (first : Nat) (run : Oid) (last : Nat),
      oid = list.oid ++ (first :: run ++ [last]) ∧
        (∀ number ∈ first :: run ++ [last], Names list.count number) ∧ last ≤ first

theorem increasing_of_none {oid : Oid} (silent : getNext device oid = none) :
    Increasing device oid := by
  intro answer answered
  rw [silent] at answered
  cases answered

theorem increasing_of_some {oid result : Oid} (answered : getNext device oid = some result)
    (behind : oid < result) : Increasing device oid := by
  intro answer isAnswer
  rw [answered, Option.some.injEq] at isAnswer
  rw [← isAnswer]
  exact behind

section Order

theorem lt_append_of_ne_nil {oid more : Oid} (nonempty : more ≠ []) : oid < oid ++ more := by
  obtain ⟨component, rest, rfl⟩ := List.exists_cons_of_ne_nil nonempty
  have behind : oid ++ [] < oid ++ component :: rest :=
    List.append_left_lt (List.nil_lt_cons component rest)
  rwa [List.append_nil] at behind

theorem append_lt_of_component (front : Oid) {component other : Nat}
    (smaller : component < other) (rest more : Oid) :
    front ++ component :: rest < front ++ other :: more :=
  List.append_left_lt (List.cons_lt_cons_iff.mpr (Or.inl smaller))

/-- The first object from an element on stands at it or behind it. -/
theorem firstFrom_place {part : Part} {number : Nat} {answer : Oid}
    (found : firstFrom device part number = some answer) :
    ∃ place rest, answer = [3, 2, part.number] ++ place :: rest ∧ number ≤ place := by
  unfold firstFrom at found
  split at found
  all_goals
    first
    | obtain ⟨_, -, rfl⟩ := Option.map_eq_some_iff.mp found
      exact ⟨_, _, rfl, by decide⟩
    | obtain rfl := Option.some.inj found
      exact ⟨_, _, rfl, by decide⟩
    | cases found

theorem lt_of_firstFrom {part : Part} {number : Nat} {answer : Oid}
    (found : firstFrom device part number = some answer) : [3, 2, part.number] < answer := by
  obtain ⟨place, rest, rfl, -⟩ := firstFrom_place found
  exact lt_append_of_ne_nil (List.cons_ne_nil place rest)

theorem lt_of_firstAfter {part : Part} {number : Nat} {answer : Oid}
    (found : firstAfter device part number = some answer) (rest : Oid) :
    [3, 2, part.number] ++ number :: rest < answer := by
  unfold firstAfter at found
  split at found
  · obtain ⟨place, more, rfl, behind⟩ := firstFrom_place found
    exact append_lt_of_component _ (Nat.lt_of_succ_le behind) rest more
  · cases part with
    | config =>
        obtain ⟨place, more, rfl, -⟩ := firstFrom_place found
        exact append_lt_of_component [3, 2] (show 1 < 2 by decide) (number :: rest) (place :: more)
    | status =>
        cases found

end Order

section Answers

theorem increasing_of_first {oid more : Oid} (table : Table)
    (answered : getNext device oid = table.first device)
    (above : oid ++ more = table.rowOid ++ [1, 1]) (nonempty : more ≠ []) :
    Increasing device oid := by
  intro answer isAnswer
  rw [answered] at isAnswer
  obtain ⟨_, -, rfl⟩ := Option.map_eq_some_iff.mp isAnswer
  rw [← above]
  exact lt_append_of_ne_nil nonempty

theorem increasing_of_after (part : Part) {number : Nat} {rest : Oid}
    (answered : getNext device (3 :: 2 :: part.number :: number :: rest) =
      firstAfter device part number) :
    Increasing device (3 :: 2 :: part.number :: number :: rest) := by
  intro answer isAnswer
  rw [answered] at isAnswer
  exact lt_of_firstAfter isAnswer rest

end Answers

section Tables

theorem increasing_cell (populated : Populated device) (table : Table) {number : Nat}
    (named : Names table.columnCount number) (index : Nat) :
    Increasing device (table.rowOid ++ [number, index]) := by
  intro answer isAnswer
  rw [getNext_cell table populated named] at isAnswer
  obtain ⟨count, -, found⟩ := Option.bind_eq_some_iff.mp isAnswer
  split at found
  · obtain rfl := Option.some.inj found
    have further : [index] < [index + 1] :=
      List.cons_lt_cons_iff.mpr (Or.inl (Nat.lt_succ_self index))
    exact List.append_left_lt (List.cons_lt_cons_iff.mpr (Or.inr ⟨rfl, further⟩))
  · split at found
    · obtain rfl := Option.some.inj found
      exact append_lt_of_component _ (Nat.lt_succ_self number) [index] [1]
    · obtain ⟨⟨tail, isRow⟩, -⟩ := table_in_part table
      rw [isRow]
      exact lt_of_firstAfter found (tail ++ [number, index])

theorem increasing_column (populated : Populated device) (table : Table) {number : Nat}
    (named : Names table.columnCount number) : Increasing device (table.rowOid ++ [number]) := by
  intro answer isAnswer
  rw [getNext_column table populated named] at isAnswer
  obtain ⟨_, -, rfl⟩ := Option.map_eq_some_iff.mp isAnswer
  have split : table.rowOid ++ [number, 1] = table.rowOid ++ [number] ++ [1] := by
    simp
  rw [split]
  exact lt_append_of_ne_nil (List.cons_ne_nil 1 [])

theorem increasing_below_row (populated : Populated device) (table : Table) (rest : Oid) :
    Increasing device (table.rowOid ++ rest) := by
  rcases rest with _ | ⟨number, rest⟩
  · rw [List.append_nil]
    exact increasing_of_first table (getNext_row table populated) rfl (List.cons_ne_nil 1 [1])
  · by_cases named : Names table.columnCount number
    · rcases rest with _ | ⟨index, _ | ⟨below, rest⟩⟩
      · exact increasing_column populated table named
      · exact increasing_cell populated table named index
      · exact increasing_of_none (getNext_below_cell table named index below rest)
    · rcases Nat.eq_zero_or_pos number with rfl | positive
      · exact increasing_of_none (getNext_atZero (atZero_column table rest))
      · have beyond : table.columnCount < number := by
          by_contra within
          exact named ⟨positive, Nat.le_of_not_lt within⟩
        have answered := getNext_over_column table populated beyond rest
        obtain ⟨⟨tail, isRow⟩, -⟩ := table_in_part table
        rw [isRow] at answered ⊢
        exact increasing_of_after table.part answered

theorem increasing_table (populated : Populated device) (table : Table) (rest : Oid) :
    Increasing device (table.oid ++ rest) := by
  rcases rest with _ | ⟨first, rest⟩
  · rw [List.append_nil]
    exact increasing_of_first table (getNext_table table populated)
      (by simp [Table.rowOid]) (List.cons_ne_nil 1 [1, 1, 1])
  · by_cases isEntry : first = 1
    · subst isEntry
      rcases rest with _ | ⟨second, rest⟩
      · exact increasing_of_first table (getNext_entry table populated)
          (by simp [Table.rowOid]) (List.cons_ne_nil 1 [1, 1])
      · by_cases isRow : second = 1
        · subst isRow
          have below := increasing_below_row populated table rest
          rwa [Table.rowOid, List.append_assoc] at below
        · exact increasing_of_none (getNext_wrong_row table isRow rest)
    · exact increasing_of_none (getNext_wrong_entry table isEntry rest)

end Tables

section Scalars

variable (list : ScalarList)

/-- The components up to the first that names no scalar of the list. -/
theorem exists_run (count : Nat) (rest : Oid) :
    (∀ number ∈ rest, Names count number) ∨
      ∃ run component more, rest = run ++ component :: more ∧
        (∀ number ∈ run, Names count number) ∧ ¬Names count component := by
  induction rest with
  | nil =>
      left
      intro number member
      cases member
  | cons number rest inductionHypothesis =>
      by_cases named : Names count number
      · rcases inductionHypothesis with all | ⟨run, component, more, rfl, namedRun, stops⟩
        · left
          exact List.forall_mem_cons.mpr ⟨named, all⟩
        · right
          exact ⟨number :: run, component, more, rfl,
            List.forall_mem_cons.mpr ⟨named, namedRun⟩, stops⟩
      · right
        refine ⟨[], number, rest, rfl, ?_, named⟩
        intro other member
        cases member

/-- Where the request ends at a scalar, only the first and the last of its
components below the list are compared. -/
theorem lt_scalar_iff {first : Nat} {run : Oid} {last : Nat}
    (named : ∀ number ∈ first :: run ++ [last], Names list.count number) :
    list.oid ++ (first :: run ++ [last]) < list.oid ++ [last, 0] ↔ first < last := by
  constructor
  · intro behind
    by_contra notSmaller
    have smallerOrEqual : last < first ∨ last = first := by omega
    rcases smallerOrEqual with smaller | rfl
    · exact List.lt_asymm behind (append_lt_of_component list.oid smaller [0] (run ++ [last]))
    · -- the instance is the first identifier below its scalar
      obtain ⟨component, rest, isRun⟩ : ∃ component rest, run ++ [last] = component :: rest :=
        List.exists_cons_of_ne_nil (by simp)
      have positive : 0 < component :=
        (named component (by simp [isRun])).1
      have inFront : [last] ++ 0 :: [] < [last] ++ component :: rest :=
        append_lt_of_component [last] positive [] rest
      rw [← isRun] at inFront
      exact List.lt_asymm behind (List.append_left_lt inFront)
  · intro smaller
    exact append_lt_of_component list.oid smaller (run ++ [last]) [0]

theorem increasing_zero_scalar (populated : Populated device) {number : Nat}
    (named : Names list.count number) (rest : Oid) :
    Increasing device (list.oid ++ number :: 0 :: rest) := by
  intro answer isAnswer
  rw [getNext_zero_scalar list populated named] at isAnswer
  split at isAnswer
  · obtain rfl := Option.some.inj isAnswer
    exact append_lt_of_component list.oid (Nat.lt_succ_self number) (0 :: rest) [0]
  · exact lt_of_firstAfter isAnswer (number :: 0 :: rest)

theorem increasing_scalarList (populated : Populated device) {rest : Oid}
    (placed : ¬Misplaced (list.oid ++ rest)) : Increasing device (list.oid ++ rest) := by
  rcases exists_run list.count rest with named | ⟨run, component, more, rfl, named, stops⟩
  · rcases List.eq_nil_or_concat' rest with rfl | ⟨front, last, rfl⟩
    · rw [List.append_nil]
      exact increasing_of_some (getNext_scalarList list)
        (lt_append_of_ne_nil (List.cons_ne_nil 1 [0]))
    · have namedLast : Names list.count last := named last (by simp)
      have namedFront : ∀ number ∈ front, Names list.count number := fun number member =>
        named number (List.mem_append_left [last] member)
      apply increasing_of_some (getNext_run list namedFront namedLast)
      cases front with
      | nil =>
          have split : list.oid ++ [last, 0] = list.oid ++ [last] ++ [0] := by
            simp
          rw [split]
          exact lt_append_of_ne_nil (List.cons_ne_nil 0 [])
      | cons first run =>
          apply (lt_scalar_iff list named).mpr
          by_contra notSmaller
          exact placed (Or.inr ⟨list, first, run, last, rfl, named, Nat.le_of_not_lt notSmaller⟩)
  · rcases Nat.eq_zero_or_pos component with rfl | positive
    · rcases List.eq_nil_or_concat' run with rfl | ⟨front, number, rfl⟩
      · exact increasing_of_none (getNext_atZero (atZero_list list more))
      · cases front with
        | nil => exact increasing_zero_scalar list populated (named number (by simp)) more
        | cons first front =>
            exact increasing_of_none
              (getNext_zero_run list (List.cons_ne_nil first front) named more)
    · have beyond : list.count < component := by
        by_contra within
        exact stops ⟨positive, Nat.le_of_not_lt within⟩
      exact increasing_of_after list.part (getNext_over_list list populated named beyond more)

end Scalars

section Requests

theorem increasing_config (populated : Populated device) {rest : Oid}
    (placed : ¬Misplaced (3 :: 2 :: 1 :: rest)) : Increasing device (3 :: 2 :: 1 :: rest) := by
  match rest with
  | [] =>
      intro answer isAnswer
      exact lt_of_firstFrom ((getNext_part populated .config).symm.trans isAnswer)
  | 0 :: rest => exact increasing_of_none (getNext_atZero (atZero_part .config rest))
  | 1 :: rest =>
      exact increasing_of_after .config (getNext_part_gap populated (Or.inl ⟨rfl, rfl⟩) rest)
  | 2 :: rest => exact increasing_table populated .autoRestart rest
  | 3 :: rest => exact increasing_table populated .portPoe rest
  | 4 :: rest => exact increasing_scalarList .outState populated placed
  | (more + 5) :: rest =>
      exact increasing_of_after .config (getNext_over_part populated .config
        (show 4 < more + 5 by omega) rest)

theorem increasing_special (populated : Populated device) (rest : Oid) :
    Increasing device (3 :: 2 :: 2 :: 6 :: rest) := by
  match rest with
  | [] =>
      exact increasing_of_first .autoRestartErrors (getNext_special populated) rfl
        (List.cons_ne_nil 1 [1, 1, 1, 1])
  | 0 :: rest => exact increasing_of_none (getNext_atZero (atZero_special rest))
  | 1 :: rest => exact increasing_table populated .autoRestartErrors rest
  | (more + 2) :: rest =>
      exact increasing_of_after .status (getNext_over_special populated more rest)

theorem increasing_status (populated : Populated device) {rest : Oid}
    (placed : ¬Misplaced (3 :: 2 :: 2 :: rest)) : Increasing device (3 :: 2 :: 2 :: rest) := by
  match rest with
  | [] =>
      intro answer isAnswer
      exact lt_of_firstFrom ((getNext_part populated .status).symm.trans isAnswer)
  | 0 :: rest => exact increasing_of_none (getNext_atZero (atZero_part .status rest))
  | 1 :: rest => exact increasing_scalarList .upsStatus populated placed
  | 2 :: rest => exact increasing_table populated .inputStatus rest
  | 3 :: rest => exact increasing_scalarList .fwStatus populated placed
  | 4 :: rest =>
      exact increasing_of_after .status (getNext_part_gap populated (Or.inr ⟨rfl, rfl⟩) rest)
  | 5 :: rest => exact increasing_table populated .poeStatus rest
  | 6 :: rest => exact increasing_special populated rest
  | 7 :: rest => exact increasing_table populated .sfpStatus rest
  | 8 :: rest => exact increasing_scalarList .sensor populated placed
  | (more + 9) :: rest =>
      exact increasing_of_after .status (getNext_over_part populated .status
        (show 8 < more + 9 by omega) rest)

/-- Every request in front of the first table is answered with its first cell. -/
theorem increasing_of_in_front {oid : Oid}
    (answered : getNext device oid = Table.autoRestart.first device)
    (inFront : oid < [3, 2, 1, 2]) : Increasing device oid := by
  intro answer isAnswer
  rw [answered] at isAnswer
  obtain ⟨_, -, rfl⟩ := Option.map_eq_some_iff.mp isAnswer
  exact List.lt_trans inFront (by decide)

theorem increasing_of_not_misplaced (populated : Populated device) {oid : Oid}
    (placed : ¬Misplaced oid) : Increasing device oid := by
  match oid with
  | [] =>
      exact increasing_of_in_front (getNext_base.trans (getNext_switch populated)) (by decide)
  | 0 :: rest => exact increasing_of_none (getNext_zero_main rest)
  | 1 :: rest =>
      exact increasing_of_in_front (getNext_gap populated (Or.inl rfl) rest)
        (append_lt_of_component [] (show 1 < 3 by decide) rest [2, 1, 2])
  | 2 :: rest =>
      exact increasing_of_in_front (getNext_gap populated (Or.inr (Or.inl rfl)) rest)
        (append_lt_of_component [] (show 2 < 3 by decide) rest [2, 1, 2])
  | [3] => exact increasing_of_in_front (getNext_switch populated) (by decide)
  | 3 :: 0 :: rest => exact increasing_of_none (getNext_atZero (atZero_switch rest))
  | 3 :: 1 :: rest =>
      exact increasing_of_in_front (getNext_switch_gap populated rest)
        (append_lt_of_component [3] (show 1 < 2 by decide) rest [1, 2])
  | [3, 2] => exact increasing_of_in_front (getNext_psw populated) (by decide)
  | 3 :: 2 :: 0 :: rest => exact increasing_of_none (getNext_atZero (atZero_psw rest))
  | 3 :: 2 :: 1 :: rest => exact increasing_config populated placed
  | 3 :: 2 :: 2 :: rest => exact increasing_status populated placed
  | 3 :: 2 :: (more + 3) :: rest => exact increasing_of_none (getNext_over_psw more rest)
  | 3 :: (more + 3) :: rest => exact increasing_of_none (getNext_over_switch more rest)
  | 4 :: rest => exact absurd (Or.inl ⟨rest, rfl⟩) placed
  | (more + 5) :: rest => exact increasing_of_none (getNext_over_main more rest)

theorem not_increasing_of_misplaced (populated : Populated device) {oid : Oid}
    (misplaced : Misplaced oid) : ¬Increasing device oid := by
  intro increasing
  rcases misplaced with ⟨rest, rfl⟩ | ⟨list, first, run, last, rfl, named, notSmaller⟩
  · have answered : getNext device (4 :: rest) = some [3, 2, 1, 2, 1, 1, 1, 1] :=
      getNext_gap populated (Or.inr (Or.inr rfl)) rest
    have behind := increasing _ answered
    exact List.lt_asymm behind
      (append_lt_of_component [] (show 3 < 4 by decide) [2, 1, 2, 1, 1, 1, 1] rest)
  · have namedFront : ∀ number ∈ first :: run, Names list.count number := fun number member =>
      named number (List.mem_append_left [last] member)
    have answered : getNext device (list.oid ++ (first :: run ++ [last])) =
        some (list.oid ++ [last, 0]) :=
      getNext_run list namedFront (named last (by simp))
    have smaller := (lt_scalar_iff list named).mp (increasing _ answered)
    omega

theorem increasing_iff (populated : Populated device) (oid : Oid) :
    Increasing device oid ↔ ¬Misplaced oid := by
  constructor
  · intro increasing misplaced
    exact not_increasing_of_misplaced populated misplaced increasing
  · exact increasing_of_not_misplaced populated

end Requests

end TfortisPack.SnmpAgent
