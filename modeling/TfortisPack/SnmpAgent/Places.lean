import TfortisPack.SnmpAgent.Ordering

/-!
# The places a request can name

Every identifier stops in one of the places below: above the two parts, at a
part, in a list of scalars or in a table.  A statement about all requests is
proved place by place.
-/

namespace TfortisPack.SnmpAgent

/-- Where the descent along a request stops. -/
inductive Place : Oid → Prop where
  | base : Place []
  | zeroMain (rest : Oid) : Place (0 :: rest)
  | gap {first : Nat} (isGap : first = 1 ∨ first = 2 ∨ first = 4) (rest : Oid) :
      Place (first :: rest)
  | overMain (more : Nat) (rest : Oid) : Place ((more + 5) :: rest)
  | switch : Place [3]
  | zeroSwitch (rest : Oid) : Place (3 :: 0 :: rest)
  | switchGap (rest : Oid) : Place (3 :: 1 :: rest)
  | overSwitch (more : Nat) (rest : Oid) : Place (3 :: (more + 3) :: rest)
  | psw : Place [3, 2]
  | zeroPsw (rest : Oid) : Place (3 :: 2 :: 0 :: rest)
  | overPsw (more : Nat) (rest : Oid) : Place (3 :: 2 :: (more + 3) :: rest)
  | part (part : Part) : Place [3, 2, part.number]
  | zeroPart (part : Part) (rest : Oid) : Place (3 :: 2 :: part.number :: 0 :: rest)
  | configGap (rest : Oid) : Place (3 :: 2 :: 1 :: 1 :: rest)
  | statusGap (rest : Oid) : Place (3 :: 2 :: 2 :: 4 :: rest)
  | overPart (part : Part) {number : Nat} (beyond : part.count < number) (rest : Oid) :
      Place (3 :: 2 :: part.number :: number :: rest)
  | special : Place [3, 2, 2, 6]
  | zeroSpecial (rest : Oid) : Place (3 :: 2 :: 2 :: 6 :: 0 :: rest)
  | overSpecial (more : Nat) (rest : Oid) : Place (3 :: 2 :: 2 :: 6 :: (more + 2) :: rest)
  | list (list : ScalarList) : Place list.oid
  | zeroList (list : ScalarList) (rest : Oid) : Place (list.oid ++ 0 :: rest)
  | scalar (list : ScalarList) {front : Oid} {number : Nat}
      (namedFront : ∀ other ∈ front, Names list.count other) (named : Names list.count number) :
      Place (list.oid ++ (front ++ [number]))
  | zeroScalar (list : ScalarList) {number : Nat} (named : Names list.count number) (rest : Oid) :
      Place (list.oid ++ number :: 0 :: rest)
  | zeroRun (list : ScalarList) {front : Oid} {number : Nat} (several : front ≠ [])
      (named : ∀ other ∈ front ++ [number], Names list.count other) (rest : Oid) :
      Place (list.oid ++ (front ++ [number] ++ 0 :: rest))
  | overList (list : ScalarList) {run : Oid} {component : Nat}
      (named : ∀ other ∈ run, Names list.count other) (beyond : list.count < component)
      (rest : Oid) : Place (list.oid ++ (run ++ component :: rest))
  | table (table : Table) : Place table.oid
  | wrongEntry (table : Table) {first : Nat} (wrong : first ≠ 1) (rest : Oid) :
      Place (table.oid ++ first :: rest)
  | entry (table : Table) : Place (table.oid ++ [1])
  | wrongRow (table : Table) {second : Nat} (wrong : second ≠ 1) (rest : Oid) :
      Place (table.oid ++ 1 :: second :: rest)
  | row (table : Table) : Place table.rowOid
  | zeroColumn (table : Table) (rest : Oid) : Place (table.rowOid ++ 0 :: rest)
  | overColumn (table : Table) {number : Nat} (beyond : table.columnCount < number) (rest : Oid) :
      Place (table.rowOid ++ number :: rest)
  | column (table : Table) {number : Nat} (named : Names table.columnCount number) :
      Place (table.rowOid ++ [number])
  | cell (table : Table) {number : Nat} (named : Names table.columnCount number) (index : Nat) :
      Place (table.rowOid ++ [number, index])
  | belowCell (table : Table) {number : Nat} (named : Names table.columnCount number)
      (index below : Nat) (rest : Oid) : Place (table.rowOid ++ number :: index :: below :: rest)

theorem not_names {count number : Nat} (unnamed : ¬Names count number) :
    number = 0 ∨ count < number := by
  rcases Nat.eq_zero_or_pos number with isZero | positive
  · exact Or.inl isZero
  · right
    by_contra within
    exact unnamed ⟨positive, Nat.le_of_not_lt within⟩

theorem place_below_row (table : Table) (rest : Oid) : Place (table.rowOid ++ rest) := by
  rcases rest with _ | ⟨number, rest⟩
  · rw [List.append_nil]
    exact Place.row table
  · by_cases named : Names table.columnCount number
    · rcases rest with _ | ⟨index, _ | ⟨below, rest⟩⟩
      · exact Place.column table named
      · exact Place.cell table named index
      · exact Place.belowCell table named index below rest
    · rcases not_names named with rfl | beyond
      · exact Place.zeroColumn table rest
      · exact Place.overColumn table beyond rest

theorem place_table (table : Table) (rest : Oid) : Place (table.oid ++ rest) := by
  rcases rest with _ | ⟨first, rest⟩
  · rw [List.append_nil]
    exact Place.table table
  · by_cases isEntry : first = 1
    · subst isEntry
      rcases rest with _ | ⟨second, rest⟩
      · exact Place.entry table
      · by_cases isRow : second = 1
        · subst isRow
          have below := place_below_row table rest
          rwa [Table.rowOid, List.append_assoc] at below
        · exact Place.wrongRow table isRow rest
    · exact Place.wrongEntry table isEntry rest

theorem place_scalarList (list : ScalarList) (rest : Oid) : Place (list.oid ++ rest) := by
  rcases exists_run list.count rest with named | ⟨run, component, more, rfl, named, stops⟩
  · rcases List.eq_nil_or_concat' rest with rfl | ⟨front, last, rfl⟩
    · rw [List.append_nil]
      exact Place.list list
    · exact Place.scalar list (fun other member => named other (List.mem_append_left [last] member))
        (named last (by simp))
  · rcases not_names stops with rfl | beyond
    · rcases List.eq_nil_or_concat' run with rfl | ⟨front, number, rfl⟩
      · exact Place.zeroList list more
      · cases front with
        | nil => exact Place.zeroScalar list (named number (by simp)) more
        | cons first front => exact Place.zeroRun list (List.cons_ne_nil first front) named more
    · exact Place.overList list named beyond more

theorem place_config (rest : Oid) : Place (3 :: 2 :: 1 :: rest) := by
  match rest with
  | [] => exact Place.part .config
  | 0 :: rest => exact Place.zeroPart .config rest
  | 1 :: rest => exact Place.configGap rest
  | 2 :: rest => exact place_table .autoRestart rest
  | 3 :: rest => exact place_table .portPoe rest
  | 4 :: rest => exact place_scalarList .outState rest
  | (more + 5) :: rest => exact Place.overPart .config (show 4 < more + 5 by omega) rest

theorem place_special (rest : Oid) : Place (3 :: 2 :: 2 :: 6 :: rest) := by
  match rest with
  | [] => exact Place.special
  | 0 :: rest => exact Place.zeroSpecial rest
  | 1 :: rest => exact place_table .autoRestartErrors rest
  | (more + 2) :: rest => exact Place.overSpecial more rest

theorem place_status (rest : Oid) : Place (3 :: 2 :: 2 :: rest) := by
  match rest with
  | [] => exact Place.part .status
  | 0 :: rest => exact Place.zeroPart .status rest
  | 1 :: rest => exact place_scalarList .upsStatus rest
  | 2 :: rest => exact place_table .inputStatus rest
  | 3 :: rest => exact place_scalarList .fwStatus rest
  | 4 :: rest => exact Place.statusGap rest
  | 5 :: rest => exact place_table .poeStatus rest
  | 6 :: rest => exact place_special rest
  | 7 :: rest => exact place_table .sfpStatus rest
  | 8 :: rest => exact place_scalarList .sensor rest
  | (more + 9) :: rest => exact Place.overPart .status (show 8 < more + 9 by omega) rest

/-- Every identifier has a place. -/
theorem place (oid : Oid) : Place oid := by
  match oid with
  | [] => exact Place.base
  | 0 :: rest => exact Place.zeroMain rest
  | 1 :: rest => exact Place.gap (Or.inl rfl) rest
  | 2 :: rest => exact Place.gap (Or.inr (Or.inl rfl)) rest
  | [3] => exact Place.switch
  | 3 :: 0 :: rest => exact Place.zeroSwitch rest
  | 3 :: 1 :: rest => exact Place.switchGap rest
  | [3, 2] => exact Place.psw
  | 3 :: 2 :: 0 :: rest => exact Place.zeroPsw rest
  | 3 :: 2 :: 1 :: rest => exact place_config rest
  | 3 :: 2 :: 2 :: rest => exact place_status rest
  | 3 :: 2 :: (more + 3) :: rest => exact Place.overPsw more rest
  | 3 :: (more + 3) :: rest => exact Place.overSwitch more rest
  | 4 :: rest => exact Place.gap (Or.inr (Or.inr rfl)) rest
  | (more + 5) :: rest => exact Place.overMain more rest

end TfortisPack.SnmpAgent
