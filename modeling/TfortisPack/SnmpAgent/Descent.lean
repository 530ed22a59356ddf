import TfortisPack.SnmpAgent.Objects

/-!
# What `get_OidElement` finds

The descent reaches every object through the same three rows.  Below a list of
scalars it stays in that list, whatever the number of further components; below
a table it takes the entry, the row, a column and one index.
-/

namespace TfortisPack.SnmpAgent

def switchRow : Element :=
  .node (.items [3] switchList .list)

def pswRow : Element :=
  .node (.items [3, 2] pswList .list)

theorem getOidElement_part (part : Part) (rest : Oid) :
    getOidElement (3 :: 2 :: part.number :: rest) =
      descend (3 :: 2 :: part.number :: rest) part.list [switchRow, pswRow, part.row] 4 rest := by
  cases part <;> rfl

section Scalars

def scalarRow (list : Oid) (number : Nat) : Element :=
  .node (.leaf (list ++ [number]) .scalar)

/-- The components that name a scalar of the list. -/
def Names (count : Nat) (number : Nat) : Prop :=
  1 ≤ number ∧ number ≤ count

instance (count number : Nat) : Decidable (Names count number) :=
  inferInstanceAs (Decidable (_ ∧ _))

theorem getOidElement_scalarList (list : ScalarList) (rest : Oid) :
    getOidElement (list.oid ++ rest) =
      descend (list.oid ++ rest) (scalars list.oid list.count)
        [switchRow, pswRow, list.part.row, list.row] 5 rest := by
  cases list <;> rfl

theorem length_scalars (list : Oid) (count : Nat) : (scalars list count).length = count := by
  simp [scalars]

theorem scalars_getElem? {count number : Nat} (list : Oid) (named : Names count number) :
    (scalars list count)[number - 1]? = some (.leaf (list ++ [number]) .scalar) := by
  obtain ⟨positive, within⟩ := named
  have inside : number - 1 < count := by omega
  have restored : number - 1 + 1 = number := by omega
  simp [scalars, inside, restored]

theorem descend_scalars_cons (oidArr list : Oid) {count number : Nat} (named : Names count number)
    (objArr : List Element) (position : Nat) (rest : Oid) :
    descend oidArr (scalars list count) objArr position (number :: rest) =
      descend oidArr (scalars list count) (objArr ++ [scalarRow list number]) (position + 1)
        rest := by
  have notOver : ¬number > (scalars list count).length := by
    rw [length_scalars]
    exact Nat.not_lt.mpr named.2
  have notZero : number ≠ 0 := Nat.one_le_iff_ne_zero.mp named.1
  rw [descend, if_neg notOver, if_neg notZero, scalars_getElem? list named]
  rfl

theorem descend_scalars_append (oidArr list : Oid) {count : Nat} {run : Oid}
    (named : ∀ number ∈ run, Names count number) (objArr : List Element) (position : Nat)
    (rest : Oid) :
    ∃ behind, descend oidArr (scalars list count) objArr position (run ++ rest) =
      descend oidArr (scalars list count) (objArr ++ run.map (scalarRow list)) behind rest := by
  induction run generalizing objArr position with
  | nil =>
      exact ⟨position, by simp⟩
  | cons number run inductionHypothesis =>
      obtain ⟨behind, later⟩ := inductionHypothesis
        (fun other member => named other (List.mem_cons_of_mem number member))
        (objArr ++ [scalarRow list number]) (position + 1)
      refine ⟨behind, ?_⟩
      rw [List.cons_append,
        descend_scalars_cons oidArr list (named number List.mem_cons_self), later]
      simp

theorem descend_over (oidArr : Oid) {current : List Node} {component : Nat}
    (beyond : current.length < component) (objArr : List Element) (position : Nat) (rest : Oid) :
    descend oidArr current objArr position (component :: rest) = (objArr, .overList) := by
  rw [descend, if_pos beyond]

theorem descend_zero (oidArr : Oid) (current : List Node) (objArr : List Element)
    (position : Nat) (rest : Oid) :
    descend oidArr current objArr position (0 :: rest) = (objArr, .zeroIndex) := by
  rw [descend, if_neg (Nat.not_lt_zero _), if_pos rfl]

theorem getOidElement_over_part (part : Part) {number : Nat} (beyond : part.count < number)
    (rest : Oid) :
    getOidElement (3 :: 2 :: part.number :: number :: rest) =
      ([switchRow, pswRow, part.row], .overList) := by
  have count : part.list.length = part.count := by
    cases part <;> rfl
  rw [getOidElement_part, descend_over _ (by rw [count]; exact beyond)]

end Scalars

section Tables

namespace Table

/-- The rows down to the table. -/
def above : Table → List Element
  | autoRestart => [switchRow, pswRow, Part.config.row, .node (table [3, 2, 1, 2] autoRestartEntry)]
  | portPoe => [switchRow, pswRow, Part.config.row, .node (table [3, 2, 1, 3] portPoeEntry)]
  | inputStatus =>
      [switchRow, pswRow, Part.status.row, .node (table [3, 2, 2, 2] inputStatusEntry)]
  | poeStatus => [switchRow, pswRow, Part.status.row, .node (table [3, 2, 2, 5] poeStatusEntry)]
  | autoRestartErrors =>
      [switchRow, pswRow, Part.status.row, .node (.items [3, 2, 2, 6] specialStatusList .list),
        .node (table [3, 2, 2, 6, 1] autoRestartErrorsEntry)]
  | sfpStatus => [switchRow, pswRow, Part.status.row, .node (table [3, 2, 2, 7] sfpStatusEntry)]

def tableRow (table : Table) : Node :=
  .items table.rowOid (columns table.rowOid table.columnCount) .row

def entryRow (table : Table) : Node :=
  .holder (table.oid ++ [1]) table.tableRow .entry

/-- The rows down to the row of the table. -/
def toRow (table : Table) : List Element :=
  table.above ++ [.node table.entryRow, .node table.tableRow]

end Table

theorem zero_or_two_le {component : Nat} (wrong : component ≠ 1) :
    component = 0 ∨ ∃ more, component = more + 2 := by
  rcases component with _ | _ | more
  · exact Or.inl rfl
  · exact absurd rfl wrong
  · exact Or.inr ⟨more, rfl⟩

theorem getOidElement_wrong_entry (table : Table) {first : Nat} (wrong : first ≠ 1) (rest : Oid) :
    (getOidElement (table.oid ++ first :: rest)).2 = .failed := by
  obtain rfl | ⟨more, rfl⟩ := zero_or_two_le wrong
  · cases table <;> rfl
  · cases table <;> rfl

theorem getOidElement_wrong_row (table : Table) {second : Nat} (wrong : second ≠ 1)
    (rest : Oid) :
    (getOidElement (table.oid ++ 1 :: second :: rest)).2 = .failed := by
  obtain rfl | ⟨more, rfl⟩ := zero_or_two_le wrong
  · cases table <;> rfl
  · cases table <;> rfl

theorem getOidElement_row (table : Table) (rest : Oid) :
    getOidElement (table.rowOid ++ rest) =
      descend (table.rowOid ++ rest) (columns table.rowOid table.columnCount) table.toRow
        (table.rowOid.length + 1) rest := by
  cases table <;> rfl

def columnRow (table : Table) (number : Nat) : Element :=
  .node (.leaf (table.rowOid ++ [number]) .column)

theorem length_columns (row : Oid) (count : Nat) : (columns row count).length = count := by
  simp [columns]

theorem columns_getElem? {count number : Nat} (row : Oid) (named : Names count number) :
    (columns row count)[number - 1]? = some (.leaf (row ++ [number]) .column) := by
  obtain ⟨positive, within⟩ := named
  have inside : number - 1 < count := by omega
  have restored : number - 1 + 1 = number := by omega
  simp [columns, inside, restored]

theorem getOidElement_column (table : Table) {number : Nat}
    (named : Names table.columnCount number) (rest : Oid) :
    getOidElement (table.rowOid ++ number :: rest) =
      match rest with
      | [] => (table.toRow ++ [columnRow table number], .found)
      | [index] => (table.toRow ++ [columnRow table number, .index index], .found)
      | _ :: _ :: _ => (table.toRow ++ [columnRow table number], .oidOver) := by
  have notOver : ¬number > (columns table.rowOid table.columnCount).length := by
    rw [length_columns]
    exact Nat.not_lt.mpr named.2
  have notZero : number ≠ 0 := Nat.one_le_iff_ne_zero.mp named.1
  have excess : (table.rowOid ++ number :: rest).length -
      (Node.leaf (table.rowOid ++ [number]) .column).oid.length = rest.length := by
    simp only [Node.oid, List.length_append, List.length_cons, List.length_nil]
    omega
  rw [getOidElement_row, descend, if_neg notOver, if_neg notZero,
    columns_getElem? table.rowOid named]
  simp only [Node.type, excess]
  match rest with
  | [] => rfl
  | [index] => rfl
  | _ :: _ :: _ => rfl

theorem getOidElement_over_column (table : Table) {number : Nat}
    (beyond : table.columnCount < number) (rest : Oid) :
    getOidElement (table.rowOid ++ number :: rest) = (table.toRow, .overList) := by
  rw [getOidElement_row, descend_over _ (by rw [length_columns]; exact beyond)]

theorem getOidElement_zero_column (table : Table) (rest : Oid) :
    getOidElement (table.rowOid ++ 0 :: rest) = (table.toRow, .zeroIndex) := by
  rw [getOidElement_row, descend_zero]

end Tables

end TfortisPack.SnmpAgent
