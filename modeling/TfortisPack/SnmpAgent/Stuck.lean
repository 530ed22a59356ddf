import TfortisPack.SnmpAgent.Searches

/-!
# Requests that do not finish

The requests that run into a nil or stay in the loop until its guard.  Some do
so whatever is asked; the others depend on the kind of request and on the rows
that the device reports.
-/

namespace TfortisPack.SnmpAgent

/-- The rows above the tables of `configPSW`; a search for one of them gets to
the first table. -/
inductive Above : Oid → Prop where
  | gap {first : Nat} (isGap : first = 1 ∨ first = 2 ∨ first = 4) (rest : Oid) :
      Above (first :: rest)
  | switch : Above [3]
  | switchGap (rest : Oid) : Above (3 :: 1 :: rest)
  | psw : Above [3, 2]
  | config : Above [3, 2, 1]
  | configGap (rest : Oid) : Above (3 :: 2 :: 1 :: 1 :: rest)

/-- The device reports no row of the table. -/
def Lacks (device : Device) (table : Table) : Prop :=
  ∀ count, table.rows device ≠ some (count + 1)

/-- Further identifiers for which a GET-NEXT does not finish. -/
inductive NextStuck (device : Device) : Oid → Prop where
  | above {oid : Oid} (above : Above oid) (notGap : oid ≠ [3, 2, 1, 1])
      (lacks : Lacks device .autoRestart) : NextStuck device oid
  | statusGap (rest : Oid) (lacks : Lacks device .poeStatus) :
      NextStuck device (3 :: 2 :: 2 :: 4 :: rest)
  | special (lacks : Lacks device .autoRestartErrors) : NextStuck device [3, 2, 2, 6]
  | lastScalar (list : ScalarList) (rest : Oid) {next : Table}
      (isNext : nextTable list.part list.number = some next) (lacks : Lacks device next)
      (kept : rest.length = 1 → next.rows device = none) :
      NextStuck device (list.oid ++ list.count :: 0 :: rest)
  | overList (list : ScalarList) {run : Oid} {component : Nat}
      (named : ∀ other ∈ run, Names list.count other) (beyond : list.count < component)
      (rest : Oid) {next : Table} (isNext : nextTable list.part list.number = some next)
      (lacks : Lacks device next)
      (kept : rest = [] → ∀ last, run.getLast? = some last → last + 1 ≤ list.count →
        next.rows device = none) :
      NextStuck device (list.oid ++ (run ++ component :: rest))
  | missing (table : Table) (none : table.rows device = none) {oid : Oid}
      (inside : oid = table.oid ∨ oid = table.oid ++ [1] ∨ oid = table.rowOid ∨
        (∃ number, Names table.columnCount number ∧ oid = table.rowOid ++ [number]) ∨
        ∃ number index, Names table.columnCount number ∧ oid = table.rowOid ++ [number, index]) :
      NextStuck device oid
  | statusTable {table : Table} (isStatus : table = .inputStatus ∨ table = .poeStatus)
      (lacks : Lacks device table) : NextStuck device table.oid
  | entry (table : Table) (lacks : Lacks device table) {next : Table}
      (isNext : nextTable table.part table.number = some next) (nextLacks : Lacks device next) :
      NextStuck device (table.oid ++ [1])
  | cell (table : Table) (empty : table.rows device = some 0) {number : Nat}
      (named : Names table.columnCount (number + 1)) (positive : 1 ≤ number) (index : Nat) :
      NextStuck device (table.rowOid ++ [number, index])
  | lastCell (table : Table) {count index : Nat} (reported : table.rows device = some count)
      (past : count ≤ index) {next : Table}
      (isNext : nextTable table.part table.number = some next) (lacks : Lacks device next) :
      NextStuck device (table.rowOid ++ [table.columnCount, index])
  | overColumn (table : Table) {number : Nat} (beyond : table.columnCount < number) {rest : Oid}
      (nonempty : rest ≠ []) {next : Table}
      (isNext : nextTable table.part table.number = some next) (lacks : Lacks device next) :
      NextStuck device (table.rowOid ++ number :: rest)

variable {device : Device} {request : Request} {input : Oid}

section Broken

end Broken

section Direct

end Direct

section Get

end Get

section Set

end Set

end TfortisPack.SnmpAgent
