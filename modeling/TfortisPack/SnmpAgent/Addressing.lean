import TfortisPack.SnmpAgent.Direct

/-!
# Which object a GET and a SET act on

A GET for a cell prints that cell.  A GET that meets a scalar prints another
identifier than the requested instance, and mostly another value: the
components behind a scalar are taken for further scalars of its list, and the
zero of its instance for a step to the scalar behind it.
-/

namespace TfortisPack.SnmpAgent

variable {device : Device}

section Scalars

end Scalars

section Cells

end Cells

section Set

/-- The values that `snmp_setOutPutState` takes. -/
def Accepted (setParam : SetParam) : Prop :=
  (setParam.number = some 0 ∨ setParam.number = some 1) ∧
    (setParam.valueType = "integer" ∨ setParam.valueType = "INTEGER")

end Set

section Exactness

/-- Neither prints nor changes anything. -/
def Silent (answer : Outcome × List Command) : Prop :=
  answer.1.printed = none ∧ answer.2 = []

theorem Fails.silent {answer : Outcome × List Command} (fails : Fails answer) : Silent answer := by
  obtain ⟨resObj, rfl⟩ := fails
  exact ⟨rfl, rfl⟩

end Exactness

end TfortisPack.SnmpAgent
