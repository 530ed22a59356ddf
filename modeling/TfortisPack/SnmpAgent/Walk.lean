import TfortisPack.Library.Walks
import TfortisPack.SnmpAgent.Totality
import TfortisPack.SnmpAgent.Ordering

/-!
# The walk over all objects

A walk starts at the base and asks for the successor of the last answer until
there is none.  The objects of `mib_list` come in ten segments, the lists of
scalars and the tables, in the order of their identifiers.  Where every table
has a row, the walk goes through one segment after the other; a table without
rows ends it in front of the table.
-/

namespace TfortisPack.SnmpAgent

open Library

/-- The scalars of `mib_list` that a handler serves, each with the index zero,
and the cells of its columns. -/
def IsInstance (device : Device) (oid : Oid) : Prop :=
  ∃ path mibObj, (path, mibObj) ∈ mibList ∧ mibObj.ubusType ≠ .nd ∧
    (mibObj.nodetype = .scalar ∧ oid = path ++ [0] ∨
      mibObj.nodetype = .column ∧ ∃ index, 1 ≤ index ∧
        valueStatus device mibObj index = some .ok ∧ oid = path ++ [index])

/-- The walk from the base visits every object once, in increasing order, and
ends. -/
def WalkComplete (device : Device) : Prop :=
  ∃ visited, Walk (getNext device) [] visited ∧ visited.Pairwise (fun one other => one < other) ∧
    ∀ oid, oid ∈ visited ↔ IsInstance device oid

def HasRows (device : Device) : Prop :=
  ∀ table : Table, ∃ count, table.rows device = some (count + 1)

theorem HasRows.populated {device : Device} (rows : HasRows device) : Populated device := by
  intro table empty
  obtain ⟨count, reported⟩ := rows table
  rw [reported] at empty
  cases empty

section Instances

variable {device : Device} {oid : Oid}

/-- The cells that a table has. -/
def Table.IsCell (device : Device) (table : Table) (oid : Oid) : Prop :=
  ∃ count number index, table.rows device = some count ∧ Names table.columnCount number ∧
    Names count index ∧ oid = table.rowOid ++ [number, index]

def ScalarList.IsScalar (list : ScalarList) (oid : Oid) : Prop :=
  ∃ number, Names list.count number ∧ oid = list.oid ++ [number, 0]

def ScalarList.all : List ScalarList :=
  [.outState, .upsStatus, .fwStatus, .sensor]

def Table.all : List Table :=
  [.autoRestart, .portPoe, .inputStatus, .poeStatus, .autoRestartErrors, .sfpStatus]

theorem mibList_scalar : ∀ entry ∈ mibList, entry.2.ubusType ≠ .nd → entry.2.nodetype = .scalar →
    ∃ list ∈ ScalarList.all, ∃ number < 8, Names list.count number ∧
      entry.1 = list.oid ++ [number] := by
  decide +kernel

theorem mibList_column : ∀ entry ∈ mibList, entry.2.ubusType ≠ .nd → entry.2.nodetype = .column →
    ∃ table ∈ Table.all, ∃ number < 15, Names table.columnCount number ∧
      entry.1 = table.rowOid ++ [number] ∧ entry.2.ubusType = table.ubusType ∧
      (table = .inputStatus → entry.2.name = "inputState" ∨ entry.2.name = "inputType" ∨
        entry.2.name = "inputAlarm" ∨ entry.2.name = "inputIndex") := by
  decide +kernel

theorem scalar_mem_mibList (list : ScalarList) {number : Nat} (named : Names list.count number) :
    ∃ mibObj, (list.oid ++ [number], mibObj) ∈ mibList ∧ mibObj.ubusType ≠ .nd ∧
      mibObj.nodetype = .scalar := by
  have bounded : ∀ list ∈ ScalarList.all, ∀ number < 8, Names list.count number →
      ∃ entry ∈ mibList, entry.1 = list.oid ++ [number] ∧ entry.2.ubusType ≠ .nd ∧
        entry.2.nodetype = .scalar := by
    decide +kernel
  have isList : list ∈ ScalarList.all := by
    cases list <;> decide
  have few : list.count < 8 := by
    cases list <;> decide
  obtain ⟨⟨path, mibObj⟩, member, rfl, served, isScalar⟩ :=
    bounded list isList number (Nat.lt_of_le_of_lt named.2 few) named
  exact ⟨mibObj, member, served, isScalar⟩

/-- The objects are the scalars of the lists and the cells of the tables. -/
theorem isInstance_iff :
    IsInstance device oid ↔
      (∃ list : ScalarList, list.IsScalar oid) ∨ ∃ table : Table, table.IsCell device oid := by
  constructor
  · rintro ⟨path, mibObj, member, served, ⟨isScalar, rfl⟩ | ⟨isColumn, index, positive, present, rfl⟩⟩
    · obtain ⟨list, -, number, -, named, isPath⟩ := mibList_scalar _ member served isScalar
      simp only at isPath
      subst isPath
      exact Or.inl ⟨list, number, named, by simp⟩
    · obtain ⟨table, -, number, -, named, isPath, handler, names⟩ :=
        mibList_column _ member served isColumn
      simp only at isPath
      subst isPath
      rw [valueStatus_column device table handler names positive] at present
      obtain ⟨count, reported, isOk⟩ := Option.map_eq_some_iff.mp present
      have within : index ≤ count := by
        by_contra past
        rw [if_neg past] at isOk
        cases isOk
      exact Or.inr ⟨table, count, number, index, reported, named, ⟨positive, within⟩, by simp⟩
  · rintro (⟨list, number, named, rfl⟩ | ⟨table, count, number, index, reported, named, inRows, rfl⟩)
    · obtain ⟨mibObj, member, served, isScalar⟩ := scalar_mem_mibList list named
      exact ⟨_, mibObj, member, served, Or.inl ⟨isScalar, by simp⟩⟩
    · obtain ⟨valueType, name, isMib, names⟩ := getMibObj_column table named.1 named.2
      obtain ⟨front, behind, split, -⟩ := List.lookup_eq_some_iff.mp isMib
      have member : (table.rowOid ++ [number], MibObject.mk .column valueType table.ubusType name) ∈
          mibList := by
        rw [split]
        exact List.mem_append_right front List.mem_cons_self
      have served : table.ubusType ≠ .nd := by
        cases table <;> decide
      refine ⟨_, _, member, served, Or.inr ⟨rfl, index, inRows.1, ?_, by simp⟩⟩
      rw [valueStatus_column device table rfl names inRows.1, reported, Option.map_some,
        if_pos inRows.2]

end Instances

section Segments

/-- A list of scalars or a table. -/
inductive Segment where
  | scalars (list : ScalarList)
  | cells (table : Table)

namespace Segment

def part : Segment → Part
  | scalars list => list.part
  | cells table => table.part

def number : Segment → Nat
  | scalars list => list.number
  | cells table => table.number

def first (device : Device) : Segment → Option Oid
  | scalars list => some (list.oid ++ [1, 0])
  | cells table => table.first device

/-- The objects of the segment in their order, in a table column by column. -/
def instances (device : Device) : Segment → List Oid
  | scalars list => (List.range list.count).map fun number => list.oid ++ [number + 1, 0]
  | cells table =>
      match table.rows device with
      | some (count + 1) =>
          (grid (fun column row => table.rowOid ++ [column + 1, row + 1])
            (table.columnCount - 1) count).flatten
      | _ => []

end Segment

/-- A request and its answer, in order. -/
def Follows (device : Device) (asked answer : Oid) : Prop :=
  getNext device asked = some answer ∧ asked < answer

variable {device : Device}

theorem Increasing.follows {asked answer : Oid} (increasing : Increasing device asked)
    (answered : getNext device asked = some answer) : Follows device asked answer :=
  ⟨answered, increasing answer answered⟩

/-- What the walk needs of a segment. -/
structure Segment.Walked (device : Device) (segment : Segment) : Prop where
  chain : (segment.instances device).IsChain (Follows device)
  head : (segment.instances device).head? = segment.first device
  last : ∃ last, (segment.instances device).getLast? = some last ∧
    getNext device last = firstAfter device segment.part segment.number ∧ Increasing device last

theorem scalars_walked (rows : HasRows device) (list : ScalarList) :
    (Segment.scalars list).Walked device := by
  obtain ⟨more, isCount⟩ : ∃ more, list.count = more + 1 := by
    cases list <;> exact ⟨_, rfl⟩
  have instances : (Segment.scalars list).instances device =
      (List.range (more + 1)).map fun number => list.oid ++ [number + 1, 0] := by
    rw [← isCount]
    rfl
  constructor
  · rw [instances]
    refine isChain_interval _ more fun number inList => ?_
    have named : Names list.count (number + 1) := ⟨by omega, by omega⟩
    apply (increasing_zero_scalar list rows.populated named []).follows
    rw [getNext_zero_scalar list rows.populated named, if_pos (by omega)]
  · rw [instances, head?_interval]
    rfl
  · have named : Names list.count (more + 1) := ⟨by omega, by omega⟩
    refine ⟨list.oid ++ [more + 1, 0], ?_, ?_, ?_⟩
    · rw [instances, getLast?_interval]
    · rw [getNext_zero_scalar list rows.populated named, if_neg (by omega)]
      rfl
    · exact increasing_zero_scalar list rows.populated named []

theorem cells_walked (rows : HasRows device) (table : Table) :
    (Segment.cells table).Walked device := by
  obtain ⟨columns, isCount⟩ : ∃ columns, table.columnCount = columns + 1 := by
    cases table <;> exact ⟨_, rfl⟩
  obtain ⟨count, reported⟩ := rows table
  have instances : (Segment.cells table).instances device =
      (grid (fun column row => table.rowOid ++ [column + 1, row + 1]) columns count).flatten := by
    simp only [Segment.instances, reported, isCount, Nat.add_sub_cancel]
  have answer : ∀ column row, column ≤ columns →
      getNext device (table.rowOid ++ [column + 1, row + 1]) =
        if row < count then some (table.rowOid ++ [column + 1, row + 1 + 1])
        else if column < columns then some (table.rowOid ++ [column + 1 + 1, 1])
        else firstAfter device table.part table.number := by
    intro column row inColumns
    have named : Names table.columnCount (column + 1) := ⟨by omega, by omega⟩
    rw [getNext_cell table rows.populated named, reported, Option.bind_some, isCount]
    simp only [Nat.succ_le_iff, Nat.add_lt_add_iff_right]
  have increasing : ∀ column row, column ≤ columns →
      Increasing device (table.rowOid ++ [column + 1, row + 1]) := by
    intro column row inColumns
    exact increasing_cell rows.populated table ⟨by omega, by omega⟩ (row + 1)
  constructor
  · rw [instances]
    refine isChain_grid _ columns count ?_ ?_
    · intro column row inColumns inRows
      apply (increasing column row inColumns).follows
      rw [answer column row inColumns, if_pos inRows]
    · intro column inColumns
      apply (increasing column count (Nat.le_of_lt inColumns)).follows
      rw [answer column count (Nat.le_of_lt inColumns), if_neg (Nat.lt_irrefl count),
        if_pos inColumns]
  · rw [instances, head?_grid, Segment.first, Table.first, reported]
    rfl
  · refine ⟨table.rowOid ++ [columns + 1, count + 1], ?_, ?_, ?_⟩
    · rw [instances, getLast?_grid]
    · rw [answer columns count (Nat.le_refl columns), if_neg (Nat.lt_irrefl count),
        if_neg (Nat.lt_irrefl columns)]
      rfl
    · exact increasing columns count (Nat.le_refl columns)

theorem walked (rows : HasRows device) (segment : Segment) : segment.Walked device := by
  cases segment with
  | scalars list => exact scalars_walked rows list
  | cells table => exact cells_walked rows table

end Segments

section Walks

variable {device : Device}

def segments : List Segment :=
  [.cells .autoRestart, .cells .portPoe, .scalars .outState, .scalars .upsStatus,
    .cells .inputStatus, .scalars .fwStatus, .cells .poeStatus, .cells .autoRestartErrors,
    .cells .sfpStatus, .scalars .sensor]

def instances (device : Device) : List Oid :=
  (segments.map (Segment.instances device)).flatten

/-- Behind each segment, the loop finds the next one. -/
theorem segments_linked (device : Device) :
    segments.IsChain fun one other =>
      firstAfter device one.part one.number = other.first device := by
  simp only [segments, List.isChain_cons_cons, List.isChain_singleton, and_true]
  exact ⟨rfl, rfl, rfl, rfl, rfl, rfl, rfl, rfl, rfl⟩

theorem instances_isChain (rows : HasRows device) :
    (instances device).IsChain (Follows device) := by
  have nonempty : [] ∉ segments.map (Segment.instances device) := by
    intro member
    obtain ⟨segment, -, empty⟩ := List.mem_map.mp member
    obtain ⟨last, isLast, -⟩ := (walked rows segment).last
    rw [empty] at isLast
    cases isLast
  rw [instances, List.isChain_flatten nonempty]
  constructor
  · intro objects member
    obtain ⟨segment, -, rfl⟩ := List.mem_map.mp member
    exact (walked rows segment).chain
  · rw [List.isChain_map]
    apply (segments_linked device).imp
    intro one other linked last isLast head isHead
    obtain ⟨foot, isFoot, leaves, increasing⟩ := (walked rows one).last
    rw [isFoot, Option.mem_some_iff] at isLast
    rw [(walked rows other).head, ← linked, ← leaves] at isHead
    rw [← isLast]
    exact increasing.follows isHead

theorem mem_segment_iff (rows : HasRows device) {segment : Segment} {oid : Oid} :
    oid ∈ segment.instances device ↔
      match segment with
      | .scalars list => list.IsScalar oid
      | .cells table => table.IsCell device oid := by
  cases segment with
  | scalars list =>
      simp only [Segment.instances, List.mem_map, List.mem_range]
      constructor
      · rintro ⟨number, inList, rfl⟩
        exact ⟨number + 1, ⟨by omega, inList⟩, rfl⟩
      · rintro ⟨number, ⟨positive, within⟩, rfl⟩
        obtain ⟨earlier, rfl⟩ := Nat.exists_eq_add_of_le' positive
        exact ⟨earlier, within, rfl⟩
  | cells table =>
      obtain ⟨count, reported⟩ := rows table
      simp only [Segment.instances, reported, mem_grid]
      constructor
      · rintro ⟨column, inColumns, row, inRows, rfl⟩
        have nonempty : 1 ≤ table.columnCount := by
          cases table <;> decide
        exact ⟨count + 1, column + 1, row + 1, reported, ⟨by omega, by omega⟩,
          ⟨by omega, by omega⟩, rfl⟩
      · rintro ⟨reports, number, index, isCount, ⟨positive, within⟩, ⟨fromOne, inRows⟩, rfl⟩
        obtain rfl : count + 1 = reports := Option.some.inj (reported.symm.trans isCount)
        obtain ⟨column, rfl⟩ := Nat.exists_eq_add_of_le' positive
        obtain ⟨row, rfl⟩ := Nat.exists_eq_add_of_le' fromOne
        exact ⟨column, by omega, row, by omega, rfl⟩

theorem mem_instances_iff (rows : HasRows device) {oid : Oid} :
    oid ∈ instances device ↔ IsInstance device oid := by
  rw [isInstance_iff, instances, List.mem_flatten]
  constructor
  · rintro ⟨objects, member, inObjects⟩
    obtain ⟨segment, -, rfl⟩ := List.mem_map.mp member
    have isObject := (mem_segment_iff rows).mp inObjects
    cases segment with
    | scalars list => exact Or.inl ⟨list, isObject⟩
    | cells table => exact Or.inr ⟨table, isObject⟩
  · rintro (⟨list, isScalar⟩ | ⟨table, isCell⟩)
    · have member : Segment.scalars list ∈ segments := by
        cases list <;> simp [segments]
      exact ⟨_, List.mem_map_of_mem member, (mem_segment_iff rows).mpr isScalar⟩
    · have member : Segment.cells table ∈ segments := by
        cases table <;> simp [segments]
      exact ⟨_, List.mem_map_of_mem member, (mem_segment_iff rows).mpr isCell⟩

theorem instances_head (rows : HasRows device) :
    (instances device).head? = getNext device [] := by
  have first : (instances device).head? =
      ((Segment.cells .autoRestart).instances device).head? := by
    obtain ⟨last, isLast, -⟩ := (walked rows (.cells .autoRestart)).last
    have nonempty : (Segment.cells .autoRestart).instances device ≠ [] := by
      intro empty
      rw [empty] at isLast
      cases isLast
    exact List.head?_append_of_ne_nil _ nonempty
  rw [first, (walked rows (.cells .autoRestart)).head, getNext_base,
    getNext_switch rows.populated]
  rfl

theorem instances_last : (instances device).getLast? = some [3, 2, 2, 8, 7, 0] := by
  have split : instances device =
      (segments.dropLast.map (Segment.instances device)).flatten ++
        (Segment.scalars .sensor).instances device := by
    simp [instances, segments]
  have isLast : ((Segment.scalars .sensor).instances device).getLast? =
      some [3, 2, 2, 8, 7, 0] := rfl
  rw [split, List.getLast?_append, isLast]
  rfl

/-- With a row in every table, the walk goes through all segments. -/
theorem walkComplete_of_hasRows (rows : HasRows device) : WalkComplete device := by
  have chain : ([] :: instances device).IsChain (Follows device) := by
    refine (instances_isChain rows).cons fun first isFirst => ?_
    rw [instances_head rows] at isFirst
    have front : Increasing device [] := increasing_of_in_front
      (getNext_base.trans (getNext_switch rows.populated)) (by decide)
    exact front.follows isFirst
  have last : ([] :: instances device).getLast? = some [3, 2, 2, 8, 7, 0] := by
    rw [List.getLast?_cons, instances_last]
    rfl
  have ends : getNext device [3, 2, 2, 8, 7, 0] = none :=
    getNext_zero_scalar .sensor rows.populated (show Names 7 7 by decide) []
  refine ⟨instances device, ?_, ?_, fun oid => mem_instances_iff rows⟩
  · exact Walk.of_isChain (chain.imp fun _ _ follows => follows.1) last ends
  · have transitive : Trans (fun one other : Oid => one < other)
        (fun one other : Oid => one < other) (fun one other : Oid => one < other) :=
      ⟨List.lt_trans⟩
    exact List.isChain_iff_pairwise.mp
      ((instances_isChain rows).imp fun _ _ follows => follows.2)

/-- A walk that visits every object does not stop in front of the last one. -/
theorem WalkComplete.answers {asked : Oid} (complete : WalkComplete device)
    (visits : asked = [] ∨ IsInstance device asked) (inFront : asked < [3, 2, 2, 8, 7, 0]) :
    getNext device asked ≠ none := by
  obtain ⟨visited, walk, ascends, covers⟩ := complete
  intro ends
  have lastVisited : [3, 2, 2, 8, 7, 0] ∈ visited :=
    (covers _).mpr (isInstance_iff.mpr (Or.inl ⟨.sensor, 7, by decide, rfl⟩))
  have member : asked ∈ [] :: visited := by
    rcases visits with rfl | isInstance
    · exact List.mem_cons_self
    · exact List.mem_cons_of_mem _ ((covers asked).mpr isInstance)
  have ascendsFromBase : ([] :: visited).Pairwise fun one other => one < other := by
    refine List.pairwise_cons.mpr ⟨fun oid inVisited => ?_, ascends⟩
    obtain ⟨path, _, _, _, ⟨_, rfl⟩ | ⟨_, index, _, _, rfl⟩⟩ := (covers oid).mp inVisited
    · exact List.lt_of_le_of_lt (List.nil_le path) (lt_append_of_ne_nil (List.cons_ne_nil 0 []))
    · exact List.lt_of_le_of_lt (List.nil_le path)
        (lt_append_of_ne_nil (List.cons_ne_nil index []))
  rcases walk.eq_or_rel_of_ends ascendsFromBase member ends
    (List.mem_cons_of_mem _ lastVisited) with rfl | behind
  · exact List.lt_irrefl _ inFront
  · exact List.lt_asymm inFront behind

theorem exists_rows_of_ne_zero {table : Table} {count : Nat}
    (reported : table.rows device = some count) (nonempty : table.rows device ≠ some 0) :
    ∃ more, table.rows device = some (more + 1) := by
  cases count with
  | zero => exact absurd reported nonempty
  | succ more => exact ⟨more, reported⟩

theorem getNext_of_stuck {oid : Oid} (notBase : oid ≠ []) (stuck : NextStuck device oid) :
    getNext device oid = none := by
  rw [getNext_eq_follow notBase]
  cases result : (follow device oid oid 49 ⟨[], none, none⟩).result with
  | none => rfl
  | some answer => exact absurd (finishes_of_result result) (stuck.endless 49 _)

/-- An object in front of each table has no successor while the table is empty. -/
theorem hasRows_of_walkComplete (complete : WalkComplete device) : HasRows device := by
  have autoRestart : ∃ count, Table.autoRestart.rows device = some (count + 1) :=
    exists_rows_of_ne_zero rfl fun empty =>
      complete.answers (Or.inl rfl) (by decide) (getNext_base.trans (getNext_of_stuck
        (List.cons_ne_nil 3 []) (.above .switch (by decide) (lacks_of_empty empty))))
  have portPoe : ∃ count, Table.portPoe.rows device = some (count + 1) := by
    obtain ⟨count, reported⟩ := autoRestart
    refine exists_rows_of_ne_zero rfl fun empty => ?_
    refine complete.answers (Or.inr (isInstance_iff.mpr (Or.inr ?_))) ?_
      (getNext_of_stuck (row_append_ne_nil .autoRestart [9, count + 1])
        (.lastCell .autoRestart reported (Nat.le_refl _) rfl (lacks_of_empty empty)))
    · exact ⟨.autoRestart, count + 1, 9, count + 1, reported, by decide, ⟨by omega, by omega⟩, rfl⟩
    · exact append_lt_of_component [3, 2] (show 1 < 2 by decide) [2, 1, 1, 9, count + 1] [8, 7, 0]
  have inputStatus : ∃ count, Table.inputStatus.rows device = some (count + 1) := by
    by_contra empty
    refine complete.answers (Or.inr (isInstance_iff.mpr (Or.inl ?_))) (by decide)
      (getNext_of_stuck (scalarList_append_ne_nil .upsStatus [4, 0])
        (.lastScalar .upsStatus [] rfl (not_exists.mp empty) (fun one => by cases one)))
    exact ⟨.upsStatus, 4, by decide, rfl⟩
  have poeStatus : ∃ count, Table.poeStatus.rows device = some (count + 1) := by
    refine exists_rows_of_ne_zero rfl fun empty => ?_
    refine complete.answers (Or.inr (isInstance_iff.mpr (Or.inl ?_))) (by decide)
      (getNext_of_stuck (scalarList_append_ne_nil .fwStatus [1, 0])
        (.lastScalar .fwStatus [] rfl (lacks_of_empty empty) (fun one => by cases one)))
    exact ⟨.fwStatus, 1, by decide, rfl⟩
  have autoRestartErrors : ∃ count, Table.autoRestartErrors.rows device = some (count + 1) := by
    obtain ⟨count, reported⟩ := poeStatus
    refine exists_rows_of_ne_zero rfl fun empty => ?_
    refine complete.answers (Or.inr (isInstance_iff.mpr (Or.inr ?_))) ?_
      (getNext_of_stuck (row_append_ne_nil .poeStatus [3, count + 1])
        (.lastCell .poeStatus reported (Nat.le_refl _) rfl (lacks_of_empty empty)))
    · exact ⟨.poeStatus, count + 1, 3, count + 1, reported, by decide, ⟨by omega, by omega⟩, rfl⟩
    · exact append_lt_of_component [3, 2, 2] (show 5 < 8 by decide) [1, 1, 3, count + 1] [7, 0]
  intro table
  cases table with
  | autoRestart => exact autoRestart
  | portPoe => exact portPoe
  | inputStatus => exact inputStatus
  | poeStatus => exact poeStatus
  | autoRestartErrors => exact autoRestartErrors
  | sfpStatus => exact ⟨1, rfl⟩

/-- The answer to a request is behind it and the walk visits every object just
where every table has a row and the request is not misplaced. -/
theorem ordered_and_complete_iff (device : Device) (oid : Oid) :
    Increasing device oid ∧ WalkComplete device ↔ HasRows device ∧ ¬Misplaced oid := by
  constructor
  · rintro ⟨increasing, complete⟩
    have rows := hasRows_of_walkComplete complete
    exact ⟨rows, (increasing_iff rows.populated oid).mp increasing⟩
  · rintro ⟨rows, placed⟩
    exact ⟨(increasing_iff rows.populated oid).mpr placed, walkComplete_of_hasRows rows⟩

/-- A switch with two inputs and eight ports. -/
def eightPorts : Device :=
  ⟨10, 10, 8, 8, some 2, fun _ _ => "1"⟩

/-- `3.2.2.1.2.1` lies below the second scalar of a list and is answered with
the first one. -/
theorem below_second_scalar_goes_back :
    HasRows eightPorts ∧ getNext eightPorts [3, 2, 2, 1, 2, 1] = some [3, 2, 2, 1, 1, 0] ∧
      ¬Increasing eightPorts [3, 2, 2, 1, 2, 1] := by
  have answered : getNext eightPorts [3, 2, 2, 1, 2, 1] = some [3, 2, 2, 1, 1, 0] := by
    decide +kernel
  refine ⟨?_, answered, ?_⟩
  · intro table
    cases table <;> exact ⟨_, rfl⟩
  · intro increasing
    exact absurd (increasing _ answered) (by decide)

end Walks

end TfortisPack.SnmpAgent
