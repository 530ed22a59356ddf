import TfortisPack.Mstpd.Matrix

/-!
# Loops that allocate records

A new port gets a record in every tree, a new tree one in every port.  When
`calloc` fails on the way, the loop removes the records that it has added, and
the lists are as they were.
-/

namespace TfortisPack.Mstpd

open Library

variable {calloc : Nat → Bool} {cell : Nat × Nat → PerTreePort}

/-- The trees with these ports. -/
def treesOf (cell : Nat × Nat → PerTreePort) (ports mstids : List Nat) : List Tree :=
  mstids.map fun mstid => ⟨mstid, (column mstid ports).map cell⟩

/-- The ports with these trees. -/
def portsOf (cell : Nat × Nat → PerTreePort) (mstids ports : List Nat) : List Port :=
  ports.map fun prt => ⟨prt, (row prt mstids).map cell⟩

theorem mem_row {prt : Nat} {mstids : List Nat} {place : Nat × Nat} :
    place ∈ row prt mstids ↔ place.1 = prt ∧ place.2 ∈ mstids := by
  simp only [row, List.mem_map]
  constructor
  · rintro ⟨mstid, member, rfl⟩
    exact ⟨rfl, member⟩
  · rintro ⟨rfl, member⟩
    exact ⟨place.2, member, rfl⟩

theorem mem_column {mstid : Nat} {ports : List Nat} {place : Nat × Nat} :
    place ∈ column mstid ports ↔ place.1 ∈ ports ∧ place.2 = mstid := by
  simp only [column, List.mem_map]
  constructor
  · rintro ⟨prt, member, rfl⟩
    exact ⟨member, rfl⟩
  · rintro ⟨member, rfl⟩
    exact ⟨place.1, member, rfl⟩

theorem row_append (prt : Nat) (first second : List Nat) :
    row prt (first ++ second) = row prt first ++ row prt second :=
  List.map_append

theorem column_append (mstid : Nat) (first second : List Nat) :
    column mstid (first ++ second) = column mstid first ++ column mstid second :=
  List.map_append

/-- Trees whose records stay as they are. -/
theorem treesOf_congr {cell cell' : Nat × Nat → PerTreePort} {ports mstids : List Nat}
    (same : ∀ prt ∈ ports, ∀ mstid ∈ mstids, cell' (prt, mstid) = cell (prt, mstid)) :
    treesOf cell' ports mstids = treesOf cell ports mstids := by
  refine List.map_congr_left fun mstid member => ?_
  rw [Tree.mk.injEq]
  refine ⟨rfl, List.map_congr_left fun place isIn => ?_⟩
  obtain ⟨isPort, rfl⟩ := mem_column.mp isIn
  exact same place.1 isPort place.2 member

theorem portsOf_congr {cell cell' : Nat × Nat → PerTreePort} {ports mstids : List Nat}
    (same : ∀ prt ∈ ports, ∀ mstid ∈ mstids, cell' (prt, mstid) = cell (prt, mstid)) :
    portsOf cell' mstids ports = portsOf cell mstids ports := by
  refine List.map_congr_left fun prt member => ?_
  rw [Port.mk.injEq]
  refine ⟨rfl, List.map_congr_left fun place isIn => ?_⟩
  obtain ⟨rfl, isTree⟩ := mem_row.mp isIn
  exact same place.1 member place.2 isTree

/-! ## A new port -/

section NewPort

variable {prt : Nat} {ports : List Nat}

/-- The records of the new port in `done` are removed from all trees. -/
theorem foldl_delFromTrees_row (fresh : prt ∉ ports) {done todo : List Nat} {heap : Nat}
    (filled : Filled (fun place => place.1 ∈ ports ∧ place.2 ∈ done ++ todo ∨
      place.1 = prt ∧ place.2 ∈ done) cell heap) :
    ((row prt done).map cell).foldl delFromTrees
        (treesOf cell (ports ++ [prt]) done ++ treesOf cell ports todo) =
      treesOf cell ports (done ++ todo) := by
  have oldTree : ∀ mstid ∈ done ++ todo,
      without ((row prt done).map cell) ((column mstid ports).map cell) =
        (column mstid ports).map cell := by
    intro mstid member
    rw [without_map fun place isIn other isGone => filled.distinct place ?_ other ?_]
    · congr 1
      refine List.filter_eq_self.mpr fun place isIn => ?_
      rw [decide_eq_true_eq, mem_row]
      rintro ⟨rfl, _⟩
      exact fresh (mem_column.mp isIn).1
    · obtain ⟨isPort, rfl⟩ := mem_column.mp isIn
      exact Or.inl ⟨isPort, member⟩
    · exact Or.inr (mem_row.mp isGone)
  have newTree : ∀ mstid ∈ done,
      without ((row prt done).map cell) ((column mstid (ports ++ [prt])).map cell) =
        (column mstid ports).map cell := by
    intro mstid member
    have only : without ((row prt done).map cell) ((column mstid [prt]).map cell) = [] := by
      rw [without_map fun place isIn other isGone => filled.distinct place ?_ other ?_]
      · rw [List.filter_eq_nil_iff.mpr, List.map_nil]
        intro place isIn
        obtain ⟨isPort, rfl⟩ := mem_column.mp isIn
        rw [decide_eq_true_eq, not_not]
        exact mem_row.mpr ⟨List.mem_singleton.mp isPort, member⟩
      · obtain ⟨isPort, rfl⟩ := mem_column.mp isIn
        exact Or.inr ⟨List.mem_singleton.mp isPort, member⟩
      · exact Or.inr (mem_row.mp isGone)
    have split := oldTree mstid (List.mem_append_left _ member)
    simp only [without] at only split ⊢
    rw [column_append, List.map_append, List.filter_append, only, List.append_nil, split]
  rw [foldl_delFromTrees, List.map_append]
  simp only [treesOf, List.map_append, List.map_map]
  congr 1
  · refine List.map_congr_left fun mstid member => ?_
    simp only [Function.comp_apply, newTree mstid member]
  · refine List.map_congr_left fun mstid member => ?_
    simp only [Function.comp_apply, oldTree mstid (List.mem_append_right _ member)]

/-- What the loop over the trees comes to: a record in every tree, or the trees as they were. -/
theorem addToTrees_outcome (fresh : prt ∉ ports) (todo done : List Nat)
    (cell : Nat × Nat → PerTreePort) (heap : Nat) (distinct : (done ++ todo).Nodup)
    (filled : Filled (fun place => place.1 ∈ ports ∧ place.2 ∈ done ++ todo ∨
      place.1 = prt ∧ place.2 ∈ done) cell heap) :
    (∃ cell' heap', heap ≤ heap' ∧
      addToTrees calloc prt (treesOf cell (ports ++ [prt]) done) (treesOf cell ports todo)
          ((row prt done).map cell) heap =
        (true, ⟨treesOf cell' (ports ++ [prt]) (done ++ todo),
          (row prt (done ++ todo)).map cell', heap'⟩) ∧
      (∀ place, place.1 ∈ ports → cell' place = cell place) ∧
      Filled (fun place => place.1 ∈ ports ++ [prt] ∧ place.2 ∈ done ++ todo) cell' heap') ∨
    ∃ heap', heap ≤ heap' ∧
      addToTrees calloc prt (treesOf cell (ports ++ [prt]) done) (treesOf cell ports todo)
          ((row prt done).map cell) heap =
        (false, ⟨treesOf cell ports (done ++ todo), [], heap'⟩) := by
  induction todo generalizing done cell heap with
  | nil =>
    rw [List.append_nil] at filled ⊢
    refine Or.inl ⟨cell, heap, Nat.le_refl heap, rfl, fun _ _ => rfl,
      filled_mono filled ?_ (Nat.le_refl heap)⟩
    rintro place ⟨isPort, isTree⟩
    rcases List.mem_append.mp isPort with old | new
    · exact Or.inl ⟨old, isTree⟩
    · exact Or.inr ⟨List.mem_singleton.mp new, isTree⟩
  | cons mstid todo inductionHypothesis =>
    have notDone : mstid ∉ done := fun member =>
      (List.nodup_append.mp distinct).2.2 mstid member mstid List.mem_cons_self rfl
    rw [show treesOf cell ports (mstid :: todo) =
      ⟨mstid, (column mstid ports).map cell⟩ :: treesOf cell ports todo from rfl, addToTrees]
    by_cases allocated : calloc heap = true
    · rw [if_pos allocated]
      have otherPort : ∀ place : Nat × Nat, place.1 ∈ ports →
          fill cell (prt, mstid) heap place = cell place := fun place isPort =>
        fill_of_ne fun same => fresh (by rw [same] at isPort; exact isPort)
      have doneTrees : treesOf (fill cell (prt, mstid) heap) (ports ++ [prt]) (done ++ [mstid]) =
          treesOf cell (ports ++ [prt]) done ++
            [⟨mstid, (column mstid ports).map cell ++ [⟨heap, prt, mstid⟩]⟩] := by
        have before : treesOf (fill cell (prt, mstid) heap) (ports ++ [prt]) done =
            treesOf cell (ports ++ [prt]) done := by
          refine treesOf_congr fun _ _ other isDone => fill_of_ne fun same => notDone ?_
          rw [← (Prod.mk.inj same).2]
          exact isDone
        have column : (column mstid (ports ++ [prt])).map (fill cell (prt, mstid) heap) =
            (column mstid ports).map cell ++ [⟨heap, prt, mstid⟩] := by
          rw [column_append, List.map_append]
          congr 1
          · exact List.map_congr_left fun place isIn => otherPort place (mem_column.mp isIn).1
          · exact congrArg (fun ptp => [ptp]) (fill_self cell (prt, mstid) heap)
        rw [treesOf, List.map_append, List.map_singleton, column]
        exact congrArg (· ++ _) before
      have todoTrees : treesOf (fill cell (prt, mstid) heap) ports todo = treesOf cell ports todo :=
        treesOf_congr fun other isPort _ _ => otherPort (other, _) isPort
      have newRow : (row prt (done ++ [mstid])).map (fill cell (prt, mstid) heap) =
          (row prt done).map cell ++ [⟨heap, prt, mstid⟩] := by
        rw [row_append, List.map_append]
        congr 1
        · exact map_fill_of_not_mem fun isIn => notDone (mem_row.mp isIn).2
        · exact congrArg (fun ptp => [ptp]) (fill_self cell (prt, mstid) heap)
      have refilled : Filled (fun place => place.1 ∈ ports ∧ place.2 ∈ (done ++ [mstid]) ++ todo ∨
          place.1 = prt ∧ place.2 ∈ done ++ [mstid]) (fill cell (prt, mstid) heap) (heap + 1) := by
        refine filled_fill filled (prt, mstid) fun place member => ?_
        rcases member with ⟨isPort, isTree⟩ | ⟨isNew, isTree⟩
        · exact Or.inr (Or.inl ⟨isPort, by simpa using isTree⟩)
        · rcases List.mem_append.mp isTree with old | new
          · exact Or.inr (Or.inr ⟨isNew, old⟩)
          · exact Or.inl (Prod.ext isNew (List.mem_singleton.mp new))
      have later := inductionHypothesis (done ++ [mstid]) (fill cell (prt, mstid) heap) (heap + 1)
        (by rwa [List.append_assoc, List.singleton_append]) refilled
      rw [doneTrees, todoTrees, newRow, List.append_assoc, List.singleton_append] at later
      rcases later with ⟨cell', heap', grown, ran, same, filled'⟩ | ⟨heap', grown, ran⟩
      · exact Or.inl ⟨cell', heap', by omega, ran,
          fun place isPort => (same place isPort).trans (otherPort place isPort), filled'⟩
      · refine Or.inr ⟨heap', by omega, ran.trans ?_⟩
        rw [treesOf_congr fun other isPort _ _ => otherPort (other, _) isPort]
    · rw [if_neg allocated]
      refine Or.inr ⟨heap + 1, Nat.le_succ heap, ?_⟩
      have removed := foldl_delFromTrees_row fresh filled
      rw [show treesOf cell ports (mstid :: todo) =
        ⟨mstid, (column mstid ports).map cell⟩ :: treesOf cell ports todo from rfl] at removed
      rw [removed]

end NewPort

/-! ## A new tree -/

section NewTree

variable {after mstid : Nat} {mstids : List Nat}

/-- The identifiers with the new one behind `after`. -/
def withTree (after mstid : Nat) (mstids : List Nat) : List Nat :=
  listAdd (fun other => other = after) mstid mstids

theorem mem_listAdd {α : Type} {isPlace : α → Bool} {new entry : α} {entries : List α}
    (place : ∃ other ∈ entries, isPlace other = true) :
    entry ∈ listAdd isPlace new entries ↔ entry = new ∨ entry ∈ entries := by
  induction entries with
  | nil =>
    obtain ⟨other, member, _⟩ := place
    cases member
  | cons first entries inductionHypothesis =>
    rw [listAdd]
    by_cases here : isPlace first = true
    · rw [if_pos here]
      simp only [List.mem_cons]
      tauto
    · rw [if_neg here]
      have later : ∃ other ∈ entries, isPlace other = true := by
        obtain ⟨other, member, isHere⟩ := place
        rcases List.mem_cons.mp member with rfl | isLater
        · exact absurd isHere here
        · exact ⟨other, isLater, isHere⟩
      rw [List.mem_cons, List.mem_cons, inductionHypothesis later]
      tauto

theorem mem_withTree {other : Nat} (isTree : after ∈ mstids) :
    other ∈ withTree after mstid mstids ↔ other = mstid ∨ other ∈ mstids :=
  mem_listAdd ⟨after, isTree, by simp⟩

/-- The new identifier can be taken out again. -/
theorem filter_withTree (fresh : mstid ∉ mstids) :
    (withTree after mstid mstids).filter (fun other => other ≠ mstid) = mstids := by
  induction mstids with
  | nil => rfl
  | cons first mstids inductionHypothesis =>
    obtain ⟨different, fresh⟩ := not_or.mp fun same => fresh (List.mem_cons.mpr same)
    have others : mstids.filter (fun other => other ≠ mstid) = mstids := by
      refine List.filter_eq_self.mpr fun other member => ?_
      rw [decide_eq_true_eq]
      rintro rfl
      exact fresh member
    rw [withTree, listAdd]
    split
    · rw [List.filter_cons_of_pos (by simpa using fun same => different same.symm),
        List.filter_cons_of_neg (by simp), others]
    · rw [List.filter_cons_of_pos (by simpa using fun same => different same.symm)]
      exact congrArg (first :: ·) (inductionHypothesis fresh)

theorem row_withTree (prt after mstid : Nat) (mstids : List Nat) :
    listAdd (fun place : Nat × Nat => place.2 = after) (prt, mstid) (row prt mstids) =
      row prt (withTree after mstid mstids) :=
  listAdd_map (fun _ _ => rfl) mstid

/-- The records of the new tree in `done` are removed from all ports. -/
theorem foldl_delFromPorts_column (isTree : after ∈ mstids) (fresh : mstid ∉ mstids)
    {done todo : List Nat} {heap : Nat}
    (filled : Filled (fun place => place.1 ∈ done ++ todo ∧ place.2 ∈ mstids ∨
      place.1 ∈ done ∧ place.2 = mstid) cell heap) :
    ((column mstid done).map cell).foldl delFromPorts
        (portsOf cell (withTree after mstid mstids) done ++ portsOf cell mstids todo) =
      portsOf cell mstids (done ++ todo) := by
  have oldPort : ∀ prt ∈ done ++ todo,
      without ((column mstid done).map cell) ((row prt mstids).map cell) =
        (row prt mstids).map cell := by
    intro prt member
    rw [without_map fun place isIn other isGone => filled.distinct place ?_ other ?_]
    · congr 1
      refine List.filter_eq_self.mpr fun place isIn => ?_
      rw [decide_eq_true_eq, mem_column]
      rintro ⟨_, rfl⟩
      exact fresh (mem_row.mp isIn).2
    · obtain ⟨rfl, isOld⟩ := mem_row.mp isIn
      exact Or.inl ⟨member, isOld⟩
    · exact Or.inr (mem_column.mp isGone)
  have newPort : ∀ prt ∈ done,
      without ((column mstid done).map cell) ((row prt (withTree after mstid mstids)).map cell) =
        (row prt mstids).map cell := by
    intro prt member
    rw [without_map fun place isIn other isGone => filled.distinct place ?_ other ?_]
    · congr 1
      have only : (row prt (withTree after mstid mstids)).filter
          (fun place => place ∉ column mstid done) =
          row prt ((withTree after mstid mstids).filter fun other => other ≠ mstid) := by
        rw [row, row, List.filter_map]
        congr 1
        refine List.filter_congr fun other _ => ?_
        simp only [Function.comp_apply, decide_eq_decide, mem_column, not_and]
        exact ⟨fun free same => free member same, fun different _ => different⟩
      rw [only, filter_withTree fresh]
    · obtain ⟨rfl, isOld⟩ := mem_row.mp isIn
      rcases (mem_withTree isTree).mp isOld with new | old
      · exact Or.inr ⟨member, new⟩
      · exact Or.inl ⟨List.mem_append_left _ member, old⟩
    · exact Or.inr (mem_column.mp isGone)
  rw [foldl_delFromPorts, List.map_append]
  simp only [portsOf, List.map_append, List.map_map]
  congr 1
  · refine List.map_congr_left fun prt member => ?_
    simp only [Function.comp_apply, newPort prt member]
  · refine List.map_congr_left fun prt member => ?_
    simp only [Function.comp_apply, oldPort prt (List.mem_append_right _ member)]

/-- One round of the loop over the ports. -/
theorem map_listAdd (isTree : after ∈ mstids) (fresh : mstid ∉ mstids) {prt : Nat}
    {done todo : List Nat} {heap : Nat} (distinct : (done ++ prt :: todo).Nodup)
    (filled : Filled (fun place => place.1 ∈ done ++ prt :: todo ∧ place.2 ∈ mstids ∨
      place.1 ∈ done ∧ place.2 = mstid) cell heap) :
    (portsOf cell (withTree after mstid mstids) done ++ portsOf cell mstids (prt :: todo)).map
        (fun other => { other with
          trees := listAdd (fun ptp => ptp.address = (cell (prt, after)).address)
            ⟨heap, prt, mstid⟩ other.trees }) =
      portsOf (fill cell (prt, mstid) heap) (withTree after mstid mstids) (done ++ [prt]) ++
        portsOf (fill cell (prt, mstid) heap) mstids todo := by
  have inside : after ∈ mstids ∧ prt ∈ done ++ prt :: todo := ⟨isTree, by simp⟩
  -- The record behind which the new one goes is in the list of this port only.
  have otherList : ∀ other mstids', other ≠ prt →
      (∀ place ∈ row other mstids', place.1 ∈ done ++ prt :: todo ∧ place.2 ∈ mstids ∨
        place.1 ∈ done ∧ place.2 = mstid) →
      listAdd (fun ptp => ptp.address = (cell (prt, after)).address) ⟨heap, prt, mstid⟩
          ((row other mstids').map cell) =
        (row other mstids').map (fill cell (prt, mstid) heap) := by
    intro other mstids' different places
    rw [map_fill_of_not_mem fun isIn => different (mem_row.mp isIn).1.symm]
    refine listAdd_of_none (List.forall_mem_map.mpr fun place isIn => ?_) _
    rw [decide_eq_false_iff_not]
    intro sameAddress
    have same := filled.distinct place (places place isIn) (prt, after)
      (Or.inl ⟨inside.2, inside.1⟩) sameAddress
    exact different ((mem_row.mp isIn).1.symm.trans (congrArg Prod.fst same))
  have thisList : listAdd (fun ptp => ptp.address = (cell (prt, after)).address)
      ⟨heap, prt, mstid⟩ ((row prt mstids).map cell) =
        (row prt (withTree after mstid mstids)).map (fill cell (prt, mstid) heap) := by
    have unchanged : (row prt mstids).map cell =
        (row prt mstids).map (fill cell (prt, mstid) heap) :=
      (map_fill_of_not_mem fun isIn => fresh (mem_row.mp isIn).2).symm
    have new : (⟨heap, prt, mstid⟩ : PerTreePort) = fill cell (prt, mstid) heap (prt, mstid) :=
      (fill_self cell (prt, mstid) heap).symm
    rw [unchanged, new, ← row_withTree]
    refine listAdd_map (fun place isIn => ?_) _
    obtain ⟨isPort, isOld⟩ := mem_row.mp isIn
    have notNew : place ≠ (prt, mstid) := by
      rintro rfl
      exact fresh isOld
    rw [fill_of_ne notNew, decide_eq_decide]
    constructor
    · intro sameAddress
      have same := filled.distinct place (Or.inl ⟨by rw [isPort]; exact inside.2, isOld⟩)
        (prt, after) (Or.inl ⟨inside.2, inside.1⟩) sameAddress
      rw [same]
    · intro sameTree
      have same : place = (prt, after) := Prod.ext isPort sameTree
      rw [same]
  obtain ⟨_, restDistinct, apart⟩ := List.nodup_append.mp distinct
  have notDone : ∀ other ∈ done, other ≠ prt := fun other member =>
    apart other member prt List.mem_cons_self
  have notTodo : ∀ other ∈ todo, other ≠ prt := by
    rintro other member rfl
    exact (List.nodup_cons.mp restDistinct).1 member
  simp only [portsOf, List.map_append, List.map_cons, List.map_map, List.map_nil,
    List.append_assoc, List.singleton_append, thisList]
  congr 1
  · refine List.map_congr_left fun other member => ?_
    simp only [Function.comp_apply]
    rw [otherList other _ (notDone other member) fun place isIn => ?_]
    obtain ⟨rfl, isTree'⟩ := mem_row.mp isIn
    rcases (mem_withTree isTree).mp isTree' with new | old
    · exact Or.inr ⟨member, new⟩
    · exact Or.inl ⟨List.mem_append_left _ member, old⟩
  · refine congrArg (_ :: ·) (List.map_congr_left fun other member => ?_)
    simp only [Function.comp_apply]
    rw [otherList other _ (notTodo other member) fun place isIn => ?_]
    obtain ⟨rfl, isOld⟩ := mem_row.mp isIn
    exact Or.inl ⟨List.mem_append_right _ (List.mem_cons_of_mem _ member), isOld⟩

/-- What the loop over the ports comes to: a record in every port, or the ports as they were. -/
theorem addToPorts_outcome (isTree : after ∈ mstids) (fresh : mstid ∉ mstids)
    (todo done : List Nat) (cell : Nat × Nat → PerTreePort) (heap : Nat)
    (distinct : (done ++ todo).Nodup)
    (filled : Filled (fun place => place.1 ∈ done ++ todo ∧ place.2 ∈ mstids ∨
      place.1 ∈ done ∧ place.2 = mstid) cell heap) :
    (∃ cell' heap', heap ≤ heap' ∧
      addToPorts calloc mstid ((column after todo).map cell)
          (portsOf cell (withTree after mstid mstids) done ++ portsOf cell mstids todo)
          ((column mstid done).map cell) heap =
        (true, ⟨portsOf cell' (withTree after mstid mstids) (done ++ todo),
          (column mstid (done ++ todo)).map cell', heap'⟩) ∧
      (∀ place, place.2 ∈ mstids → cell' place = cell place) ∧
      Filled (fun place => place.1 ∈ done ++ todo ∧ place.2 ∈ withTree after mstid mstids)
        cell' heap') ∨
    ∃ heap', heap ≤ heap' ∧
      addToPorts calloc mstid ((column after todo).map cell)
          (portsOf cell (withTree after mstid mstids) done ++ portsOf cell mstids todo)
          ((column mstid done).map cell) heap =
        (false, ⟨portsOf cell mstids (done ++ todo), [], heap'⟩) := by
  induction todo generalizing done cell heap with
  | nil =>
    rw [List.append_nil] at filled ⊢
    refine Or.inl ⟨cell, heap, Nat.le_refl heap, ?_, fun _ _ => rfl,
      filled_mono filled ?_ (Nat.le_refl heap)⟩
    · rw [show portsOf cell mstids [] = [] from rfl, List.append_nil]
      rfl
    · rintro place ⟨isPort, isTree'⟩
      rcases (mem_withTree isTree).mp isTree' with new | old
      · exact Or.inr ⟨isPort, new⟩
      · exact Or.inl ⟨isPort, old⟩
  | cons prt todo inductionHypothesis =>
    have named := (filled.named (prt, after) (Or.inl ⟨by simp, isTree⟩)).1
    rw [show (column after (prt :: todo)).map cell =
      cell (prt, after) :: (column after todo).map cell from rfl, addToPorts]
    by_cases allocated : calloc heap = true
    · rw [if_pos allocated]
      have otherTree : ∀ place : Nat × Nat, place.2 ∈ mstids →
          fill cell (prt, mstid) heap place = cell place := fun place isOld =>
        fill_of_ne fun same => fresh (by rw [same] at isOld; exact isOld)
      have notDone : prt ∉ done := fun member =>
        (List.nodup_append.mp distinct).2.2 prt member prt List.mem_cons_self rfl
      have afterColumn : (column after todo).map (fill cell (prt, mstid) heap) =
          (column after todo).map cell :=
        List.map_congr_left fun place isIn =>
          otherTree place (by rw [(mem_column.mp isIn).2]; exact isTree)
      have newColumn : (column mstid (done ++ [prt])).map (fill cell (prt, mstid) heap) =
          (column mstid done).map cell ++ [⟨heap, prt, mstid⟩] := by
        rw [column_append, List.map_append]
        congr 1
        · exact map_fill_of_not_mem fun isIn => notDone (mem_column.mp isIn).1
        · exact congrArg (fun ptp => [ptp]) (fill_self cell (prt, mstid) heap)
      have refilled : Filled (fun place => place.1 ∈ (done ++ [prt]) ++ todo ∧ place.2 ∈ mstids ∨
          place.1 ∈ done ++ [prt] ∧ place.2 = mstid) (fill cell (prt, mstid) heap)
          (heap + 1) := by
        refine filled_fill filled (prt, mstid) fun place member => ?_
        rcases member with ⟨isPort, isOld⟩ | ⟨isPort, isNew⟩
        · exact Or.inr (Or.inl ⟨by simpa using isPort, isOld⟩)
        · rcases List.mem_append.mp isPort with old | new
          · exact Or.inr (Or.inr ⟨old, isNew⟩)
          · exact Or.inl (Prod.ext (List.mem_singleton.mp new) isNew)
      have later := inductionHypothesis (done ++ [prt]) (fill cell (prt, mstid) heap) (heap + 1)
        (by rwa [List.append_assoc, List.singleton_append]) refilled
      rw [afterColumn, newColumn, ← map_listAdd isTree fresh distinct filled, List.append_assoc,
        List.singleton_append] at later
      rw [named]
      rcases later with ⟨cell', heap', grown, ran, same, filled'⟩ | ⟨heap', grown, ran⟩
      · exact Or.inl ⟨cell', heap', by omega, ran,
          fun place isOld => (same place isOld).trans (otherTree place isOld), filled'⟩
      · refine Or.inr ⟨heap', by omega, ran.trans ?_⟩
        rw [portsOf_congr fun _ _ other isOld => otherTree (_, other) isOld]
    · rw [if_neg allocated]
      refine Or.inr ⟨heap + 1, Nat.le_succ heap, ?_⟩
      rw [foldl_delFromPorts_column isTree fresh filled]

end NewTree

end TfortisPack.Mstpd
