import Mathlib.Data.List.Chain
import Mathlib.Data.List.Range

/-!
# Walks along a successor function

A walk asks for the successor of the last answer until there is none.  The
first part is about a whole walk; the second builds the chains it is made of,
along an interval and along the columns of a grid.
-/

namespace TfortisPack.Library

section Walks

variable {α : Type} {next : α → Option α} {start : α} {visited : List α}

/-- The answers from `start` on, up to the first one without a successor. -/
inductive Walk (next : α → Option α) : α → List α → Prop where
  | stop {start : α} (ends : next start = none) : Walk next start []
  | step {start answer : α} {later : List α} (answered : next start = some answer)
      (goesOn : Walk next answer later) : Walk next start (answer :: later)

theorem Walk.of_isChain {last : α}
    (chain : (start :: visited).IsChain fun asked answer => next asked = some answer)
    (isLast : (start :: visited).getLast? = some last) (ends : next last = none) :
    Walk next start visited := by
  induction visited generalizing start with
  | nil =>
      obtain rfl : start = last := by simpa using isLast
      exact .stop ends
  | cons answer later inductionHypothesis =>
      rw [List.isChain_cons_cons] at chain
      rw [List.getLast?_cons_cons] at isLast
      exact .step chain.1 (inductionHypothesis chain.2 isLast)

/-- Only the end of a walk has no successor. -/
theorem Walk.isLast_of_ends {asked : α} (walk : Walk next start visited)
    (member : asked ∈ start :: visited) (ends : next asked = none) :
    (start :: visited).getLast? = some asked := by
  induction walk with
  | stop _ =>
      rw [List.mem_singleton.mp member]
      rfl
  | step answered goesOn inductionHypothesis =>
      rw [List.getLast?_cons_cons]
      rcases List.mem_cons.mp member with rfl | later
      · rw [ends] at answered
        cases answered
      · exact inductionHypothesis later

/-- In a walk that ascends, an element without a successor is above all others. -/
theorem Walk.eq_or_rel_of_ends {r : α → α → Prop} {asked other : α}
    (walk : Walk next start visited) (ascends : (start :: visited).Pairwise r)
    (member : asked ∈ start :: visited) (ends : next asked = none)
    (visits : other ∈ start :: visited) : other = asked ∨ r other asked := by
  have isLast := walk.isLast_of_ends member ends
  obtain ⟨front, split⟩ := List.getLast?_eq_some_iff.mp isLast
  rw [split] at ascends visits
  rcases List.mem_append.mp visits with inFront | isAsked
  · exact Or.inr ((List.pairwise_append.mp ascends).2.2 other inFront asked
      (List.mem_singleton_self asked))
  · exact Or.inl (List.mem_singleton.mp isAsked)

end Walks

section Chains

variable {α : Type} {r : α → α → Prop}

theorem isChain_interval (place : Nat → α) (count : Nat)
    (steps : ∀ number < count, r (place number) (place (number + 1))) :
    ((List.range (count + 1)).map place).IsChain r := by
  rw [List.isChain_map]
  exact (List.isChain_range_succ _ count).mpr steps

theorem head?_interval (place : Nat → α) (count : Nat) :
    ((List.range (count + 1)).map place).head? = some (place 0) := by
  simp [List.range_succ_eq_map]

theorem getLast?_interval (place : Nat → α) (count : Nat) :
    ((List.range (count + 1)).map place).getLast? = some (place count) := by
  simp [List.range_succ]

/-- The columns of a grid, one behind the other. -/
def grid (place : Nat → Nat → α) (columns rows : Nat) : List (List α) :=
  (List.range (columns + 1)).map fun column => (List.range (rows + 1)).map (place column)

/-- Down each column, and from its foot to the head of the next one. -/
theorem isChain_grid (place : Nat → Nat → α) (columns rows : Nat)
    (down : ∀ column row, column ≤ columns → row < rows →
      r (place column row) (place column (row + 1)))
    (across : ∀ column < columns, r (place column rows) (place (column + 1) 0)) :
    (grid place columns rows).flatten.IsChain r := by
  have nonempty : [] ∉ grid place columns rows := by
    simp [grid]
  rw [List.isChain_flatten nonempty]
  constructor
  · intro cells member
    obtain ⟨column, inGrid, rfl⟩ := List.mem_map.mp member
    have bound : column ≤ columns := Nat.le_of_lt_succ (List.mem_range.mp inGrid)
    exact isChain_interval (place column) rows fun row inRows => down column row bound inRows
  · refine isChain_interval _ columns fun column inColumns => ?_
    intro foot isFoot head isHead
    rw [getLast?_interval, Option.mem_some_iff] at isFoot
    rw [head?_interval, Option.mem_some_iff] at isHead
    rw [← isFoot, ← isHead]
    exact across column inColumns

theorem head?_grid (place : Nat → Nat → α) (columns rows : Nat) :
    (grid place columns rows).flatten.head? = some (place 0 0) := by
  simp [grid, List.range_succ_eq_map]

theorem getLast?_grid (place : Nat → Nat → α) (columns rows : Nat) :
    (grid place columns rows).flatten.getLast? = some (place columns rows) := by
  simp [grid, List.range_succ]

theorem mem_grid {place : Nat → Nat → α} {columns rows : Nat} {a : α} :
    a ∈ (grid place columns rows).flatten ↔
      ∃ column ≤ columns, ∃ row ≤ rows, a = place column row := by
  simp only [grid, List.mem_flatten, List.mem_map, List.mem_range, Nat.lt_succ_iff]
  constructor
  · rintro ⟨cells, ⟨column, inColumns, rfl⟩, inCells⟩
    obtain ⟨row, inRows, rfl⟩ := List.mem_map.mp inCells
    exact ⟨column, inColumns, row, Nat.le_of_lt_succ (List.mem_range.mp inRows), rfl⟩
  · rintro ⟨column, inColumns, row, inRows, rfl⟩
    exact ⟨_, ⟨column, inColumns, rfl⟩,
      List.mem_map.mpr ⟨row, List.mem_range.mpr (Nat.lt_succ_of_le inRows), rfl⟩⟩

end Chains

end TfortisPack.Library
