import Mathlib.Logic.Function.Basic

/-!
# Tables closed under going back

A table renames some keys; `unset` marks the keys it leaves alone.  When no
new name is itself renamed, the same table can also hold the way back.  The
way back is written into the table while it is read, so the entries written
first are read again later: they write what is there already.
-/

namespace TfortisPack.Library

namespace PairedTables

universe u

variable {α : Type u} [DecidableEq α] (unset : α)

/-- A key that is not renamed stands for itself. -/
def translate (table : α → α) (key : α) : α :=
  if table key ≠ unset then table key else key

/-- The way back of one entry. -/
def closeAt (table : α → α) (key : α) : α → α :=
  if table key ≠ unset then Function.update table (table key) key else table

def close (table : α → α) (keys : List α) : α → α :=
  keys.foldl (closeAt unset) table

/-- No two keys share a name, and no name is a key. -/
structure Admissible (table : α → α) : Prop where
  unset_unset : table unset = unset
  distinct : ∀ left right, table left ≠ unset → table left = table right → left = right
  fresh : ∀ key, table key ≠ unset → table (table key) = unset

/-- The table after some keys have been closed: every entry is an original one or the way back
of one, and the closed keys have their way back. -/
structure Closing (table : α → α) (closed : List α) (current : α → α) : Prop where
  kept : ∀ key, table key ≠ unset → current key = table key
  back : ∀ key ∈ closed, table key ≠ unset → current (table key) = key
  only : ∀ key, table key = unset → current key ≠ unset →
    key ≠ unset ∧ table (current key) = key

section

variable {unset} {table : α → α}

omit [DecidableEq α] in
theorem Admissible.ne_unset (admissible : Admissible unset table) {key : α}
    (renamed : table key ≠ unset) : key ≠ unset := by
  rintro rfl
  exact renamed admissible.unset_unset

omit [DecidableEq α] in
theorem closing_nil (table : α → α) : Closing unset table [] table where
  kept := fun _ _ => rfl
  back := fun _ member => absurd member List.not_mem_nil
  only := fun _ absent present => absurd absent present

/-- A visit of a key of the table writes its way back. -/
theorem Closing.visit_renamed {closed : List α} {current : α → α} {key : α}
    (admissible : Admissible unset table) (closing : Closing unset table closed current)
    (renamed : table key ≠ unset) :
    Closing unset table (closed ++ [key]) (closeAt unset current key) := by
  have entry := closing.kept key renamed
  have visited : closeAt unset current key = Function.update current (table key) key := by
    rw [closeAt, entry, if_pos renamed]
  rw [visited]
  refine ⟨fun other otherRenamed => ?_, fun other member otherRenamed => ?_,
    fun other absent present => ?_⟩
  · have different : other ≠ table key := by
      rintro rfl
      exact otherRenamed (admissible.fresh key renamed)
    rw [Function.update_of_ne different, closing.kept other otherRenamed]
  · by_cases same : other = key
    · rw [same, Function.update_self]
    · have different : table other ≠ table key := fun equal =>
        same (admissible.distinct other key otherRenamed equal)
      have before : other ∈ closed := by
        simpa [same] using member
      rw [Function.update_of_ne different, closing.back other before otherRenamed]
  · by_cases same : other = table key
    · rw [same, Function.update_self]
      exact ⟨renamed, rfl⟩
    · rw [Function.update_of_ne same] at present ⊢
      exact closing.only other absent present

/-- A visit of any other key changes nothing: the entry it finds leads to a key of the table
whose entry is this one already. -/
theorem Closing.closeAt_of_unset {closed : List α} {current : α → α} {key : α}
    (closing : Closing unset table closed current) (absent : table key = unset) :
    closeAt unset current key = current := by
  rw [closeAt]
  split
  case isTrue present =>
    obtain ⟨keySet, named⟩ := closing.only key absent present
    have renamed : table (current key) ≠ unset := by
      rw [named]
      exact keySet
    have entry : current (current key) = key := by
      rw [closing.kept _ renamed, named]
    rw [Function.update_eq_self_iff, entry]
  case isFalse => rfl

theorem Closing.visit {closed : List α} {current : α → α}
    (admissible : Admissible unset table) (closing : Closing unset table closed current)
    (key : α) : Closing unset table (closed ++ [key]) (closeAt unset current key) := by
  by_cases absent : table key = unset
  · rw [closing.closeAt_of_unset absent]
    refine ⟨closing.kept, fun other member renamed => ?_, closing.only⟩
    have different : other ≠ key := by
      rintro rfl
      exact renamed absent
    have before : other ∈ closed := by
      simpa [different] using member
    exact closing.back other before renamed
  · exact closing.visit_renamed admissible absent

/-- The keys may be visited in any order and any number of times. -/
theorem Closing.foldl {closed : List α} {current : α → α}
    (admissible : Admissible unset table) (closing : Closing unset table closed current)
    (keys : List α) :
    Closing unset table (closed ++ keys) (keys.foldl (closeAt unset) current) := by
  induction keys generalizing closed current with
  | nil =>
    rw [List.append_nil]
    exact closing
  | cons key rest inductionHypothesis =>
    have visited := inductionHypothesis (closing.visit admissible key)
    rw [List.append_assoc] at visited
    exact visited

theorem closing_close (admissible : Admissible unset table) (keys : List α) :
    Closing unset table keys (close unset table keys) :=
  (closing_nil table).foldl admissible keys

section Closed

variable {current : α → α} {keys : List α} (admissible : Admissible unset table)
  (closing : Closing unset table keys current)

include closing

theorem Closing.translate_of_ne_unset {key : α} (renamed : table key ≠ unset) :
    translate unset current key = table key := by
  rw [translate, closing.kept key renamed, if_pos renamed]

include admissible

theorem Closing.translate_name {key : α} (renamed : table key ≠ unset) (member : key ∈ keys) :
    translate unset current (table key) = key := by
  rw [translate, closing.back key member renamed, if_pos (admissible.ne_unset renamed)]

/-- Once every key has been visited, the way there is the way back. -/
theorem Closing.translate_translate (covered : ∀ key, table key ≠ unset → key ∈ keys) (key : α) :
    translate unset current (translate unset current key) = key := by
  by_cases absent : table key = unset
  · by_cases entry : current key = unset
    · have itself : translate unset current key = key := by
        rw [translate, if_neg (not_not_intro entry)]
      rw [itself, itself]
    · obtain ⟨keySet, named⟩ := closing.only key absent entry
      have renamed : table (current key) ≠ unset := by
        rw [named]
        exact keySet
      have back : translate unset current key = current key := if_pos entry
      rw [back, closing.translate_of_ne_unset renamed, named]
  · rw [closing.translate_of_ne_unset absent,
      closing.translate_name admissible absent (covered key absent)]

end Closed

end

end PairedTables

end TfortisPack.Library
