import Mathlib.Data.List.Induction

/-!
# The last element that passes a test

Where a list is worked through from left to right and later elements overwrite
what earlier ones have left, the outcome is decided by the last element of
some kind.
-/

namespace TfortisPack.Library

variable {α : Type*} {test weak strong : α → Bool} {items : List α} {item : α}

/-- The last element of a list that satisfies a test. -/
def lastWith (test : α → Bool) (items : List α) : Option α :=
  items.reverse.find? test

theorem lastWith_concat (test : α → Bool) (items : List α) (item : α) :
    lastWith test (items ++ [item]) = if test item then some item else lastWith test items := by
  rw [lastWith, List.reverse_append, List.reverse_singleton, List.singleton_append,
    List.find?_cons]
  cases test item <;> rfl

/-- If the last element that passes the weaker test passes the stronger one, it is the last
to do so. -/
theorem lastWith_of_imp
    (implies : ∀ item, strong item = true → weak item = true)
    (last : lastWith weak items = some item) (passes : strong item = true) :
    lastWith strong items = some item := by
  induction items using List.reverseRecOn with
  | nil =>
      cases last
  | append_singleton items newest inductionHypothesis =>
      rw [lastWith_concat] at last ⊢
      by_cases isLast : weak newest = true
      · rw [if_pos isLast] at last
        cases last
        rw [if_pos passes]
      · rw [if_neg isLast] at last
        rw [if_neg fun strong => isLast (implies newest strong)]
        exact inductionHypothesis last

theorem mem_of_lastWith (last : lastWith test items = some item) : item ∈ items :=
  List.mem_reverse.mp (List.mem_of_find?_eq_some last)

theorem passes_of_lastWith (last : lastWith test items = some item) : test item = true :=
  List.find?_some last

theorem lastWith_eq_none_iff :
    lastWith test items = none ↔ ∀ item ∈ items, ¬test item = true := by
  simp [lastWith]

/-- A loop whose steps overwrite an observation, or leave it, ends with what the last
overwriting element has left. -/
theorem observe_foldl {σ β : Type*} (observe : σ → β) {step : σ → α → σ} {value : α → β}
    (writes : ∀ state item,
      observe (step state item) = if test item then value item else observe state)
    (state : σ) (items : List α) :
    observe (items.foldl step state) = (lastWith test items).elim (observe state) value := by
  induction items using List.reverseRecOn with
  | nil =>
      rfl
  | append_singleton items newest inductionHypothesis =>
      rw [List.foldl_append, List.foldl_cons, List.foldl_nil, writes, lastWith_concat]
      by_cases passes : test newest = true
      · rw [if_pos passes, if_pos passes, Option.elim_some]
      · rw [if_neg passes, if_neg passes, inductionHypothesis]

end TfortisPack.Library
