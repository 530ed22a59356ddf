import Mathlib.Combinatorics.SimpleGraph.Acyclic
import Mathlib.Order.WellFounded

/-!
# Graphs of parents

A graph in which every vertex has a rank and at most one neighbour of a smaller
rank, its parent.  If neighbours differ in rank the graph has no cycle, and the
way up the parents ends at a vertex without one.
-/

namespace TfortisPack.Library

namespace Forests

variable {V α : Type*} [LinearOrder α] {G : SimpleGraph V} {rank : V → α}

/-- A vertex of the largest rank on a cycle would have two parents. -/
theorem isAcyclic_of_rank (differ : ∀ u v, G.Adj u v → rank u ≠ rank v)
    (unique : ∀ v first second, G.Adj v first → G.Adj v second → rank first < rank v →
      rank second < rank v → first = second) : G.IsAcyclic := by
  classical
  intro start cycle isCycle
  obtain ⟨top, isOn, largest⟩ := cycle.support.toFinset.exists_max_image rank
    ⟨start, List.mem_toFinset.mpr cycle.start_mem_support⟩
  rw [List.mem_toFinset] at isOn
  have rotated := isCycle.rotate isOn
  have below : ∀ vertex ∈ (cycle.rotate top isOn).support, G.Adj top vertex →
      rank vertex < rank top := by
    intro vertex member adjacent
    have onCycle : vertex ∈ cycle.support := by
      simpa using member
    exact lt_of_le_of_ne (largest vertex (List.mem_toFinset.mpr onCycle))
      (differ top vertex adjacent).symm
  have first := (cycle.rotate top isOn).adj_snd rotated.not_nil
  have last := ((cycle.rotate top isOn).adj_penultimate rotated.not_nil).symm
  refine rotated.snd_ne_penultimate (unique top _ _ first last (below _ ?_ first) (below _ ?_ last))
  · exact (cycle.rotate top isOn).getVert_mem_support 1
  · exact (cycle.rotate top isOn).getVert_mem_support _

/-- The way up the parents ends. -/
theorem exists_root [WellFoundedLT α] {up : V → V → Prop} {isRoot : V → Prop}
    (parent : ∀ v, isRoot v ∨ ∃ above, up v above ∧ rank above < rank v) (v : V) :
    ∃ root, isRoot root ∧ Relation.ReflTransGen up v root := by
  induction same : rank v using WellFoundedLT.induction generalizing v with
  | ind value inductionHypothesis =>
    rcases parent v with isRoot | ⟨above, step, smaller⟩
    · exact ⟨v, isRoot, .refl⟩
    · obtain ⟨root, isRoot, higher⟩ := inductionHypothesis (rank above) (same ▸ smaller) above rfl
      exact ⟨root, isRoot, .head step higher⟩

/-- What every edge of a graph can do for another one, every walk can. -/
theorem reachable_of_adj {H : SimpleGraph V} (edges : ∀ u v, G.Adj u v → H.Reachable u v)
    {u v : V} (reachable : G.Reachable u v) : H.Reachable u v := by
  induction (SimpleGraph.reachable_iff_reflTransGen u v).mp reachable with
  | refl => exact SimpleGraph.Reachable.refl u
  | tail walk last inductionHypothesis =>
    exact (inductionHypothesis ((SimpleGraph.reachable_iff_reflTransGen _ _).mpr walk)).trans
      (edges _ _ last)

/-- What the ends of every edge share, the ends of every walk share. -/
theorem eq_of_reachable {β : Type*} {value : V → β}
    (edges : ∀ u v, G.Adj u v → value u = value v) {u v : V} (reachable : G.Reachable u v) :
    value u = value v := by
  induction (SimpleGraph.reachable_iff_reflTransGen u v).mp reachable with
  | refl => rfl
  | tail walk last inductionHypothesis =>
    exact (inductionHypothesis ((SimpleGraph.reachable_iff_reflTransGen _ _).mpr walk)).trans
      (edges _ _ last)

end Forests

end TfortisPack.Library
