import Mathlib.Init

/-!
# One's-complement sums

Words below a radix are added with an end-around carry: what leaves the word
at the top comes back at the bottom.  A program adds the words in a wider
accumulator instead and folds the carries in at the end; both ways give the
same word, which only depends on the exact sum modulo the radix less one.
-/

namespace TfortisPack.Library

namespace OnesComplement

/-- The sum of two words with the carry brought back. -/
def add (radix left right : Nat) : Nat :=
  if left + right < radix then left + right else left + right - radix + 1

/-- The words added one after the other. -/
def sum (radix : Nat) (words : List Nat) : Nat :=
  words.foldl (add radix) 0

/-- Carries are folded in until none is left. -/
def folded (radix total : Nat) : Nat :=
  if total < radix ∨ radix < 2 then total
  else folded radix (total / radix + total % radix)
termination_by total
decreasing_by
  have positive : 0 < radix := by omega
  have quotient : 0 < total / radix := Nat.div_pos (by omega) positive
  have split := Nat.div_add_mod total radix
  have larger : 2 * (total / radix) ≤ radix * (total / radix) :=
    Nat.mul_le_mul_right _ (by omega)
  omega

/-- The exact sum. -/
def total (words : List Nat) : Nat :=
  words.foldl (· + ·) 0

section Folding

variable {radix : Nat}

theorem folded_of_lt {exact : Nat} (small : exact < radix) : folded radix exact = exact := by
  rw [folded, if_pos (Or.inl small)]

theorem folded_of_le (wide : 2 ≤ radix) {exact : Nat} (large : radix ≤ exact) :
    folded radix exact = folded radix (exact / radix + exact % radix) := by
  rw [folded, if_neg (by omega)]

/-- One fold changes a number by a multiple of the radix less one. -/
theorem fold_eq (exact : Nat) (wide : 2 ≤ radix) :
    exact = exact / radix + exact % radix + (radix - 1) * (exact / radix) := by
  obtain ⟨less, rfl⟩ : ∃ less, radix = less + 1 := ⟨radix - 1, by omega⟩
  have split := Nat.div_add_mod exact (less + 1)
  rw [Nat.add_mul] at split
  simp only [Nat.add_sub_cancel]
  omega

/-- Folding is the residue modulo the radix less one, with that number itself for the
positive multiples of it. -/
theorem folded_eq (wide : 2 ≤ radix) (exact : Nat) :
    folded radix exact = if exact = 0 then 0 else (exact - 1) % (radix - 1) + 1 := by
  induction exact using Nat.strongRecOn with
  | ind exact inductionHypothesis =>
    rcases Nat.lt_or_ge exact radix with small | large
    · rw [folded_of_lt small]
      split
      · assumption
      · rw [Nat.mod_eq_of_lt (by omega)]
        omega
    · have quotient : 0 < exact / radix := Nat.div_pos large (by omega)
      have split := fold_eq exact wide
      have carried : 0 < (radix - 1) * (exact / radix) := Nat.mul_pos (by omega) quotient
      rw [folded_of_le wide large, inductionHypothesis _ (by omega), if_neg (by omega),
        if_neg (by omega)]
      have shifted : exact - 1 =
          exact / radix + exact % radix - 1 + (radix - 1) * (exact / radix) := by omega
      rw [shifted, Nat.add_mul_mod_self_left]

theorem folded_lt (wide : 2 ≤ radix) (exact : Nat) : folded radix exact < radix := by
  have residue := Nat.mod_lt (exact - 1) (show 0 < radix - 1 by omega)
  rw [folded_eq wide]
  split <;> omega

/-- A fully folded sum does not change when a part of it is folded first. -/
theorem folded_add_folded (wide : 2 ≤ radix) (left right : Nat) :
    folded radix (folded radix left + right) = folded radix (left + right) := by
  rcases Nat.eq_zero_or_pos left with zero | positive
  · rw [zero, folded_of_lt (show 0 < radix by omega)]
  · have part : folded radix left = (left - 1) % (radix - 1) + 1 := by
      rw [folded_eq wide, if_neg (by omega)]
    rw [part, folded_eq wide, folded_eq wide (left + right), if_neg (by omega),
      if_neg (by omega)]
    have shifted : left + right - 1 = left - 1 + right := by omega
    rw [shifted, Nat.add_right_comm, Nat.add_sub_cancel, Nat.mod_add_mod]

theorem add_eq_folded (wide : 2 ≤ radix) {left right : Nat} (leftSmall : left < radix)
    (rightSmall : right < radix) : add radix left right = folded radix (left + right) := by
  rw [add]
  split
  · rw [folded_of_lt ‹_›]
  · have quotient : (left + right) / radix = 1 :=
      Nat.div_eq_of_lt_le (by omega) (by omega)
    have remainder : (left + right) % radix = left + right - radix := by
      rw [Nat.mod_eq_sub_mod (by omega), Nat.mod_eq_of_lt (by omega)]
    rw [folded_of_le wide (by omega), quotient, remainder, folded_of_lt (by omega)]
    omega

/-! ## Sums of words -/

theorem foldl_add_eq (start : Nat) (words : List Nat) :
    words.foldl (· + ·) start = start + total words := by
  induction words generalizing start with
  | nil => rfl
  | cons word rest inductionHypothesis =>
    rw [total, List.foldl_cons, List.foldl_cons, inductionHypothesis,
      inductionHypothesis (0 + word)]
    omega

@[simp] theorem total_nil : total [] = 0 := rfl

@[simp] theorem total_cons (word : Nat) (rest : List Nat) :
    total (word :: rest) = word + total rest := by
  rw [total, List.foldl_cons, foldl_add_eq]
  omega

@[simp] theorem total_append (left right : List Nat) :
    total (left ++ right) = total left + total right := by
  rw [total, List.foldl_append, foldl_add_eq]
  rfl

theorem total_le {bound : Nat} {words : List Nat} (small : ∀ word ∈ words, word ≤ bound) :
    total words ≤ bound * words.length := by
  induction words with
  | nil => exact Nat.zero_le _
  | cons word rest inductionHypothesis =>
    have first := small word List.mem_cons_self
    have others := inductionHypothesis fun later member =>
      small later (List.mem_cons_of_mem word member)
    rw [total_cons, List.length_cons, Nat.mul_succ]
    omega

theorem foldl_add_eq_folded (wide : 2 ≤ radix) {words : List Nat}
    (small : ∀ word ∈ words, word < radix) {start : Nat} (startSmall : start < radix) :
    words.foldl (add radix) start = folded radix (start + total words) := by
  induction words generalizing start with
  | nil => exact (folded_of_lt startSmall).symm
  | cons word rest inductionHypothesis =>
    have first := small word List.mem_cons_self
    rw [List.foldl_cons, add_eq_folded wide startSmall first,
      inductionHypothesis (fun later member => small later (List.mem_cons_of_mem word member))
        (folded_lt wide _),
      folded_add_folded wide, total_cons, Nat.add_assoc]

/-- Adding with the carry brought back at every word is folding the exact sum. -/
theorem sum_eq_folded (wide : 2 ≤ radix) {words : List Nat}
    (small : ∀ word ∈ words, word < radix) : sum radix words = folded radix (total words) := by
  rw [sum, foldl_add_eq_folded wide small (by omega), Nat.zero_add]

/-- The complement of a sum, added to it, fills the word. -/
theorem folded_add_complement (wide : 2 ≤ radix) (exact : Nat) :
    folded radix (exact + (radix - 1 - folded radix exact)) = radix - 1 := by
  have small := folded_lt wide exact
  rw [← folded_add_folded wide, show
    folded radix exact + (radix - 1 - folded radix exact) = radix - 1 by omega,
    folded_of_lt (by omega)]

/-- Two folds of a sum of two words leave no carry. -/
theorem folded_eq_twice (wide : 2 ≤ radix) {exact : Nat} (bounded : exact < radix * radix) :
    folded radix exact =
      (exact / radix + exact % radix + (exact / radix + exact % radix) / radix) % radix := by
  have quotient : exact / radix < radix := Nat.div_lt_of_lt_mul bounded
  have remainder := Nat.mod_lt exact (show 0 < radix by omega)
  have once : folded radix exact = folded radix (exact / radix + exact % radix) := by
    rcases Nat.lt_or_ge exact radix with small | large
    · rw [Nat.div_eq_of_lt small, Nat.mod_eq_of_lt small, Nat.zero_add]
    · exact folded_of_le wide large
  rw [once, ← add_eq_folded wide quotient remainder, add]
  generalize exact / radix = high at quotient
  generalize exact % radix = low at remainder
  split
  case isTrue small =>
    rw [Nat.div_eq_of_lt small, Nat.add_zero, Nat.mod_eq_of_lt small]
  case isFalse large =>
    have carry : (high + low) / radix = 1 :=
      Nat.div_eq_of_lt_le (by omega) (by omega)
    rw [carry, Nat.mod_eq_sub_mod (by omega), Nat.mod_eq_of_lt (by omega)]
    omega

end Folding

end OnesComplement

end TfortisPack.Library
