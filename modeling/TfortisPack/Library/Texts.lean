import Mathlib.Data.List.Basic

/-!
# Tokens of a text

A text cut at a delimiter, as `strtok` and the Lua pattern `[^c]+` cut it: runs
of delimiters count as one, and none stands for an empty token.
-/

namespace TfortisPack.Library

namespace Texts

variable {α : Type} [DecidableEq α]

/-- The maximal nonempty pieces of a text without the delimiter. -/
def tokens (delim : α) (text : List α) : List (List α) :=
  (text.splitOn delim).filter (· ≠ [])

theorem tokens_nil (delim : α) : tokens delim [] = [] := by
  simp [tokens]

theorem tokens_append_cons (delim : α) (before behind : List α) :
    tokens delim (before ++ delim :: behind) = tokens delim before ++ tokens delim behind := by
  rw [tokens, List.splitOn_append_cons_self, List.filter_append]
  rfl

theorem tokens_of_free {delim : α} {text : List α} (free : delim ∉ text) (nonempty : text ≠ []) :
    tokens delim text = [text] := by
  simp [tokens, List.splitOn_eq_singleton free, nonempty]

theorem tokens_intercalate {delim : α} {items : List (List α)}
    (free : ∀ item ∈ items, delim ∉ item) (nonempty : ∀ item ∈ items, item ≠ []) :
    tokens delim (List.intercalate [delim] items) = items := by
  by_cases empty : items = []
  · rw [empty]
    exact tokens_nil delim
  · rw [tokens, List.splitOn_intercalate delim free empty, List.filter_eq_self]
    simpa using nonempty

/-- A text is free of the delimiter, or it is cut at the first one. -/
theorem cut_induction {motive : List α → Prop} (delim : α)
    (whole : ∀ text, delim ∉ text → motive text)
    (cut : ∀ before behind, delim ∉ before → motive behind → motive (before ++ delim :: behind))
    (text : List α) : motive text := by
  generalize length : text.length = size
  induction size using Nat.strongRecOn generalizing text with
  | _ size inductionHypothesis =>
      by_cases member : delim ∈ text
      · obtain ⟨before, behind, rfl, free⟩ := List.eq_append_cons_of_mem member
        refine cut before behind free (inductionHypothesis behind.length ?_ behind rfl)
        rw [← length, List.length_append, List.length_cons]
        omega
      · exact whole text member

theorem free_of_mem_tokens {delim : α} {text token : List α} (member : token ∈ tokens delim text) :
    delim ∉ token := by
  induction text using cut_induction delim with
  | whole text free =>
      by_cases empty : text = []
      · simp [empty, tokens_nil] at member
      · rw [tokens_of_free free empty, List.mem_singleton] at member
        rwa [member]
  | cut before behind free inductionHypothesis =>
      rw [tokens_append_cons, List.mem_append] at member
      rcases member with first | later
      · by_cases empty : before = []
        · simp [empty, tokens_nil] at first
        · rw [tokens_of_free free empty, List.mem_singleton] at first
          rwa [first]
      · exact inductionHypothesis later

theorem ne_nil_of_mem_tokens {delim : α} {text token : List α}
    (member : token ∈ tokens delim text) : token ≠ [] := by
  simpa using (List.mem_filter.mp member).2

theorem mem_of_mem_tokens {delim : α} {text token : List α} {letter : α}
    (member : token ∈ tokens delim text) (inToken : letter ∈ token) : letter ∈ text := by
  induction text using cut_induction delim with
  | whole text free =>
      by_cases empty : text = []
      · simp [empty, tokens_nil] at member
      · rw [tokens_of_free free empty, List.mem_singleton] at member
        rwa [← member]
  | cut before behind free inductionHypothesis =>
      rw [tokens_append_cons, List.mem_append] at member
      rcases member with first | later
      · by_cases empty : before = []
        · simp [empty, tokens_nil] at first
        · rw [tokens_of_free free empty, List.mem_singleton] at first
          exact List.mem_append_left _ (first ▸ inToken)
      · exact List.mem_append_right _ (List.mem_cons_of_mem _ (inductionHypothesis later))

/-- Between two tokens stands a delimiter. -/
theorem two_mul_length_tokens_le (delim : α) (text : List α) :
    2 * (tokens delim text).length ≤ text.length + 1 := by
  have short : ∀ text : List α, delim ∉ text → (tokens delim text).length ≤ text.length ∧
      (tokens delim text).length ≤ 1 := by
    intro text free
    by_cases empty : text = []
    · simp [empty, tokens_nil]
    · have positive := List.length_pos_iff.mpr empty
      rw [tokens_of_free free empty, List.length_singleton]
      omega
  induction text using cut_induction delim with
  | whole text free =>
      have few := short text free
      omega
  | cut before behind free inductionHypothesis =>
      have few := short before free
      simp only [tokens_append_cons, List.length_append, List.length_cons]
      omega

end Texts

end TfortisPack.Library
