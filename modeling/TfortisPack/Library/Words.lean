import Mathlib.Data.List.TakeWhile

/-!
# Words of a text

The words of a text are its longest pieces without a blank.
-/

namespace TfortisPack.Library

variable {α : Type*} {blank : α → Bool} {letter : α} {lead word text rest : List α}
  {later : List (List α)}

def words (blank : α → Bool) (text : List α) : List (List α) :=
  (text.splitOnP blank).filter fun piece => !piece.isEmpty

/-- A text that is empty or goes on with a blank. -/
def BlankFirst (blank : α → Bool) (text : List α) : Prop :=
  ∀ letter ∈ text.head?, blank letter = true

theorem words_nil : words blank [] = [] := by
  rfl

theorem words_blank_cons (isBlank : blank letter = true) :
    words blank (letter :: text) = words blank text := by
  rw [words, List.splitOnP_cons_eq_if_modifyHead, if_pos isBlank]
  exact List.filter_cons_of_neg (by simp)

theorem words_append_of_blank (blanks : ∀ letter ∈ lead, blank letter = true) :
    words blank (lead ++ text) = words blank text := by
  induction lead with
  | nil =>
      rfl
  | cons letter lead inductionHypothesis =>
      rw [List.cons_append, words_blank_cons (blanks letter List.mem_cons_self)]
      apply inductionHypothesis
      intro other member
      exact blanks other (List.mem_cons_of_mem letter member)

theorem words_append (nonempty : word ≠ []) (solid : ∀ letter ∈ word, blank letter = false)
    (separated : BlankFirst blank rest) :
    words blank (word ++ rest) = word :: words blank rest := by
  have kept (pieces : List (List α)) : (word :: pieces).filter (fun piece => !piece.isEmpty) =
      word :: pieces.filter fun piece => !piece.isEmpty :=
    List.filter_cons_of_pos (by simpa using nonempty)
  cases rest with
  | nil =>
      rw [List.append_nil, words, List.splitOnP_eq_singleton solid, kept]
      rfl
  | cons letter rest =>
      have isBlank : blank letter = true := separated letter rfl
      rw [words_blank_cons isBlank, words,
        List.splitOnP_append_cons_of_forall_mem solid letter isBlank, kept]
      rfl

/-- A text is blanks, or blanks, a word and what follows the word. -/
theorem blank_or_word (blank : α → Bool) (text : List α) :
    (∀ letter ∈ text, blank letter = true) ∨
      ∃ lead word rest, text = lead ++ (word ++ rest) ∧ (∀ letter ∈ lead, blank letter = true) ∧
        word ≠ [] ∧ (∀ letter ∈ word, blank letter = false) ∧ BlankFirst blank rest := by
  have whole := List.takeWhile_append_dropWhile (p := blank) (l := text)
  have first := List.head?_dropWhile_not blank text
  cases behind : text.dropWhile blank with
  | nil =>
      exact Or.inl (List.dropWhile_eq_nil_iff.mp behind)
  | cons letter tail =>
      rw [behind] at whole first
      have solid : (!blank letter) = true := by simpa using first
      refine Or.inr ⟨text.takeWhile blank, letter :: tail.takeWhile (!blank ·),
        tail.dropWhile (!blank ·), ?_, ?_, List.cons_ne_nil _ _, ?_, ?_⟩
      · rw [List.cons_append, List.takeWhile_append_dropWhile, whole]
      · intro other member
        exact List.mem_takeWhile_imp member
      · intro other member
        rcases List.mem_cons.mp member with rfl | member
        · simpa using solid
        · simpa using List.mem_takeWhile_imp member
      · intro other isFirst
        have stopped := List.head?_dropWhile_not (!blank ·) tail
        rw [isFirst] at stopped
        simpa using stopped

theorem words_eq_nil_iff :
    words blank text = [] ↔ ∀ letter ∈ text, blank letter = true := by
  constructor
  · intro noWords
    rcases blank_or_word blank text with
      blanks | ⟨lead, word, rest, rfl, blanks, nonempty, solid, separated⟩
    · exact blanks
    · rw [words_append_of_blank blanks, words_append nonempty solid separated] at noWords
      cases noWords
  · intro blanks
    rw [← List.append_nil text, words_append_of_blank blanks, words_nil]

theorem words_tail_of_blankFirst (separated : BlankFirst blank rest) :
    words blank rest.tail = words blank rest := by
  cases rest with
  | nil =>
      rfl
  | cons letter rest =>
      exact (words_blank_cons (separated letter rfl)).symm

/-- The first word as a scan for its start and for its end finds it. -/
theorem words_eq_cons_of_dropWhile (nonempty : text.dropWhile blank ≠ []) :
    words blank text =
      (text.dropWhile blank).takeWhile (!blank ·) ::
        words blank ((text.dropWhile blank).dropWhile (!blank ·)).tail := by
  have whole := List.takeWhile_append_dropWhile (p := blank) (l := text)
  have parts := List.takeWhile_append_dropWhile (p := (!blank ·)) (l := text.dropWhile blank)
  have first := List.head?_dropWhile_not blank text
  have stopped := List.head?_dropWhile_not (!blank ·) (text.dropWhile blank)
  have separated : BlankFirst blank ((text.dropWhile blank).dropWhile (!blank ·)) := by
    intro letter isFirst
    rw [Option.mem_def.mp isFirst] at stopped
    simpa using stopped
  have wordNonempty : (text.dropWhile blank).takeWhile (!blank ·) ≠ [] := by
    obtain ⟨letter, tail, found⟩ := List.exists_cons_of_ne_nil nonempty
    rw [found] at first ⊢
    have solid : (!blank letter) = true := by simpa using first
    rw [List.takeWhile_cons, if_pos solid]
    exact List.cons_ne_nil _ _
  have solid : ∀ letter ∈ (text.dropWhile blank).takeWhile (!blank ·), blank letter = false := by
    intro letter member
    simpa using List.mem_takeWhile_imp member
  have blanks : ∀ letter ∈ text.takeWhile blank, blank letter = true :=
    fun letter member => List.mem_takeWhile_imp member
  have skipped : words blank (text.takeWhile blank ++ text.dropWhile blank) =
      words blank (text.dropWhile blank) :=
    words_append_of_blank blanks
  rw [whole] at skipped
  rw [skipped, words_tail_of_blankFirst separated,
    ← words_append wordNonempty solid separated, parts]

end TfortisPack.Library
