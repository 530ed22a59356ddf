import Mathlib.Data.List.Infix

/-!
# The first occurrence in a text

The part of a text from the first place on where a given text, or a given
letter, stands, as `strstr` and `strchr` of C deliver it.
-/

namespace TfortisPack.Library

namespace Occurrences

variable {α : Type}

/-- A needle without the separator does not reach beyond it. -/
theorem prefix_of_prefix_append_cons {needle before behind : List α} {separator : α}
    (free : separator ∉ needle) (reached : needle <+: before ++ separator :: behind) :
    needle <+: before := by
  induction before generalizing needle with
  | nil =>
      cases needle with
      | nil =>
          exact List.nil_prefix
      | cons letter rest =>
          have same : letter = separator := (List.cons_prefix_cons.mp reached).1
          exact absurd (same ▸ List.mem_cons_self) free
  | cons first before inductionHypothesis =>
      cases needle with
      | nil =>
          exact List.nil_prefix
      | cons letter rest =>
          obtain ⟨same, restReached⟩ := List.cons_prefix_cons.mp reached
          have restFree : separator ∉ rest := fun member =>
            free (List.mem_cons_of_mem letter member)
          exact List.cons_prefix_cons.mpr ⟨same, inductionHypothesis restFree restReached⟩

variable [DecidableEq α]

def firstText (needle : List α) : List α → Option (List α)
  | [] => if needle = [] then some [] else none
  | letter :: rest =>
      if needle <+: letter :: rest then some (letter :: rest) else firstText needle rest

def firstLetter (wanted : α) : List α → Option (List α)
  | [] => none
  | letter :: rest => if letter = wanted then some (letter :: rest) else firstLetter wanted rest

/-! ## A text -/

section FirstText

variable {needle : List α}

theorem firstText_of_prefix {text : List α} (here : needle <+: text) :
    firstText needle text = some text := by
  cases text with
  | nil =>
      rw [firstText, if_pos (List.prefix_nil.mp here)]
  | cons letter rest =>
      rw [firstText, if_pos here]

/-- The search goes on behind a separator when the needle does not stand before
it. -/
theorem firstText_append_cons {separator : α} {before : List α} (behind : List α)
    (nonempty : needle ≠ []) (free : separator ∉ needle) (absent : ¬needle <:+: before) :
    firstText needle (before ++ separator :: behind) = firstText needle behind := by
  induction before with
  | nil =>
      have notHere : ¬needle <+: separator :: behind := by
        intro here
        have inEmpty : needle <+: [] := prefix_of_prefix_append_cons free here
        exact nonempty (List.prefix_nil.mp inEmpty)
      rw [List.nil_append, firstText, if_neg notHere]
  | cons first before inductionHypothesis =>
      have notHere : ¬needle <+: first :: before ++ separator :: behind := fun here =>
        absent (prefix_of_prefix_append_cons free here).isInfix
      have notLater : ¬needle <:+: before := fun later => absent (List.infix_cons later)
      rw [List.cons_append] at notHere ⊢
      rw [firstText, if_neg notHere]
      exact inductionHypothesis notLater

/-- A run of letters that the needle does not have separates as well. -/
theorem firstText_append_run {before run : List α} (behind : List α) (nonempty : needle ≠ [])
    (absent : ¬needle <:+: before) (separated : run ≠ [])
    (free : ∀ letter ∈ run, letter ∉ needle) :
    firstText needle (before ++ (run ++ behind)) = firstText needle behind := by
  induction run generalizing before with
  | nil =>
      exact absurd rfl separated
  | cons separator run inductionHypothesis =>
      have separatorFree : separator ∉ needle := free separator List.mem_cons_self
      rw [List.cons_append, firstText_append_cons (run ++ behind) nonempty separatorFree absent]
      by_cases last : run = []
      · rw [last, List.nil_append]
      · have notInEmpty : ¬needle <:+: [] := fun inEmpty => nonempty (List.infix_nil.mp inEmpty)
        have laterFree : ∀ letter ∈ run, letter ∉ needle := fun letter member =>
          free letter (List.mem_cons_of_mem separator member)
        exact inductionHypothesis notInEmpty last laterFree

/-- A needle that stands somewhere is found. -/
theorem firstText_ne_none {text : List α} (somewhere : needle <:+: text) :
    firstText needle text ≠ none := by
  induction text with
  | nil =>
      rw [firstText, if_pos (List.infix_nil.mp somewhere)]
      exact Option.some_ne_none []
  | cons letter rest inductionHypothesis =>
      by_cases here : needle <+: letter :: rest
      · rw [firstText, if_pos here]
        exact Option.some_ne_none (letter :: rest)
      · rw [firstText, if_neg here]
        exact inductionHypothesis ((List.infix_cons_iff.mp somewhere).resolve_left here)

end FirstText

/-! ## A letter -/

section FirstLetter

variable {wanted : α}

theorem firstLetter_append_cons {before : List α} (behind : List α) (free : wanted ∉ before) :
    firstLetter wanted (before ++ wanted :: behind) = some (wanted :: behind) := by
  induction before with
  | nil =>
      rw [List.nil_append, firstLetter, if_pos rfl]
  | cons letter before inductionHypothesis =>
      have differs : letter ≠ wanted := fun same => free (same ▸ List.mem_cons_self)
      have laterFree : wanted ∉ before := fun member => free (List.mem_cons_of_mem letter member)
      rw [List.cons_append, firstLetter, if_neg differs]
      exact inductionHypothesis laterFree

theorem exists_of_firstLetter {text found : List α}
    (located : firstLetter wanted text = some found) :
    ∃ before behind, text = before ++ wanted :: behind ∧ wanted ∉ before ∧
      found = wanted :: behind := by
  induction text with
  | nil =>
      simp [firstLetter] at located
  | cons letter rest inductionHypothesis =>
      by_cases same : letter = wanted
      · rw [firstLetter, if_pos same, Option.some.injEq] at located
        exact ⟨[], rest, by rw [same, List.nil_append], List.not_mem_nil, by rw [← located, same]⟩
      · rw [firstLetter, if_neg same] at located
        obtain ⟨before, behind, shape, free, isFound⟩ := inductionHypothesis located
        refine ⟨letter :: before, behind, by rw [shape, List.cons_append], ?_, isFound⟩
        intro member
        rcases List.mem_cons.mp member with isFirst | later
        · exact same isFirst.symm
        · exact free later

end FirstLetter

end Occurrences

end TfortisPack.Library
