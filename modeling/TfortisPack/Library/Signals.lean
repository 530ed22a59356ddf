import Mathlib.Data.List.Chain

/-!
# A signal read through noise

A detector sees a sequence of symbols, some of which are valid, and keeps the
last symbol it saw, valid or not.  It tells a valid symbol that differs from a
valid one right before it.  What it tells follows the valid symbols exactly as
long as no change of them has noise in between.
-/

namespace TfortisPack.Library

universe u

variable {α : Type u} (valid : α → Bool)

/-- What is told when `value` comes right after `before`. -/
def told [DecidableEq α] (before value : α) : List α :=
  if valid before ∧ valid value ∧ before ≠ value then [value] else []

/-- Everything told along a sequence that comes after `before`. -/
def changes [DecidableEq α] : α → List α → List α
  | _, [] => []
  | before, value :: rest => told valid before value ++ changes value rest

/-- Reports that follow a sequence: no report repeats the one before it, and the last
report, or the first valid symbol where there is none, is the last valid symbol. -/
structure Follows (sequence reports : List α) : Prop where
  alternate : reports.IsChain (· ≠ ·)
  current : ∀ first ∈ (sequence.filter valid).head?,
    (first :: reports).getLast? = (sequence.filter valid).getLast?

/-- Two different valid symbols with only noise in between stand side by side. -/
def Unbroken (sequence : List α) : Prop :=
  ∀ before first gap second after,
    sequence = before ++ first :: (gap ++ second :: after) →
    valid first → valid second → first ≠ second →
    (∀ noise ∈ gap, ¬valid noise) → gap = []

/-! ## The last valid symbol -/

variable {valid}

theorem filter_concat_of_valid (sequence : List α) {value : α} (valueValid : valid value) :
    (sequence ++ [value]).filter valid = sequence.filter valid ++ [value] := by
  rw [List.filter_append, List.filter_singleton, valueValid]
  rfl

theorem filter_concat_of_not_valid (sequence : List α) {value : α} (noise : ¬valid value) :
    (sequence ++ [value]).filter valid = sequence.filter valid := by
  rw [List.filter_append, List.filter_singleton, Bool.eq_false_iff.mpr noise]
  exact List.append_nil _

/-- Behind a valid symbol the first valid one stays what it is. -/
theorem exists_head?_filter {sequence : List α} {first value : α}
    (last : (sequence.filter valid).getLast? = some first) (valueValid : valid value) :
    ∃ head, (sequence.filter valid).head? = some head ∧
      ((sequence ++ [value]).filter valid).head? = some head := by
  cases filtered : sequence.filter valid with
  | nil =>
      rw [filtered] at last
      cases last
  | cons head rest =>
      refine ⟨head, rfl, ?_⟩
      rw [filter_concat_of_valid sequence valueValid, filtered]
      rfl

/-- The last valid symbol, with the noise behind it. -/
theorem exists_last_valid {sequence : List α} {first : α}
    (last : (sequence.filter valid).getLast? = some first) :
    valid first ∧ ∃ before gap,
      sequence = before ++ first :: gap ∧ ∀ noise ∈ gap, ¬valid noise := by
  rw [List.getLast?_filter, List.find?_eq_some_iff_append] at last
  obtain ⟨firstValid, front, back, reversed, noise⟩ := last
  refine ⟨firstValid, back.reverse, front.reverse, ?_, ?_⟩
  · have restored := congrArg List.reverse reversed
    simpa using restored
  · intro symbol member
    simpa using noise symbol (List.mem_reverse.mp member)

theorem getLast?_filter_of_noise (before : List α) {first : α} {gap : List α}
    (firstValid : valid first) (noise : ∀ symbol ∈ gap, ¬valid symbol) :
    ((before ++ first :: gap).filter valid).getLast? = some first := by
  have empty : gap.filter valid = [] := List.filter_eq_nil_iff.mpr noise
  rw [List.filter_append, List.filter_cons_of_pos firstValid, empty]
  exact List.getLast?_concat

theorem Unbroken.of_append {first second : List α} (unbroken : Unbroken valid (first ++ second)) :
    Unbroken valid first := by
  intro before left gap right after equality
  apply unbroken before left gap right (after ++ second)
  rw [equality]
  simp only [List.append_assoc, List.cons_append]

/-- In an unbroken sequence a valid symbol that differs from the last valid one
comes right after it. -/
theorem Unbroken.getLast?_eq {sequence : List α} {first value : α}
    (unbroken : Unbroken valid (sequence ++ [value])) (valueValid : valid value)
    (last : (sequence.filter valid).getLast? = some first) (different : first ≠ value) :
    sequence.getLast? = some first := by
  obtain ⟨firstValid, before, gap, equality, noise⟩ := exists_last_valid last
  have adjacent : gap = [] := by
    refine unbroken before first gap value [] ?_ firstValid valueValid different noise
    rw [equality, List.append_assoc, List.cons_append]
  rw [equality, adjacent]
  exact List.getLast?_concat

/-! ## What one symbol adds -/

variable [DecidableEq α]

theorem told_of_not_valid_left {before : α} (noise : ¬valid before) (value : α) :
    told valid before value = [] :=
  if_neg fun conditions => noise conditions.1

theorem told_of_not_valid_right (before : α) {value : α} (noise : ¬valid value) :
    told valid before value = [] :=
  if_neg fun conditions => noise conditions.2.1

theorem told_self (value : α) : told valid value value = [] :=
  if_neg fun conditions => conditions.2.2 rfl

theorem told_of_ne {before value : α} (beforeValid : valid before) (valueValid : valid value)
    (different : before ≠ value) : told valid before value = [value] :=
  if_pos ⟨beforeValid, valueValid, different⟩

theorem changes_concat (initial : α) (sequence : List α) (value : α) :
    changes valid initial (sequence ++ [value]) =
      changes valid initial sequence ++
        told valid (sequence.getLast?.getD initial) value := by
  induction sequence generalizing initial with
  | nil =>
      simp [changes]
  | cons head rest inductionHypothesis =>
      rw [List.cons_append, changes, changes, inductionHypothesis, List.append_assoc]
      cases rest <;> rfl

/-! ## The detector on an unbroken sequence -/

/-- The reported history, from the first valid symbol on, changes at each entry and ends
in the last valid symbol. -/
structure Settled (valid : α → Bool) (initial : α) (sequence : List α) : Prop where
  chain : ((sequence.filter valid).head?.toList ++ changes valid initial sequence).IsChain
    (· ≠ ·)
  last : ((sequence.filter valid).head?.toList ++ changes valid initial sequence).getLast? =
    (sequence.filter valid).getLast?

theorem Settled.concat_noise {initial : α} {sequence : List α} {value : α}
    (settled : Settled valid initial sequence) (noise : ¬valid value) :
    Settled valid initial (sequence ++ [value]) := by
  have unchanged : changes valid initial (sequence ++ [value]) =
      changes valid initial sequence := by
    rw [changes_concat, told_of_not_valid_right _ noise, List.append_nil]
  constructor <;> rw [unchanged, filter_concat_of_not_valid sequence noise]
  · exact settled.chain
  · exact settled.last

/-- The last symbol seen is noise or the last valid symbol. -/
theorem told_getLast?_self {initial : α} (initialNoise : ¬valid initial) {sequence : List α}
    {value : α} (last : ∀ first ∈ (sequence.filter valid).getLast?, first = value) :
    told valid (sequence.getLast?.getD initial) value = [] := by
  cases ending : sequence.getLast? with
  | none =>
      exact told_of_not_valid_left initialNoise value
  | some symbol =>
      by_cases symbolValid : valid symbol
      · obtain ⟨rest, equality⟩ := List.getLast?_eq_some_iff.mp ending
        have same : symbol = value := by
          apply last
          rw [equality, filter_concat_of_valid rest symbolValid]
          exact List.getLast?_concat
        rw [Option.getD_some, same]
        exact told_self value
      · exact told_of_not_valid_left symbolValid value

theorem Settled.concat_first {initial : α} (initialNoise : ¬valid initial)
    {sequence : List α} {value : α} (settled : Settled valid initial sequence)
    (valueValid : valid value) (none : sequence.filter valid = []) :
    Settled valid initial (sequence ++ [value]) := by
  have silent : changes valid initial sequence = [] := by
    have last := settled.last
    rw [none] at last
    exact List.getLast?_eq_none_iff.mp last
  have told : told valid (sequence.getLast?.getD initial) value = [] := by
    apply told_getLast?_self initialNoise
    rw [none]
    intro first member
    cases member
  constructor <;>
    rw [changes_concat, silent, told, filter_concat_of_valid sequence valueValid, none]
  · exact List.isChain_singleton value
  · rfl

theorem Settled.concat_again {initial : α} (initialNoise : ¬valid initial)
    {sequence : List α} {value : α} (settled : Settled valid initial sequence)
    (valueValid : valid value) (last : (sequence.filter valid).getLast? = some value) :
    Settled valid initial (sequence ++ [value]) := by
  have told : told valid (sequence.getLast?.getD initial) value = [] := by
    apply told_getLast?_self initialNoise
    rw [last]
    intro first member
    exact (Option.some.inj member).symm
  obtain ⟨head, before, after⟩ := exists_head?_filter last valueValid
  constructor <;> rw [changes_concat, told, List.append_nil, after, ← before]
  · exact settled.chain
  · rw [settled.last, last, filter_concat_of_valid sequence valueValid]
    exact List.getLast?_concat.symm

theorem Settled.concat_change {initial : α} {sequence : List α} {first value : α}
    (settled : Settled valid initial sequence) (firstValid : valid first)
    (valueValid : valid value) (last : (sequence.filter valid).getLast? = some first)
    (adjacent : sequence.getLast? = some first) (different : first ≠ value) :
    Settled valid initial (sequence ++ [value]) := by
  have told : told valid (sequence.getLast?.getD initial) value = [value] := by
    rw [adjacent, Option.getD_some]
    exact told_of_ne firstValid valueValid different
  obtain ⟨head, before, after⟩ := exists_head?_filter last valueValid
  constructor <;> rw [changes_concat, told, after, ← before, ← List.append_assoc]
  · apply settled.chain.append (List.isChain_singleton value)
    rw [settled.last, last]
    intro before beforeLast after afterFirst
    cases beforeLast
    cases afterFirst
    exact different
  · rw [filter_concat_of_valid sequence valueValid, List.getLast?_concat, List.getLast?_concat]

theorem Unbroken.settled {initial : α} (initialNoise : ¬valid initial) {sequence : List α}
    (unbroken : Unbroken valid sequence) : Settled valid initial sequence := by
  induction sequence using List.reverseRecOn with
  | nil =>
      exact ⟨List.isChain_nil, rfl⟩
  | append_singleton sequence value inductionHypothesis =>
      have settled := inductionHypothesis unbroken.of_append
      by_cases valueValid : valid value
      · cases last : (sequence.filter valid).getLast? with
        | none =>
            exact settled.concat_first initialNoise valueValid
              (List.getLast?_eq_none_iff.mp last)
        | some first =>
            by_cases same : first = value
            · exact settled.concat_again initialNoise valueValid (by rw [last, same])
            · exact settled.concat_change (exists_last_valid last).1 valueValid last
                (unbroken.getLast?_eq valueValid last same) same
      · exact settled.concat_noise valueValid

theorem Settled.follows {initial : α} {sequence : List α}
    (settled : Settled valid initial sequence) :
    Follows valid sequence (changes valid initial sequence) := by
  refine ⟨settled.chain.right_of_append, ?_⟩
  intro first member
  have last := settled.last
  rw [Option.mem_def.mp member] at last
  exact last

/-! ## The detector on a broken sequence -/

/-- A valid symbol after noise is not told, so that reports which followed the
sequence so far miss it. -/
theorem unbroken_of_follows {initial : α} {sequence : List α}
    (follows : ∀ heard, heard <+: sequence →
      Follows valid heard (changes valid initial heard)) :
    Unbroken valid sequence := by
  intro before first gap second after equality firstValid secondValid different noise
  by_contra nonempty
  have beforeSecond := follows (before ++ first :: gap) ⟨second :: after, by
    rw [equality, List.append_assoc, List.cons_append]⟩
  have atSecond := follows (before ++ first :: gap ++ [second]) ⟨after, by
    rw [equality]
    simp only [List.append_assoc, List.cons_append, List.nil_append]⟩
  obtain ⟨start, last, gapEquality⟩ := (List.eq_nil_or_concat' gap).resolve_left nonempty
  have ending : (before ++ first :: gap).getLast? = some last := by
    rw [gapEquality, ← List.cons_append, ← List.append_assoc]
    exact List.getLast?_concat
  have silent : told valid ((before ++ first :: gap).getLast?.getD initial) second = [] := by
    rw [ending, Option.getD_some]
    apply told_of_not_valid_left
    apply noise
    rw [gapEquality]
    exact List.mem_append_right start (List.mem_singleton_self last)
  have lastValid := getLast?_filter_of_noise before firstValid noise
  obtain ⟨head, headBefore, headAfter⟩ := exists_head?_filter lastValid secondValid
  have currentFirst := beforeSecond.current head headBefore
  have currentSecond := atSecond.current head headAfter
  rw [lastValid] at currentFirst
  rw [changes_concat, silent, List.append_nil, filter_concat_of_valid _ secondValid,
    List.getLast?_concat, currentFirst] at currentSecond
  exact different (Option.some.inj currentSecond)

/-- At each point of a sequence the reports follow it, exactly if the sequence is
unbroken. -/
theorem follows_iff_unbroken {initial : α} (initialNoise : ¬valid initial)
    (sequence : List α) :
    (∀ heard, heard <+: sequence → Follows valid heard (changes valid initial heard)) ↔
      Unbroken valid sequence := by
  refine ⟨unbroken_of_follows, ?_⟩
  rintro unbroken heard ⟨rest, rfl⟩
  exact (unbroken.of_append.settled initialNoise).follows

end TfortisPack.Library
