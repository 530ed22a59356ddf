import Mathlib.Data.BitVec

/-!
# Flag words

C programs keep sets of flags in one machine word and manipulate them with
`word & mask`, `word |= mask` and `word &= ~mask`.  The three operations are
named here, and their laws are stated for arbitrary words and masks: reading
distributes over raising, and clearing a mask is invisible to every mask
that is disjoint from it.
-/

namespace TfortisPack.Library

namespace BitFlags

variable {w : Nat}

/-- The C test `word & mask`. -/
def has (word mask : BitVec w) : Bool :=
  (word &&& mask) != 0

/-- The C update `word |= mask`. -/
def raise (word mask : BitVec w) : BitVec w :=
  word ||| mask

/-- The C update `word &= (~mask)`. -/
def clear (word mask : BitVec w) : BitVec w :=
  word &&& ~~~mask

theorem has_eq_true_iff {word mask : BitVec w} :
    has word mask = true ↔ ∃ bit, word.getLsbD bit = true ∧ mask.getLsbD bit = true := by
  constructor
  · intro present
    have nonzero : word &&& mask ≠ 0 := by
      simpa [has] using present
    by_contra absent
    apply nonzero
    apply BitVec.eq_of_getLsbD_eq
    intro bit _
    rw [BitVec.getLsbD_and]
    by_cases inWord : word.getLsbD bit = true
    · by_cases inMask : mask.getLsbD bit = true
      · exact absurd ⟨bit, inWord, inMask⟩ absent
      · simp [inMask]
    · simp [inWord]
  · rintro ⟨bit, inWord, inMask⟩
    have bitSet : (word &&& mask).getLsbD bit = true := by
      rw [BitVec.getLsbD_and, inWord, inMask]
      rfl
    have nonzero : word &&& mask ≠ 0 := by
      intro zero
      rw [zero] at bitSet
      simp at bitSet
    simpa [has] using nonzero

theorem has_raise (word added mask : BitVec w) :
    has (raise word added) mask = (has word mask || has added mask) := by
  rw [Bool.eq_iff_iff, Bool.or_eq_true]
  simp only [has_eq_true_iff, raise, BitVec.getLsbD_or, Bool.or_eq_true]
  constructor
  · rintro ⟨bit, inWord | inAdded, inMask⟩
    · exact Or.inl ⟨bit, inWord, inMask⟩
    · exact Or.inr ⟨bit, inAdded, inMask⟩
  · rintro (⟨bit, inWord, inMask⟩ | ⟨bit, inAdded, inMask⟩)
    · exact ⟨bit, Or.inl inWord, inMask⟩
    · exact ⟨bit, Or.inr inAdded, inMask⟩

@[simp]
theorem has_raise_of_disjoint
    {word added mask : BitVec w} (disjoint : has added mask = false) :
    has (raise word added) mask = has word mask := by
  rw [has_raise, disjoint, Bool.or_false]

@[simp]
theorem has_raise_self
    {word mask : BitVec w} (nonempty : has mask mask = true) :
    has (raise word mask) mask = true := by
  rw [has_raise, nonempty, Bool.or_true]

@[simp]
theorem has_clear_self (word mask : BitVec w) :
    has (clear word mask) mask = false := by
  rw [← Bool.not_eq_true, has_eq_true_iff]
  rintro ⟨bit, inCleared, inMask⟩
  simp [clear, inMask] at inCleared

@[simp]
theorem has_clear_of_disjoint
    {word removed mask : BitVec w} (disjoint : has removed mask = false) :
    has (clear word removed) mask = has word mask := by
  have apart : ∀ bit, mask.getLsbD bit = true → removed.getLsbD bit = false := by
    intro bit inMask
    rw [← Bool.not_eq_true]
    intro inRemoved
    have overlap : has removed mask = true :=
      has_eq_true_iff.mpr ⟨bit, inRemoved, inMask⟩
    rw [disjoint] at overlap
    exact Bool.false_ne_true overlap
  rw [Bool.eq_iff_iff]
  simp only [has_eq_true_iff, clear]
  constructor
  · rintro ⟨bit, inCleared, inMask⟩
    rw [BitVec.getLsbD_and, Bool.and_eq_true] at inCleared
    exact ⟨bit, inCleared.1, inMask⟩
  · rintro ⟨bit, inWord, inMask⟩
    have within : bit < w := BitVec.lt_of_getLsbD inMask
    refine ⟨bit, ?_, inMask⟩
    rw [BitVec.getLsbD_and, BitVec.getLsbD_not, inWord, apart bit inMask]
    simp [within]

@[simp]
theorem has_zero (mask : BitVec w) : has (0#w) mask = false := by
  simp [has]

end BitFlags

end TfortisPack.Library
