import Mathlib.Algebra.Field.Rat
import Mathlib.Algebra.Order.Ring.Rat
import Mathlib.Data.List.TakeWhile
import Mathlib.Tactic.FieldSimp
import Mathlib.Tactic.Linarith
import Mathlib.Tactic.Ring

/-!
# Texts of decimal numbers

The text of an integer as `printf` writes it, the number that a text with a
decimal point denotes, and when an integer printed in two parts reads as a
quotient.
-/

namespace TfortisPack.Library.DecimalTexts

/-- `%d`. -/
def integer (number : Int) : List Char :=
  if number < 0 then '-' :: Nat.toDigits 10 number.natAbs else Nat.toDigits 10 number.natAbs

/-- `%d.%d`. -/
def point (whole fraction : Int) : List Char :=
  integer whole ++ '.' :: integer fraction

/-- Digits with a point among them, read as a number. -/
def magnitude (text : List Char) : Rat :=
  let whole := text.takeWhile (· ≠ '.')
  let fraction := (text.dropWhile (· ≠ '.')).tail
  Nat.ofDigitChars 10 whole 0 + Nat.ofDigitChars 10 fraction 0 / 10 ^ fraction.length

/-- The number that a text denotes. -/
def reading (text : List Char) : Rat :=
  if text.head? = some '-' then -magnitude text.tail else magnitude text

/-! ## Digits -/

theorem not_mem_toDigits {letter : Char} (other : letter.isDigit = false) (number : Nat) :
    letter ∉ Nat.toDigits 10 number := by
  intro member
  have digit := Nat.isDigit_of_mem_toDigits (by decide) (by decide) member
  rw [other] at digit
  cases digit

theorem isNotPoint_toDigits (number : Nat) :
    ∀ letter ∈ Nat.toDigits 10 number, decide (letter ≠ '.') = true := by
  intro letter member
  rw [decide_eq_true_iff]
  rintro rfl
  exact not_mem_toDigits (by decide) number member

theorem head?_toDigits_append (number : Nat) (rest : List Char) :
    (Nat.toDigits 10 number ++ rest).head? ≠ some '-' := by
  cases digits : Nat.toDigits 10 number with
  | nil =>
      exact absurd digits Nat.toDigits_ne_nil
  | cons first others =>
      intro minus
      have isMinus : first = '-' := Option.some.inj minus
      have member : '-' ∈ Nat.toDigits 10 number := by
        rw [digits, isMinus]
        exact List.mem_cons_self
      exact not_mem_toDigits (by decide) number member

theorem magnitude_toDigits (number : Nat) : magnitude (Nat.toDigits 10 number) = number := by
  have inside := isNotPoint_toDigits number
  rw [magnitude, List.takeWhile_eq_self_iff.mpr inside, List.dropWhile_eq_nil_iff.mpr inside,
    Nat.ofDigitChars_ten_toDigits]
  simp

theorem magnitude_point (whole fraction : Nat) :
    magnitude (Nat.toDigits 10 whole ++ '.' :: Nat.toDigits 10 fraction) =
      whole + fraction / 10 ^ (Nat.toDigits 10 fraction).length := by
  have inside := isNotPoint_toDigits whole
  rw [magnitude, List.takeWhile_append_of_pos inside, List.dropWhile_append_of_pos inside]
  simp [Nat.ofDigitChars_ten_toDigits]

/-! ## Integers -/

theorem integer_of_nonneg {number : Int} (nonnegative : 0 ≤ number) :
    integer number = Nat.toDigits 10 number.natAbs :=
  if_neg (not_lt.mpr nonnegative)

theorem integer_of_neg {number : Int} (negative : number < 0) :
    integer number = '-' :: Nat.toDigits 10 number.natAbs :=
  if_pos negative

theorem reading_integer (number : Int) : reading (integer number) = number := by
  by_cases negative : number < 0
  · rw [integer_of_neg negative, reading, List.head?_cons, if_pos rfl, List.tail_cons,
      magnitude_toDigits]
    have same : ((number.natAbs : Int) : Rat) = ((-number : Int) : Rat) := by
      rw [Int.ofNat_natAbs_of_nonpos negative.le]
    rw [Int.cast_natCast] at same
    rw [same, Int.cast_neg, neg_neg]
  · have nonnegative : 0 ≤ number := not_lt.mp negative
    have unsigned := head?_toDigits_append number.natAbs []
    rw [List.append_nil] at unsigned
    rw [integer_of_nonneg nonnegative, reading, if_neg unsigned, magnitude_toDigits]
    have same : ((number.natAbs : Int) : Rat) = (number : Rat) := by
      rw [Int.natAbs_of_nonneg nonnegative]
    rw [Int.cast_natCast] at same
    exact same

theorem integer_injective {first second : Int} (same : integer first = integer second) :
    first = second := by
  have readings : (first : Rat) = second := by
    rw [← reading_integer first, ← reading_integer second, same]
  exact Int.cast_injective readings

/-! ## Integers printed in two parts -/

/-- The text of the quotient of a number by ten or a thousand: the whole part with its sign, and
the remainder without. -/
def divided (number scale : Int) : List Char :=
  point (number.tdiv scale) |number.tmod scale|

theorem reading_point {whole fraction : Int} (nonnegative : 0 ≤ fraction) :
    reading (point whole fraction) =
      if whole < 0 then
        (whole : Rat) - fraction / 10 ^ (Nat.toDigits 10 fraction.natAbs).length
      else whole + fraction / 10 ^ (Nat.toDigits 10 fraction.natAbs).length := by
  have unsigned : ((fraction.natAbs : Nat) : Rat) = fraction := by
    rw [← Int.cast_natCast, Int.natAbs_of_nonneg nonnegative]
  rw [point, integer_of_nonneg nonnegative]
  by_cases negative : whole < 0
  · have absolute : ((whole.natAbs : Nat) : Rat) = -whole := by
      rw [← Int.cast_natCast, Int.ofNat_natAbs_of_nonpos negative.le, Int.cast_neg]
    rw [integer_of_neg negative, List.cons_append, reading, List.head?_cons, if_pos rfl,
      List.tail_cons, magnitude_point, absolute, unsigned, if_pos negative]
    ring
  · have absolute : ((whole.natAbs : Nat) : Rat) = whole := by
      rw [← Int.cast_natCast, Int.natAbs_of_nonneg (not_lt.mp negative)]
    rw [integer_of_nonneg (not_lt.mp negative), reading,
      if_neg (head?_toDigits_append whole.natAbs _), magnitude_point, absolute, unsigned,
      if_neg negative]

theorem length_toDigits_of_lt_ten {number : Nat} (small : number < 10) :
    (Nat.toDigits 10 number).length = 1 := by
  rw [Nat.toDigits_of_lt_base small]
  rfl

/-- A remainder below a thousand has three digits from a hundred on. -/
theorem fraction_thousandths_iff {number : Nat} (small : number < 1000) :
    (number : Rat) / 10 ^ (Nat.toDigits 10 number).length = number / 1000 ↔
      number = 0 ∨ 100 ≤ number := by
  have positive : 0 < (Nat.toDigits 10 number).length := Nat.length_toDigits_pos
  have short : (Nat.toDigits 10 number).length ≤ 3 :=
    (Nat.length_toDigits_le_iff (by decide) (by decide)).mpr (by omega)
  have long : (Nat.toDigits 10 number).length ≤ 2 ↔ number < 10 ^ 2 :=
    Nat.length_toDigits_le_iff (by decide) (by decide)
  by_cases zero : number = 0
  · simp [zero]
  · have nonzero : (number : Rat) ≠ 0 := Nat.cast_ne_zero.mpr zero
    by_cases large : 100 ≤ number
    · have length : (Nat.toDigits 10 number).length = 3 := by omega
      rw [length]
      norm_num [large]
    · refine ⟨fun same => ?_, fun either => ?_⟩
      · have powers : (10 : Rat) ^ (Nat.toDigits 10 number).length = 1000 := by
          field_simp at same
          linarith
        have lengths : (Nat.toDigits 10 number).length = 1 ∨
            (Nat.toDigits 10 number).length = 2 := by omega
        rcases lengths with length | length <;> rw [length] at powers <;> norm_num at powers
      · omega

/-! ## Quotients -/

theorem divided_natCast (number scale : Nat) :
    divided number scale = point (number / scale : Nat) (number % scale : Nat) := by
  rw [divided, ← Int.ofNat_tdiv, ← Int.ofNat_tmod, abs_of_nonneg (Int.natCast_nonneg _)]

theorem divided_neg_natCast (number scale : Nat) :
    divided (-number) scale = point (-(number / scale : Nat)) (number % scale : Nat) := by
  rw [divided, Int.neg_tdiv, Int.neg_tmod, abs_neg, ← Int.ofNat_tdiv, ← Int.ofNat_tmod,
    abs_of_nonneg (Int.natCast_nonneg _)]

/-- The remainder as the text behind the point shows it. -/
def shownFraction (fraction : Nat) : Rat :=
  fraction / 10 ^ (Nat.toDigits 10 fraction).length

theorem reading_divided (number scale : Nat) :
    reading (divided number scale) =
      (number / scale : Nat) + shownFraction (number % scale) := by
  rw [divided_natCast, reading_point (Int.natCast_nonneg _),
    if_neg (not_lt.mpr (Int.natCast_nonneg _)), Int.natAbs_natCast]
  rfl

/-- The sign is printed with the whole part, so it is lost where that is 0. -/
theorem reading_divided_neg (number scale : Nat) :
    reading (divided (-number) scale) =
      if number / scale = 0 then shownFraction (number % scale)
      else -((number / scale : Nat) + shownFraction (number % scale)) := by
  rw [divided_neg_natCast, reading_point (Int.natCast_nonneg _), Int.natAbs_natCast]
  by_cases zero : number / scale = 0
  · rw [zero, Int.natCast_zero, Int.neg_zero, if_neg (lt_irrefl 0), if_pos rfl, Int.cast_zero,
      zero_add, Int.cast_natCast, shownFraction]
  · have negative : -((number / scale : Nat) : Int) < 0 := by
      have positive := Nat.pos_of_ne_zero zero
      omega
    rw [if_pos negative, if_neg zero, Int.cast_neg, Int.cast_natCast, Int.cast_natCast,
      shownFraction]
    ring

theorem quotient_eq (number : Nat) {scale : Nat} (positive : 0 < scale) :
    (number : Rat) / scale =
      (number / scale : Nat) + ((number % scale : Nat) : Rat) / scale := by
  have whole : (number : Rat) = scale * (number / scale : Nat) + (number % scale : Nat) := by
    exact_mod_cast (Nat.div_add_mod number scale).symm
  have nonzero : (scale : Rat) ≠ 0 := Nat.cast_ne_zero.mpr positive.ne'
  rw [div_eq_iff nonzero, add_mul, div_mul_cancel₀ _ nonzero]
  linarith

theorem shownFraction_tenths (number : Nat) :
    shownFraction (number % 10) = ((number % 10 : Nat) : Rat) / (10 : Nat) := by
  have small : number % 10 < 10 := Nat.mod_lt number (by decide)
  rw [shownFraction, length_toDigits_of_lt_ten small, pow_one, Nat.cast_ofNat]

theorem reading_tenths (number : Nat) : reading (divided number (10 : Nat)) = number / 10 := by
  have quotient := quotient_eq number (show 0 < 10 by decide)
  rw [reading_divided, shownFraction_tenths, ← quotient, Nat.cast_ofNat]

theorem reading_tenths_neg_iff {number : Nat} (positive : 0 < number) :
    reading (divided (-number) (10 : Nat)) = -number / 10 ↔ 10 ≤ number := by
  have quotient := quotient_eq number (show 0 < 10 by decide)
  rw [reading_divided_neg, shownFraction_tenths]
  by_cases small : number < 10
  · have fraction : number % 10 = number := Nat.mod_eq_of_lt small
    have above : (0 : Rat) < number := Nat.cast_pos.mpr positive
    rw [if_pos (Nat.div_eq_of_lt small), fraction]
    refine ⟨fun same => ?_, fun large => absurd large (not_le.mpr small)⟩
    rw [Nat.cast_ofNat] at same
    linarith
  · have whole : number / 10 ≠ 0 := by omega
    rw [if_neg whole, ← quotient, Nat.cast_ofNat]
    exact ⟨fun _ => not_lt.mp small, fun _ => (neg_div 10 (number : Rat)).symm⟩

theorem reading_thousandths_iff (number : Nat) :
    reading (divided number (1000 : Nat)) = number / 1000 ↔
      number % 1000 = 0 ∨ 100 ≤ number % 1000 := by
  have quotient := quotient_eq number (show 0 < 1000 by decide)
  rw [Nat.cast_ofNat] at quotient
  rw [reading_divided, quotient, add_right_inj, shownFraction]
  exact fraction_thousandths_iff (Nat.mod_lt number (by decide))

end TfortisPack.Library.DecimalTexts
