import Mathlib.Algebra.Ring.Nat
import Mathlib.Data.List.TakeWhile
import Mathlib.Data.Rat.Defs
import TfortisPack.Library.Lua

/-!
# The numerals that Lua reads

`tonumber` of a text: a decimal numeral with an optional fraction and an
optional exponent, or a hexadecimal integer, with an optional sign and with
blanks around it.  The number is the exact value of the numeral, which a double
rounds.  What a C library reads besides these (the names of the infinities and
of nan, hexadecimal fractions) is left out.
-/

namespace TfortisPack.Library

namespace LuaNumerals

def isSpace (letter : Char) : Bool :=
  letter = ' ' || (9 ≤ letter.toNat && letter.toNat ≤ 13)

def trim (text : List Char) : List Char :=
  ((text.dropWhile isSpace).reverse.dropWhile isSpace).reverse

def hexDigit (letter : Char) : Option Nat :=
  if 48 ≤ letter.toNat ∧ letter.toNat ≤ 57 then some (letter.toNat - 48)
  else if 97 ≤ letter.toNat ∧ letter.toNat ≤ 102 then some (letter.toNat - 87)
  else if 65 ≤ letter.toNat ∧ letter.toNat ≤ 70 then some (letter.toNat - 55)
  else none

/-- The digits behind `0x`. -/
def hexadecimal (text : List Char) : Option ℚ :=
  if text = [] then none
  else
    (text.foldlM (fun value letter => (hexDigit letter).map (16 * value + ·)) 0).map
      fun value : Nat => (value : ℚ)

/-- The exponent, with its letter, or nothing. -/
def exponent : List Char → Option Int
  | [] => some 0
  | letter :: rest =>
      if letter = 'e' ∨ letter = 'E' then
        match rest with
        | '-' :: digits => (Lua.tonumber digits).map fun value => -(value : Int)
        | '+' :: digits => (Lua.tonumber digits).map fun value => (value : Int)
        | digits => (Lua.tonumber digits).map fun value => (value : Int)
      else none

/-- `digits` times ten to the power of `power`. -/
def scale (digits : Nat) (power : Int) : ℚ :=
  if 0 ≤ power then ((digits * 10 ^ power.toNat : Nat) : ℚ)
  else mkRat digits (10 ^ (-power).toNat)

/-- The digits behind a point, and what follows them. -/
def fraction : List Char → List Char × List Char
  | '.' :: rest => (rest.takeWhile Char.isDigit, rest.dropWhile Char.isDigit)
  | rest => ([], rest)

def decimal (text : List Char) : Option ℚ :=
  let whole := text.takeWhile Char.isDigit
  let part := fraction (text.dropWhile Char.isDigit)
  if whole ++ part.1 = [] then none
  else
    (exponent part.2).map fun power =>
      scale (Nat.ofDigitChars 10 (whole ++ part.1) 0) (power - part.1.length)

def unsigned : List Char → Option ℚ
  | '0' :: 'x' :: digits => hexadecimal digits
  | '0' :: 'X' :: digits => hexadecimal digits
  | text => decimal text

def tonumber (text : List Char) : Option ℚ :=
  match trim text with
  | '-' :: rest => (unsigned rest).map fun value => -value
  | '+' :: rest => unsigned rest
  | rest => unsigned rest

/-! ## Texts of digits -/

theorem isSpace_of_isDigit {letter : Char} (digit : letter.isDigit = true) :
    isSpace letter = false := by
  simp only [Char.isDigit, Bool.and_eq_true, decide_eq_true_eq, ge_iff_le, UInt32.le_iff_toNat_le]
    at digit
  have lower : 48 ≤ letter.toNat := digit.1
  have notBlank : letter ≠ ' ' := by
    rintro rfl
    exact absurd lower (by decide)
  simp only [isSpace, notBlank, decide_false, Bool.false_or, Bool.and_eq_false_iff,
    decide_eq_false_iff_not]
  omega

theorem dropWhile_isSpace {text : List Char} (digits : ∀ letter ∈ text, letter.isDigit = true) :
    text.dropWhile isSpace = text := by
  cases text with
  | nil => rfl
  | cons letter rest =>
    have first := isSpace_of_isDigit (digits letter List.mem_cons_self)
    rw [List.dropWhile_cons_of_neg (by simp [first])]

theorem trim_of_digits {text : List Char} (digits : ∀ letter ∈ text, letter.isDigit = true) :
    trim text = text := by
  rw [trim, dropWhile_isSpace digits,
    dropWhile_isSpace (fun letter member => digits letter (List.mem_reverse.mp member)),
    List.reverse_reverse]

/-- A blank behind the digits does no harm. -/
theorem trim_append_blank {text : List Char} (nonempty : text ≠ [])
    (digits : ∀ letter ∈ text, letter.isDigit = true) : trim (text ++ [' ']) = text := by
  have front : (text ++ [' ']).dropWhile isSpace = text ++ [' '] := by
    cases text with
    | nil => exact absurd rfl nonempty
    | cons letter rest =>
      have first := isSpace_of_isDigit (digits letter List.mem_cons_self)
      rw [List.cons_append, List.dropWhile_cons_of_neg (by simp [first])]
  have back : (' ' :: text.reverse).dropWhile isSpace = text.reverse := by
    rw [List.dropWhile_cons_of_pos (by decide)]
    exact dropWhile_isSpace fun letter member => digits letter (List.mem_reverse.mp member)
  rw [trim, front, List.reverse_append, List.reverse_singleton, List.singleton_append, back,
    List.reverse_reverse]

theorem decimal_of_digits {text : List Char} (nonempty : text ≠ [])
    (digits : ∀ letter ∈ text, letter.isDigit = true) :
    decimal text = some ((Nat.ofDigitChars 10 text 0 : Nat) : ℚ) := by
  have whole : text.takeWhile Char.isDigit = text := List.takeWhile_eq_self_iff.mpr digits
  have rest : text.dropWhile Char.isDigit = [] := List.dropWhile_eq_nil_iff.mpr digits
  simp only [decimal, whole, rest, fraction, List.append_nil, if_neg nonempty, exponent,
    Option.map_some, List.length_nil, scale]
  simp

theorem unsigned_of_digits {text : List Char} (digits : ∀ letter ∈ text, letter.isDigit = true) :
    unsigned text = decimal text := by
  unfold unsigned
  split
  · exact absurd (digits 'x' (by simp)) (by decide)
  · exact absurd (digits 'X' (by simp)) (by decide)
  · rfl

theorem isDigit_of_tonumber {text : List Char} {value : Nat}
    (reads : Lua.tonumber text = some value) :
    text ≠ [] ∧ ∀ letter ∈ text, letter.isDigit = true := by
  rw [Lua.tonumber] at reads
  split at reads
  case isTrue wellFormed => exact ⟨wellFormed.1, List.all_eq_true.mp wellFormed.2⟩
  case isFalse => cases reads

/-- What is read is what is left between the blanks. -/
theorem tonumber_of_trim {text digits : List Char} {value : Nat} (trimmed : trim text = digits)
    (reads : Lua.tonumber digits = some value) : tonumber text = some (value : ℚ) := by
  obtain ⟨nonempty, inside⟩ := isDigit_of_tonumber reads
  rw [Lua.tonumber, if_pos ⟨nonempty, List.all_eq_true.mpr inside⟩, Option.some.injEq] at reads
  unfold tonumber
  rw [trimmed]
  split
  · exact absurd (inside '-' (by simp)) (by decide)
  · exact absurd (inside '+' (by simp)) (by decide)
  · rw [unsigned_of_digits inside, decimal_of_digits nonempty inside, reads]

theorem tonumber_of_digits {text : List Char} {value : Nat}
    (reads : Lua.tonumber text = some value) : tonumber text = some (value : ℚ) :=
  tonumber_of_trim (trim_of_digits (isDigit_of_tonumber reads).2) reads

theorem tonumber_append_blank {text : List Char} {value : Nat}
    (reads : Lua.tonumber text = some value) : tonumber (text ++ [' ']) = some (value : ℚ) :=
  have wellFormed := isDigit_of_tonumber reads
  tonumber_of_trim (trim_append_blank wellFormed.1 wellFormed.2) reads

end LuaNumerals

end TfortisPack.Library
