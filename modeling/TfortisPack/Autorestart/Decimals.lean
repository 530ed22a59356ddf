import TfortisPack.Autorestart.InitModule
import TfortisPack.Library.Lua

/-!
# Decimal texts

Options and arguments are texts that denote integers.  `strtol` reads such a
text as its number, cut off at the bounds of a 32-bit `long`.
-/

namespace TfortisPack.Autorestart

open TfortisPack.Library

/-- A decimal text: an optional minus sign and at least one digit. -/
structure DecimalText where
  negative : Bool
  digits : List Char
  nonempty : digits ≠ []
  decimal : ∀ digit ∈ digits, digit.isDigit = true

namespace DecimalText

def chars (decimal : DecimalText) : List Char :=
  (if decimal.negative then ['-'] else []) ++ decimal.digits

def text (decimal : DecimalText) : String :=
  String.ofList decimal.chars

def number (decimal : DecimalText) : Int :=
  if decimal.negative then -(digitsValue decimal.digits : Int) else digitsValue decimal.digits

/-- The number as a 32-bit `long` holds it. -/
def saturated (number : Int) : Int :=
  max (-2147483648) (min number 2147483647)

theorem isSpace_of_isDigit {char : Char} (digit : char.isDigit = true) :
    isSpace char = false := by
  have large : 48 ≤ char.toNat := (Char.isDigit_iff_toNat.mp digit).1
  have notBlank : char ≠ ' ' := by
    intro blank
    rw [blank] at large
    exact absurd large (by decide)
  have notControl : ¬char.toNat ≤ 13 := by omega
  simp [isSpace, notBlank, notControl]

theorem splitDigits {digits rest : List Char}
    (decimal : ∀ digit ∈ digits, digit.isDigit = true)
    (stops : ∀ char ∈ rest.head?, char.isDigit = false) :
    (digits ++ rest).takeWhile Char.isDigit = digits ∧
      (digits ++ rest).dropWhile Char.isDigit = rest := by
  have taken := Lua.takeWhile_run decimal stops
  refine ⟨taken, ?_⟩
  have whole := List.takeWhile_append_dropWhile (p := Char.isDigit) (l := digits ++ rest)
  rw [taken] at whole
  exact List.append_cancel_left whole

/-- The conversion of digits that follow no blank and no sign. -/
theorem scanInt_digits {digits rest : List Char} (nonempty : digits ≠ [])
    (decimal : ∀ digit ∈ digits, digit.isDigit = true)
    (stops : ∀ char ∈ rest.head?, char.isDigit = false) :
    scanInt (digits ++ rest) = some ((digitsValue digits : Int), rest) := by
  obtain ⟨taken, left⟩ := splitDigits decimal stops
  cases digits with
  | nil =>
      exact absurd rfl nonempty
  | cons first others =>
      have firstDigit : first.isDigit = true := decimal first List.mem_cons_self
      have notMinus : first ≠ '-' := by
        intro minus
        rw [minus] at firstDigit
        exact absurd firstDigit (by decide)
      have notPlus : first ≠ '+' := by
        intro plus
        rw [plus] at firstDigit
        exact absurd firstDigit (by decide)
      simp only [List.cons_append] at taken left
      simp only [scanInt, List.cons_append, List.dropWhile_cons, isSpace_of_isDigit firstDigit]
      simp [notMinus, notPlus, taken, left]

theorem scanInt_chars (decimal : DecimalText) :
    scanInt decimal.chars = some (decimal.number, []) := by
  obtain ⟨negative, digits, nonempty, digital⟩ := decimal
  have noRest : ∀ char ∈ ([] : List Char).head?, char.isDigit = false := by
    simp
  cases negative with
  | false =>
      have scanned := scanInt_digits nonempty digital noRest
      rw [List.append_nil] at scanned
      simpa [chars, number] using scanned
  | true =>
      obtain ⟨taken, left⟩ := splitDigits digital noRest
      rw [List.append_nil] at taken left
      have minus : isSpace '-' = false := by decide
      obtain ⟨first, others, shape⟩ := List.exists_cons_of_ne_nil nonempty
      rw [shape] at taken left
      simp [scanInt, chars, number, minus, shape, taken, left]

theorem strtol_text (decimal : DecimalText) :
    strtol decimal.text = saturated decimal.number := by
  rw [strtol, text, String.toList_ofList, scanInt_chars]
  rfl

end DecimalText

end TfortisPack.Autorestart
