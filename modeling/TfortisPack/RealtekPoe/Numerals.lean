import TfortisPack.RealtekPoe.UbusMethods
import Mathlib.Data.List.TakeWhile

/-!
# The numbers that `strtoul` reads

With base 16 `strtoul` skips blanks and takes a sign and the letters `0x` in
front of the digits.  A number ends where the text can not continue it.
-/

namespace TfortisPack.RealtekPoe

/-! ## Letters -/

def isHex (letter : Char) : Bool :=
  (hexDigit letter).isSome

def hexValue (digits : List Char) : Nat :=
  digits.foldl (fun number letter => 16 * number + (hexDigit letter).getD 0) 0

theorem code_of_isHex {letter : Char} (hex : isHex letter = true) :
    48 ≤ letter.toNat ∧ letter.toNat ≤ 102 := by
  simp only [isHex, hexDigit] at hex
  split at hex
  · omega
  · split at hex
    · omega
    · split at hex
      · omega
      · cases hex

theorem isSpace_of_isHex {letter : Char} (hex : isHex letter = true) : isSpace letter = false := by
  have code := code_of_isHex hex
  have notSpace : letter ≠ ' ' := by
    rintro rfl
    exact absurd code.1 (by decide)
  simp only [isSpace, notSpace, decide_false, Bool.false_or, Bool.and_eq_false_iff,
    decide_eq_false_iff_not]
  omega

/-! ## The stages of `strtoul` -/

def skipSign (trimmed : List Char) : List Char :=
  if trimmed.head? = some '-' ∨ trimmed.head? = some '+' then trimmed.tail else trimmed

def skipMark (unsigned : List Char) : List Char :=
  match unsigned with
  | '0' :: x :: digit :: rest =>
      if (x = 'x' ∨ x = 'X') ∧ isHex digit = true then digit :: rest else unsigned
  | _ => unsigned

theorem skipMark_cases (unsigned : List Char) :
    (∃ x digit rest, unsigned = '0' :: x :: digit :: rest ∧ (x = 'x' ∨ x = 'X') ∧
        isHex digit = true ∧ skipMark unsigned = digit :: rest) ∨
      (skipMark unsigned = unsigned ∧ ∀ x digit rest, unsigned = '0' :: x :: digit :: rest →
        x = 'x' ∨ x = 'X' → isHex digit = false) := by
  unfold skipMark
  split
  · rename_i x digit rest
    by_cases marked : (x = 'x' ∨ x = 'X') ∧ isHex digit = true
    · rw [if_pos marked]
      exact Or.inl ⟨x, digit, rest, rfl, marked.1, marked.2, rfl⟩
    · rw [if_neg marked]
      refine Or.inr ⟨rfl, ?_⟩
      intro other next more same isMark
      cases same
      exact Bool.eq_false_iff.mpr fun isDigit => marked ⟨isMark, isDigit⟩
  · rename_i noMark
    exact Or.inr ⟨rfl, fun x digit rest same => absurd same (noMark x digit rest)⟩

/-- The spelling of a number. -/
structure Numeral where
  blanks : List Char
  sign : List Char
  mark : List Char
  digits : List Char
  allBlank : ∀ letter ∈ blanks, isSpace letter = true
  signs : sign = [] ∨ sign = ['+'] ∨ sign = ['-']
  marks : mark = [] ∨ mark = ['0', 'x'] ∨ mark = ['0', 'X']
  allHex : ∀ letter ∈ digits, isHex letter = true
  nonempty : digits ≠ []

namespace Numeral

variable (numeral : Numeral)

def text : List Char :=
  numeral.blanks ++ (numeral.sign ++ (numeral.mark ++ numeral.digits))

/-- The `unsigned long` of the number, unless it is too large. -/
def value : Nat :=
  if numeral.sign = ['-'] then (4294967296 - hexValue numeral.digits) % 4294967296
  else hexValue numeral.digits

/-- The text `rest` does not continue the number. -/
structure Ends (rest : List Char) : Prop where
  noDigit : ∀ letter ∈ rest.head?, isHex letter = false
  noMark : numeral.mark = [] → numeral.digits = ['0'] →
    ∀ x digit more, rest = x :: digit :: more → x = 'x' ∨ x = 'X' → isHex digit = false

variable {numeral} {rest : List Char}

theorem exists_digit (numeral : Numeral) :
    ∃ digit more, numeral.digits = digit :: more ∧ isHex digit = true ∧
      ∀ letter ∈ more, isHex letter = true := by
  obtain ⟨digit, more, shape⟩ := List.exists_cons_of_ne_nil numeral.nonempty
  have allHex := numeral.allHex
  rw [shape] at allHex
  exact ⟨digit, more, shape, allHex digit List.mem_cons_self,
    fun letter member => allHex letter (List.mem_cons_of_mem digit member)⟩

theorem takeWhile_digits (ends : numeral.Ends rest) :
    (numeral.digits ++ rest).takeWhile isHex = numeral.digits := by
  rw [List.takeWhile_append_of_pos numeral.allHex]
  cases rest with
  | nil =>
      simp
  | cons letter more =>
      rw [List.takeWhile_cons_of_neg (by simpa using ends.noDigit letter rfl), List.append_nil]

theorem dropWhile_digits (ends : numeral.Ends rest) :
    (numeral.digits ++ rest).dropWhile isHex = rest := by
  have whole := List.takeWhile_append_dropWhile (p := isHex) (l := numeral.digits ++ rest)
  rw [takeWhile_digits ends] at whole
  exact List.append_cancel_left whole

theorem skipMark_mark (ends : numeral.Ends rest) :
    skipMark (numeral.mark ++ (numeral.digits ++ rest)) = numeral.digits ++ rest := by
  obtain ⟨digit, more, shape, isDigit, allHex⟩ := numeral.exists_digit
  rcases numeral.marks with mark | mark | mark
  · rw [mark, List.nil_append]
    rcases skipMark_cases (numeral.digits ++ rest) with
      ⟨x, second, behind, split, isMark, isSecond, -⟩ | ⟨skipped, -⟩
    · exfalso
      rw [shape] at split
      cases more with
      | nil =>
          obtain ⟨rfl, behindZero⟩ := List.cons.inj split
          have none := ends.noMark mark shape x second behind behindZero isMark
          rw [isSecond] at none
          cases none
      | cons next more =>
          obtain ⟨rfl, tail⟩ := List.cons.inj split
          obtain ⟨rfl, tail⟩ := List.cons.inj tail
          have hex := allHex next List.mem_cons_self
          rcases isMark with rfl | rfl
          · exact absurd hex (by decide)
          · exact absurd hex (by decide)
    · exact skipped
  · rw [mark, shape]
    exact if_pos ⟨Or.inl rfl, isDigit⟩
  · rw [mark, shape]
    exact if_pos ⟨Or.inr rfl, isDigit⟩

/-- The first letter behind the sign. -/
theorem exists_behind_sign (numeral : Numeral) (rest : List Char) :
    ∃ letter more, numeral.mark ++ (numeral.digits ++ rest) = letter :: more ∧
      isHex letter = true := by
  obtain ⟨digit, more, shape, isDigit, -⟩ := numeral.exists_digit
  rcases numeral.marks with mark | mark | mark
  · exact ⟨digit, more ++ rest, by rw [mark, shape]; rfl, isDigit⟩
  · exact ⟨'0', 'x' :: (numeral.digits ++ rest), by rw [mark]; rfl, rfl⟩
  · exact ⟨'0', 'X' :: (numeral.digits ++ rest), by rw [mark]; rfl, rfl⟩

theorem skipSign_sign (numeral : Numeral) (rest : List Char) :
    skipSign (numeral.sign ++ (numeral.mark ++ (numeral.digits ++ rest))) =
      numeral.mark ++ (numeral.digits ++ rest) := by
  rcases numeral.signs with sign | sign | sign
  · obtain ⟨letter, more, shape, hex⟩ := numeral.exists_behind_sign rest
    rw [sign, List.nil_append, skipSign, if_neg]
    rw [shape]
    rintro (minus | plus)
    · rw [Option.some.inj minus] at hex
      exact absurd hex (by decide)
    · rw [Option.some.inj plus] at hex
      exact absurd hex (by decide)
  · rw [sign]
    exact if_pos (Or.inr rfl)
  · rw [sign]
    exact if_pos (Or.inl rfl)

theorem dropWhile_blanks (numeral : Numeral) (rest : List Char) :
    (numeral.text ++ rest).dropWhile isSpace =
      numeral.sign ++ (numeral.mark ++ (numeral.digits ++ rest)) := by
  have grouped : numeral.text ++ rest =
      numeral.blanks ++ (numeral.sign ++ (numeral.mark ++ (numeral.digits ++ rest))) := by
    simp only [text, List.append_assoc]
  rw [grouped, List.dropWhile_append_of_pos numeral.allBlank]
  rcases numeral.signs with sign | sign | sign
  · obtain ⟨letter, more, shape, hex⟩ := numeral.exists_behind_sign rest
    rw [sign, List.nil_append, shape]
    exact List.dropWhile_cons_of_neg (by simp [isSpace_of_isHex hex])
  · rw [sign]
    exact List.dropWhile_cons_of_neg (by decide)
  · rw [sign]
    exact List.dropWhile_cons_of_neg (by decide)

theorem text_ne_nil (numeral : Numeral) : numeral.text ≠ [] := by
  simp [text, numeral.nonempty]

/-- The number at the beginning of a text is determined by the text. -/
theorem unique {other : Numeral} {behind : List Char}
    (ends : numeral.Ends rest) (otherEnds : other.Ends behind)
    (same : numeral.text ++ rest = other.text ++ behind) :
    numeral = other ∧ rest = behind := by
  have fromSign := congrArg (List.dropWhile isSpace) same
  rw [dropWhile_blanks, dropWhile_blanks] at fromSign
  have fromMark := congrArg skipSign fromSign
  rw [skipSign_sign, skipSign_sign] at fromMark
  have fromDigits := congrArg skipMark fromMark
  rw [skipMark_mark ends, skipMark_mark otherEnds] at fromDigits
  have sameDigits := congrArg (List.takeWhile isHex) fromDigits
  rw [takeWhile_digits ends, takeWhile_digits otherEnds] at sameDigits
  have sameRest := congrArg (List.dropWhile isHex) fromDigits
  rw [dropWhile_digits ends, dropWhile_digits otherEnds] at sameRest
  subst sameRest
  refine ⟨?_, rfl⟩
  have sameText := List.append_cancel_right same
  have sameMark : numeral.mark = other.mark := by
    rw [fromDigits] at fromMark
    exact List.append_cancel_right fromMark
  have sameSign : numeral.sign = other.sign := by
    rw [fromMark] at fromSign
    exact List.append_cancel_right fromSign
  have sameBlanks : numeral.blanks = other.blanks := by
    rw [text, text, sameSign, sameMark, sameDigits] at sameText
    exact List.append_cancel_right sameText
  cases numeral
  cases other
  cases sameBlanks
  cases sameSign
  cases sameMark
  cases sameDigits
  rfl

end Numeral

end TfortisPack.RealtekPoe
