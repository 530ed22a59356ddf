import Mathlib.Tactic.NormNum
import TfortisPack.Dkjson.Decoder

/-!
# Numerals of JSON

The decoder cuts a numeral out of the text with a pattern and gives it to
`tonumber`.  A numeral of the grammar is cut out whole, unless a letter follows
that could belong to it, and `tonumber` gives its value.
-/

namespace TfortisPack.Dkjson

open Library
open Library.LuaNumerals (tonumber isSpace trim)

/-- No name or numeral goes on here. -/
def Ends (rest : Text) : Prop :=
  ∀ letter ∈ rest.head?,
    letter.isAlphanum = false ∧ letter ≠ '.' ∧ letter ≠ '+' ∧ letter ≠ '-'

theorem dropWhile_run {inClass : Char → Bool} {run rest : Text}
    (inside : ∀ letter ∈ run, inClass letter = true)
    (stops : ∀ letter ∈ rest.head?, inClass letter = false) :
    (run ++ rest).dropWhile inClass = rest := by
  rw [List.dropWhile_append_of_pos inside]
  cases rest with
  | nil => rfl
  | cons letter rest =>
    have stopped := stops letter rfl
    rw [List.dropWhile_cons_of_neg (by simp [stopped])]

theorem isDigit_of_not_isAlphanum {letter : Char} (other : letter.isAlphanum = false) :
    letter.isDigit = false := by
  rw [Char.isAlphanum, Bool.or_eq_false_iff] at other
  exact other.2

/-! ## What numerals are made of -/

/-- A letter that a numeral may hold. -/
def Numeric (letter : Char) : Prop :=
  letter.isDigit = true ∨ letter ∈ ['.', 'e', 'E', '+', '-']

theorem isSpace_of_numeric {letter : Char} (numeric : Numeric letter) : isSpace letter = false := by
  rcases numeric with digit | mark
  · exact LuaNumerals.isSpace_of_isDigit digit
  · have marks : ∀ letter ∈ ['.', 'e', 'E', '+', '-'], isSpace letter = false :=
      forall_mem_of_all (by decide)
    exact marks letter mark

theorem numeric_of_exponent {text : Text} {power : Int} (exponent : Json.Exponent text power) :
    ∀ letter ∈ text, Numeric letter := by
  have marked : ∀ letter ∈ ['e', 'E'], Numeric letter := fun letter member =>
    Or.inr (by simp only [List.mem_cons, List.not_mem_nil, or_false] at member ⊢; tauto)
  cases exponent with
  | none => simp
  | plain mark some all =>
    intro letter member
    rcases List.mem_cons.mp member with rfl | digit
    · exact marked _ mark
    · exact Or.inl (all letter digit)
  | plus mark some all =>
    intro letter member
    rcases List.mem_cons.mp member with rfl | later
    · exact marked _ mark
    · rcases List.mem_cons.mp later with rfl | digit
      · exact Or.inr (by decide)
      · exact Or.inl (all letter digit)
  | minus mark some all =>
    intro letter member
    rcases List.mem_cons.mp member with rfl | later
    · exact marked _ mark
    · rcases List.mem_cons.mp later with rfl | digit
      · exact Or.inr (by decide)
      · exact Or.inl (all letter digit)

theorem numeric_of_fraction {text digits : Text} (fraction : Json.Fraction text digits) :
    ∀ letter ∈ text, Numeric letter := by
  cases fraction with
  | none => simp
  | point some all =>
    intro letter member
    rcases List.mem_cons.mp member with rfl | digit
    · exact Or.inr (by decide)
    · exact Or.inl (all letter digit)

theorem numeric_of_magnitude {text : Text} {digits : Nat} {power : Int}
    (magnitude : Json.Magnitude text digits power) : ∀ letter ∈ text, Numeric letter := by
  cases magnitude with
  | parts some all behindPoint scaled =>
    intro letter member
    rcases List.mem_append.mp member with whole | later
    · exact Or.inl (all letter whole)
    · rcases List.mem_append.mp later with inFraction | inExponent
      · exact numeric_of_fraction behindPoint letter inFraction
      · exact numeric_of_exponent scaled letter inExponent

theorem numeric_of_numeral {text : Text} {value : ℚ} (numeral : Json.Numeral text value) :
    ∀ letter ∈ text, Numeric letter := by
  cases numeral with
  | plain magnitude => exact numeric_of_magnitude magnitude
  | minus magnitude =>
    intro letter member
    rcases List.mem_cons.mp member with rfl | later
    · exact Or.inr (by decide)
    · exact numeric_of_magnitude magnitude letter later

/-! ## What `tonumber` reads -/

theorem trim_of_numeric {text : Text} (numeric : ∀ letter ∈ text, Numeric letter) :
    trim text = text := by
  have unchanged : ∀ part : Text, (∀ letter ∈ part, Numeric letter) →
      part.dropWhile isSpace = part := by
    intro part inside
    cases part with
    | nil => rfl
    | cons letter rest =>
      have solid := isSpace_of_numeric (inside letter List.mem_cons_self)
      rw [List.dropWhile_cons_of_neg (by simp [solid])]
  rw [trim, unchanged text numeric,
    unchanged _ fun letter member => numeric letter (List.mem_reverse.mp member),
    List.reverse_reverse]

theorem exponent_of_exponent {text : Text} {power : Int} (exponent : Json.Exponent text power) :
    LuaNumerals.exponent text = some power := by
  have mark_or : ∀ letter ∈ ['e', 'E'], letter = 'e' ∨ letter = 'E' :=
    forall_mem_of_all (by decide)
  have reads : ∀ digits : Text, digits ≠ [] → Json.Digits digits →
      Lua.tonumber digits = some (Nat.ofDigitChars 10 digits 0) := fun digits some all => by
    rw [Lua.tonumber, if_pos ⟨some, List.all_eq_true.mpr all⟩]
  cases exponent with
  | none => rfl
  | @plain letter digits mark some all =>
    rw [LuaNumerals.exponent.eq_def]
    simp only [if_pos (mark_or letter mark)]
    split
    · exact absurd (all '-' List.mem_cons_self) (by decide)
    · exact absurd (all '+' List.mem_cons_self) (by decide)
    · rw [reads digits some all]
      rfl
  | @plus letter digits mark some all =>
    simp only [LuaNumerals.exponent, if_pos (mark_or letter mark), reads digits some all]
    rfl
  | @minus letter digits mark some all =>
    simp only [LuaNumerals.exponent, if_pos (mark_or letter mark), reads digits some all]
    rfl

theorem exponent_head {text : Text} {power : Int} (exponent : Json.Exponent text power) :
    ∀ letter ∈ text.head?, letter ∈ ['e', 'E'] := by
  cases exponent with
  | none => simp
  | plain mark _ _ =>
    rintro letter ⟨⟩
    exact mark
  | plus mark _ _ =>
    rintro letter ⟨⟩
    exact mark
  | minus mark _ _ =>
    rintro letter ⟨⟩
    exact mark

theorem not_isDigit_of_mark {letter : Char} (mark : letter ∈ ['e', 'E']) :
    letter.isDigit = false := by
  have marks : ∀ letter ∈ ['e', 'E'], letter.isDigit = false := forall_mem_of_all (by decide)
  exact marks letter mark

/-- The digits of the whole part stop where the fraction or the exponent starts. -/
theorem fraction_append_stops {fraction digits exponent : Text} {power : Int}
    (behindPoint : Json.Fraction fraction digits) (scaled : Json.Exponent exponent power) :
    ∀ letter ∈ (fraction ++ exponent).head?, letter.isDigit = false := by
  cases behindPoint with
  | none => exact fun letter first => not_isDigit_of_mark (exponent_head scaled letter first)
  | point _ _ =>
    rintro letter ⟨⟩
    decide

theorem fraction_append {fraction digits exponent : Text} {power : Int}
    (behindPoint : Json.Fraction fraction digits) (scaled : Json.Exponent exponent power) :
    LuaNumerals.fraction (fraction ++ exponent) = (digits, exponent) := by
  have stops : ∀ letter ∈ exponent.head?, letter.isDigit = false := fun letter first =>
    not_isDigit_of_mark (exponent_head scaled letter first)
  cases behindPoint with
  | none =>
    have noPoint : ∀ rest, exponent ≠ '.' :: rest := by
      rintro rest rfl
      exact absurd (exponent_head scaled '.' rfl) (by decide)
    rw [List.nil_append, LuaNumerals.fraction.eq_def]
    split
    · exact absurd rfl (noPoint _)
    · rfl
  | point some all =>
    rw [List.cons_append, LuaNumerals.fraction, Lua.takeWhile_run all stops,
      dropWhile_run all stops]

theorem decimal_of_magnitude {text : Text} {digits : Nat} {power : Int}
    (magnitude : Json.Magnitude text digits power) :
    LuaNumerals.decimal text = some (LuaNumerals.scale digits power) := by
  cases magnitude with
  | @parts whole fraction behind exponent power some all behindPoint scaled =>
    have stops := fraction_append_stops behindPoint scaled
    simp only [LuaNumerals.decimal, Lua.takeWhile_run all stops, dropWhile_run all stops,
      fraction_append behindPoint scaled, exponent_of_exponent scaled, Option.map_some]
    rw [if_neg (by simp [some])]

theorem unsigned_of_magnitude {text : Text} {digits : Nat} {power : Int}
    (magnitude : Json.Magnitude text digits power) :
    LuaNumerals.unsigned text = some (LuaNumerals.scale digits power) := by
  have numeric := numeric_of_magnitude magnitude
  rw [← decimal_of_magnitude magnitude]
  unfold LuaNumerals.unsigned
  split
  · exact absurd (numeric 'x' (by simp)) (by simp +decide [Numeric])
  · exact absurd (numeric 'X' (by simp)) (by simp +decide [Numeric])
  · rfl

theorem magnitude_ne_cons {text : Text} {digits : Nat} {power : Int}
    (magnitude : Json.Magnitude text digits power) :
    ∃ letter rest, text = letter :: rest ∧ letter.isDigit = true := by
  cases magnitude with
  | @parts whole fraction behind exponent power some all behindPoint scaled =>
    obtain ⟨letter, rest, rfl⟩ := List.exists_cons_of_ne_nil some
    exact ⟨letter, rest ++ (fraction ++ exponent), rfl, all letter List.mem_cons_self⟩

theorem tonumber_of_numeral {text : Text} {value : ℚ} (numeral : Json.Numeral text value) :
    tonumber text = some value := by
  rw [tonumber, trim_of_numeric (numeric_of_numeral numeral)]
  cases numeral with
  | plain magnitude =>
    obtain ⟨letter, rest, rfl, digit⟩ := magnitude_ne_cons magnitude
    split
    · rename_i same
      exact absurd digit (by rw [(List.cons.inj same).1]; decide)
    · rename_i same
      exact absurd digit (by rw [(List.cons.inj same).1]; decide)
    · exact unsigned_of_magnitude magnitude
  | minus magnitude => simp only [unsigned_of_magnitude magnitude, Option.map_some]

/-! ## What the pattern takes -/

theorem optional_of_mem {some rest : Text} {letter : Char} (member : letter ∈ some) :
    optional some (letter :: rest) = ([letter], rest) :=
  if_pos member

theorem optional_of_head {some text : Text} (other : ∀ letter ∈ text.head?, letter ∉ some) :
    optional some text = ([], text) := by
  cases text with
  | nil => rfl
  | cons letter rest => exact if_neg (other letter rfl)

/-- The exponent and the letters behind it, as the end of the pattern cuts them. -/
theorem exponent_cut {exponent rest : Text} {power : Int} (scaled : Json.Exponent exponent power)
    (ends : Ends rest) :
    ∃ mark sign digits,
      optional ['e', 'E'] (exponent ++ rest) = (mark, sign ++ (digits ++ rest)) ∧
        optional ['+', '-'] (sign ++ (digits ++ rest)) = (sign, digits ++ rest) ∧
        Json.Digits digits ∧ exponent = mark ++ (sign ++ digits) := by
  have noSign : ∀ digits : Text, digits ≠ [] → Json.Digits digits →
      ∀ letter ∈ (digits ++ rest).head?, letter ∉ ['+', '-'] := by
    intro digits nonempty all letter first
    obtain ⟨digit, behind, rfl⟩ := List.exists_cons_of_ne_nil nonempty
    cases first
    have isDigit := all letter List.mem_cons_self
    have signs : ∀ letter ∈ ['+', '-'], letter.isDigit = false :=
      forall_mem_of_all (by decide)
    intro member
    exact absurd (isDigit.symm.trans (signs letter member)) (by decide)
  cases scaled with
  | none =>
    refine ⟨[], [], [], optional_of_head ?_, optional_of_head ?_, by simp [Json.Digits], rfl⟩
    · intro letter first member
      have marks : ∀ letter ∈ ['e', 'E'], letter.isAlphanum = true :=
        forall_mem_of_all (by decide)
      have same := (ends letter first).1.symm.trans (marks letter member)
      exact absurd same (by decide)
    · intro letter first member
      obtain ⟨_, _, notPlus, notMinus⟩ := ends letter first
      simp [notPlus, notMinus] at member
  | @plain letter digits mark nonempty all =>
    exact ⟨[letter], [], digits, optional_of_mem mark, optional_of_head (noSign digits nonempty all),
      all, rfl⟩
  | @plus letter digits mark nonempty all =>
    exact ⟨[letter], ['+'], digits, optional_of_mem mark, optional_of_mem (by decide), all, rfl⟩
  | @minus letter digits mark nonempty all =>
    exact ⟨[letter], ['-'], digits, optional_of_mem mark, optional_of_mem (by decide), all, rfl⟩

theorem inBody_of_fraction {fraction digits : Text} (behindPoint : Json.Fraction fraction digits) :
    ∀ letter ∈ fraction, inBody letter = true := by
  cases behindPoint with
  | none => simp
  | point some all =>
    intro letter member
    rcases List.mem_cons.mp member with rfl | digit
    · decide
    · simp [inBody, all letter digit]

theorem exponent_stops {exponent rest : Text} {power : Int}
    (scaled : Json.Exponent exponent power) (ends : Ends rest) :
    ∀ letter ∈ (exponent ++ rest).head?, inBody letter = false := by
  intro letter first
  cases exponent with
  | nil =>
    obtain ⟨notAlphanum, notPoint, _, _⟩ := ends letter first
    simp [inBody, isDigit_of_not_isAlphanum notAlphanum, notPoint]
  | cons mark behind =>
    have marks : ∀ letter ∈ ['e', 'E'], inBody letter = false := forall_mem_of_all (by decide)
    exact marks letter (exponent_head scaled letter first)

theorem numberToken_sign_magnitude {sign text rest : Text} {digits : Nat} {power : Int}
    (magnitude : Json.Magnitude text digits power) (ends : Ends rest)
    (signed : optional ['-'] (sign ++ (text ++ rest)) = (sign, text ++ rest)) :
    numberToken (sign ++ (text ++ rest)) = some (sign ++ text, rest) := by
  cases magnitude with
  | @parts whole fraction behind exponent power some all behindPoint scaled =>
    obtain ⟨mark, exponentSign, last, marked, minus, lastDigits, rfl⟩ := exponent_cut scaled ends
    have inside : ∀ letter ∈ whole ++ fraction, inBody letter = true := by
      intro letter member
      rcases List.mem_append.mp member with digit | inFraction
      · simp [inBody, all letter digit]
      · exact inBody_of_fraction behindPoint letter inFraction
    have stops := exponent_stops scaled ends
    have noDigit : ∀ letter ∈ rest.head?, letter.isDigit = false := fun letter first =>
      isDigit_of_not_isAlphanum (ends letter first).1
    have shape : whole ++ (fraction ++ (mark ++ (exponentSign ++ last))) ++ rest =
        (whole ++ fraction) ++ (mark ++ (exponentSign ++ last) ++ rest) := by
      simp only [List.append_assoc]
    have body : (whole ++ (fraction ++ (mark ++ (exponentSign ++ last))) ++ rest).takeWhile inBody =
        whole ++ fraction := by
      rw [shape, Lua.takeWhile_run inside stops]
    have behindBody :
        (whole ++ (fraction ++ (mark ++ (exponentSign ++ last))) ++ rest).dropWhile inBody =
          mark ++ (exponentSign ++ last) ++ rest := by
      rw [shape, dropWhile_run inside stops]
    have nonempty : whole ++ fraction ≠ [] := by simp [some]
    simp only [numberToken, signed, body, behindBody]
    rw [if_neg nonempty]
    simp only [List.append_assoc] at marked minus ⊢
    simp only [marked, minus, Lua.takeWhile_run lastDigits noDigit,
      dropWhile_run lastDigits noDigit]

theorem numberToken_numeral {text rest : Text} {value : ℚ} (numeral : Json.Numeral text value)
    (ends : Ends rest) : numberToken (text ++ rest) = some (text, rest) := by
  cases numeral with
  | plain magnitude =>
    obtain ⟨first, behind, rfl, digit⟩ := magnitude_ne_cons magnitude
    have unsigned : optional ['-'] ([] ++ (first :: behind ++ rest)) =
        ([], first :: behind ++ rest) := by
      refine optional_of_head ?_
      rintro _ ⟨⟩ member
      obtain rfl := List.mem_singleton.mp member
      exact absurd digit (by decide)
    exact numberToken_sign_magnitude magnitude ends unsigned
  | minus magnitude =>
    exact @numberToken_sign_magnitude ['-'] _ _ _ _ magnitude ends (optional_of_mem (by decide))

theorem scannumber_numeral {text rest : Text} {value : ℚ} (numeral : Json.Numeral text value)
    (ends : Ends rest) : scannumber (text ++ rest) = some (.number value, rest) := by
  rw [scannumber, numberToken_numeral numeral ends]
  simp only [tonumber_of_numeral numeral, Option.map_some]

end TfortisPack.Dkjson
