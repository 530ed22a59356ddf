import TfortisPack.Dkjson.Numbers

/-!
# Strings of JSON

The decoder gives the letters that the grammar says a string spells, code points
and surrogate pairs included.
-/

namespace TfortisPack.Dkjson

open Library
open Library.LuaNumerals (isSpace trim hexDigit)

/-! ## Four hexadecimal digits -/

theorem hexDigit_ne {letter other : Char} {value : Nat} (digit : hexDigit letter = some value)
    (notDigit : hexDigit other = none) : letter ≠ other := by
  rintro rfl
  exact absurd (digit.symm.trans notDigit) (by simp)

theorem isSpace_of_hexDigit {letter : Char} {value : Nat} (digit : hexDigit letter = some value) :
    isSpace letter = false := by
  have notSpace : letter ≠ ' ' := hexDigit_ne digit (by decide)
  have later : 48 ≤ letter.toNat := by
    by_contra early
    rw [hexDigit, if_neg (by omega), if_neg (by omega), if_neg (by omega)] at digit
    cases digit
  simp only [isSpace, notSpace, decide_false, Bool.false_or, Bool.and_eq_false_iff,
    decide_eq_false_iff_not]
  omega

theorem hexDigit_lt {letter : Char} {value : Nat} (digit : hexDigit letter = some value) :
    value < 16 := by
  unfold hexDigit at digit
  split at digit
  · obtain rfl := Option.some.inj digit
    omega
  · split at digit
    · obtain rfl := Option.some.inj digit
      omega
    · split at digit
      · obtain rfl := Option.some.inj digit
        omega
      · cases digit

theorem code_le {digits : Text} {code : Nat} (reads : Json.Code digits code) : code ≤ 0xffff := by
  cases reads with
  | digits isFirst isSecond isThird isFourth =>
    have first := hexDigit_lt isFirst
    have second := hexDigit_lt isSecond
    have third := hexDigit_lt isThird
    have fourth := hexDigit_lt isFourth
    omega

theorem code_length {digits : Text} {code : Nat} (reads : Json.Code digits code) :
    digits.length = 4 := by
  cases reads
  rfl

theorem tonumber16_code {digits : Text} {code : Nat} (reads : Json.Code digits code) :
    tonumber16 digits = some code := by
  cases reads with
  | @digits first second third fourth a b c d isFirst isSecond isThird isFourth =>
    have trimmed : trim [first, second, third, fourth] = [first, second, third, fourth] := by
      simp [trim, isSpace_of_hexDigit isFirst, isSpace_of_hexDigit isFourth]
    have notX : second ≠ 'x' := hexDigit_ne isSecond (by decide)
    have notBigX : second ≠ 'X' := hexDigit_ne isSecond (by decide)
    rw [tonumber16, trimmed]
    split
    · rename_i same
      exact absurd (List.cons.inj same).1 (hexDigit_ne isFirst (by decide))
    · rename_i same
      exact absurd (List.cons.inj same).1 (hexDigit_ne isFirst (by decide))
    · unfold unsigned16
      split
      · rename_i same
        exact absurd (List.cons.inj (List.cons.inj same).2).1 notX
      · rename_i same
        exact absurd (List.cons.inj (List.cons.inj same).2).1 notBigX
      · simp [digits16, isFirst, isSecond, isThird, isFourth]

/-! ## Escapes -/

theorem escapechars_of_mem {name letter : Char} (known : (name, letter) ∈ Json.escapes) :
    escapechars name = some letter := by
  have table : ∀ entry ∈ Json.escapes, escapechars entry.1 = some entry.2 := by decide
  exact table _ known

theorem escaped_of_mem {name letter : Char} (known : (name, letter) ∈ Json.escapes)
    (rest : Text) : escaped (name :: rest) = ([letter], 1) := by
  have notU : name ≠ 'u' := by
    have table : ∀ entry ∈ Json.escapes, entry.1 ≠ 'u' := by decide
    exact table _ known
  simp only [escaped, if_neg notU, escapechars_of_mem known, Option.elim_some]

theorem take_code {digits rest : Text} {code : Nat} (reads : Json.Code digits code) :
    (digits ++ rest).take 4 = digits := by
  rw [← code_length reads, List.take_left]

theorem drop_code {digits rest : Text} {code : Nat} (reads : Json.Code digits code) :
    (digits ++ rest).drop 4 = rest := by
  rw [← code_length reads, List.drop_left]

theorem escaped_code {digits rest : Text} {code : Nat} (reads : Json.Code digits code)
    (single : ¬Json.HighSurrogate code) :
    escaped ('u' :: (digits ++ rest)) = (Json.utf8 code, 5) := by
  have inRange : code ≤ 0x10ffff := (code_le reads).trans (by decide)
  have outside : ¬(0xD800 ≤ code ∧ code ≤ 0xDBff) := single
  simp [escaped, unicodeEscape, take_code reads, tonumber16_code reads, outside, unichar, inRange]

theorem lowSurrogate_code {digits rest : Text} {code : Nat} (reads : Json.Code digits code)
    (isLow : Json.LowSurrogate code) :
    lowSurrogate ('\\' :: 'u' :: (digits ++ rest)) = some code := by
  have range : 0xDC00 ≤ code ∧ code ≤ 0xDFFF := isLow
  simp [lowSurrogate, take_code reads, tonumber16_code reads, range]

theorem escaped_pair {digits lowDigits rest : Text} {high low : Nat}
    (reads : Json.Code digits high) (isHigh : Json.HighSurrogate high)
    (readsLow : Json.Code lowDigits low) (isLow : Json.LowSurrogate low) :
    escaped ('u' :: (digits ++ '\\' :: 'u' :: (lowDigits ++ rest))) =
      (Json.utf8 ((high - 0xD800) * 0x400 + (low - 0xDC00) + 0x10000), 11) := by
  obtain ⟨lower, upper⟩ := isHigh
  have lowUpper := isLow.2
  have inRange : (high - 0xD800) * 0x400 + (low - 0xDC00) + 0x10000 ≤ 0x10ffff := by omega
  have surrogate : 0xD800 ≤ high ∧ high ≤ 0xDBff := ⟨lower, upper⟩
  simp [escaped, unicodeEscape, take_code reads, drop_code reads, tonumber16_code reads,
    surrogate, lowSurrogate_code readsLow isLow, unichar, inRange]

/-! ## Whole strings -/

theorem letters_drop (count : Nat) (read rest : Text) (length : read.length = count) :
    letters count (read ++ rest) = letters 0 rest := by
  induction read generalizing count with
  | nil =>
    obtain rfl : 0 = count := length
    rfl
  | cons letter read inductionHypothesis =>
    obtain rfl : read.length + 1 = count := length
    rw [List.cons_append, letters, inductionHypothesis _ rfl]

theorem letters_backslash (rest : Text) :
    letters 0 ('\\' :: rest) =
      (letters (escaped rest).2 rest).map fun read => ((escaped rest).1 ++ read.1, read.2) := by
  rw [letters, if_neg (by decide), if_pos rfl]

theorem letters_spells {body spelled : Text} (spells : Json.Spells body spelled) (rest : Text) :
    letters 0 (body ++ '"' :: rest) = some (spelled, rest) := by
  induction spells with
  | nil => rfl
  | plain notQuote notBackslash _ inductionHypothesis =>
    rw [List.cons_append, letters, if_neg notQuote, if_neg notBackslash, inductionHypothesis]
    rfl
  | @escape name letter body spelled known _ inductionHypothesis =>
    have dropped := letters_drop 1 [name] (body ++ '"' :: rest) rfl
    rw [List.singleton_append] at dropped
    rw [List.cons_append, letters_backslash, List.cons_append, escaped_of_mem known, dropped,
      inductionHypothesis]
    rfl
  | @code digits code body spelled reads single _ inductionHypothesis =>
    have escape := @escaped_code _ (body ++ '"' :: rest) _ reads single
    have dropped := letters_drop 5 ('u' :: digits) (body ++ '"' :: rest)
      (by rw [List.length_cons, code_length reads])
    rw [List.cons_append] at dropped
    rw [List.cons_append, letters_backslash, List.cons_append, List.append_assoc, escape, dropped,
      inductionHypothesis]
    rfl
  | @pair digits lowDigits high low body spelled reads isHigh readsLow isLow _
      inductionHypothesis =>
    have escape := @escaped_pair _ _ (body ++ '"' :: rest) _ _ reads isHigh readsLow isLow
    have dropped := letters_drop 11 ('u' :: (digits ++ '\\' :: 'u' :: lowDigits))
      (body ++ '"' :: rest) (by simp [code_length reads, code_length readsLow])
    simp only [List.cons_append, List.append_assoc] at dropped ⊢
    rw [letters_backslash, escape, dropped, inductionHypothesis]
    simp only [Option.map_some]

end TfortisPack.Dkjson
