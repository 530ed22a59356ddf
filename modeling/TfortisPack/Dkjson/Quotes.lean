import TfortisPack.Dkjson.Encoder
import TfortisPack.Dkjson.Strings

/-!
# Quoted strings

`quotestring` replaces letters in nine rounds.  The first one makes a text that
spells the string; each of the others replaces bytes that stand for themselves
with an escape for the same bytes, and leaves the earlier escapes alone.
-/

namespace TfortisPack.Dkjson

open Library
open Library.LuaNumerals (hexDigit)

/-! ## Escapes -/

theorem hexDigit_digitChar {digit : Nat} (small : digit < 16) :
    hexDigit (Nat.digitChar digit) = some digit := by
  have digits : ∀ digit < 16, hexDigit (Nat.digitChar digit) = some digit := by decide
  exact digits digit small

theorem code_unicode4 {value : Nat} (small : value ≤ 0xffff) :
    ∃ digits, unicode4 value = '\\' :: 'u' :: digits ∧ Json.Code digits value := by
  refine ⟨_, rfl, ?_⟩
  have digits := Json.Code.digits (hexDigit_digitChar (Nat.mod_lt (value / 0x1000) (by decide)))
    (hexDigit_digitChar (Nat.mod_lt (value / 0x100) (by decide)))
    (hexDigit_digitChar (Nat.mod_lt (value / 0x10) (by decide)))
    (hexDigit_digitChar (Nat.mod_lt value (by decide)))
  have whole : ((value / 0x1000 % 16 * 16 + value / 0x100 % 16) * 16 + value / 0x10 % 16) * 16 +
      value % 16 = value := by omega
  rwa [whole] at digits

/-- The text is one escape that stands for these letters. -/
def EscapeOf (text chunk : Text) : Prop :=
  ∃ digits code, text = '\\' :: 'u' :: digits ∧ Json.Code digits code ∧
    ¬Json.HighSurrogate code ∧ Json.utf8 code = chunk

theorem spells_escapeOf {text chunk body spelled : Text} (escape : EscapeOf text chunk)
    (rest : Json.Spells body spelled) : Json.Spells (text ++ body) (chunk ++ spelled) := by
  obtain ⟨digits, code, rfl, reads, single, rfl⟩ := escape
  exact Json.Spells.code reads single rest

theorem escapeOf_escapeutf8 {chunk : Text} {value : Nat} (noCode : escapecodes chunk = none)
    (decoded : utf8Value (strbyte chunk 0) (strbyte chunk 1) (strbyte chunk 2) (strbyte chunk 3) =
      some value) (small : value ≤ 0xffff) (single : ¬Json.HighSurrogate value)
    (encoded : Json.utf8 value = chunk) : EscapeOf (escapeutf8 chunk) chunk := by
  obtain ⟨digits, same, reads⟩ := code_unicode4 small
  refine ⟨digits, value, ?_, reads, single, encoded⟩
  simp only [escapeutf8, noCode, decoded, if_pos small, same]

theorem escapecodes_long (a b : Char) (rest : Text) : escapecodes (a :: b :: rest) = none := by
  unfold escapecodes
  split <;> simp_all

theorem escapeOf_two {a b : Char} (first : 0xc2 ≤ a.toNat ∧ a.toNat ≤ 0xdf)
    (second : 0x80 ≤ b.toNat ∧ b.toNat ≤ 0xbf) : EscapeOf (escapeutf8 [a, b]) [a, b] := by
  have value : utf8Value a.toNat b.toNat 0 0 = some ((a.toNat - 0xc0) * 0x40 + (b.toNat - 0x80)) := by
    rw [utf8Value, if_neg (by omega), if_pos (by omega)]
  refine escapeOf_escapeutf8 (escapecodes_long _ _ _) value (by omega) (by rw [Json.HighSurrogate]; omega) ?_
  rw [Json.utf8, if_neg (by omega), if_pos (by omega)]
  have high : 0xc0 + ((a.toNat - 0xc0) * 0x40 + (b.toNat - 0x80)) / 0x40 = a.toNat := by omega
  have low : 0x80 + ((a.toNat - 0xc0) * 0x40 + (b.toNat - 0x80)) % 0x40 = b.toNat := by omega
  rw [high, low, Char.ofNat_toNat, Char.ofNat_toNat]

theorem escapeOf_three {a b c : Char} (first : 0xe1 ≤ a.toNat ∧ a.toNat ≤ 0xef)
    (noSurrogate : a.toNat ≠ 0xed) (second : 0x80 ≤ b.toNat ∧ b.toNat ≤ 0xbf)
    (third : 0x80 ≤ c.toNat ∧ c.toNat ≤ 0xbf) : EscapeOf (escapeutf8 [a, b, c]) [a, b, c] := by
  have value : utf8Value a.toNat b.toNat c.toNat 0 =
      some (((a.toNat - 0xe0) * 0x40 + (b.toNat - 0x80)) * 0x40 + (c.toNat - 0x80)) := by
    rw [utf8Value, if_neg (by omega), if_neg (by omega), if_pos (by omega)]
  refine escapeOf_escapeutf8 (escapecodes_long _ _ _) value (by omega) (by rw [Json.HighSurrogate]; omega) ?_
  rw [Json.utf8, if_neg (by omega), if_neg (by omega), if_pos (by omega)]
  have high : 0xe0 + (((a.toNat - 0xe0) * 0x40 + (b.toNat - 0x80)) * 0x40 +
      (c.toNat - 0x80)) / 0x1000 = a.toNat := by omega
  have middle : 0x80 + (((a.toNat - 0xe0) * 0x40 + (b.toNat - 0x80)) * 0x40 +
      (c.toNat - 0x80)) / 0x40 % 0x40 = b.toNat := by omega
  have low : 0x80 + (((a.toNat - 0xe0) * 0x40 + (b.toNat - 0x80)) * 0x40 +
      (c.toNat - 0x80)) % 0x40 = c.toNat := by omega
  rw [high, middle, low, Char.ofNat_toNat, Char.ofNat_toNat, Char.ofNat_toNat]

/-! ## The first round -/

/-- A letter that the first round replaces is replaced with what stands for it. -/
theorem spells_escapable {letter : Char} (matched : fits escapable [letter] = true)
    {body spelled : Text} (rest : Json.Spells body spelled) :
    Json.Spells (escapeutf8 [letter] ++ body) (letter :: spelled) := by
  by_cases named : escapecodes [letter] = none
  · have small : letter.toNat ≤ 127 := by
      simp only [escapable, fits, among, Bool.and_true, Bool.or_eq_true, Bool.and_eq_true,
        decide_eq_true_eq] at matched
      rcases matched with ((range | rfl) | rfl) | last
      · omega
      · exact absurd named (by decide)
      · exact absurd named (by decide)
      · omega
    have value : utf8Value letter.toNat 0 0 0 = some letter.toNat := if_pos (by omega)
    refine spells_escapeOf (escapeOf_escapeutf8 named value (by omega)
      (by rw [Json.HighSurrogate]; omega) ?_) rest
    rw [Json.utf8, if_pos (by omega), Char.ofNat_toNat]
  · obtain ⟨code, found⟩ := Option.ne_none_iff_exists'.mp named
    have escape : ∃ name, code = ['\\', name] ∧ (name, letter) ∈ Json.escapes := by
      unfold escapecodes at found
      split at found
      all_goals
        rename_i same
        first
          | (cases found; cases same; exact ⟨_, rfl, by decide⟩)
          | cases found
    obtain ⟨name, rfl, known⟩ := escape
    simp only [escapeutf8, found]
    exact Json.Spells.escape known rest

theorem spells_first (letters : Text) :
    Json.Spells (fsub letters escapable) letters := by
  induction letters with
  | nil => exact Json.Spells.nil
  | cons letter rest inductionHypothesis =>
    rw [fsub, gsub]
    by_cases matched : fits escapable [letter] = true
    · have alone : fits escapable (letter :: rest) = true := matched
      rw [if_pos alone]
      exact spells_escapable matched inductionHypothesis
    · have alone : ¬fits escapable (letter :: rest) = true := matched
      rw [if_neg alone]
      have plain : letter ≠ '"' ∧ letter ≠ '\\' := by
        constructor
        · rintro rfl
          exact matched (by decide)
        · rintro rfl
          exact matched (by decide)
      exact Json.Spells.plain plain.1 plain.2 inductionHypothesis

/-! ## The other rounds -/

/-- The pattern matches letters beyond ASCII only, which the escape stands for. -/
structure Escaping (pattern : Pattern) : Prop where
  some : pattern ≠ []
  beyond : ∀ inClass ∈ pattern, ∀ letter, inClass letter = true → 128 ≤ letter.toNat
  escape : ∀ chunk, chunk.length = pattern.length → fits pattern chunk = true →
    EscapeOf (escapeutf8 chunk) chunk

def Ascii (text : Text) : Prop :=
  ∀ letter ∈ text, letter.toNat < 128

theorem gsub_skip (pattern : Pattern) (repl : Text → Text) (read rest : Text) :
    gsub pattern repl read.length (read ++ rest) = gsub pattern repl 0 rest := by
  induction read with
  | nil => rfl
  | cons letter read inductionHypothesis =>
    rw [List.length_cons, List.cons_append, gsub, inductionHypothesis]

theorem gsub_ascii {pattern : Pattern} (escaping : Escaping pattern) (repl : Text → Text)
    {text : Text} (ascii : Ascii text) (rest : Text) :
    gsub pattern repl 0 (text ++ rest) = text ++ gsub pattern repl 0 rest := by
  induction text with
  | nil => rfl
  | cons letter text inductionHypothesis =>
    obtain ⟨small, ascii⟩ := List.forall_mem_cons.mp ascii
    obtain ⟨inClass, classes, rfl⟩ := List.exists_cons_of_ne_nil escaping.some
    have unmatched : ¬fits (inClass :: classes) (letter :: (text ++ rest)) = true := by
      rw [fits, Bool.and_eq_true]
      rintro ⟨first, _⟩
      have large := escaping.beyond inClass List.mem_cons_self letter first
      omega
    rw [List.cons_append, gsub, if_neg unmatched, inductionHypothesis ascii, List.cons_append]

theorem ascii_code {digits : Text} {code : Nat} (reads : Json.Code digits code) : Ascii digits := by
  have small : ∀ {letter : Char} {value : Nat}, hexDigit letter = some value →
      letter.toNat < 128 := by
    intro letter value digit
    unfold hexDigit at digit
    split at digit
    · omega
    · split at digit
      · omega
      · split at digit
        · omega
        · cases digit
  cases reads with
  | digits isFirst isSecond isThird isFourth =>
    simp only [Ascii, List.forall_mem_cons]
    exact ⟨small isFirst, small isSecond, small isThird, small isFourth, by simp⟩

/-- A match is made of letters that stand for themselves. -/
theorem split_match {pattern : Pattern}
    (beyond : ∀ inClass ∈ pattern, ∀ letter, inClass letter = true → 128 ≤ letter.toNat)
    {body spelled : Text} (spells : Json.Spells body spelled) (matched : fits pattern body = true) :
    ∃ chunk bodyRest spelledRest, body = chunk ++ bodyRest ∧ spelled = chunk ++ spelledRest ∧
      chunk.length = pattern.length ∧ fits pattern chunk = true ∧
      Json.Spells bodyRest spelledRest := by
  induction pattern generalizing body spelled with
  | nil => exact ⟨[], body, spelled, rfl, rfl, rfl, rfl, spells⟩
  | cons inClass pattern inductionHypothesis =>
    obtain ⟨first, others⟩ := List.forall_mem_cons.mp beyond
    have notBackslash : inClass '\\' = false := by
      by_contra isIn
      exact absurd (first '\\' (by simpa using isIn)) (by decide)
    cases spells with
    | nil => cases matched
    | @plain letter body spelled _ _ rest =>
      rw [fits, Bool.and_eq_true] at matched
      obtain ⟨chunk, bodyRest, spelledRest, rfl, rfl, length, again, rest⟩ :=
        inductionHypothesis others rest matched.2
      refine ⟨letter :: chunk, bodyRest, spelledRest, rfl, rfl, ?_, ?_, rest⟩
      · rw [List.length_cons, List.length_cons, length]
      · rw [fits, matched.1, again, Bool.and_self]
    | escape known rest => simp [fits, notBackslash] at matched
    | code reads single rest => simp [fits, notBackslash] at matched
    | pair reads isHigh readsLow isLow rest => simp [fits, notBackslash] at matched

theorem spells_round {pattern : Pattern} (escaping : Escaping pattern) (length : Nat)
    {body spelled : Text} (short : body.length ≤ length) (spells : Json.Spells body spelled) :
    Json.Spells (fsub body pattern) spelled := by
  induction length generalizing body spelled with
  | zero =>
    obtain rfl := List.length_eq_zero_iff.mp (Nat.le_zero.mp short)
    exact spells
  | succ length inductionHypothesis =>
    by_cases matched : fits pattern body = true
    · obtain ⟨chunk, bodyRest, spelledRest, rfl, rfl, size, again, rest⟩ :=
        split_match escaping.beyond spells matched
      have later : bodyRest.length ≤ length := by
        have positive := List.length_pos_iff.mpr escaping.some
        rw [List.length_append] at short
        omega
      have replaced : fsub (chunk ++ bodyRest) pattern =
          escapeutf8 chunk ++ fsub bodyRest pattern := by
        obtain ⟨letter, behind, rfl⟩ : ∃ letter behind, chunk = letter :: behind := by
          cases chunk with
          | nil => exact absurd (List.length_eq_zero_iff.mp size.symm) escaping.some
          | cons letter behind => exact ⟨letter, behind, rfl⟩
        have skipped : pattern.length - 1 = behind.length := by
          rw [← size, List.length_cons, Nat.add_sub_cancel]
        rw [List.cons_append] at matched
        rw [List.cons_append, fsub, gsub, if_pos matched, skipped, gsub_skip, ← size,
          ← List.cons_append, List.take_left, fsub]
      rw [replaced]
      exact spells_escapeOf (escaping.escape chunk size again) (inductionHypothesis later rest)
    · cases spells with
      | nil => exact Json.Spells.nil
      | plain notQuote notBackslash rest =>
        rw [fsub, gsub, if_neg matched]
        exact Json.Spells.plain notQuote notBackslash
          (inductionHypothesis (Nat.le_of_succ_le_succ short) rest)
      | @escape name letter body spelled known rest =>
        have ascii : Ascii ['\\', name] := by
          have names : ∀ entry ∈ Json.escapes, entry.1.toNat < 128 :=
            forall_mem_of_all (by decide)
          simp only [Ascii, List.forall_mem_cons]
          exact ⟨by decide, names _ known, by simp⟩
        have passed := gsub_ascii escaping escapeutf8 ascii body
        simp only [List.cons_append, List.nil_append] at passed
        rw [fsub, passed]
        refine Json.Spells.escape known (inductionHypothesis ?_ rest)
        simp only [List.length_cons] at short
        omega
      | @code digits code body spelled reads single rest =>
        have ascii : Ascii ('\\' :: 'u' :: digits) := by
          simp only [Ascii, List.forall_mem_cons]
          exact ⟨by decide, by decide, ascii_code reads⟩
        have passed := gsub_ascii escaping escapeutf8 ascii body
        simp only [List.cons_append] at passed
        rw [fsub, passed]
        refine Json.Spells.code reads single (inductionHypothesis ?_ rest)
        simp only [List.length_cons, List.length_append] at short
        omega
      | @pair digits lowDigits high low body spelled reads isHigh readsLow isLow rest =>
        have ascii : Ascii ('\\' :: 'u' :: (digits ++ '\\' :: 'u' :: lowDigits)) := by
          simp only [Ascii, List.forall_mem_cons, List.forall_mem_append]
          exact ⟨by decide, by decide, ascii_code reads, by decide, by decide, ascii_code readsLow⟩
        have passed := gsub_ascii escaping escapeutf8 ascii body
        simp only [List.cons_append, List.append_assoc] at passed
        rw [fsub, passed]
        refine Json.Spells.pair reads isHigh readsLow isLow (inductionHypothesis ?_ rest)
        simp only [List.length_cons, List.length_append] at short
        omega

/-! ## Whole strings -/

theorem among_iff {first last : Nat} {letter : Char} :
    among first last letter = true ↔ first ≤ letter.toNat ∧ letter.toNat ≤ last := by
  rw [among, Bool.and_eq_true, decide_eq_true_eq, decide_eq_true_eq]

/-- A byte that goes on a letter of UTF-8. -/
def Continues (inClass : Char → Bool) : Prop :=
  ∀ letter, inClass letter = true → 0x80 ≤ letter.toNat ∧ letter.toNat ≤ 0xbf

theorem continues_among {first last : Nat} (lower : 0x80 ≤ first) (upper : last ≤ 0xbf) :
    Continues (among first last) := by
  intro letter isIn
  obtain ⟨above, below⟩ := among_iff.mp isIn
  omega

theorem escaping_two {lead : Nat} {second : Char → Bool} (range : 0xc2 ≤ lead ∧ lead ≤ 0xdf)
    (continues : Continues second) : Escaping [among lead lead, second] where
  some := by simp
  beyond := by
    simp only [List.forall_mem_cons, List.not_mem_nil, false_implies, implies_true, and_true]
    refine ⟨fun letter isIn => ?_, fun letter isIn => ?_⟩
    · have bounds := among_iff.mp isIn
      omega
    · exact (continues letter isIn).1
  escape := by
    intro chunk length matched
    obtain ⟨a, b, rfl⟩ := List.length_eq_two.mp length
    simp only [fits, Bool.and_eq_true, and_true] at matched
    have bounds := among_iff.mp matched.1
    exact escapeOf_two (by omega) (continues b matched.2)

theorem escaping_three {lead : Nat} {second third : Char → Bool}
    (range : 0xe1 ≤ lead ∧ lead ≤ 0xef) (noSurrogate : lead ≠ 0xed)
    (continues : Continues second) (continuesAgain : Continues third) :
    Escaping [among lead lead, second, third] where
  some := by simp
  beyond := by
    simp only [List.forall_mem_cons, List.not_mem_nil, false_implies, implies_true, and_true]
    refine ⟨fun letter isIn => ?_, fun letter isIn => ?_, fun letter isIn => ?_⟩
    · have bounds := among_iff.mp isIn
      omega
    · exact (continues letter isIn).1
    · exact (continuesAgain letter isIn).1
  escape := by
    intro chunk length matched
    obtain ⟨a, b, c, rfl⟩ := List.length_eq_three.mp length
    simp only [fits, Bool.and_eq_true, and_true] at matched
    have bounds := among_iff.mp matched.1
    exact escapeOf_three (by omega) (by omega) (continues b matched.2.1)
      (continuesAgain c matched.2.2)

theorem continues_or {first second : Char → Bool} (continues : Continues first)
    (continuesAgain : Continues second) :
    Continues fun letter => first letter || second letter := by
  intro letter isIn
  rcases Bool.or_eq_true_iff.mp isIn with isFirst | isSecond
  · exact continues letter isFirst
  · exact continuesAgain letter isSecond

theorem escaping_unicodePatterns : ∀ pattern ∈ unicodePatterns, Escaping pattern := by
  have softHyphen : Continues fun letter => letter.toNat = 173 := by
    intro letter isIn
    rw [decide_eq_true_eq] at isIn
    omega
  have between : ∀ {first last : Nat}, 0x80 ≤ first → last ≤ 0xbf →
      Continues (among first last) := continues_among
  simp only [unicodePatterns, List.forall_mem_cons, List.not_mem_nil, false_implies, implies_true,
    and_true]
  refine ⟨?_, ?_, ?_, ?_, ?_, ?_, ?_, ?_⟩
  · exact escaping_two (by decide)
      (continues_or (between (by decide) (by decide)) softHyphen)
  · exact escaping_two (by decide) (between (by decide) (by decide))
  · exact escaping_two (by decide) (between (by decide) (by decide))
  · exact escaping_three (by decide) (by decide) (between (by decide) (by decide))
      (between (by decide) (by decide))
  · exact escaping_three (by decide) (by decide) (between (by decide) (by decide))
      (continues_or (between (by decide) (by decide)) (between (by decide) (by decide)))
  · exact escaping_three (by decide) (by decide) (between (by decide) (by decide))
      (between (by decide) (by decide))
  · exact escaping_three (by decide) (by decide) (between (by decide) (by decide))
      (between (by decide) (by decide))
  · exact escaping_three (by decide) (by decide) (between (by decide) (by decide))
      (between (by decide) (by decide))

theorem spells_rounds {patterns : List Pattern}
    (escaping : ∀ pattern ∈ patterns, Escaping pattern) {body spelled : Text}
    (spells : Json.Spells body spelled) :
    Json.Spells (patterns.foldl fsub body) spelled := by
  induction patterns generalizing body with
  | nil => exact spells
  | cons pattern patterns inductionHypothesis =>
    obtain ⟨first, others⟩ := List.forall_mem_cons.mp escaping
    exact inductionHypothesis others (spells_round first _ le_rfl spells)

/-- What stands between the quotes spells the string, whatever bytes it is made of. -/
theorem spells_quoted (value : Text) : Json.Spells (quoted value) value := by
  have first := spells_first value
  unfold quoted
  by_cases lead : (fsub value escapable).any leads = true
  · simp only [if_pos lead]
    exact spells_rounds escaping_unicodePatterns first
  · simp only [if_neg lead]
    exact first

theorem writes_quotestring (value : Text) :
    Json.Writes (.value (.string value)) (quotestring value) :=
  Json.Writes.string (spells_quoted value)

end TfortisPack.Dkjson
