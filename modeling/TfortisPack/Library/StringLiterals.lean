import Mathlib.Data.List.Basic
import Mathlib.Data.List.Infix

/-!
# Quoted strings in a byte stream

A text format with C-like string literals is read by a three-mode scanner:
outside of a literal, inside of one, and directly behind a backslash.  The
number of literals that a text closes bounds what any parser of the format can
find in it.  Cutting a text into pieces moves the scanner out of step; the
lemmas below say how many literals a piece can still close.
-/

namespace TfortisPack.Library

namespace StringLiterals

def doubleQuote : UInt8 := 34

def backslash : UInt8 := 92

inductive Mode where
  | outside
  | inside
  | escaped
  deriving Repr, DecidableEq

/-- The literals closed by a text.  Outside of a literal a backslash is an
error, behind which nothing counts. -/
def closed : Mode → List UInt8 → Nat
  | _, [] => 0
  | .outside, byte :: rest =>
      if byte = doubleQuote then
        closed .inside rest
      else if byte = backslash then
        0
      else
        closed .outside rest
  | .inside, byte :: rest =>
      if byte = doubleQuote then
        closed .outside rest + 1
      else if byte = backslash then
        closed .escaped rest
      else
        closed .inside rest
  | .escaped, _ :: rest => closed .inside rest

@[simp]
theorem closed_nil (mode : Mode) : closed mode [] = 0 := by
  cases mode <;> rfl

theorem closed_outside_cons (byte : UInt8) (rest : List UInt8) :
    closed .outside (byte :: rest) =
      if byte = doubleQuote then closed .inside rest
      else if byte = backslash then 0
      else closed .outside rest :=
  rfl

theorem closed_inside_cons (byte : UInt8) (rest : List UInt8) :
    closed .inside (byte :: rest) =
      if byte = doubleQuote then closed .outside rest + 1
      else if byte = backslash then closed .escaped rest
      else closed .inside rest :=
  rfl

@[simp]
theorem closed_escaped_cons (byte : UInt8) (rest : List UInt8) :
    closed .escaped (byte :: rest) = closed .inside rest :=
  rfl

/-- The text leaves the mode of the scanner alone. -/
def Plain (text : List UInt8) : Prop :=
  ∀ byte ∈ text, byte ≠ doubleQuote ∧ byte ≠ backslash

instance (text : List UInt8) : Decidable (Plain text) :=
  List.decidableBAll _ text

def hexDigit (digit : UInt8) : UInt8 :=
  if digit < 10 then 48 + digit else 87 + digit

/-- One byte of a literal's value as it is written: the named escapes, a
hexadecimal escape for the other control bytes, and the byte itself. -/
def escapeByte (byte : UInt8) : List UInt8 :=
  if byte = doubleQuote then [backslash, doubleQuote]
  else if byte = backslash then [backslash, backslash]
  else if byte = 8 then [backslash, 98]
  else if byte = 9 then [backslash, 116]
  else if byte = 10 then [backslash, 110]
  else if byte = 13 then [backslash, 114]
  else if byte < 32 then
    [backslash, 117, 48, 48, hexDigit (byte / 16), hexDigit (byte % 16)]
  else [byte]

def escape (value : List UInt8) : List UInt8 :=
  value.flatMap escapeByte

def literal (value : List UInt8) : List UInt8 :=
  doubleQuote :: (escape value ++ [doubleQuote])

section Scanner

theorem closed_le_append (mode : Mode) (text more : List UInt8) :
    closed mode text ≤ closed mode (text ++ more) := by
  induction text generalizing mode with
  | nil =>
      simp
  | cons byte rest inductionHypothesis =>
      cases mode with
      | outside =>
          simp only [List.cons_append, closed_outside_cons]
          split
          · exact inductionHypothesis .inside
          · split
            · exact Nat.le_refl 0
            · exact inductionHypothesis .outside
      | inside =>
          simp only [List.cons_append, closed_inside_cons]
          split
          · exact Nat.succ_le_succ (inductionHypothesis .outside)
          · split
            · exact inductionHypothesis .escaped
            · exact inductionHypothesis .inside
      | escaped =>
          simp only [List.cons_append, closed_escaped_cons]
          exact inductionHypothesis .inside

theorem closed_le_of_isPrefix {mode : Mode} {text whole : List UInt8}
    (start : text <+: whole) : closed mode text ≤ closed mode whole := by
  obtain ⟨more, rfl⟩ := start
  exact closed_le_append mode text more

theorem closed_append_singleton {byte : UInt8} (notQuote : byte ≠ doubleQuote)
    (mode : Mode) (text : List UInt8) :
    closed mode (text ++ [byte]) = closed mode text := by
  induction text generalizing mode with
  | nil =>
      cases mode <;> simp [closed_outside_cons, closed_inside_cons, notQuote]
  | cons first rest inductionHypothesis =>
      cases mode <;> simp [closed_outside_cons, closed_inside_cons, inductionHypothesis]

/-- A literal takes two quotes. -/
theorem two_mul_closed_le (text : List UInt8) :
    2 * closed .outside text ≤ text.count doubleQuote ∧
      2 * closed .inside text ≤ text.count doubleQuote + 1 ∧
        2 * closed .escaped text ≤ text.count doubleQuote + 1 := by
  induction text with
  | nil =>
      simp
  | cons byte rest inductionHypothesis =>
      obtain ⟨outside, inside, escaped⟩ := inductionHypothesis
      have counted : rest.count doubleQuote ≤ (byte :: rest).count doubleQuote :=
        List.count_le_count_cons
      by_cases isQuote : byte = doubleQuote
      · have exactly : (byte :: rest).count doubleQuote = rest.count doubleQuote + 1 := by
          rw [isQuote, List.count_cons_self]
        simp only [closed_outside_cons, closed_inside_cons, closed_escaped_cons, if_pos isQuote]
        omega
      · by_cases isBackslash : byte = backslash
        · simp only [closed_outside_cons, closed_inside_cons, closed_escaped_cons, if_neg isQuote,
            if_pos isBackslash]
          omega
        · simp only [closed_outside_cons, closed_inside_cons, closed_escaped_cons, if_neg isQuote,
            if_neg isBackslash]
          omega

theorem closed_plain_append {text : List UInt8} (plain : Plain text)
    {mode : Mode} (settled : mode ≠ .escaped) (more : List UInt8) :
    closed mode (text ++ more) = closed mode more := by
  induction text with
  | nil =>
      rfl
  | cons byte rest inductionHypothesis =>
      obtain ⟨notQuote, notBackslash⟩ := plain byte List.mem_cons_self
      have later : closed mode (rest ++ more) = closed mode more :=
        inductionHypothesis fun other member => plain other (List.mem_cons_of_mem byte member)
      cases mode with
      | outside =>
          rw [List.cons_append, closed_outside_cons, if_neg notQuote, if_neg notBackslash, later]
      | inside =>
          rw [List.cons_append, closed_inside_cons, if_neg notQuote, if_neg notBackslash, later]
      | escaped =>
          exact absurd rfl settled

theorem closed_outside_plain {text : List UInt8} (plain : Plain text) :
    closed .outside text = 0 := by
  have scanned := closed_plain_append plain (show Mode.outside ≠ .escaped by decide) []
  rwa [List.append_nil] at scanned

theorem closed_outside_quote (rest : List UInt8) :
    closed .outside (doubleQuote :: rest) = closed .inside rest := by
  simp [closed_outside_cons]

theorem closed_inside_quote (rest : List UInt8) :
    closed .inside (doubleQuote :: rest) = closed .outside rest + 1 := by
  simp [closed_inside_cons]

theorem closed_outside_backslash (rest : List UInt8) :
    closed .outside (backslash :: rest) = 0 := by
  simp [closed_outside_cons, show backslash ≠ doubleQuote by decide]

theorem closed_inside_backslash (byte : UInt8) (rest : List UInt8) :
    closed .inside (backslash :: byte :: rest) = closed .inside rest := by
  simp [closed_inside_cons, show backslash ≠ doubleQuote by decide]

theorem Plain.of_subset {text whole : List UInt8} (plain : Plain whole)
    (subset : text ⊆ whole) : Plain text :=
  fun byte member => plain byte (subset member)

end Scanner

section Escapes

theorem forall_byte {property : UInt8 → Prop}
    (all : ∀ value < 256, property (UInt8.ofNat value)) (byte : UInt8) : property byte := by
  have atByte := all byte.toNat byte.toNat_lt
  rwa [UInt8.ofNat_toNat] at atByte

theorem hexDigits_plain :
    ∀ byte : UInt8, Plain [48, 48, hexDigit (byte / 16), hexDigit (byte % 16)] :=
  forall_byte (by decide +kernel)

/-- A byte stands for itself or is written behind a backslash. -/
theorem escapeByte_shape (byte : UInt8) :
    (escapeByte byte = [byte] ∧ Plain [byte]) ∨
      ∃ name digits, escapeByte byte = backslash :: name :: digits ∧ Plain digits := by
  unfold escapeByte
  split
  · exact Or.inr ⟨_, _, rfl, by decide⟩
  · rename_i notQuote
    split
    · exact Or.inr ⟨_, _, rfl, by decide⟩
    · rename_i notBackslash
      split_ifs
      · exact Or.inr ⟨_, _, rfl, by decide⟩
      · exact Or.inr ⟨_, _, rfl, by decide⟩
      · exact Or.inr ⟨_, _, rfl, by decide⟩
      · exact Or.inr ⟨_, _, rfl, by decide⟩
      · refine Or.inr ⟨_, _, rfl, ?_⟩
        exact hexDigits_plain byte
      · refine Or.inl ⟨rfl, ?_⟩
        intro other member
        rw [List.mem_singleton.mp member]
        exact ⟨notQuote, notBackslash⟩

theorem escape_cons (byte : UInt8) (value : List UInt8) :
    escape (byte :: value) = escapeByte byte ++ escape value := by
  simp [escape]

/-- A byte is written as it is exactly if it is printable; no escape holds a line
feed. -/
theorem escapeByte_cases : ∀ byte : UInt8,
    (escapeByte byte = [byte] ∧ 32 ≤ byte ∧ byte ≠ doubleQuote ∧ byte ≠ backslash) ∨
      (¬(32 ≤ byte ∧ byte ≠ doubleQuote ∧ byte ≠ backslash) ∧
        backslash ∈ escapeByte byte ∧ (10 : UInt8) ∉ escapeByte byte) :=
  forall_byte (by decide +kernel)

theorem newline_notMem_escape (value : List UInt8) : (10 : UInt8) ∉ escape value := by
  intro member
  obtain ⟨byte, _, inByte⟩ := List.mem_flatMap.mp member
  rcases escapeByte_cases byte with ⟨same, large, _⟩ | ⟨_, _, free⟩
  · rw [same, List.mem_singleton] at inByte
    rw [← inByte] at large
    exact absurd large (by decide)
  · exact free inByte

theorem escape_of_printable {value : List UInt8}
    (printable : ∀ byte ∈ value, 32 ≤ byte ∧ byte ≠ doubleQuote ∧ byte ≠ backslash) :
    escape value = value := by
  induction value with
  | nil =>
      rfl
  | cons byte rest inductionHypothesis =>
      have same : escapeByte byte = [byte] := by
        rcases escapeByte_cases byte with ⟨same, _⟩ | ⟨unprintable, _⟩
        · exact same
        · exact absurd (printable byte List.mem_cons_self) unprintable
      rw [escape_cons, same,
        inductionHypothesis fun other member => printable other (List.mem_cons_of_mem byte member)]
      rfl

theorem printable_of_backslash_notMem {value : List UInt8}
    (clean : backslash ∉ escape value) :
    ∀ byte ∈ value, 32 ≤ byte ∧ byte ≠ doubleQuote ∧ byte ≠ backslash := by
  intro byte member
  rcases escapeByte_cases byte with ⟨_, printable⟩ | ⟨_, escaped, _⟩
  · exact printable
  · exact absurd (List.mem_flatMap.mpr ⟨byte, member, escaped⟩) clean

/-- Read in step, a written value stays inside of its literal. -/
theorem closed_inside_escape (value more : List UInt8) :
    closed .inside (escape value ++ more) = closed .inside more := by
  induction value with
  | nil =>
      rfl
  | cons byte rest inductionHypothesis =>
      rw [escape_cons, List.append_assoc]
      rcases escapeByte_shape byte with ⟨same, plain⟩ | ⟨name, digits, written, plain⟩
      · rw [same, closed_plain_append plain (by decide), inductionHypothesis]
      · rw [written, List.cons_append, List.cons_append, closed_inside_backslash,
          closed_plain_append plain (by decide), inductionHypothesis]

/-- Read from outside, a written value and the quote behind it close nothing:
an escape is an error there, and without one the quote opens a literal. -/
theorem closed_outside_escape (value : List UInt8) {ending : List UInt8} (plain : Plain ending) :
    closed .outside (escape value ++ doubleQuote :: ending) = 0 := by
  induction value with
  | nil =>
      have half := (two_mul_closed_le ending).2.1
      have none : ending.count doubleQuote = 0 :=
        List.count_eq_zero.mpr fun member => (plain _ member).1 rfl
      change closed .outside (doubleQuote :: ending) = 0
      rw [closed_outside_quote]
      omega
  | cons byte rest inductionHypothesis =>
      rw [escape_cons, List.append_assoc]
      rcases escapeByte_shape byte with ⟨same, plainByte⟩ | ⟨name, digits, written, _⟩
      · rw [same, closed_plain_append plainByte (by decide), inductionHypothesis]
      · rw [written, List.cons_append, closed_outside_backslash]

/-- A cut through the escape of one byte.  Only an escaped quote that lost its
backslash opens a literal, and then in step. -/
theorem closed_outside_cut_escapeByte {byte : UInt8} {tail : List UInt8}
    (suffix : tail <:+ escapeByte byte) (value : List UInt8) {ending : List UInt8}
    (plain : Plain ending) :
    closed .outside (tail ++ (escape value ++ doubleQuote :: ending)) ≤ 1 := by
  have behind : closed .outside (escape value ++ doubleQuote :: ending) = 0 :=
    closed_outside_escape value plain
  rcases escapeByte_shape byte with ⟨same, plainByte⟩ | ⟨name, digits, written, plainDigits⟩
  · have plainTail : Plain tail := plainByte.of_subset (same ▸ suffix.subset)
    rw [closed_plain_append plainTail (by decide), behind]
    exact Nat.zero_le 1
  · obtain ⟨cut, whole⟩ := suffix
    rw [written] at whole
    match cut, whole with
    | [], whole =>
        rw [List.nil_append] at whole
        rw [whole, List.cons_append, closed_outside_backslash]
        exact Nat.zero_le 1
    | [_], whole =>
        obtain rfl : tail = name :: digits := (List.cons.inj whole).2
        by_cases isQuote : name = doubleQuote
        · rw [isQuote, List.cons_append, closed_outside_quote,
            closed_plain_append plainDigits (by decide), closed_inside_escape,
            closed_inside_quote, closed_outside_plain plain]
        · by_cases isBackslash : name = backslash
          · rw [isBackslash, List.cons_append, closed_outside_backslash]
            exact Nat.zero_le 1
          · have plainTail : Plain (name :: digits) := by
              intro other member
              rcases List.mem_cons.mp member with rfl | later
              · exact ⟨isQuote, isBackslash⟩
              · exact plainDigits other later
            rw [closed_plain_append plainTail (by decide), behind]
            exact Nat.zero_le 1
    | _ :: _ :: cut, whole =>
        have inDigits : tail <:+ digits :=
          ⟨cut, (List.cons.inj (List.cons.inj whole).2).2⟩
        rw [closed_plain_append (plainDigits.of_subset inDigits.subset) (by decide), behind]
        exact Nat.zero_le 1

/-- Read from the middle, a written value and the quote behind it close one
literal at most. -/
theorem closed_outside_suffix_escape {value tail ending : List UInt8}
    (suffix : tail <:+ escape value) (plain : Plain ending) :
    closed .outside (tail ++ doubleQuote :: ending) ≤ 1 := by
  induction value with
  | nil =>
      obtain rfl : tail = [] := List.suffix_nil.mp suffix
      have none : closed .outside (escape [] ++ doubleQuote :: ending) = 0 :=
        closed_outside_escape [] plain
      exact none.le.trans (Nat.zero_le 1)
  | cons byte rest inductionHypothesis =>
      obtain ⟨cut, whole⟩ := suffix
      rw [escape_cons] at whole
      rcases List.append_eq_append_iff.mp whole with ⟨kept, cutByte, rfl⟩ | ⟨kept, _, cutRest⟩
      · rw [List.append_assoc]
        exact closed_outside_cut_escapeByte ⟨cut, cutByte.symm⟩ rest plain
      · exact inductionHypothesis ⟨kept, cutRest.symm⟩

end Escapes

section Members

variable {indent separator ending : List UInt8}

theorem closed_outside_suffix_literal {value tail : List UInt8} (plainEnding : Plain ending)
    (suffix : tail <:+ literal value ++ ending) : closed .outside tail ≤ 1 := by
  have closing : closed .outside ending + 1 = 1 := by
    rw [closed_outside_plain plainEnding]
  rw [literal, List.cons_append, List.append_assoc, List.singleton_append] at suffix
  rcases List.suffix_cons_iff.mp suffix with rfl | ⟨cut, whole⟩
  · rw [closed_outside_quote, closed_inside_escape, closed_inside_quote, closing]
  · rcases List.append_eq_append_iff.mp whole with ⟨kept, cutValue, rfl⟩ | ⟨kept, _, cutEnding⟩
    · exact closed_outside_suffix_escape ⟨cut, cutValue.symm⟩ plainEnding
    · -- what is left of the closing quote and the ending opens one literal at most
      have inEnding : tail <:+ doubleQuote :: ending := ⟨kept, cutEnding.symm⟩
      have quotes : tail.count doubleQuote ≤ 1 := by
        apply (inEnding.sublist.count_le doubleQuote).trans
        rw [List.count_cons_self, List.count_eq_zero.mpr fun member => (plainEnding _ member).1 rfl]
      have half := (two_mul_closed_le tail).1
      omega

theorem closed_outside_suffix_element {value tail : List UInt8} (plainIndent : Plain indent)
    (plainEnding : Plain ending) (suffix : tail <:+ indent ++ (literal value ++ ending)) :
    closed .outside tail ≤ 1 := by
  obtain ⟨cut, whole⟩ := suffix
  rcases List.append_eq_append_iff.mp whole with ⟨kept, cutIndent, rfl⟩ | ⟨kept, _, cutRest⟩
  · have plainKept : Plain kept :=
      plainIndent.of_subset (cutIndent ▸ List.subset_append_right cut kept)
    rw [closed_plain_append plainKept (by decide)]
    exact closed_outside_suffix_literal plainEnding (List.suffix_refl _)
  · exact closed_outside_suffix_literal plainEnding ⟨kept, cutRest.symm⟩

/-- A member whose value is not closed has only its name as a literal. -/
theorem closed_outside_unfinished_member (key value : List UInt8) (plainIndent : Plain indent)
    (plainSeparator : Plain separator) :
    closed .outside
      (indent ++ (literal key ++ (separator ++ doubleQuote :: escape value))) = 1 := by
  have unclosed : closed .inside (escape value) = 0 := by
    have scanned := closed_inside_escape value []
    rwa [List.append_nil] at scanned
  rw [closed_plain_append plainIndent (by decide), literal, List.cons_append, List.append_assoc,
    List.singleton_append, closed_outside_quote, closed_inside_escape, closed_inside_quote,
    closed_plain_append plainSeparator (by decide), closed_outside_quote, unclosed]

/-- A member that lost the quote before its name closes one literal at most. -/
theorem closed_outside_cut_member {key value cut tail : List UInt8} (plainKey : Plain (escape key))
    (plainSeparator : Plain separator) (plainEnding : Plain ending)
    (whole : cut ++ tail =
      indent ++ (literal key ++ (separator ++ (literal value ++ ending))))
    (cutOpening : indent.length < cut.length) :
    closed .outside tail ≤ 1 := by
  -- out of step, the quotes around the separator pair up
  have fromClosing :
      closed .outside (doubleQuote :: (separator ++ (literal value ++ ending))) = 1 := by
    rw [closed_outside_quote, closed_plain_append plainSeparator (by decide), literal,
      List.cons_append, List.append_assoc, closed_inside_quote, List.singleton_append,
      closed_outside_escape value plainEnding]
  rcases List.append_eq_append_iff.mp whole with ⟨kept, cutIndent, _⟩ | ⟨behind, rfl, rest⟩
  · rw [cutIndent, List.length_append] at cutOpening
    omega
  · cases behind with
    | nil =>
        simp at cutOpening
    | cons opening behind =>
        rw [literal, List.cons_append, List.append_assoc, List.singleton_append,
          List.cons_append] at rest
        have restTail := (List.cons.inj rest).2
        rcases List.append_eq_append_iff.mp restTail.symm with
          ⟨kept, cutKey, rfl⟩ | ⟨kept, _, cutRest⟩
        · have plainKept : Plain kept :=
            plainKey.of_subset (cutKey ▸ List.subset_append_right behind kept)
          rw [closed_plain_append plainKept (by decide), fromClosing]
        · cases kept with
          | nil =>
              rw [List.nil_append] at cutRest
              rw [← cutRest, fromClosing]
          | cons closing kept =>
              rw [List.cons_append] at cutRest
              have suffix : tail <:+ separator ++ (literal value ++ ending) :=
                ⟨kept, (List.cons.inj cutRest).2.symm⟩
              exact closed_outside_suffix_element plainSeparator plainEnding suffix

end Members

end StringLiterals

end TfortisPack.Library
