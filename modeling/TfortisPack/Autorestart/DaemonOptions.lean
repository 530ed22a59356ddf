import TfortisPack.Autorestart.Decimals
import TfortisPack.Library.Occurrences

/-!
# The options of the daemon

`getConfig` of `init_module.c` on the answer of `ubus call uci get` for the
section `ar_demon`.  A text is the list of its bytes, as characters.

The options are searched for as texts in the whole answer, one after another,
and scanned into a local buffer that no iteration clears.  An option that is
not found therefore has the number of the one before it.
-/

namespace TfortisPack.Autorestart

open TfortisPack.Library

namespace DaemonOptions

/-! ## Reading the answer -/

/-- `DEMON_PARAM_e` without `MAIN_TIME`, which `getConfig` does not read. -/
inductive DemonParam where
  | testDelay
  | testNum
  | maxReset
  deriving DecidableEq, Repr

def optionName : DemonParam → List Char
  | .testDelay => "test_delay".toList
  | .testNum => "test_num".toList
  | .maxReset => "max_reset".toList

/-- `configOptionsDefault`. -/
def defaultValue : DemonParam → Nat
  | .testDelay => 3
  | .testNum => 10
  | .maxReset => 3

def strstr (text name : List Char) : Option (List Char) :=
  Occurrences.firstText name text

def strchr (text : List Char) (char : Char) : Option (List Char) :=
  Occurrences.firstLetter char text

/-- The characters that `%9[^"]` takes. -/
def quotedChars (text : List Char) : List Char :=
  (text.takeWhile (· ≠ '"')).take 9

/-- `sscanf(text, "\"%9[^\"]\"", value)`; a conversion that takes nothing
leaves the value. -/
def scanQuoted (value : String) : List Char → String
  | '"' :: rest => if quotedChars rest = [] then value else String.ofList (quotedChars rest)
  | _ => value

/-- `getValueFromJson`: its result and the text in `value`; `none` where
`strchr` delivers a null pointer, which is used all the same. -/
def getValueFromJson (json name : List Char) (value : String) : Option (Bool × String) :=
  match strstr json name with
  | none => some (false, value)
  | some found => do
      let colon ← strchr found ':'
      let quote ← strchr colon '"'
      some (true, scanQuoted value quote)

/-- The pieces that `fgets` delivers, joined by `strcat` in `res`; `none` where
they run over its 256 bytes. -/
def readAnswer (output : List Char) : Option (List Char) :=
  if output.length < 256 then some output else none

theorem eq_of_readAnswer {output res : List Char} (stored : readAnswer output = some res) :
    res = output := by
  unfold readAnswer at stored
  split at stored
  · exact (Option.some.inj stored).symm
  · exact absurd stored (by simp)

/-- `getConfig`.  The `value_str` of all iterations have one place on the stack,
and `stack` is the text that stands there before the first. -/
def getConfig (stack : String) (output : List Char) : Option DaemonConfig := do
  let res ← readAnswer output
  let testDelay ← getValueFromJson res (optionName .testDelay) stack
  let testNum ← getValueFromJson res (optionName .testNum) testDelay.2
  let maxReset ← getValueFromJson res (optionName .maxReset) testNum.2
  some (Autorestart.getConfig testDelay.2 testNum.2 maxReset.2)

/-- `init_configOptions[param].value`. -/
def configValue (config : DaemonConfig) : DemonParam → Nat
  | .testDelay => config.testDelay
  | .testNum => config.testNum
  | .maxReset => config.maxReset

/-! ## The answer of `uci get` -/

/-- A value as it is printed: the text of a decimal number, or any other JSON
value. -/
inductive Value where
  | decimal (number : DecimalText)
  | json (rendered : List Char)

def Value.rendered : Value → List Char
  | .decimal number => '"' :: number.chars ++ ['"']
  | .json rendered => rendered

structure Entry where
  key : List Char
  value : Value

def keyStart : List Char := "\t\t\"".toList

def keyEnd : List Char := "\": ".toList

/-- What stands behind the value of an entry, the last one or not. -/
def entryEnd (rest : List Entry) : List Char :=
  if rest.isEmpty then "\n".toList else ",\n".toList

def renderEntries : List Entry → List Char
  | [] => []
  | entry :: rest =>
      keyStart ++ (entry.key ++ (keyEnd ++ (entry.value.rendered ++
        (entryEnd rest ++ renderEntries rest))))

/-- An answer for the section: in any order, the options that are present, the
entries that `uci` adds and any others. -/
structure Answer where
  entries : List Entry
  distinct : (entries.map Entry.key).Nodup
  decimal : ∀ entry ∈ entries, ∀ param, entry.key = optionName param →
    ∃ number, entry.value = .decimal number

def footer : List Char := "\t\x7d\n\x7d\n".toList

def Answer.text (answer : Answer) : List Char :=
  "\x7b\n\t\"".toList ++ ("values".toList ++ ("\": \x7b\n".toList ++
    (renderEntries answer.entries ++ footer)))

def Entry.number (entry : Entry) : Option Int :=
  match entry.value with
  | .decimal number => some number.number
  | .json _ => none

/-- The number that the answer holds under the name of an option. -/
def Answer.held (answer : Answer) (param : DemonParam) : Option Int :=
  (answer.entries.find? fun entry => entry.key = optionName param).bind Entry.number

/-! ## What the options mean -/

/-- The number of an option that is present and admissible. -/
def inRange (held : Option Int) : Option Int :=
  held.filter fun number => 0 ≤ number ∧ number ≤ 60

def expected (param : DemonParam) (held : Option Int) : Int :=
  (inRange held).getD (defaultValue param)

/-- Every option has its own number, or its default. -/
def Effective (stack : String) (answer : Answer) : Prop :=
  ∃ config, getConfig stack answer.text = some config ∧
    ∀ param, (configValue config param : Int) = expected param (answer.held param)

/-! ## Numbers of nine characters -/

theorem digitsValue_concat (digits : List Char) (last : Char) :
    digitsValue (digits ++ [last]) = 10 * digitsValue digits + (last.toNat - 48) := by
  simp [digitsValue]

theorem digitsValue_lt {digits : List Char} (decimal : ∀ digit ∈ digits, digit.isDigit = true) :
    digitsValue digits < 10 ^ digits.length := by
  induction digits using List.reverseRecOn with
  | nil =>
      decide
  | append_singleton digits last inductionHypothesis =>
      have small := inductionHypothesis fun digit member =>
        decimal digit (List.mem_append_left [last] member)
      have lastDigit : last.isDigit = true := decimal last (by simp)
      have lastSmall : last.toNat ≤ 57 := (Char.isDigit_iff_toNat.mp lastDigit).2
      rw [digitsValue_concat, List.length_append, List.length_singleton, pow_succ]
      omega

theorem digitsValue_le_append (front back : List Char) :
    digitsValue front ≤ digitsValue (front ++ back) := by
  induction back using List.reverseRecOn with
  | nil =>
      rw [List.append_nil]
  | append_singleton back last inductionHypothesis =>
      rw [← List.append_assoc, digitsValue_concat]
      omega

/-- Digits that are cut off are at least a factor of ten. -/
theorem ten_mul_digitsValue_le {front back : List Char} (nonempty : back ≠ []) :
    10 * digitsValue front ≤ digitsValue (front ++ back) := by
  have split := List.dropLast_append_getLast nonempty
  have smaller := digitsValue_le_append front back.dropLast
  rw [← split, ← List.append_assoc, digitsValue_concat]
  omega

/-- The number that `%9[^"]` leaves of a decimal text. -/
def scanned (decimal : DecimalText) : DecimalText where
  negative := decimal.negative
  digits := decimal.digits.take (if decimal.negative then 8 else 9)
  nonempty := by
    have some := decimal.nonempty
    split <;> simp [some]
  decimal := fun digit member => decimal.decimal digit (List.mem_of_mem_take member)

theorem scanned_chars (decimal : DecimalText) :
    (scanned decimal).chars = decimal.chars.take 9 := by
  cases negative : decimal.negative with
  | false =>
      simp [scanned, DecimalText.chars, negative]
  | true =>
      simp [scanned, DecimalText.chars, negative]

/-- Nine characters are within the bounds of `long`. -/
theorem strtol_scanned (decimal : DecimalText) :
    strtol (scanned decimal).text = (scanned decimal).number := by
  have short : (scanned decimal).digits.length ≤ 9 := by
    have taken := List.length_take_le (if decimal.negative then 8 else 9) decimal.digits
    have width : (if decimal.negative then 8 else 9) ≤ 9 := by
      split <;> decide
    exact Nat.le_trans taken width
  have value : digitsValue (scanned decimal).digits < 10 ^ 9 :=
    Nat.lt_of_lt_of_le (digitsValue_lt (scanned decimal).decimal)
      (Nat.pow_le_pow_right (by decide) short)
  rw [DecimalText.strtol_text, DecimalText.saturated]
  have low : -1000000000 < (scanned decimal).number := by
    unfold DecimalText.number
    split <;> omega
  have high : (scanned decimal).number < 1000000000 := by
    unfold DecimalText.number
    split <;> omega
  omega

theorem scanned_of_short {decimal : DecimalText} (short : decimal.chars.length ≤ 9) :
    (scanned decimal).number = decimal.number := by
  have whole : (scanned decimal).digits = decimal.digits := by
    cases negative : decimal.negative with
    | false =>
        simp only [DecimalText.chars, negative, Bool.false_eq_true, if_false,
          List.nil_append] at short
        simp [scanned, negative, List.take_of_length_le short]
    | true =>
        simp only [DecimalText.chars, negative, if_true, List.cons_append, List.nil_append,
          List.length_cons] at short
        have fewer : decimal.digits.length ≤ 8 := by omega
        simp [scanned, negative, List.take_of_length_le fewer]
  rw [DecimalText.number, whole]
  rfl

theorem ten_mul_scanned_le {decimal : DecimalText} (long : 9 < decimal.chars.length) :
    10 * digitsValue (scanned decimal).digits ≤ digitsValue decimal.digits := by
  have cut : decimal.digits.drop (if decimal.negative then 8 else 9) ≠ [] := by
    intro nothing
    have short := List.drop_eq_nil_iff.mp nothing
    cases negative : decimal.negative with
    | false =>
        simp [DecimalText.chars, negative] at long short
        omega
    | true =>
        simp [DecimalText.chars, negative] at long short
        omega
  have smaller : 10 * digitsValue (scanned decimal).digits ≤ _ := ten_mul_digitsValue_le cut
  rwa [scanned, List.take_append_drop] at smaller

/-- An admissible number survives the cut if it has at most nine characters,
and zero always does. -/
theorem scanned_eq_iff {decimal : DecimalText} (positive : 0 ≤ decimal.number)
    (small : decimal.number ≤ 60) :
    (0 ≤ (scanned decimal).number ∧ (scanned decimal).number ≤ 60) ∧
      ((scanned decimal).number = decimal.number ↔
        decimal.chars.length ≤ 9 ∨ decimal.number = 0) := by
  by_cases short : decimal.chars.length ≤ 9
  · rw [scanned_of_short short]
    exact ⟨⟨positive, small⟩, ⟨fun _ => Or.inl short, fun _ => rfl⟩⟩
  · have cut := ten_mul_scanned_le (Nat.lt_of_not_le short)
    unfold DecimalText.number at positive small ⊢
    cases negative : decimal.negative with
    | false =>
        simp only [negative, scanned, Bool.false_eq_true, if_false] at positive small cut ⊢
        omega
    | true =>
        simp only [negative, scanned, if_true] at positive small cut ⊢
        omega

theorem quote_not_mem_chars (decimal : DecimalText) : '"' ∉ decimal.chars := by
  intro member
  rcases List.mem_append.mp member with isSign | isDigit
  · cases negative : decimal.negative with
    | false =>
        simp [negative] at isSign
    | true =>
        simp [negative] at isSign
  · exact absurd (decimal.decimal '"' isDigit) (by decide)

theorem quotedChars_chars (decimal : DecimalText) (rest : List Char) :
    quotedChars (decimal.chars ++ '"' :: rest) = (scanned decimal).chars := by
  have unquoted : ∀ char ∈ decimal.chars, decide (char ≠ '"') = true := by
    intro char member
    have differs : char ≠ '"' := fun same => quote_not_mem_chars decimal (same ▸ member)
    exact decide_eq_true differs
  rw [quotedChars, List.takeWhile_append_of_pos unquoted, scanned_chars]
  simp

theorem scanQuoted_decimal (decimal : DecimalText) (value : String) (rest : List Char) :
    scanQuoted value ('"' :: (decimal.chars ++ '"' :: rest)) = (scanned decimal).text := by
  have nonempty : (scanned decimal).chars ≠ [] := by
    simp [DecimalText.chars, (scanned decimal).nonempty]
  simp only [scanQuoted]
  rw [quotedChars_chars, if_neg nonempty]
  rfl

/-! ## The search in the rendered answer -/

/-- The name of an option stands in the key or in the value. -/
def Entry.Mentions (entry : Entry) (param : DemonParam) : Prop :=
  optionName param <:+: entry.key ∨ optionName param <:+: entry.value.rendered

instance (entry : Entry) (param : DemonParam) : Decidable (entry.Mentions param) :=
  inferInstanceAs (Decidable (_ ∨ _))

section Search

variable {param : DemonParam}

theorem optionName_ne_nil (param : DemonParam) : optionName param ≠ [] := by
  cases param <;> decide

theorem not_mem_optionName {char : Char} (mark : char.isAlpha = false) (notJoint : char ≠ '_') :
    char ∉ optionName param := by
  intro member
  have letters : ((optionName param).all fun letter => letter.isAlpha || letter = '_') = true := by
    cases param <;> rfl
  have letter := List.all_eq_true.mp letters char member
  simp [mark, notJoint] at letter

/-- Layout between the parts of an answer. -/
def Layout (run : List Char) : Prop :=
  run ≠ [] ∧ (run.all fun char => !char.isAlpha && char ≠ '_') = true

theorem strstr_layout {before run : List Char} (behind : List Char) (layout : Layout run)
    (absent : ¬optionName param <:+: before) :
    strstr (before ++ (run ++ behind)) (optionName param) = strstr behind (optionName param) := by
  refine Occurrences.firstText_append_run behind (optionName_ne_nil param) absent layout.1 ?_
  intro char member
  have mark := List.all_eq_true.mp layout.2 char member
  simp only [Bool.and_eq_true, Bool.not_eq_true', decide_eq_true_eq] at mark
  exact not_mem_optionName mark.1 mark.2

theorem not_infix_nil (param : DemonParam) : ¬optionName param <:+: [] := fun inEmpty =>
  optionName_ne_nil param (List.infix_nil.mp inEmpty)

theorem strstr_layout_start {run : List Char} (behind : List Char) (layout : Layout run) :
    strstr (run ++ behind) (optionName param) = strstr behind (optionName param) := by
  have skipped := strstr_layout behind layout (not_infix_nil param)
  rwa [List.nil_append] at skipped

theorem layout_keyStart : Layout keyStart :=
  ⟨by decide, rfl⟩

theorem layout_keyEnd : Layout keyEnd :=
  ⟨by decide, rfl⟩

theorem layout_entryEnd (rest : List Entry) : Layout (entryEnd rest) := by
  unfold entryEnd
  split
  · exact ⟨by decide, rfl⟩
  · exact ⟨by decide, rfl⟩

theorem strstr_entry {entry : Entry} {rest : List Entry} (behind : List Char)
    (unmentioned : ¬entry.Mentions param) :
    strstr (renderEntries (entry :: rest) ++ behind) (optionName param) =
      strstr (renderEntries rest ++ behind) (optionName param) := by
  have notInKey : ¬optionName param <:+: entry.key := fun inKey => unmentioned (Or.inl inKey)
  have notInValue : ¬optionName param <:+: entry.value.rendered := fun inValue =>
    unmentioned (Or.inr inValue)
  simp only [renderEntries, List.append_assoc]
  rw [strstr_layout_start _ layout_keyStart, strstr_layout _ layout_keyEnd notInKey,
    strstr_layout _ (layout_entryEnd rest) notInValue]

theorem strstr_entries {before behind : List Entry}
    (unmentioned : ∀ entry ∈ before, ¬entry.Mentions param) :
    strstr (renderEntries (before ++ behind) ++ footer) (optionName param) =
      strstr (renderEntries behind ++ footer) (optionName param) := by
  induction before with
  | nil =>
      rfl
  | cons entry before inductionHypothesis =>
      have here : ¬entry.Mentions param := unmentioned entry List.mem_cons_self
      have later : ∀ other ∈ before, ¬other.Mentions param := fun other member =>
        unmentioned other (List.mem_cons_of_mem entry member)
      rw [List.cons_append, strstr_entry footer here]
      exact inductionHypothesis later

theorem strstr_text (answer : Answer) {before behind : List Entry}
    (shape : answer.entries = before ++ behind)
    (unmentioned : ∀ entry ∈ before, ¬entry.Mentions param) :
    strstr answer.text (optionName param) =
      strstr (renderEntries behind ++ footer) (optionName param) := by
  have opening : Layout "\x7b\n\t\"".toList := ⟨by decide, rfl⟩
  have opened : Layout "\": \x7b\n".toList := ⟨by decide, rfl⟩
  have notInValues : ¬optionName param <:+: "values".toList := by
    cases param <;> decide
  rw [Answer.text, strstr_layout_start _ opening, strstr_layout _ opened notInValues, shape]
  exact strstr_entries unmentioned

theorem strstr_absent {answer : Answer}
    (unmentioned : ∀ entry ∈ answer.entries, ¬entry.Mentions param) :
    strstr answer.text (optionName param) = none := by
  have shape : answer.entries = answer.entries ++ [] := (List.append_nil _).symm
  have closing : Layout footer := ⟨by decide, rfl⟩
  rw [strstr_text answer shape unmentioned, renderEntries, List.nil_append,
    ← List.append_nil footer, strstr_layout_start [] closing, strstr, Occurrences.firstText,
    if_neg (optionName_ne_nil param)]

theorem getValueFromJson_located {json name gap blank rest : List Char} (stored : String)
    (located : strstr json name = some (gap ++ ':' :: (blank ++ '"' :: rest)))
    (noColon : ':' ∉ gap) (noQuote : '"' ∉ blank) :
    getValueFromJson json name stored = some (true, scanQuoted stored ('"' :: rest)) := by
  have colon : strchr (gap ++ ':' :: (blank ++ '"' :: rest)) ':' =
      some (':' :: (blank ++ '"' :: rest)) :=
    Occurrences.firstLetter_append_cons (blank ++ '"' :: rest) noColon
  have free : '"' ∉ ':' :: blank := by
    simp [noQuote]
  have quote : strchr (':' :: blank ++ '"' :: rest) '"' = some ('"' :: rest) :=
    Occurrences.firstLetter_append_cons rest free
  rw [List.cons_append] at quote
  rw [getValueFromJson, located]
  simp only [colon, quote, Option.bind_eq_bind, Option.bind_some]

/-- What is found is the text between the next quotes behind the next colon. -/
theorem exists_of_getValueFromJson {json name found : List Char} {stored : String}
    {result : Bool × String} (located : strstr json name = some found)
    (run : getValueFromJson json name stored = some result) :
    ∃ gap blank rest, found = gap ++ ':' :: (blank ++ '"' :: rest) ∧ ':' ∉ gap ∧ '"' ∉ blank ∧
      result = (true, scanQuoted stored ('"' :: rest)) := by
  rw [getValueFromJson, located] at run
  simp only [Option.bind_eq_bind, Option.bind_eq_some_iff, Option.some.injEq] at run
  obtain ⟨colon, atColon, quote, atQuote, isResult⟩ := run
  obtain ⟨gap, behind, shape, noColon, isColon⟩ := Occurrences.exists_of_firstLetter atColon
  obtain ⟨before, rest, behindShape, noQuote, isQuote⟩ := Occurrences.exists_of_firstLetter atQuote
  rw [isColon] at behindShape
  cases before with
  | nil =>
      exact absurd (List.cons.inj behindShape).1 (by decide)
  | cons first blank =>
      have isBehind : behind = blank ++ '"' :: rest := (List.cons.inj behindShape).2
      have blankFree : '"' ∉ blank := fun member => noQuote (List.mem_cons_of_mem first member)
      exact ⟨gap, blank, rest, by rw [shape, isBehind], noColon, blankFree,
        by rw [← isResult, isQuote]⟩

/-- The option's own entry is found when it mentions the name first. -/
theorem getValueFromJson_own {answer : Answer} {before behind : List Entry} {entry : Entry}
    {number : DecimalText} (stored : String) (shape : answer.entries = before ++ entry :: behind)
    (first : ∀ earlier ∈ before, ¬earlier.Mentions param) (key : entry.key = optionName param)
    (value : entry.value = .decimal number) :
    getValueFromJson answer.text (optionName param) stored =
      some (true, (scanned number).text) := by
  have located : strstr answer.text (optionName param) =
      some ((optionName param ++ ['"']) ++ ':' :: ([' '] ++ '"' :: (number.chars ++ '"' ::
        (entryEnd behind ++ (renderEntries behind ++ footer))))) := by
    rw [strstr_text answer shape first, renderEntries, key, value]
    simp only [List.append_assoc]
    rw [strstr_layout_start _ layout_keyStart, strstr,
      Occurrences.firstText_of_prefix (List.prefix_append _ _)]
    simp [keyEnd, Value.rendered]
  have noColon : ':' ∉ optionName param ++ ['"'] := by
    have inName : ':' ∉ optionName param := not_mem_optionName rfl (by decide)
    simp [inName]
  have noQuote : '"' ∉ [' '] := by
    decide
  rw [getValueFromJson_located stored located noColon noQuote, scanQuoted_decimal]

theorem mentioned_in_entries {entries : List Entry} {entry : Entry} (member : entry ∈ entries)
    (mentions : entry.Mentions param) : optionName param <:+: renderEntries entries := by
  induction entries with
  | nil =>
      exact absurd member List.not_mem_nil
  | cons first entries inductionHypothesis =>
      rw [renderEntries]
      rcases List.mem_cons.mp member with isFirst | later
      · rw [← isFirst]
        rcases mentions with inKey | inValue
        · exact List.infix_append_of_infix_right (List.infix_append_of_infix_left inKey)
        · apply List.infix_append_of_infix_right
          apply List.infix_append_of_infix_right
          apply List.infix_append_of_infix_right
          exact List.infix_append_of_infix_left inValue
      · apply List.infix_append_of_infix_right
        apply List.infix_append_of_infix_right
        apply List.infix_append_of_infix_right
        apply List.infix_append_of_infix_right
        apply List.infix_append_of_infix_right
        exact inductionHypothesis later

theorem strstr_mentioned {answer : Answer} {entry : Entry} (member : entry ∈ answer.entries)
    (mentions : entry.Mentions param) : strstr answer.text (optionName param) ≠ none := by
  apply Occurrences.firstText_ne_none
  apply List.infix_append_of_infix_right
  apply List.infix_append_of_infix_right
  apply List.infix_append_of_infix_right
  exact List.infix_append_of_infix_left (mentioned_in_entries member mentions)

/-- No entry mentions the name, or one does so first. -/
theorem unmentioned_or_first (entries : List Entry) (param : DemonParam) :
    (∀ entry ∈ entries, ¬entry.Mentions param) ∨
      ∃ before entry behind, entries = before ++ entry :: behind ∧ entry.Mentions param ∧
        ∀ earlier ∈ before, ¬earlier.Mentions param := by
  cases found : entries.find? fun entry => decide (entry.Mentions param) with
  | none =>
      refine Or.inl fun entry member => ?_
      simpa using List.find?_eq_none.mp found entry member
  | some entry =>
      obtain ⟨mentions, before, behind, shape, first⟩ := List.find?_eq_some_iff_append.mp found
      exact Or.inr ⟨before, entry, behind, shape, of_decide_eq_true mentions, by simpa using first⟩

end Search

/-! ## What is found for an option -/

/-- What the search for the name of an option ends at. -/
inductive Finding where
  | absent
  | own (number : DecimalText)
  | foreign (rest : List Char)

inductive Finds (answer : Answer) (param : DemonParam) : Finding → Prop where
  /-- No entry mentions the name. -/
  | absent (unmentioned : ∀ entry ∈ answer.entries, ¬entry.Mentions param) :
      Finds answer param .absent
  /-- The first entry that mentions the name is the option's own. -/
  | own {before behind : List Entry} {entry : Entry} {number : DecimalText}
      (shape : answer.entries = before ++ entry :: behind)
      (first : ∀ earlier ∈ before, ¬earlier.Mentions param)
      (key : entry.key = optionName param) (value : entry.value = .decimal number) :
      Finds answer param (.own number)
  /-- The first entry that mentions the name is another one; `rest` stands
  behind the next quote behind the next colon. -/
  | foreign {before behind : List Entry} {entry : Entry} {gap blank rest : List Char}
      (shape : answer.entries = before ++ entry :: behind)
      (first : ∀ earlier ∈ before, ¬earlier.Mentions param)
      (mentions : entry.Mentions param) (key : entry.key ≠ optionName param)
      (mention : strstr answer.text (optionName param) =
        some (gap ++ ':' :: (blank ++ '"' :: rest)))
      (noColon : ':' ∉ gap) (noQuote : '"' ∉ blank) :
      Finds answer param (.foreign rest)

/-- The number of the text in the buffer after a search, when `left` is the one
before it. -/
def Finding.number (left : Int) : Finding → Int
  | .absent => left
  | .own number => (scanned number).number
  | .foreign rest =>
      if quotedChars rest = [] then left else strtol (String.ofList (quotedChars rest))

theorem strtol_scanQuoted (stored : String) (rest : List Char) :
    strtol (scanQuoted stored ('"' :: rest)) =
      (Finding.foreign rest).number (strtol stored) := by
  rw [scanQuoted, Finding.number]
  split
  · rfl
  · rfl

theorem finds_of_getValueFromJson {answer : Answer} {param : DemonParam} {stored : String}
    {result : Bool × String}
    (run : getValueFromJson answer.text (optionName param) stored = some result) :
    ∃ finding, Finds answer param finding ∧ strtol result.2 = finding.number (strtol stored) := by
  rcases unmentioned_or_first answer.entries param with unmentioned | someFirst
  · rw [getValueFromJson, strstr_absent unmentioned, Option.some.injEq] at run
    rw [← run]
    exact ⟨.absent, .absent unmentioned, rfl⟩
  · obtain ⟨before, entry, behind, shape, mentions, first⟩ := someFirst
    have member : entry ∈ answer.entries := by
      simp [shape]
    by_cases key : entry.key = optionName param
    · obtain ⟨number, value⟩ := answer.decimal entry member param key
      rw [getValueFromJson_own stored shape first key value, Option.some.injEq] at run
      rw [← run]
      exact ⟨.own number, .own shape first key value, strtol_scanned number⟩
    · obtain ⟨found, located⟩ := Option.ne_none_iff_exists'.mp (strstr_mentioned member mentions)
      obtain ⟨gap, blank, rest, isFound, noColon, noQuote, isResult⟩ :=
        exists_of_getValueFromJson located run
      rw [isFound] at located
      rw [isResult]
      exact ⟨.foreign rest, .foreign shape first mentions key located noColon noQuote,
        strtol_scanQuoted stored rest⟩

theorem getValueFromJson_of_finds {answer : Answer} {param : DemonParam} {finding : Finding}
    (stored : String) (finds : Finds answer param finding) :
    ∃ result, getValueFromJson answer.text (optionName param) stored = some result ∧
      strtol result.2 = finding.number (strtol stored) := by
  cases finds with
  | absent unmentioned =>
      refine ⟨(false, stored), ?_, rfl⟩
      rw [getValueFromJson, strstr_absent unmentioned]
  | own shape first key value =>
      exact ⟨_, getValueFromJson_own stored shape first key value, strtol_scanned _⟩
  | foreign shape first mentions key mention noColon noQuote =>
      exact ⟨_, getValueFromJson_located stored mention noColon noQuote,
        strtol_scanQuoted stored _⟩

/-! ## Which findings are right -/

/-- A number that has to come out as the default: stored in eight bits it is too
large, or the default itself. -/
def Harmless (param : DemonParam) (number : Int) : Prop :=
  60 < number % 256 ∨ number % 256 = defaultValue param

/-- A finding from which `getConfig` takes the value that the answer holds. -/
def Finding.Fits (param : DemonParam) (held : Option Int) (left : Int) : Finding → Prop
  | .absent => Harmless param left
  | .own number =>
      if 0 ≤ number.number ∧ number.number ≤ 60 then
        number.chars.length ≤ 9 ∨ number.number = 0
      else Harmless param (scanned number).number
  | .foreign rest =>
      let number := (Finding.foreign rest).number left
      match inRange held with
      | some wanted => number % 256 = wanted ∨ (60 < number % 256 ∧ wanted = defaultValue param)
      | none => Harmless param number

theorem mentions_of_key {entry : Entry} {param : DemonParam} (key : entry.key = optionName param) :
    entry.Mentions param := by
  rw [Entry.Mentions, key]
  exact Or.inl (List.infix_refl (optionName param))

theorem held_of_absent {answer : Answer} {param : DemonParam}
    (unmentioned : ∀ entry ∈ answer.entries, ¬entry.Mentions param) :
    answer.held param = none := by
  have notFound : (answer.entries.find? fun entry => entry.key = optionName param) = none := by
    rw [List.find?_eq_none]
    intro entry member isKey
    exact unmentioned entry member (mentions_of_key (of_decide_eq_true isKey))
  rw [Answer.held, notFound, Option.bind_none]

theorem held_of_own {answer : Answer} {param : DemonParam} {before behind : List Entry}
    {entry : Entry} {number : DecimalText} (shape : answer.entries = before ++ entry :: behind)
    (first : ∀ earlier ∈ before, ¬earlier.Mentions param) (key : entry.key = optionName param)
    (value : entry.value = .decimal number) : answer.held param = some number.number := by
  have found :
      (answer.entries.find? fun entry => entry.key = optionName param) = some entry := by
    rw [List.find?_eq_some_iff_append]
    refine ⟨decide_eq_true key, before, behind, shape, ?_⟩
    intro earlier member
    have differs : earlier.key ≠ optionName param := fun same =>
      first earlier member (mentions_of_key same)
    simp [differs]
  rw [Answer.held, found, Option.bind_some, Entry.number, value]

/-- The value of an option by the number that was read for it. -/
theorem configOption_number (param : DemonParam) (text : String) :
    (configOption (defaultValue param) text : Int) =
      if 60 < strtol text % 256 then (defaultValue param : Int) else strtol text % 256 := by
  have low : 0 ≤ strtol text % 256 := Int.emod_nonneg _ (by decide)
  have stored : ((strtol text % 256).toNat : Int) = strtol text % 256 := Int.toNat_of_nonneg low
  unfold configOption
  by_cases large : 60 < strtol text % 256
  · have largeNat : (strtol text % 256).toNat > 60 := by omega
    rw [if_pos large, if_pos largeNat]
  · have smallNat : ¬(strtol text % 256).toNat > 60 := by omega
    rw [if_neg large, if_neg smallNat, stored]

theorem configOption_default_iff (param : DemonParam) (text : String) :
    (configOption (defaultValue param) text : Int) = defaultValue param ↔
      Harmless param (strtol text) := by
  rw [configOption_number, Harmless]
  by_cases large : 60 < strtol text % 256
  · simp [large]
  · simp [large]

theorem configOption_wanted_iff {param : DemonParam} {wanted : Int} (small : wanted ≤ 60)
    (text : String) :
    (configOption (defaultValue param) text : Int) = wanted ↔
      strtol text % 256 = wanted ∨ (60 < strtol text % 256 ∧ wanted = defaultValue param) := by
  rw [configOption_number]
  by_cases large : 60 < strtol text % 256
  · have differs : strtol text % 256 ≠ wanted := by omega
    simp [large, differs, eq_comm]
  · simp [large]

theorem inRange_some {held : Option Int} {wanted : Int} (admissible : inRange held = some wanted) :
    wanted ≤ 60 := by
  obtain ⟨_, within⟩ := Option.filter_eq_some_iff.mp admissible
  exact (of_decide_eq_true within).2

theorem fits_iff {answer : Answer} {param : DemonParam} {finding : Finding} {left : Int}
    {text : String} (finds : Finds answer param finding)
    (number : strtol text = finding.number left) :
    (configOption (defaultValue param) text : Int) = expected param (answer.held param) ↔
      finding.Fits param (answer.held param) left := by
  cases finds with
  | absent unmentioned =>
      rw [held_of_absent unmentioned]
      exact (configOption_default_iff param text).trans (by rw [number]; rfl)
  | @own _ _ _ decimal shape first key value =>
      rw [held_of_own shape first key value, Finding.Fits]
      by_cases within : 0 ≤ decimal.number ∧ decimal.number ≤ 60
      · obtain ⟨cutWithin, kept⟩ := scanned_eq_iff within.1 within.2
        have admissible : expected param (some decimal.number) = decimal.number := by
          rw [expected, inRange, Option.filter_some, if_pos (decide_eq_true within),
            Option.getD_some]
        rw [if_pos within, admissible, configOption_wanted_iff within.2, number, ← kept]
        simp only [Finding.number]
        omega
      · have refused : expected param (some decimal.number) = defaultValue param := by
          have outside : ¬decide (0 ≤ decimal.number ∧ decimal.number ≤ 60) = true :=
            fun inside => within (of_decide_eq_true inside)
          rw [expected, inRange, Option.filter_some, if_neg outside, Option.getD_none]
        rw [if_neg within, refused, configOption_default_iff, number]
        rfl
  | @foreign _ _ _ _ _ rest shape first mentions key mention noColon noQuote =>
      rw [Finding.Fits, expected]
      cases admissible : inRange (answer.held param) with
      | none =>
          exact (configOption_default_iff param text).trans (by rw [number])
      | some wanted =>
          have small := inRange_some admissible
          exact (configOption_wanted_iff small text).trans (by rw [number])

theorem configValue_getConfig (delay num reset : String) :
    configValue (Autorestart.getConfig delay num reset) .testDelay =
        configOption (defaultValue .testDelay) delay ∧
      configValue (Autorestart.getConfig delay num reset) .testNum =
        configOption (defaultValue .testNum) num ∧
      configValue (Autorestart.getConfig delay num reset) .maxReset =
        configOption (defaultValue .maxReset) reset :=
  ⟨rfl, rfl, rfl⟩

/-- Each option has the number that the answer holds for it, or its default,
exactly when the answer fits into the array and each finding is right. -/
theorem options_effective_iff (stack : String) (answer : Answer) :
    Effective stack answer ↔
      answer.text.length < 256 ∧
        ∃ testDelay testNum maxReset : Finding,
          Finds answer .testDelay testDelay ∧ Finds answer .testNum testNum ∧
          Finds answer .maxReset maxReset ∧
          testDelay.Fits .testDelay (answer.held .testDelay) (strtol stack) ∧
          testNum.Fits .testNum (answer.held .testNum) (testDelay.number (strtol stack)) ∧
          maxReset.Fits .maxReset (answer.held .maxReset)
            (testNum.number (testDelay.number (strtol stack))) := by
  constructor
  · intro effective
    obtain ⟨config, run, values⟩ := effective
    simp only [getConfig, Option.bind_eq_bind, Option.bind_eq_some_iff, Option.some.injEq] at run
    obtain ⟨res, stored, delay, atDelay, num, atNum, reset, atReset, isConfig⟩ := run
    have short : answer.text.length < 256 := by
      by_contra long
      simp [readAnswer, long] at stored
    rw [eq_of_readAnswer stored] at atDelay atNum atReset
    obtain ⟨testDelay, findsDelay, delayNumber⟩ := finds_of_getValueFromJson atDelay
    obtain ⟨testNum, findsNum, numNumber⟩ := finds_of_getValueFromJson atNum
    obtain ⟨maxReset, findsReset, resetNumber⟩ := finds_of_getValueFromJson atReset
    rw [delayNumber] at numNumber
    rw [numNumber] at resetNumber
    obtain ⟨ofDelay, ofNum, ofReset⟩ := configValue_getConfig delay.2 num.2 reset.2
    have delayValue := values .testDelay
    have numValue := values .testNum
    have resetValue := values .maxReset
    rw [← isConfig, ofDelay] at delayValue
    rw [← isConfig, ofNum] at numValue
    rw [← isConfig, ofReset] at resetValue
    exact ⟨short, testDelay, testNum, maxReset, findsDelay, findsNum, findsReset,
      (fits_iff findsDelay delayNumber).mp delayValue, (fits_iff findsNum numNumber).mp numValue,
      (fits_iff findsReset resetNumber).mp resetValue⟩
  · intro condition
    obtain ⟨short, testDelay, testNum, maxReset, findsDelay, findsNum, findsReset, fitsDelay,
      fitsNum, fitsReset⟩ := condition
    obtain ⟨delay, atDelay, delayNumber⟩ := getValueFromJson_of_finds stack findsDelay
    obtain ⟨num, atNum, numNumber⟩ := getValueFromJson_of_finds delay.2 findsNum
    obtain ⟨reset, atReset, resetNumber⟩ := getValueFromJson_of_finds num.2 findsReset
    rw [delayNumber] at numNumber
    rw [numNumber] at resetNumber
    have run : getConfig stack answer.text =
        some (Autorestart.getConfig delay.2 num.2 reset.2) := by
      simp only [getConfig, readAnswer, if_pos short, Option.bind_eq_bind, Option.bind_some,
        atDelay, atNum, atReset]
    refine ⟨_, run, ?_⟩
    obtain ⟨ofDelay, ofNum, ofReset⟩ := configValue_getConfig delay.2 num.2 reset.2
    intro param
    cases param with
    | testDelay =>
        rw [ofDelay]
        exact (fits_iff findsDelay delayNumber).mpr fitsDelay
    | testNum =>
        rw [ofNum]
        exact (fits_iff findsNum numNumber).mpr fitsNum
    | maxReset =>
        rw [ofReset]
        exact (fits_iff findsReset resetNumber).mpr fitsReset

/-- What `uci` adds to the options of the section. -/
def sectionEntries : List Entry :=
  [⟨".anonymous".toList, .json "false".toList⟩, ⟨".type".toList, .json "\"param\"".toList⟩,
    ⟨".name".toList, .json "\"ar_demon\"".toList⟩]

def five : DecimalText :=
  ⟨false, ['5'], List.cons_ne_nil _ _, List.all_eq_true.mp rfl⟩

theorem sectionEntries_unmentioned (param : DemonParam) :
    ∀ entry ∈ sectionEntries, ¬entry.Mentions param := by
  cases param <;> decide

/-- The section with `test_delay` set to 5 and without the other two options. -/
def delayOnly : Answer where
  entries := sectionEntries ++ [⟨"test_delay".toList, .decimal five⟩]
  distinct := by decide
  decimal := by
    intro entry member param key
    rcases List.mem_append.mp member with added | isDelay
    · exact absurd (mentions_of_key key) (sectionEntries_unmentioned param entry added)
    · rw [List.mem_singleton.mp isDelay]
      exact ⟨_, rfl⟩

/-- An option that is absent has the number of the one before it. -/
theorem absent_option_inherits : ¬∀ (stack : String) (answer : Answer), Effective stack answer := by
  intro always
  obtain ⟨config, run, values⟩ := always "" delayOnly
  have shape : delayOnly.entries = sectionEntries ++ [⟨"test_delay".toList, .decimal five⟩] := rfl
  have delayFound := getValueFromJson_own "" shape (sectionEntries_unmentioned .testDelay) rfl rfl
  have numAbsent : strstr delayOnly.text (optionName .testNum) = none := by
    apply strstr_absent
    intro entry member
    rcases List.mem_append.mp member with added | isDelay
    · exact sectionEntries_unmentioned .testNum entry added
    · rw [List.mem_singleton.mp isDelay]
      decide
  simp only [getConfig, Option.bind_eq_bind, Option.bind_eq_some_iff, Option.some.injEq] at run
  obtain ⟨res, stored, delay, atDelay, num, atNum, reset, atReset, isConfig⟩ := run
  rw [eq_of_readAnswer stored] at atDelay atNum
  rw [delayFound, Option.some.injEq] at atDelay
  rw [getValueFromJson, numAbsent, Option.some.injEq] at atNum
  have inherited : config.testNum = configOption 10 (scanned five).text := by
    rw [← isConfig, ← atNum, ← atDelay]
    rfl
  have wrong := values .testNum
  rw [configValue, inherited] at wrong
  exact absurd wrong (by decide)

end DaemonOptions

end TfortisPack.Autorestart
