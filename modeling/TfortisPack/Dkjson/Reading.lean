import TfortisPack.Dkjson.Strings

/-!
# The decoder reads JSON

Whatever text of the grammar stands for a value, `decode` gives the table that
Lua has for this value: the items of an array under the numbers from one on, the
members of an object under their names, a later member of the same name in the
place of an earlier one.  A null becomes `nullval`; where that is `nil`, an item
of an array or a member that is null is not in the table.
-/

namespace TfortisPack.Dkjson

open Library
open Library.LuaNumerals (isSpace)

/-! ## The values of Lua -/

section Values

variable (nullval : Value)

mutual

def toValue : Json → Value
  | .null => nullval
  | .boolean value => .boolean value
  | .number value => .number value
  | .string letters => .string letters
  | .array items => .table (some .array) (numbered [] 0 items)
  | .object members => .table (some .object) (named [] members)

/-- The items, with `n` of them already numbered. -/
def numbered (entries : Entries) (n : Nat) : List Json → Entries
  | [] => entries
  | item :: items => numbered (assign entries (.number (n + 1 : Nat)) (toValue item)) (n + 1) items

def named (entries : Entries) : List (List Char × Json) → Entries
  | [] => entries
  | (name, json) :: members => named (assign entries (.string name) (toValue json)) members

end

end Values

/-! ## White space -/

/-- No white space, comment or byte order mark starts with this letter. -/
def Solid (letter : Char) : Prop :=
  isSpace letter = false ∧ letter ≠ '/' ∧ letter ≠ '\u00ef'

theorem scanwhite_solid {letter : Char} (solid : Solid letter) (rest : Text) :
    scanwhite (letter :: rest) = some (letter :: rest) := by
  obtain ⟨notSpace, notSlash, notMark⟩ := solid
  rw [scanwhite, skip.eq_def]
  split
  · rename_i same
    exact absurd (List.cons.inj same).1 notMark
  · rename_i same
    exact absurd (List.cons.inj same).1 notSlash
  · rename_i same
    exact absurd (List.cons.inj same).1 notSlash
  · rename_i same
    obtain ⟨rfl, rfl⟩ := List.cons.inj same
    simp [notSpace]
  all_goals contradiction

theorem scanwhite_blank {letter : Char} (blank : letter ∈ [' ', '\t', '\n', '\r']) (rest : Text) :
    scanwhite (letter :: rest) = scanwhite rest := by
  obtain ⟨space, notSlash, notMark⟩ : isSpace letter = true ∧ letter ≠ '/' ∧ letter ≠ '\u00ef' := by
    have blanks : ∀ letter ∈ [' ', '\t', '\n', '\r'],
        isSpace letter = true ∧ letter ≠ '/' ∧ letter ≠ '\u00ef' := forall_mem_of_all (by decide)
    exact blanks letter blank
  rw [scanwhite, skip.eq_def]
  split
  · rename_i same
    exact absurd (List.cons.inj same).1 notMark
  · rename_i same
    exact absurd (List.cons.inj same).1 notSlash
  · rename_i same
    exact absurd (List.cons.inj same).1 notSlash
  · rename_i same
    obtain ⟨rfl, rfl⟩ := List.cons.inj same
    rw [if_pos space, scanwhite]
  all_goals contradiction

theorem scanwhite_blanks {blank : Text} (blanks : Json.Blanks blank) {letter : Char}
    (solid : Solid letter) (rest : Text) :
    scanwhite (blank ++ letter :: rest) = some (letter :: rest) := by
  induction blank with
  | nil => exact scanwhite_solid solid rest
  | cons first blank inductionHypothesis =>
    obtain ⟨isBlank, blanks⟩ := List.forall_mem_cons.mp blanks
    rw [List.cons_append, scanwhite_blank isBlank, inductionHypothesis blanks]

/-! ## First letters -/

/-- A value of the grammar may start with this letter. -/
def Starts (letter : Char) : Prop :=
  letter ∈ ['n', 't', 'f', '"', '[', '{', '-'] ∨ letter.isDigit = true

theorem ne_of_starts {letter other : Char} (starts : Starts letter)
    (noValue : other ∉ ['n', 't', 'f', '"', '[', '{', '-'] ∧ other.isDigit = false) :
    letter ≠ other := by
  rintro rfl
  rcases starts with mark | digit
  · exact noValue.1 mark
  · exact absurd (digit.symm.trans noValue.2) (by decide)

theorem solid_of_starts {letter : Char} (starts : Starts letter) : Solid letter := by
  refine ⟨?_, ne_of_starts starts (by decide), ne_of_starts starts (by decide)⟩
  rcases starts with mark | digit
  · have marks : ∀ letter ∈ ['n', 't', 'f', '"', '[', '{', '-'], isSpace letter = false :=
      forall_mem_of_all (by decide)
    exact marks letter mark
  · exact LuaNumerals.isSpace_of_isDigit digit

theorem numeral_starts {text : Text} {value : ℚ} (numeral : Json.Numeral text value) :
    ∃ letter rest, text = letter :: rest ∧ (letter = '-' ∨ letter.isDigit = true) := by
  cases numeral with
  | plain magnitude =>
    obtain ⟨letter, rest, same, digit⟩ := magnitude_ne_cons magnitude
    exact ⟨letter, rest, same, Or.inr digit⟩
  | minus magnitude => exact ⟨'-', _, rfl, Or.inl rfl⟩

theorem value_starts {json : Json} {text : Text} (written : Json.Writes (.value json) text) :
    ∃ letter rest, text = letter :: rest ∧ Starts letter := by
  cases written with
  | null => exact ⟨'n', _, rfl, Or.inl (by decide)⟩
  | true => exact ⟨'t', _, rfl, Or.inl (by decide)⟩
  | false => exact ⟨'f', _, rfl, Or.inl (by decide)⟩
  | number numeral =>
    obtain ⟨letter, rest, same, minus | digit⟩ := numeral_starts numeral
    · exact ⟨letter, rest, same, Or.inl (by rw [minus]; decide)⟩
    · exact ⟨letter, rest, same, Or.inr digit⟩
  | string spelled => exact ⟨'"', _, rfl, Or.inl (by decide)⟩
  | emptyArray blanks => exact ⟨'[', _, rfl, Or.inl (by decide)⟩
  | array elements => exact ⟨'[', _, rfl, Or.inl (by decide)⟩
  | emptyObject blanks => exact ⟨'{', _, rfl, Or.inl (by decide)⟩
  | object inside => exact ⟨'{', _, rfl, Or.inl (by decide)⟩

theorem scanwhite_value {lead text : Text} {json : Json} (blanks : Json.Blanks lead)
    (written : Json.Writes (.value json) text) (rest : Text) :
    scanwhite (lead ++ (text ++ rest)) = some (text ++ rest) := by
  obtain ⟨letter, behind, rfl, starts⟩ := value_starts written
  exact scanwhite_blanks blanks (solid_of_starts starts) (behind ++ rest)

theorem ends_cons {letter : Char}
    (stops : letter.isAlphanum = false ∧ letter ≠ '.' ∧ letter ≠ '+' ∧ letter ≠ '-')
    (rest : Text) : Ends (letter :: rest) := by
  rintro _ ⟨⟩
  exact stops

theorem ends_of_blank {letter : Char} (blank : letter ∈ [' ', '\t', '\n', '\r']) (rest : Text) :
    Ends (letter :: rest) := by
  have marks : ∀ letter ∈ [' ', '\t', '\n', '\r'],
      letter.isAlphanum = false ∧ letter ≠ '.' ∧ letter ≠ '+' ∧ letter ≠ '-' :=
    forall_mem_of_all (by decide)
  exact ends_cons (marks letter blank) rest

theorem ends_blanks {blank : Text} (blanks : Json.Blanks blank) {letter : Char}
    (closes : Ends [letter]) (rest : Text) : Ends (blank ++ letter :: rest) := by
  cases blank with
  | nil =>
    rintro _ ⟨⟩
    exact closes letter rfl
  | cons first blank => exact ends_of_blank (blanks first List.mem_cons_self) _

/-! ## Values without a table -/

theorem scanvalue_solid {nullval : Value} {fuel : Nat} {letter : Char} (solid : Solid letter)
    (noTable : letter ≠ '{' ∧ letter ≠ '[' ∧ letter ≠ '"') (rest : Text) :
    scanvalue nullval (fuel + 1) (letter :: rest) =
      match scannumber (letter :: rest) with
      | some read => .ok read
      | none =>
          match scanname nullval (letter :: rest) with
          | some read => .ok read
          | none => .error (.noValue (letter :: rest)) := by
  obtain ⟨notBrace, notBracket, notQuote⟩ := noTable
  simp only [scanvalue, scanwhite_solid solid, if_neg notBrace, if_neg notBracket, if_neg notQuote]
  rfl

theorem scanvalue_number {nullval : Value} {fuel : Nat} {text rest : Text} {value : ℚ}
    (numeral : Json.Numeral text value) (ends : Ends rest) :
    scanvalue nullval (fuel + 1) (text ++ rest) = .ok (.number value, rest) := by
  have read := scannumber_numeral numeral ends
  obtain ⟨letter, behind, rfl, minusOrDigit⟩ := numeral_starts numeral
  have starts : Starts letter := by
    rcases minusOrDigit with rfl | digit
    · exact Or.inl (by decide)
    · exact Or.inr digit
  have ne : ∀ other ∈ ['{', '[', '"'], letter ≠ other := by
    rintro other member rfl
    rcases minusOrDigit with rfl | digit
    · exact absurd member (by decide)
    · have others : ∀ other ∈ ['{', '[', '"'], other.isDigit = false :=
        forall_mem_of_all (by decide)
      exact absurd (digit.symm.trans (others letter member)) (by decide)
  rw [List.cons_append] at read ⊢
  rw [scanvalue_solid (solid_of_starts starts)
    ⟨ne '{' (by decide), ne '[' (by decide), ne '"' (by decide)⟩, read]

theorem nameToken_append {letter : Char} {behind rest : Text} (first : letter.isAlpha = true)
    (inside : ∀ letter ∈ behind, letter.isAlphanum = true) (ends : Ends rest) :
    nameToken (letter :: behind ++ rest) = letter :: behind := by
  have stops : ∀ letter ∈ rest.head?, letter.isAlphanum = false := fun letter isFirst =>
    (ends letter isFirst).1
  rw [List.cons_append, nameToken, if_pos first, Lua.takeWhile_run inside stops]

theorem scannumber_letter {letter : Char} (notMinus : letter ≠ '-') (notBody : inBody letter = false)
    (rest : Text) : scannumber (letter :: rest) = none := by
  have noSign : optional ['-'] (letter :: rest) = ([], letter :: rest) :=
    if_neg (by simp [notMinus])
  simp [scannumber, numberToken, noSign, notBody]

theorem scanvalue_null {nullval : Value} {fuel : Nat} {rest : Text} (ends : Ends rest) :
    scanvalue nullval (fuel + 1) (['n', 'u', 'l', 'l'] ++ rest) = .ok (nullval, rest) := by
  have token : nameToken (['n', 'u', 'l', 'l'] ++ rest) = ['n', 'u', 'l', 'l'] :=
    nameToken_append (by decide) (forall_mem_of_all (by decide)) ends
  rw [List.cons_append] at token ⊢
  rw [scanvalue_solid ⟨by decide, by decide, by decide⟩ ⟨by decide, by decide, by decide⟩,
    scannumber_letter (by decide) (by decide)]
  simp only [scanname, token]
  rfl

theorem scanvalue_true {nullval : Value} {fuel : Nat} {rest : Text} (ends : Ends rest) :
    scanvalue nullval (fuel + 1) (['t', 'r', 'u', 'e'] ++ rest) = .ok (.boolean true, rest) := by
  have token : nameToken (['t', 'r', 'u', 'e'] ++ rest) = ['t', 'r', 'u', 'e'] :=
    nameToken_append (by decide) (forall_mem_of_all (by decide)) ends
  rw [List.cons_append] at token ⊢
  rw [scanvalue_solid ⟨by decide, by decide, by decide⟩ ⟨by decide, by decide, by decide⟩,
    scannumber_letter (by decide) (by decide)]
  simp only [scanname, token]
  rfl

theorem scanvalue_false {nullval : Value} {fuel : Nat} {rest : Text} (ends : Ends rest) :
    scanvalue nullval (fuel + 1) (['f', 'a', 'l', 's', 'e'] ++ rest) =
      .ok (.boolean false, rest) := by
  have token : nameToken (['f', 'a', 'l', 's', 'e'] ++ rest) = ['f', 'a', 'l', 's', 'e'] :=
    nameToken_append (by decide) (forall_mem_of_all (by decide)) ends
  rw [List.cons_append] at token ⊢
  rw [scanvalue_solid ⟨by decide, by decide, by decide⟩ ⟨by decide, by decide, by decide⟩,
    scannumber_letter (by decide) (by decide)]
  simp only [scanname, token]
  rfl

theorem scanvalue_string {nullval : Value} {fuel : Nat} {body spelled : Text}
    (spells : Json.Spells body spelled) (rest : Text) :
    scanvalue nullval (fuel + 1) ('"' :: (body ++ '"' :: rest)) = .ok (.string spelled, rest) := by
  have solid : Solid '"' := ⟨by decide, by decide, by decide⟩
  simp only [scanvalue, scanwhite_solid solid, letters_spells spells]
  rfl

/-! ## Tables -/

section Tables

variable {scan : Scan} {shape : Shape} {start : Text} {fuel n : Nat} {entries : Entries}

/-- The letter that closes a table ends a numeral and no value starts with it. -/
def Closes (shape : Shape) : Prop :=
  Solid shape.closechar ∧ Ends [shape.closechar] ∧ shape.closechar ∉ [',', ':'] ∧
    ∀ letter, Starts letter → letter ≠ shape.closechar

theorem closes_array : Closes arrayShape :=
  ⟨⟨by decide, by decide, by decide⟩, ends_cons (by decide) [], by decide,
    fun _ starts => ne_of_starts starts (by decide)⟩

theorem closes_object : Closes objectShape :=
  ⟨⟨by decide, by decide, by decide⟩, ends_cons (by decide) [], by decide,
    fun _ starts => ne_of_starts starts (by decide)⟩

theorem scanentries_close (closes : Closes shape) {blank : Text} (blanks : Json.Blanks blank)
    (rest : Text) :
    scanentries scan shape start (fuel + 1) entries n (blank ++ shape.closechar :: rest) =
      .ok (.table (some shape.jsontype) entries, rest) := by
  simp only [scanentries, scanwhite_blanks blanks closes.1, List.head?_cons, if_true]
  rfl

/-- An entry without a key, up to the letter behind it. -/
theorem scanentries_item {lead text trail behind : Text} {value : Value} {letter : Char}
    (opens : scanwhite (lead ++ text) = some text) (notClosed : text.head? ≠ some shape.closechar)
    (reads : scan text = .ok (value, trail ++ letter :: behind)) (blanks : Json.Blanks trail)
    (solid : Solid letter) (notColon : letter ≠ ':') :
    scanentries scan shape start (fuel + 1) entries n (lead ++ text) =
      scanentries scan shape start fuel (assign entries (.number (n + 1 : Nat)) value) (n + 1)
        (passComma (letter :: behind)) := by
  simp only [scanentries, opens, if_neg notClosed]
  rw [reads]
  simp [bind, Except.bind, scanwhite_blanks blanks solid, notColon]

/-- An entry with a name, up to the letter behind it. -/
theorem scanentries_pair {lead text gap space value trail behind : Text} {name : Text}
    {val2 : Value} {letter : Char} (opens : scanwhite (lead ++ text) = some text)
    (notClosed : text.head? ≠ some shape.closechar)
    (reads : scan text = .ok (.string name, gap ++ ':' :: (space ++ value)))
    (beforeColon : Json.Blanks gap) (behindColon : scanwhite (space ++ value) = some value)
    (readsValue : scan value = .ok (val2, trail ++ letter :: behind))
    (blanks : Json.Blanks trail) (solid : Solid letter) :
    scanentries scan shape start (fuel + 1) entries n (lead ++ text) =
      scanentries scan shape start fuel (assign entries (.string name) val2) n
        (passComma (letter :: behind)) := by
  have colon : Solid ':' := ⟨by decide, by decide, by decide⟩
  simp only [scanentries, opens, if_neg notClosed]
  rw [reads]
  simp [bind, Except.bind, pure, Except.pure, scanwhite_blanks beforeColon colon, scanpair,
    Value.key, behindColon, readsValue, scanwhite_blanks blanks solid]

end Tables

/-! ## Every text -/

/-- What the decoder makes of a text of the grammar, with enough fuel. -/
def Reads (nullval : Value) : Json.Phrase → Text → Prop
  | .value json, text => ∀ fuel rest, text.length ≤ fuel → Ends rest →
      scanvalue nullval fuel (text ++ rest) = .ok (toValue nullval json, rest)
  | .elements items, body => ∀ fuel rounds start entries n rest, body.length ≤ fuel →
      body.length < rounds →
        scanentries (scanvalue nullval fuel) arrayShape start rounds entries n
            (body ++ ']' :: rest) =
          .ok (.table (some .array) (numbered nullval entries n items), rest)
  | .members members, body => ∀ fuel rounds start entries rest, body.length ≤ fuel →
      body.length < rounds →
        scanentries (scanvalue nullval fuel) objectShape start rounds entries 0
            (body ++ '}' :: rest) =
          .ok (.table (some .object) (named nullval entries members), rest)

theorem head_ne_closechar {shape : Shape} (closes : Closes shape) {json : Json} {text : Text}
    (written : Json.Writes (.value json) text) (rest : Text) :
    (text ++ rest).head? ≠ some shape.closechar := by
  obtain ⟨letter, behind, rfl, starts⟩ := value_starts written
  intro same
  exact closes.2.2.2 letter starts (Option.some.inj same)

theorem fuel_of_cons {letter : Char} {rest : Text} {fuel : Nat}
    (enough : (letter :: rest).length ≤ fuel) : ∃ less, fuel = less + 1 ∧ rest.length ≤ less := by
  cases fuel with
  | zero => cases enough
  | succ less => exact ⟨less, rfl, Nat.le_of_succ_le_succ enough⟩

theorem scanvalue_bracket (nullval : Value) (fuel : Nat) (rest : Text) :
    scanvalue nullval (fuel + 1) ('[' :: rest) =
      scanentries (scanvalue nullval fuel) arrayShape ('[' :: rest) (rest.length + 1) [] 0 rest := by
  have solid : Solid '[' := ⟨by decide, by decide, by decide⟩
  simp only [scanvalue, scanwhite_solid solid]
  rw [if_neg (by decide), if_pos trivial]

theorem scanvalue_brace (nullval : Value) (fuel : Nat) (rest : Text) :
    scanvalue nullval (fuel + 1) ('{' :: rest) =
      scanentries (scanvalue nullval fuel) objectShape ('{' :: rest) (rest.length + 1) [] 0
        rest := by
  have solid : Solid '{' := ⟨by decide, by decide, by decide⟩
  simp only [scanvalue, scanwhite_solid solid]
  rw [if_pos trivial]

/-- Behind a name, the decoder is where the name ends. -/
theorem reads_name (nullval : Value) {fuel : Nat} {spelling name : Text}
    (spelled : Json.Spells spelling name) (enough : spelling.length < fuel) (rest : Text) :
    scanvalue nullval fuel ('"' :: (spelling ++ '"' :: rest)) = .ok (.string name, rest) := by
  obtain ⟨less, rfl⟩ : ∃ less, fuel = less + 1 := ⟨fuel - 1, by omega⟩
  exact scanvalue_string spelled rest

theorem reads_of_writes (nullval : Value) {phrase : Json.Phrase} {text : Text}
    (written : Json.Writes phrase text) : Reads nullval phrase text := by
  have endsComma : Ends [','] := ends_cons (by decide) []
  have solidComma : Solid ',' := ⟨by decide, by decide, by decide⟩
  have endsBracket : Ends [']'] := ends_cons (by decide) []
  have endsBrace : Ends ['}'] := ends_cons (by decide) []
  have solidQuote : Solid '"' := ⟨by decide, by decide, by decide⟩
  have noBlanks : Json.Blanks [] := by simp [Json.Blanks]
  induction written with
  | null =>
    intro fuel rest enough ends
    obtain ⟨less, rfl, _⟩ := fuel_of_cons enough
    rw [toValue, scanvalue_null ends]
  | true =>
    intro fuel rest enough ends
    obtain ⟨less, rfl, _⟩ := fuel_of_cons enough
    rw [toValue, scanvalue_true ends]
  | false =>
    intro fuel rest enough ends
    obtain ⟨less, rfl, _⟩ := fuel_of_cons enough
    rw [toValue, scanvalue_false ends]
  | number numeral =>
    intro fuel rest enough ends
    obtain ⟨letter, behind, rfl, _⟩ := numeral_starts numeral
    obtain ⟨less, rfl, _⟩ := fuel_of_cons enough
    rw [toValue, scanvalue_number numeral ends]
  | string spelled =>
    intro fuel rest enough ends
    obtain ⟨less, rfl, _⟩ := fuel_of_cons enough
    simp only [List.cons_append, List.append_assoc, List.nil_append]
    rw [toValue, scanvalue_string spelled]
  | emptyArray blanks =>
    intro fuel rest enough ends
    obtain ⟨less, rfl, _⟩ := fuel_of_cons enough
    simp only [List.cons_append, List.append_assoc, List.nil_append]
    rw [scanvalue_bracket, toValue, numbered]
    exact scanentries_close closes_array blanks rest
  | array elements inductionHypothesis =>
    intro fuel rest enough ends
    obtain ⟨less, rfl, inside⟩ := fuel_of_cons enough
    simp only [List.length_append, List.length_singleton] at inside
    simp only [List.cons_append, List.append_assoc, List.nil_append]
    rw [scanvalue_bracket, toValue]
    exact inductionHypothesis less _ _ [] 0 rest (by omega)
      (by simp only [List.length_append]; omega)
  | emptyObject blanks =>
    intro fuel rest enough ends
    obtain ⟨less, rfl, _⟩ := fuel_of_cons enough
    simp only [List.cons_append, List.append_assoc, List.nil_append]
    rw [scanvalue_brace, toValue, named]
    exact scanentries_close closes_object blanks rest
  | object inside inductionHypothesis =>
    intro fuel rest enough ends
    obtain ⟨less, rfl, inside⟩ := fuel_of_cons enough
    simp only [List.length_append, List.length_singleton] at inside
    simp only [List.cons_append, List.append_assoc, List.nil_append]
    rw [scanvalue_brace, toValue]
    exact inductionHypothesis less _ _ [] rest (by omega)
      (by simp only [List.length_append]; omega)
  | @lastElement item lead text trail before written behind inductionHypothesis =>
    intro fuel rounds start entries n rest enough many
    obtain ⟨letter, tail, rfl, _⟩ := value_starts written
    simp only [List.length_append, List.length_cons] at enough many
    obtain ⟨rounds, rfl⟩ : ∃ less, rounds = less + 1 + 1 := ⟨rounds - 2, by omega⟩
    have read := inductionHypothesis fuel (trail ++ ']' :: rest)
      (by simp only [List.length_cons]; omega)
      (ends_blanks behind endsBracket rest)
    simp only [List.append_assoc]
    rw [scanentries_item (scanwhite_value before written _)
      (head_ne_closechar closes_array written _) read behind closes_array.1 (by decide)]
    exact scanentries_close closes_array noBlanks rest
  | @element item items lead text trail body before written behind others inductionHypothesis
      restHypothesis =>
    intro fuel rounds start entries n rest enough many
    simp only [List.length_append, List.length_cons] at enough many
    obtain ⟨rounds, rfl⟩ : ∃ less, rounds = less + 1 := ⟨rounds - 1, by omega⟩
    have read := inductionHypothesis fuel (trail ++ ',' :: (body ++ ']' :: rest)) (by omega)
      (ends_blanks behind endsComma _)
    simp only [List.append_assoc, List.cons_append]
    rw [scanentries_item (scanwhite_value before written _)
      (head_ne_closechar closes_array written _) read behind solidComma (by decide)]
    exact restHypothesis fuel rounds start _ (n + 1) rest (by omega) (by omega)
  | @lastMember name json lead spelling gap space text trail before spelled beforeColon behindColon
      written behind inductionHypothesis =>
    intro fuel rounds start entries rest enough many
    simp only [List.length_append, List.length_cons] at enough many
    obtain ⟨rounds, rfl⟩ : ∃ less, rounds = less + 1 + 1 := ⟨rounds - 2, by omega⟩
    have read := inductionHypothesis fuel (trail ++ '}' :: rest) (by omega)
      (ends_blanks behind endsBrace rest)
    simp only [List.append_assoc, List.cons_append]
    rw [scanentries_pair (scanwhite_blanks before solidQuote _) (by simp [objectShape])
      (reads_name nullval spelled (by omega) _) beforeColon
      (scanwhite_value behindColon written _) read behind closes_object.1]
    exact scanentries_close closes_object noBlanks rest
  | @member name json members lead spelling gap space text trail body before spelled beforeColon
      behindColon written behind others inductionHypothesis restHypothesis =>
    intro fuel rounds start entries rest enough many
    simp only [List.length_append, List.length_cons] at enough many
    obtain ⟨rounds, rfl⟩ : ∃ less, rounds = less + 1 := ⟨rounds - 1, by omega⟩
    have read := inductionHypothesis fuel (trail ++ ',' :: (body ++ '}' :: rest)) (by omega)
      (ends_blanks behind endsComma _)
    simp only [List.append_assoc, List.cons_append]
    rw [scanentries_pair (scanwhite_blanks before solidQuote _) (by simp [objectShape])
      (reads_name nullval spelled (by omega) _) beforeColon
      (scanwhite_value behindColon written _) read behind solidComma]
    exact restHypothesis fuel rounds start _ rest (by omega) (by omega)

/-- Blanks in front of a value are passed over. -/
theorem scanvalue_blanks {nullval : Value} {fuel : Nat} {lead text : Text} {json : Json}
    (blanks : Json.Blanks lead) (written : Json.Writes (.value json) text) (rest : Text) :
    scanvalue nullval fuel (lead ++ (text ++ rest)) = scanvalue nullval fuel (text ++ rest) := by
  have none : Json.Blanks [] := by simp [Json.Blanks]
  cases fuel with
  | zero => rfl
  | succ less =>
    rw [scanvalue, scanvalue, scanwhite_value blanks written]
    have bare := scanwhite_value none written rest
    rw [List.nil_append] at bare
    rw [bare]

theorem decode_around (nullval : Value) {lead inner trail : Text} {json : Json}
    (before : Json.Blanks lead) (written : Json.Writes (.value json) inner)
    (behind : Json.Blanks trail) :
    decode nullval (lead ++ (inner ++ trail)) = .ok (toValue nullval json, trail) := by
  have ends : Ends trail := by
    cases trail with
    | nil => simp [Ends]
    | cons letter trail => exact ends_of_blank (behind letter List.mem_cons_self) trail
  rw [decode, scanvalue_blanks before written]
  exact reads_of_writes nullval written _ trail (by simp; omega) ends

/-- `decode` gives what a text of the grammar stands for, and is then behind the value. -/
theorem decode_text (nullval : Value) {json : Json} {text : Text} (isText : Json.Text json text) :
    ∃ trail, Json.Blanks trail ∧ trail <:+ text ∧
      decode nullval text = .ok (toValue nullval json, trail) := by
  obtain ⟨lead, inner, trail, before, written, behind, rfl⟩ := isText
  exact ⟨trail, behind, ⟨lead ++ inner, List.append_assoc ..⟩,
    decode_around nullval before written behind⟩

/-- `[null, true]` and a newline. -/
theorem decode_text_items : ∃ trail, Json.Blanks trail ∧ trail <:+ "[null, true]\n".toList ∧
    decode .nil "[null, true]\n".toList =
      .ok (toValue .nil (.array [.null, .boolean true]), trail) := by
  have none : Json.Blanks [] := by simp [Json.Blanks]
  have space : Json.Blanks [' '] := by simp [Json.Blanks]
  have newline : Json.Blanks ['\n'] := by simp [Json.Blanks]
  have last := Json.Writes.lastElement space Json.Writes.true none
  have items := Json.Writes.array (Json.Writes.element none Json.Writes.null none last)
  exact decode_text .nil ⟨[], _, ['\n'], none, items, newline, by decide⟩

end TfortisPack.Dkjson
