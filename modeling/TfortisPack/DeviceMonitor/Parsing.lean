import TfortisPack.DeviceMonitor.Listing

/-!
# `getData_formJson`

The helper cuts two bytes off a line of the listing, puts braces around the
rest and asks the JSON library for one string member.  Of all pieces in which
the listing arrives, only a whole line with a comma at its end survives this.
-/

namespace TfortisPack.DeviceMonitor

open TfortisPack.Library
open TfortisPack.Library.StringLiterals

/-- What `parsing.c` uses of the JSON library: `json_loads`, then
`json_object_get` and `json_string_value` on the result.  The library is not
part of the repository; the two laws are what the JSON grammar says of it. -/
structure Jansson where
  stringMember : (text key : List UInt8) → Option (List UInt8)
  /-- the strings that the library takes for valid UTF-8 -/
  utf8 : List UInt8 → Bool
  /-- an object with one string member -/
  one_member : ∀ (blanks key : List UInt8) (value : Text) (wanted : List UInt8),
    (∀ byte ∈ blanks, byte = 9 ∨ byte = 32) → Printable key →
      stringMember
          (bytesOf "\x7b" ++ (blanks ++ (literal key ++
            (separator ++ (literal value.bytes ++ bytesOf "\x7d"))))) wanted =
        if utf8 value.bytes = true ∧ key = wanted then some value.bytes else none
  /-- a member takes a literal for its name and one for its value -/
  two_literals : ∀ (text key value : List UInt8),
    stringMember text key = some value → 2 ≤ closed .outside text

/-- `str[len-2] = '\0'`. -/
def cutLine (line : List UInt8) : List UInt8 :=
  line.take (line.length - 2)

/-- The text between braces that is handed to `json_loads`. -/
def jsonText (line : List UInt8) : List UInt8 :=
  bytesOf "\x7b" ++ (cutLine line ++ bytesOf "\x7d")

/-- `getData_formJson`: the destination is emptied, and filled if the line has
the member. -/
def getDataFormJson {size : Nat} (json : Jansson) (line option : List UInt8)
    (data : Vector UInt8 size) : Vector UInt8 size :=
  match json.stringMember (jsonText line) option with
  | none => CText.store data []
  | some value => CText.store (CText.store data []) (value.takeWhile (· ≠ 0))

/-- The line of an option `hash` that is not the last of its section. -/
def hashLine (value : List UInt8) : List UInt8 :=
  memberLine (bytesOf "hash") value comma ++ [CText.newline]

section Pieces

theorem closed_jsonText (line : List UInt8) :
    closed .outside (jsonText line) = closed .outside (cutLine line) := by
  have opening : Plain (bytesOf "\x7b") := by decide
  have closing : bytesOf "\x7d" = [125] := by decide
  rw [jsonText, closed_plain_append opening (by decide), closing,
    closed_append_singleton (by decide)]

theorem closed_cutLine_le (line : List UInt8) :
    closed .outside (cutLine line) ≤ closed .outside line :=
  closed_le_of_isPrefix (List.take_prefix _ line)

/-- The start of a member's line is the whole of it with its comma, or it shows
one literal. -/
theorem closed_cutLine_member {key value ending piece : List UInt8}
    (ends : ending = [] ∨ ending = comma)
    (start : piece <+: memberLine key value ending ++ [CText.newline]) :
    (ending = comma ∧ piece = memberLine key value ending ++ [CText.newline]) ∨
      closed .outside (cutLine piece) ≤ 1 := by
  let unfinished : List UInt8 :=
    indent 3 ++ (literal key ++ (separator ++ doubleQuote :: escape value))
  have unfinishedStart :
      unfinished <+: memberLine key value ending ++ [CText.newline] :=
    ⟨doubleQuote :: (ending ++ [CText.newline]), by simp [unfinished, memberLine, literal]⟩
  have lengths : (memberLine key value ending ++ [CText.newline]).length =
      unfinished.length + ending.length + 2 := by
    simp [unfinished, memberLine, literal]
    omega
  by_cases complete : ending = comma ∧ piece = memberLine key value ending ++ [CText.newline]
  · exact Or.inl complete
  · apply Or.inr
    have short : piece.length ≤ unfinished.length + 2 := by
      rcases ends with rfl | rfl
      · have bounded := start.length_le
        rw [lengths] at bounded
        simpa using bounded
      · have proper : piece.length ≠ (memberLine key value comma ++ [CText.newline]).length :=
          fun same => complete ⟨rfl, start.eq_of_length same⟩
        have bounded := start.length_le
        have one : comma.length = 1 := by decide
        omega
    have cutStart : cutLine piece <+: unfinished := by
      refine List.prefix_of_prefix_length_le
        ((List.take_prefix _ piece).trans start) unfinishedStart ?_
      rw [cutLine, List.length_take]
      omega
    apply (closed_le_of_isPrefix cutStart).trans
    rw [closed_outside_unfinished_member key value (plain_indent 3) (by decide)]

/-- A piece of a line shows one literal, or is the whole line of a member. -/
theorem closed_jsonText_piece {line piece : List UInt8} (shape : LineShape line)
    (isPiece : CText.PieceOf 127 line piece) :
    closed .outside (jsonText piece) ≤ 1 ∨
      ∃ key, ∃ value : Text, Printable key ∧
        piece = memberLine key value.bytes comma ++ [CText.newline] := by
  obtain ⟨before, behind, whole, position⟩ := isPiece
  rw [closed_jsonText]
  cases shape with
  | bare _ quotes =>
      refine Or.inl ((closed_cutLine_le piece).trans ?_)
      have inLine : piece.count doubleQuote ≤ line.count doubleQuote := by
        have counted := congrArg (List.count doubleQuote) whole
        simp only [List.count_append] at counted
        have noQuote : [CText.newline].count doubleQuote = 0 := by decide
        omega
      have half := (two_mul_closed_le piece).1
      omega
  | @element value ending ends =>
      refine Or.inl ((closed_cutLine_le piece).trans ?_)
      apply (closed_le_append .outside piece behind).trans
      have suffix : piece ++ behind <:+
          indent 4 ++ (literal value ++ (ending ++ [CText.newline])) := by
        refine ⟨before, ?_⟩
        rw [← whole]
        simp [elementLine]
      exact closed_outside_suffix_element (plain_indent 4) (plain_of_ends ends) suffix
  | @member key printable value ending ends =>
      rcases position with rfl | full
      · have start : piece <+: memberLine key value.bytes ending ++ [CText.newline] :=
          ⟨behind, by rw [whole, List.nil_append]⟩
        rcases closed_cutLine_member ends start with ⟨rfl, complete⟩ | few
        · exact Or.inr ⟨key, value, printable, complete⟩
        · exact Or.inl few
      · refine Or.inl ((closed_cutLine_le piece).trans ?_)
        apply (closed_le_append .outside piece behind).trans
        have unfolded : before ++ (piece ++ behind) =
            indent 3 ++ (literal key ++
              (separator ++ (literal value.bytes ++ (ending ++ [CText.newline])))) := by
          rw [← whole]
          simp [memberLine]
        refine closed_outside_cut_member (plain_escape printable) (by decide)
          (plain_of_ends ends) unfolded ?_
        have tabs : (indent 3).length = 3 := by decide
        omega

theorem jsonText_member (key value : List UInt8) :
    jsonText (memberLine key value comma ++ [CText.newline]) =
      bytesOf "\x7b" ++ (indent 3 ++ (literal key ++
        (separator ++ (literal value ++ bytesOf "\x7d")))) := by
  let shown : List UInt8 := indent 3 ++ (literal key ++ (separator ++ literal value))
  have split : memberLine key value comma ++ [CText.newline] =
      shown ++ [44, CText.newline] := by
    have isComma : comma = [44] := by decide
    simp [shown, memberLine, isComma]
  have cut : cutLine (memberLine key value comma ++ [CText.newline]) = shown := by
    have kept : (shown ++ [44, CText.newline]).length - 2 = shown.length := by
      simp
    rw [split, cutLine, kept]
    exact List.take_left
  rw [jsonText, cut]
  simp [shown]

theorem stringMember_member (json : Jansson) {key : List UInt8} (printable : Printable key)
    (value : Text) (wanted : List UInt8) :
    json.stringMember (jsonText (memberLine key value.bytes comma ++ [CText.newline])) wanted =
      if json.utf8 value.bytes = true ∧ key = wanted then some value.bytes else none := by
  rw [jsonText_member]
  refine json.one_member (indent 3) key value wanted ?_ printable
  intro byte member
  exact Or.inl (List.eq_of_mem_replicate member)

theorem printable_hash : Printable (bytesOf "hash") := by
  decide

theorem stringMember_hashLine (json : Jansson) {value : Text}
    (valid : json.utf8 value.bytes = true) :
    json.stringMember (jsonText (hashLine value.bytes)) (bytesOf "hash") =
      some value.bytes := by
  rw [hashLine, stringMember_member json printable_hash, if_pos ⟨valid, rfl⟩]

/-- The only pieces of a listing that yield a hash. -/
theorem hashLine_of_stringMember {json : Jansson} {config : Configuration}
    {piece found : List UInt8} (arrives : piece ∈ CText.pieces 127 config.listing)
    (isMember : json.stringMember (jsonText piece) (bytesOf "hash") = some found) :
    ∃ value : Text, piece = hashLine value.bytes ∧ json.utf8 value.bytes = true ∧
      found = value.bytes := by
  have listed := listed_lines config
  obtain ⟨line, inLines, isPiece⟩ :=
    CText.pieces_unlines (fun line inLines => (listed line inLines).1) arrives
  have literals := json.two_literals _ _ _ isMember
  rcases closed_jsonText_piece (listed line inLines).2 isPiece with
    few | ⟨key, value, printable, rfl⟩
  · omega
  · rw [stringMember_member json printable] at isMember
    split at isMember
    · rename_i accepted
      obtain ⟨valid, rfl⟩ := accepted
      exact ⟨value, rfl, valid, (Option.some.inj isMember).symm⟩
    · exact absurd isMember (by simp)

end Pieces

section PlainJson

def Blank (text : List UInt8) : Prop :=
  ∀ byte ∈ text, byte = 9 ∨ byte = 32

instance : DecidablePred Blank :=
  fun text => List.decidableBAll _ text

/-- The string member of an object with one member in printable ASCII, found
between the quotes of its text. -/
def plainMember (text key : List UInt8) : Option (List UInt8) :=
  match text.splitOn doubleQuote with
  | [front, name, middle, value, back] =>
      if (∀ part ∈ [front, name, middle, value, back], Plain part) ∧
          front.head? = some 123 ∧ Blank front.tail ∧
            middle = separator ∧ back = bytesOf "\x7d" ∧ Printable value ∧ name = key then
        some value
      else
        none
  | _ => none

theorem plainMember_eq_some {text key value : List UInt8}
    (found : plainMember text key = some value) :
    ∃ front name middle back, (∀ part ∈ [front, name, middle, value, back], Plain part) ∧
      text = front ++ doubleQuote :: (name ++ doubleQuote ::
        (middle ++ doubleQuote :: (value ++ doubleQuote :: back))) := by
  unfold plainMember at found
  split at found
  · rename_i front name middle value' back split
    split at found
    · rename_i accepted
      obtain rfl : value' = value := Option.some.inj found
      refine ⟨front, name, middle, back, accepted.1, ?_⟩
      have joined : [doubleQuote].intercalate (text.splitOn doubleQuote) = text :=
        List.intercalate_splitOn doubleQuote
      rw [split] at joined
      rw [← joined]
      simp [List.intercalate]
    · exact absurd found (by simp)
  · exact absurd found (by simp)

theorem two_le_closed_of_plainMember {text key value : List UInt8}
    (found : plainMember text key = some value) : 2 ≤ closed .outside text := by
  obtain ⟨front, name, middle, back, plain, rfl⟩ := plainMember_eq_some found
  rw [closed_plain_append (plain front (by simp)) (by decide), closed_outside_quote,
    closed_plain_append (plain name (by simp)) (by decide), closed_inside_quote,
    closed_plain_append (plain middle (by simp)) (by decide), closed_outside_quote,
    closed_plain_append (plain value (by simp)) (by decide), closed_inside_quote]
  omega

theorem backslash_notMem_of_plainMember {text key value : List UInt8}
    (found : plainMember text key = some value) : backslash ∉ text := by
  obtain ⟨front, name, middle, back, plain, rfl⟩ := plainMember_eq_some found
  have absent : ∀ part ∈ [front, name, middle, value, back], backslash ∉ part :=
    fun part member inPart => (plain part member backslash inPart).2 rfl
  have notQuote : backslash ≠ doubleQuote := by decide
  simpa [notQuote] using absent

theorem plainMember_one_member (blanks key : List UInt8) (value : Text) (wanted : List UInt8)
    (blank : Blank blanks) (printable : Printable key) :
    plainMember
        (bytesOf "\x7b" ++ (blanks ++ (literal key ++
          (separator ++ (literal value.bytes ++ bytesOf "\x7d"))))) wanted =
      if decide (Printable value.bytes) = true ∧ key = wanted then some value.bytes else none := by
  have keyShown : escape key = key :=
    escape_of_printable fun byte member => (printable byte member).1
  by_cases escapes : backslash ∈ escape value.bytes
  · -- a value with an escape is not printable, and not read
    have notPrintable : ¬Printable value.bytes := by
      intro printableValue
      rw [escape_of_printable fun byte member => (printableValue byte member).1] at escapes
      exact (printableValue backslash escapes).1.2.2 rfl
    rw [if_neg (by simp [notPrintable])]
    by_contra some
    obtain ⟨found, isFound⟩ := Option.ne_none_iff_exists'.mp some
    apply backslash_notMem_of_plainMember isFound
    simp [literal, escapes]
  · have shown := printable_of_backslash_notMem escapes
    have valueShown : escape value.bytes = value.bytes := escape_of_printable shown
    have noQuotes : ∀ part ∈ [bytesOf "\x7b" ++ blanks, key, separator, value.bytes,
        bytesOf "\x7d"], Plain part := by
      intro part member
      simp only [List.mem_cons, List.not_mem_nil, or_false] at member
      rcases member with rfl | rfl | rfl | rfl | rfl
      · intro byte inFront
        rcases List.mem_append.mp inFront with opening | isBlank
        · exact (show Plain (bytesOf "\x7b") by decide) byte opening
        · rcases blank byte isBlank with rfl | rfl <;> decide
      · exact fun byte inKey => (printable byte inKey).1.2
      · decide
      · exact fun byte inValue => (shown byte inValue).2
      · decide
    have joined : bytesOf "\x7b" ++ (blanks ++ (literal key ++
          (separator ++ (literal value.bytes ++ bytesOf "\x7d")))) =
        [doubleQuote].intercalate [bytesOf "\x7b" ++ blanks, key, separator, value.bytes,
          bytesOf "\x7d"] := by
      simp [List.intercalate, literal, keyShown, valueShown]
    have split := List.splitOn_intercalate doubleQuote
      (fun part member inPart => (noQuotes part member doubleQuote inPart).1 rfl) (by simp)
    have head : (bytesOf "\x7b" ++ blanks).head? = some 123 := rfl
    have tail : (bytesOf "\x7b" ++ blanks).tail = blanks := rfl
    rw [joined, plainMember, split]
    simp only [eq_true noQuotes, head, tail, eq_true blank, true_and, decide_eq_true_eq]

def plainJson : Jansson where
  stringMember := plainMember
  utf8 := fun value => decide (Printable value)
  one_member := plainMember_one_member
  two_literals := fun _ _ _ found => two_le_closed_of_plainMember found

end PlainJson

end TfortisPack.DeviceMonitor
