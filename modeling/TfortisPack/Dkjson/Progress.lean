import TfortisPack.Dkjson.Decoder

/-!
# The decoder comes to an end

Every value takes at least a letter, so that the recursion and the loop of
`scantable` end on every text, in the grammar or not.  What `decode` returns is
a table that Lua can have, and an error is about a place in the text.
-/

namespace TfortisPack.Dkjson

open Library

/-! ## Values of Lua -/

mutual

/-- In every table the keys are distinct and no value is `nil`. -/
def Value.WellFormed : Value → Prop
  | .table _ entries => (entries.map Prod.fst).Nodup ∧ WellFormedEntries entries
  | _ => True

def WellFormedEntries : Entries → Prop
  | [] => True
  | (_, value) :: rest => value ≠ .nil ∧ value.WellFormed ∧ WellFormedEntries rest

end

theorem wellFormedEntries_iff {entries : Entries} :
    WellFormedEntries entries ↔ ∀ entry ∈ entries, entry.2 ≠ .nil ∧ entry.2.WellFormed := by
  induction entries with
  | nil => simp [WellFormedEntries]
  | cons entry entries inductionHypothesis =>
    obtain ⟨key, value⟩ := entry
    rw [WellFormedEntries, inductionHypothesis, List.forall_mem_cons, and_assoc]

/-- The entries of a table that Lua can have. -/
def TableEntries (entries : Entries) : Prop :=
  (entries.map Prod.fst).Nodup ∧ WellFormedEntries entries

theorem tableEntries_assign {entries : Entries} (table : TableEntries entries) (key : Key)
    {value : Value} (wellFormed : value.WellFormed) : TableEntries (assign entries key value) := by
  have others : TableEntries (entries.filter fun entry => entry.1 ≠ key) := by
    refine ⟨table.1.sublist (List.filter_sublist.map Prod.fst), wellFormedEntries_iff.mpr ?_⟩
    exact fun entry member => wellFormedEntries_iff.mp table.2 entry (List.mem_of_mem_filter member)
  have added : value ≠ .nil →
      TableEntries ((entries.filter fun entry => entry.1 ≠ key) ++ [(key, value)]) := by
    intro isValue
    refine ⟨?_, wellFormedEntries_iff.mpr fun entry member => ?_⟩
    · rw [List.map_append, List.nodup_append]
      refine ⟨others.1, by simp, ?_⟩
      rintro _ earlier _ new rfl
      obtain ⟨entry, member, rfl⟩ := List.mem_map.mp earlier
      have different := (List.mem_filter.mp member).2
      simp only [decide_eq_true_eq] at different
      exact different (List.mem_singleton.mp new)
    · rcases List.mem_append.mp member with earlier | new
      · exact wellFormedEntries_iff.mp others.2 entry earlier
      · obtain rfl := List.mem_singleton.mp new
        exact ⟨isValue, wellFormed⟩
  cases value with
  | nil => exact others
  | _ => exact added (by simp)

/-! ## What is left -/

/-- The end of a text, and less than all of it. -/
def Shorter (rest text : Text) : Prop :=
  rest <:+ text ∧ rest.length < text.length

theorem shorter_of_append {read rest text : Text} (split : read ++ rest = text)
    (some : read ≠ []) : Shorter rest text := by
  subst split
  have positive := List.length_pos_iff.mpr some
  exact ⟨List.suffix_append read rest, by rw [List.length_append]; omega⟩

theorem shorter_trans {rest middle text : Text} (left : Shorter rest middle)
    (right : middle <:+ text) : Shorter rest text :=
  ⟨left.1.trans right, left.2.trans_le right.length_le⟩

theorem skip_suffix {white : White} {text rest : Text} (found : skip white text = some rest) :
    rest <:+ text ∧ rest ≠ [] := by
  have onward : ∀ {behind : Text} (lead : Text), rest <:+ behind ∧ rest ≠ [] →
      rest <:+ lead ++ behind ∧ rest ≠ [] := fun lead isEnd =>
    ⟨isEnd.1.trans (List.suffix_append lead _), isEnd.2⟩
  induction white, text using skip.induct with
  | case1 behind inductionHypothesis =>
    rw [skip] at found
    exact onward ['\u00ef', '\u00bb', '\u00bf'] (inductionHypothesis found)
  | case2 behind inductionHypothesis =>
    rw [skip] at found
    exact onward ['/', '/'] (inductionHypothesis found)
  | case3 behind inductionHypothesis =>
    rw [skip] at found
    exact onward ['/', '*'] (inductionHypothesis found)
  | case4 letter behind noMark noLine noBlock space inductionHypothesis =>
    rw [skip, if_pos space] at found
    · exact onward [letter] (inductionHypothesis found)
    all_goals assumption
  | case5 letter behind noMark noLine noBlock solid =>
    rw [skip, if_neg solid] at found
    · cases found
      exact ⟨List.suffix_rfl, List.cons_ne_nil _ _⟩
    all_goals assumption
  | case6 letter behind newline inductionHypothesis =>
    rw [skip, if_pos newline] at found
    exact onward [letter] (inductionHypothesis found)
  | case7 letter behind sameLine inductionHypothesis =>
    rw [skip, if_neg sameLine] at found
    exact onward [letter] (inductionHypothesis found)
  | case8 behind inductionHypothesis =>
    rw [skip] at found
    exact onward ['*', '/'] (inductionHypothesis found)
  | case9 letter behind inside inductionHypothesis =>
    rw [skip] at found
    · exact onward [letter] (inductionHypothesis found)
    · assumption
  | case10 white =>
    cases white <;> cases found

theorem scanwhite_suffix {text rest : Text} (found : scanwhite text = some rest) :
    rest <:+ text ∧ rest ≠ [] :=
  skip_suffix found

/-! ## Strings, numbers and names -/

theorem letters_shorter {count : Nat} {text : Text} {value rest : Text}
    (read : letters count text = some (value, rest)) : Shorter rest text := by
  have onward : ∀ {letter : Char} {behind rest : Text}, Shorter rest behind →
      Shorter rest (letter :: behind) := fun shorter =>
    shorter_trans shorter (List.suffix_cons _ _)
  induction count, text using letters.induct generalizing value rest with
  | case1 count => cases count <;> cases read
  | case2 count letter behind inductionHypothesis =>
    rw [letters] at read
    exact onward (inductionHypothesis read)
  | case3 behind =>
    rw [letters, if_pos rfl] at read
    cases read
    exact ⟨List.suffix_cons _ _, Nat.lt_succ_self _⟩
  | case4 behind notQuote inductionHypothesis =>
    rw [letters, if_neg notQuote, if_pos rfl] at read
    obtain ⟨⟨value', rest'⟩, inner, same⟩ := Option.map_eq_some_iff.mp read
    cases same
    exact onward (inductionHypothesis inner)
  | case5 letter behind notQuote notBackslash inductionHypothesis =>
    rw [letters, if_neg notQuote, if_neg notBackslash] at read
    obtain ⟨⟨value', rest'⟩, inner, same⟩ := Option.map_eq_some_iff.mp read
    cases same
    exact onward (inductionHypothesis inner)

theorem optional_append (some text : Text) : (optional some text).1 ++ (optional some text).2 = text := by
  cases text with
  | nil => rfl
  | cons letter rest =>
    rw [optional]
    split <;> rfl

theorem numberToken_append {text token rest : Text} (cut : numberToken text = some (token, rest)) :
    token ++ rest = text ∧ token ≠ [] := by
  unfold numberToken at cut
  simp only at cut
  split at cut
  · cases cut
  · rename_i body
    cases cut
    constructor
    · simp only [List.append_assoc, List.takeWhile_append_dropWhile, optional_append]
    · simp [body]

theorem scannumber_shorter {text rest : Text} {value : Value}
    (read : scannumber text = some (value, rest)) :
    Shorter rest text ∧ ∃ number, value = .number number := by
  unfold scannumber at read
  split at read
  · cases read
  · rename_i token behind cut
    obtain ⟨number, _, same⟩ := Option.map_eq_some_iff.mp read
    cases same
    obtain ⟨split, some⟩ := numberToken_append cut
    exact ⟨shorter_of_append split some, number, rfl⟩

theorem scanname_shorter {nullval value : Value} {text rest : Text}
    (read : scanname nullval text = some (value, rest)) :
    Shorter rest text ∧ value ∈ [.boolean true, .boolean false, nullval] := by
  have shorter : nameToken text ≠ [] → Shorter (text.drop (nameToken text).length) text := by
    intro some
    have positive := List.length_pos_iff.mpr some
    cases text with
    | nil => exact absurd rfl some
    | cons letter text =>
      refine ⟨List.drop_suffix _ _, ?_⟩
      rw [List.length_drop, List.length_cons]
      omega
  unfold scanname at read
  simp only at read
  split at read
  · rename_i isTrue
    cases read
    exact ⟨shorter (by simp [isTrue]), by simp⟩
  · split at read
    · rename_i isFalse
      cases read
      exact ⟨shorter (by simp [isFalse]), by simp⟩
    · split at read
      · rename_i isNull
        cases read
        exact ⟨shorter (by simp [isNull]), by simp⟩
      · cases read

/-! ## Errors -/

/-- The error is about places in the text. -/
def Failure.Inside (text : Text) : Failure → Prop
  | .reachedEnd => True
  | .unterminated _ start => start <:+ text ∧ start ≠ []
  | .nilIndex place => place <:+ text ∧ place ≠ []
  | .noValue place => place <:+ text ∧ place ≠ []
  | .outOfFuel => False

theorem inside_trans {failure : Failure} {part text : Text} (inside : failure.Inside part)
    (isEnd : part <:+ text) : failure.Inside text := by
  cases failure with
  | reachedEnd => trivial
  | unterminated what start => exact ⟨inside.1.trans isEnd, inside.2⟩
  | nilIndex place => exact ⟨inside.1.trans isEnd, inside.2⟩
  | noValue place => exact ⟨inside.1.trans isEnd, inside.2⟩
  | outOfFuel => exact inside

theorem position_inside {failure : Failure} {text : Text} (inside : failure.Inside text) :
    1 ≤ failure.position text ∧ failure.position text ≤ text.length + 1 := by
  cases failure with
  | reachedEnd => simp [Failure.position]
  | unterminated what start => simp [Failure.position]
  | nilIndex place => simp [Failure.position]
  | noValue place => simp [Failure.position]
  | outOfFuel => exact inside.elim

/-! ## Values and tables -/

/-- What a scan of `part` leaves of `text`. -/
def Outcome (part text : Text) : Except Failure (Value × Text) → Prop
  | .ok (value, rest) => Shorter rest part ∧ value.WellFormed
  | .error failure => failure.Inside text

theorem outcome_trans {part whole text : Text} {result : Except Failure (Value × Text)}
    (outcome : Outcome part text result) (isEnd : part <:+ whole) : Outcome whole text result := by
  cases result with
  | error failure => exact outcome
  | ok read => exact ⟨shorter_trans outcome.1 isEnd, outcome.2⟩

section Tables

variable {scan : Scan} {shape : Shape} {start text : Text}

/-- What `scan` does with every text that is at most as long as `part`. -/
def ScansWithin (scan : Scan) (part : Text) : Prop :=
  ∀ inner : Text, inner.length ≤ part.length → Outcome inner inner (scan inner)

theorem scanpair_outcome (isStart : start <:+ text ∧ start ≠ []) {val1 : Value} {colon : Text}
    (isEnd : colon <:+ text) (some : colon ≠ []) (scans : ScansWithin scan colon)
    {entries : Entries} (table : TableEntries entries) :
    match scanpair scan shape start val1 colon entries with
    | .ok (entries, rest) => TableEntries entries ∧ rest <:+ colon
    | .error failure => failure.Inside text := by
  unfold scanpair
  cases isKey : val1.key colon.length with
  | none => exact ⟨isEnd, some⟩
  | some key =>
    cases white : scanwhite (colon.drop 1) with
    | none => exact isStart
    | some value =>
      have valueEnd : value <:+ colon := (scanwhite_suffix white).1.trans (List.drop_suffix 1 colon)
      have outcome := scans value valueEnd.length_le
      cases read : scan value with
      | error failure =>
        rw [read] at outcome
        simp only [bind, Except.bind, read]
        exact inside_trans outcome (valueEnd.trans isEnd)
      | ok result =>
        obtain ⟨val2, behind⟩ := result
        rw [read] at outcome
        simp only [bind, Except.bind, read]
        cases whiteBehind : scanwhite behind with
        | none => exact isStart
        | some rest =>
          exact ⟨tableEntries_assign table key outcome.2,
            ((scanwhite_suffix whiteBehind).1.trans outcome.1.1).trans valueEnd⟩

theorem passComma_suffix (text : Text) : passComma text <:+ text := by
  unfold passComma
  split
  · exact List.suffix_cons _ _
  · exact List.suffix_rfl

theorem scanentries_outcome (isStart : start <:+ text ∧ start ≠ []) (rounds : Nat) {part : Text}
    (entries : Entries) (n : Nat) (isEnd : part <:+ text) (enough : part.length < rounds)
    (scans : ScansWithin scan part) (table : TableEntries entries) :
    Outcome part text (scanentries scan shape start rounds entries n part) := by
  induction rounds generalizing part entries n with
  | zero => cases enough
  | succ rounds inductionHypothesis =>
    rw [scanentries]
    cases white : scanwhite part with
    | none => exact isStart
    | some first =>
      obtain ⟨firstEnd, nonempty⟩ := scanwhite_suffix white
      by_cases closed : first.head? = some shape.closechar
      · simp only [if_pos closed]
        have positive := List.length_pos_iff.mpr nonempty
        have left : Shorter (first.drop 1) first :=
          ⟨List.drop_suffix 1 first, by rw [List.length_drop]; omega⟩
        refine ⟨shorter_trans left firstEnd, ?_⟩
        rw [Value.WellFormed]
        exact table
      · simp only [if_neg closed]
        have outcome := scans first firstEnd.length_le
        cases read : scan first with
        | error failure =>
          rw [read] at outcome
          exact inside_trans outcome (firstEnd.trans isEnd)
        | ok result =>
          obtain ⟨val1, behind⟩ := result
          rw [read] at outcome
          obtain ⟨shorter, wellFormed⟩ := outcome
          simp only [bind, Except.bind]
          cases whiteBehind : scanwhite behind with
          | none => exact isStart
          | some colon =>
            obtain ⟨colonEnd, nonemptyColon⟩ := scanwhite_suffix whiteBehind
            have colonLeft : Shorter colon part := by
              have length := colonEnd.length_le.trans_lt shorter.2
              exact shorter_trans ⟨colonEnd.trans shorter.1, length⟩ firstEnd
            -- The next round starts behind the colon or behind the entry.
            have next : ∀ (rest : Text) (entries : Entries) (n : Nat), rest <:+ colon →
                TableEntries entries → Outcome part text
                  (scanentries scan shape start rounds entries n (passComma rest)) := by
              intro rest entries n restEnd table
              have inColon := (passComma_suffix rest).trans restEnd
              have length := inColon.length_le.trans_lt colonLeft.2
              have inPart := inColon.trans colonLeft.1
              exact outcome_trans (inductionHypothesis entries n (inPart.trans isEnd) (by omega)
                (fun inner short => scans inner (short.trans length.le)) table) inPart
            by_cases named : colon.head? = some ':'
            · simp only [if_pos named]
              have pair := @scanpair_outcome scan shape start text isStart val1 colon
                (colonLeft.1.trans isEnd) nonemptyColon
                (fun inner short => scans inner (short.trans colonLeft.2.le)) entries table
              cases read : scanpair scan shape start val1 colon entries with
              | error failure =>
                rw [read] at pair
                exact pair
              | ok result =>
                obtain ⟨entries, rest⟩ := result
                rw [read] at pair
                exact next rest entries n pair.2 pair.1
            · simp only [if_neg named]
              exact next colon _ _ List.suffix_rfl (tableEntries_assign table _ wellFormed)

end Tables

theorem scanvalue_outcome {nullval : Value} (nullWellFormed : nullval.WellFormed) (fuel : Nat)
    {text : Text} (enough : text.length < fuel) :
    Outcome text text (scanvalue nullval fuel text) := by
  induction fuel generalizing text with
  | zero => cases enough
  | succ fuel inductionHypothesis =>
    rw [scanvalue]
    cases white : scanwhite text with
    | none => trivial
    | some first =>
      obtain ⟨firstEnd, nonempty⟩ := scanwhite_suffix white
      obtain ⟨char, rest, rfl⟩ := List.exists_cons_of_ne_nil nonempty
      have length := firstEnd.length_le
      rw [List.length_cons] at length
      have table : ∀ shape, Outcome text text (scanentries (scanvalue nullval fuel) shape
          (char :: rest) (rest.length + 1) [] 0 rest) := by
        intro shape
        have restEnd := (List.suffix_cons char rest).trans firstEnd
        have scans : ScansWithin (scanvalue nullval fuel) rest := fun inner short =>
          inductionHypothesis (by omega)
        have empty : TableEntries [] := ⟨List.nodup_nil, by rw [WellFormedEntries]; trivial⟩
        exact outcome_trans (scanentries_outcome ⟨firstEnd, nonempty⟩ _ [] 0 restEnd
          (Nat.lt_succ_self _) scans empty) restEnd
      simp only
      by_cases brace : char = '{'
      · rw [if_pos brace]
        exact table objectShape
      · rw [if_neg brace]
        by_cases bracket : char = '['
        · rw [if_pos bracket]
          exact table arrayShape
        · rw [if_neg bracket]
          by_cases quote : char = '"'
          · rw [if_pos quote]
            cases read : letters 0 rest with
            | none => exact ⟨firstEnd, nonempty⟩
            | some result =>
              have left := @letters_shorter 0 rest result.1 result.2 read
              refine ⟨shorter_trans left ((List.suffix_cons _ _).trans firstEnd), ?_⟩
              rw [Value.WellFormed]
              · trivial
              · simp
          · rw [if_neg quote]
            cases readNumber : scannumber (char :: rest) with
            | some result =>
              obtain ⟨value, behind⟩ := result
              obtain ⟨left, number, rfl⟩ := scannumber_shorter readNumber
              exact ⟨shorter_trans left firstEnd, by simp [Value.WellFormed]⟩
            | none =>
              cases readName : scanname nullval (char :: rest) with
              | none => exact ⟨firstEnd, nonempty⟩
              | some result =>
                obtain ⟨value, behind⟩ := result
                obtain ⟨left, known⟩ := scanname_shorter readName
                refine ⟨shorter_trans left firstEnd, ?_⟩
                simp only [List.mem_cons, List.not_mem_nil, or_false] at known
                rcases known with rfl | rfl | rfl
                · simp [Value.WellFormed]
                · simp [Value.WellFormed]
                · exact nullWellFormed

/-- A table that Lua can have and less of the text than before, or an error at a place of the
text. -/
def EndsWithin (str : Text) : Except Failure (Value × Text) → Prop
  | .ok (value, rest) => rest <:+ str ∧ rest.length < str.length ∧ value.WellFormed
  | .error failure => failure ≠ .outOfFuel ∧ 1 ≤ failure.position str ∧
      failure.position str ≤ str.length + 1

theorem decode_ends {nullval : Value} (nullWellFormed : nullval.WellFormed) (str : Text) :
    EndsWithin str (decode nullval str) := by
  have outcome := scanvalue_outcome nullWellFormed (str.length + 1) (Nat.lt_succ_self _)
  rw [decode]
  cases result : scanvalue nullval (str.length + 1) str with
  | ok read =>
    rw [result] at outcome
    exact ⟨outcome.1.1, outcome.1.2, outcome.2⟩
  | error failure =>
    rw [result] at outcome
    have fuelled : failure ≠ .outOfFuel := by
      rintro rfl
      exact outcome
    exact ⟨fuelled, position_inside outcome⟩

/-- An array without its closing bracket. -/
theorem decode_ends_unterminated : EndsWithin "[1, 2".toList (decode .nil "[1, 2".toList) :=
  decode_ends (by simp [Value.WellFormed]) _

end TfortisPack.Dkjson
