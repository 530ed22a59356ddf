import Mathlib.Tactic.NormNum
import TfortisPack.Library.LuaNumerals
import TfortisPack.Library.Texts
import TfortisPack.VlanCli.MainVlan

/-!
# Port ranges (`tf_module.lua`)

Every command that takes ports reads them with `checkPortRange` and asks
`isPrintPortRange` about a port.  The pieces of the text go into the same table
as the name of its form, which is the third entry.
-/

namespace TfortisPack.Clish

open Library
open Library.LuaNumerals (tonumber)
open VlanCli (Text RangeKind RangeText switchName)

/-- What stops a script. -/
inductive Failure where
  /-- `nil` in a comparison. -/
  | comparedNil
  /-- `nil` as an argument of `io.write`. -/
  | wroteNil
  /-- `nil` in a concatenation. -/
  | joinedNil
  deriving DecidableEq, Repr

structure PortRange where
  min : ℚ
  max : ℚ
  kind : RangeKind
  deriving DecidableEq

/-- The table `result` while the pieces are read: its entries 1 to 3, and those behind. -/
structure RangeTable where
  min : Option ℚ
  max : Option ℚ
  kind : Option RangeKind
  behind : List ℚ
  deriving DecidableEq

def allName : Text := ['a', 'l', 'l']

/-! ## The code -/

/-- `table.insert`: the value goes behind the border of the table.  The name in entry 3 is not
met before entry 2 is set, and a `nil` leaves the table as it is. -/
def RangeTable.insert (result : RangeTable) (value : Option ℚ) : RangeTable :=
  match value, result.min, result.max with
  | none, _, _ => result
  | some value, none, _ => { result with min := some value }
  | some value, some _, none => { result with max := some value }
  | some value, some _, some _ => { result with behind := result.behind ++ [value] }

def RangeTable.readPiece (result : RangeTable) (piece : Text) : RangeTable :=
  { result.insert (tonumber piece) with kind := some .range }

/-- The table after the loop over the pieces. -/
def readPieces (range : Text) : RangeTable :=
  (Texts.tokens '-' range).foldl RangeTable.readPiece
    { min := none, max := none, kind := none, behind := [] }

/-- Without a second number the range is a single port. -/
def RangeTable.completed (result : RangeTable) : RangeTable :=
  if result.max = none then { result with max := result.min, kind := some .once } else result

def checkPortRange (range : Text) : Except Failure (Option PortRange) :=
  if range = allName then .ok (some { min := 1, max := 10, kind := .all })
  else if range = switchName then .ok (some { min := 0, max := 0, kind := .switch })
  else
    let result := (readPieces range).completed
    match result.min, result.max, result.kind with
    | some min, some max, some kind =>
        if min > max then .ok none else .ok (some { min := min, max := max, kind := kind })
    | _, _, _ => .error .comparedNil

def isPrintPortRange (portRange : PortRange) (port : ℚ) : Nat :=
  match portRange.kind with
  | .all => 1
  | .range => if port ≥ portRange.min ∧ port ≤ portRange.max then 1 else 0
  | .switch => 0
  | .once => 0

/-! ## The grammar -/

/-- The ranges of the command line. -/
inductive Grammar : Text → PortRange → Prop
  | all : Grammar allName { min := 1, max := 10, kind := .all }
  | switch : Grammar switchName { min := 0, max := 0, kind := .switch }
  | once {text : Text} {number : Nat} :
      Lua.tonumber text = some number →
      Grammar text { min := number, max := number, kind := .once }
  | range {left right : Text} {first last : Nat} :
      Lua.tonumber left = some first → Lua.tonumber right = some last → first ≤ last →
      Grammar (left ++ '-' :: right) { min := first, max := last, kind := .range }

/-- A text is read as the grammar says, without an error, and a port is in the range exactly if it
lies between the bounds. -/
def ReadsGrammar (text : Text) (port : ℚ) : Prop :=
  ∃ result, checkPortRange text = .ok result ∧
    (∀ range, result = some range ↔ Grammar text range) ∧
    ∀ range, result = some range →
      (isPrintPortRange range port = 1 ↔ range.min ≤ port ∧ port ≤ range.max)

/-! ## The pieces -/

/-- The numbers among the pieces of a text. -/
def pieceNumbers (range : Text) : List ℚ :=
  (Texts.tokens '-' range).filterMap tonumber

/-- The numbers fill the first two entries, then those behind the third. -/
def RangeTable.Holds (result : RangeTable) (numbers : List ℚ) : Prop :=
  result.min = numbers[0]? ∧ result.max = numbers[1]? ∧ result.behind = numbers.drop 2

theorem RangeTable.Holds.insert {result : RangeTable} {numbers : List ℚ}
    (holds : result.Holds numbers) (value : Option ℚ) :
    (result.insert value).Holds (numbers ++ value.toList) := by
  obtain ⟨min, max, behind⟩ := holds
  cases value with
  | none =>
    rw [Option.toList_none, List.append_nil]
    exact ⟨min, max, behind⟩
  | some value =>
    match numbers with
    | [] =>
      have inserted : result.insert (some value) = { result with min := some value } := by
        simp [RangeTable.insert, min]
      rw [inserted]
      exact ⟨rfl, max, behind⟩
    | [first] =>
      have inserted : result.insert (some value) = { result with max := some value } := by
        simp [RangeTable.insert, min, max]
      rw [inserted]
      exact ⟨min, rfl, behind⟩
    | first :: second :: rest =>
      have inserted : result.insert (some value) =
          { result with behind := result.behind ++ [value] } := by
        simp [RangeTable.insert, min, max]
      rw [inserted]
      refine ⟨min, max, ?_⟩
      simp [behind]

theorem holds_foldl_readPiece {result : RangeTable} {numbers : List ℚ}
    (holds : result.Holds numbers) (pieces : List Text) :
    (pieces.foldl RangeTable.readPiece result).Holds (numbers ++ pieces.filterMap tonumber) := by
  induction pieces generalizing result numbers with
  | nil =>
    rw [List.filterMap_nil, List.append_nil]
    exact holds
  | cons piece rest inductionHypothesis =>
    have inserted : (result.readPiece piece).Holds (numbers ++ (tonumber piece).toList) :=
      holds.insert (tonumber piece)
    have continued := inductionHypothesis inserted
    rw [List.append_assoc] at continued
    rw [List.foldl_cons, List.filterMap_cons]
    cases number : tonumber piece with
    | none =>
      rw [number] at continued
      exact continued
    | some value =>
      rw [number] at continued
      exact continued

theorem kind_foldl_readPiece {result : RangeTable} (named : result.kind = some .range)
    (pieces : List Text) :
    (pieces.foldl RangeTable.readPiece result).kind = some .range := by
  induction pieces generalizing result with
  | nil => exact named
  | cons piece rest inductionHypothesis => exact inductionHypothesis rfl

theorem kind_readPieces {range : Text} {number : ℚ} {rest : List ℚ}
    (numbers : pieceNumbers range = number :: rest) : (readPieces range).kind = some .range := by
  rw [readPieces]
  rw [pieceNumbers] at numbers
  cases pieces : Texts.tokens '-' range with
  | nil =>
    rw [pieces] at numbers
    cases numbers
  | cons piece others => exact kind_foldl_readPiece rfl others

theorem holds_readPieces (range : Text) : (readPieces range).Holds (pieceNumbers range) := by
  have initially : RangeTable.Holds { min := none, max := none, kind := none, behind := [] } [] :=
    ⟨rfl, rfl, rfl⟩
  exact holds_foldl_readPiece initially (Texts.tokens '-' range)

/-! ## What is returned -/

section Returned

variable {range : Text} (notAll : range ≠ allName) (notSwitch : range ≠ switchName)

include notAll notSwitch

/-- Only the first two numbers of a text count. -/
theorem checkPortRange_eq :
    checkPortRange range =
      match pieceNumbers range with
      | [] => .error .comparedNil
      | [value] => .ok (some { min := value, max := value, kind := .once })
      | first :: second :: _ =>
          if first > second then .ok none
          else .ok (some { min := first, max := second, kind := .range }) := by
  obtain ⟨min, max, _⟩ := holds_readPieces range
  rw [checkPortRange, if_neg notAll, if_neg notSwitch]
  cases numbers : pieceNumbers range with
  | nil =>
    rw [numbers] at min max
    simp [RangeTable.completed, min, max]
  | cons first rest =>
    have kind := kind_readPieces numbers
    rw [numbers] at min max
    cases rest with
    | nil => simp [RangeTable.completed, min, max]
    | cons second others => simp [RangeTable.completed, min, max, kind]

end Returned

/-! ## Texts of the grammar -/

theorem dash_not_mem_of_tonumber {text : Text} {number : Nat}
    (reads : Lua.tonumber text = some number) : '-' ∉ text := fun member =>
  absurd ((LuaNumerals.isDigit_of_tonumber reads).2 '-' member) (by decide)

/-- A decimal number is one piece. -/
theorem tokens_of_tonumber {text : Text} {number : Nat} (reads : Lua.tonumber text = some number) :
    Texts.tokens '-' text = [text] :=
  Texts.tokens_of_free (dash_not_mem_of_tonumber reads) (LuaNumerals.isDigit_of_tonumber reads).1

theorem pieceNumbers_once {text : Text} {number : Nat} (reads : Lua.tonumber text = some number) :
    pieceNumbers text = [(number : ℚ)] := by
  rw [pieceNumbers, tokens_of_tonumber reads, List.filterMap_cons,
    LuaNumerals.tonumber_of_digits reads, List.filterMap_nil]

theorem pieceNumbers_range {left right : Text} {first last : Nat}
    (readsLeft : Lua.tonumber left = some first) (readsRight : Lua.tonumber right = some last) :
    pieceNumbers (left ++ '-' :: right) = [(first : ℚ), (last : ℚ)] := by
  rw [pieceNumbers, Texts.tokens_append_cons, tokens_of_tonumber readsLeft,
    tokens_of_tonumber readsRight, List.singleton_append, List.filterMap_cons,
    LuaNumerals.tonumber_of_digits readsLeft, List.filterMap_cons,
    LuaNumerals.tonumber_of_digits readsRight, List.filterMap_nil]

/-- A text with numbers among its pieces is none of the two names. -/
theorem ne_names_of_pieceNumbers {text : Text} {number : ℚ} {rest : List ℚ}
    (numbers : pieceNumbers text = number :: rest) : text ≠ allName ∧ text ≠ switchName := by
  constructor
  · rintro rfl
    have none : pieceNumbers allName = [] := by decide
    rw [none] at numbers
    cases numbers
  · rintro rfl
    have none : pieceNumbers switchName = [] := by decide
    rw [none] at numbers
    cases numbers

theorem checkPortRange_of_grammar {text : Text} {range : PortRange}
    (grammar : Grammar text range) : checkPortRange text = .ok (some range) := by
  cases grammar with
  | all => rfl
  | switch => rfl
  | once reads =>
    have numbers := pieceNumbers_once reads
    obtain ⟨notAll, notSwitch⟩ := ne_names_of_pieceNumbers numbers
    rw [checkPortRange_eq notAll notSwitch, numbers]
  | range readsLeft readsRight ordered =>
    have numbers := pieceNumbers_range readsLeft readsRight
    obtain ⟨notAll, notSwitch⟩ := ne_names_of_pieceNumbers numbers
    rw [checkPortRange_eq notAll notSwitch, numbers]
    exact if_neg (not_lt_of_ge (Nat.cast_le.mpr ordered))

/-! ## Where the grammar is met -/

/-- The ports about which the answer for a range is right. -/
def Judged (range : PortRange) (port : ℚ) : Prop :=
  match range.kind with
  | .all => 1 ≤ port ∧ port ≤ 10
  | .range => True
  | .switch => port ≠ 0
  | .once => port ≠ range.min

/-- The first two numbers among the pieces are in the wrong order. -/
def Reversed (text : Text) : Prop :=
  ∃ first second rest, pieceNumbers text = first :: second :: rest ∧ second < first

theorem isPrintPortRange_iff {text : Text} {range : PortRange} (grammar : Grammar text range)
    (port : ℚ) :
    (isPrintPortRange range port = 1 ↔ range.min ≤ port ∧ port ≤ range.max) ↔
      Judged range port := by
  cases grammar with
  | all => simp [isPrintPortRange, Judged]
  | switch =>
    simp only [isPrintPortRange, Judged, Nat.zero_ne_one, false_iff]
    exact not_congr ⟨fun bounds => le_antisymm bounds.2 bounds.1, fun same => by simp [same]⟩
  | once reads =>
    simp only [isPrintPortRange, Judged, Nat.zero_ne_one, false_iff]
    exact not_congr ⟨fun bounds => le_antisymm bounds.2 bounds.1, fun same => by simp [same]⟩
  | range readsLeft readsRight ordered =>
    simp [isPrintPortRange, Judged]

theorem checkPortRange_eq_none_iff {text : Text} (outside : ∀ range, ¬Grammar text range) :
    checkPortRange text = .ok none ↔ Reversed text := by
  have notAll : text ≠ allName := by
    rintro rfl
    exact outside _ .all
  have notSwitch : text ≠ switchName := by
    rintro rfl
    exact outside _ .switch
  rw [checkPortRange_eq notAll notSwitch, Reversed]
  cases numbers : pieceNumbers text with
  | nil => simp
  | cons first rest =>
    cases rest with
    | nil => simp
    | cons second others =>
      by_cases reversed : second < first
      · simp [reversed]
      · simp [reversed]

theorem grammar_unique {text : Text} {left right : PortRange} (leftGrammar : Grammar text left)
    (rightGrammar : Grammar text right) : left = right := by
  have returned := checkPortRange_of_grammar leftGrammar
  rw [checkPortRange_of_grammar rightGrammar] at returned
  injection returned with equal
  exact (Option.some.inj equal).symm

theorem not_grammar_of_reversed {text : Text} (reversed : Reversed text) (range : PortRange) :
    ¬Grammar text range := by
  intro grammar
  obtain ⟨first, second, rest, numbers, smaller⟩ := reversed
  obtain ⟨notAll, notSwitch⟩ := ne_names_of_pieceNumbers numbers
  have returned := checkPortRange_of_grammar grammar
  rw [checkPortRange_eq notAll notSwitch, numbers] at returned
  simp [smaller] at returned

theorem readsGrammar_of_grammar {text : Text} {range : PortRange} (grammar : Grammar text range)
    (port : ℚ) : ReadsGrammar text port ↔ Judged range port := by
  rw [← isPrintPortRange_iff grammar port]
  constructor
  · intro reads
    obtain ⟨result, _, exactly, judged⟩ := reads
    exact judged range ((exactly range).mpr grammar)
  · intro judged
    refine ⟨some range, checkPortRange_of_grammar grammar, fun other => ?_, fun other same => ?_⟩
    · rw [Option.some.injEq]
      exact ⟨fun same => same ▸ grammar, grammar_unique grammar⟩
    · rw [Option.some.injEq] at same
      rw [← same]
      exact judged

theorem readsGrammar_of_outside {text : Text} (outside : ∀ range, ¬Grammar text range) (port : ℚ) :
    ReadsGrammar text port ↔ Reversed text := by
  rw [← checkPortRange_eq_none_iff outside]
  constructor
  · intro reads
    obtain ⟨result, ran, exactly, _⟩ := reads
    cases result with
    | none => exact ran
    | some range => exact absurd ((exactly range).mp rfl) (outside range)
  · intro ran
    refine ⟨none, ran, fun range => ?_, fun range same => ?_⟩
    · exact ⟨fun same => absurd same (by simp), fun grammar => absurd grammar (outside range)⟩
    · exact absurd same (by simp)

/-- The texts of the grammar are read as it says, and the answer about a port is right where it is
judged to be; any other text is refused as it should be only if its first two numbers are in the
wrong order. -/
theorem reads_grammar_iff (text : Text) (port : ℚ) :
    ReadsGrammar text port ↔
      (∃ range, Grammar text range ∧ Judged range port) ∨ Reversed text := by
  by_cases inside : ∃ range, Grammar text range
  · obtain ⟨range, grammar⟩ := inside
    rw [readsGrammar_of_grammar grammar]
    constructor
    · intro judged
      exact Or.inl ⟨range, grammar, judged⟩
    · intro holds
      rcases holds with ⟨other, otherGrammar, judged⟩ | reversed
      · rw [grammar_unique grammar otherGrammar]
        exact judged
      · exact absurd grammar (not_grammar_of_reversed reversed range)
  · have outside := not_exists.mp inside
    rw [readsGrammar_of_outside outside]
    constructor
    · exact Or.inr
    · intro holds
      rcases holds with ⟨range, grammar, _⟩ | reversed
      · exact absurd grammar (outside range)
      · exact reversed

/-- The port of a single number is not in its own range. -/
theorem grammar_misses_single_port : ¬∀ text port, ReadsGrammar text port := by
  intro all
  have grammar : Grammar ['5'] { min := (5 : Nat), max := (5 : Nat), kind := .once } :=
    .once (by decide)
  have judged := (readsGrammar_of_grammar grammar 5).mp (all ['5'] 5)
  exact judged (by norm_num)

/-! ## The texts that a command line has -/

def toPortRange (range : VlanCli.CheckedRange) : PortRange where
  min := range.min
  max := range.max
  kind := range.kind

/-- Where the command line passes a range of its own syntax, the table is the one that the VLAN
commands work with. -/
theorem checkPortRange_text (range : RangeText) :
    checkPortRange range.text =
      .ok ((VlanCli.checkPortRange range).map toPortRange) := by
  cases range with
  | all => exact checkPortRange_of_grammar .all
  | switch => exact checkPortRange_of_grammar .switch
  | once value => exact checkPortRange_of_grammar (.once (Lua.tonumber_tostring value))
  | pair first last =>
    have numbers : pieceNumbers (RangeText.pair first last).text = [(first : ℚ), (last : ℚ)] :=
      pieceNumbers_range (Lua.tonumber_tostring first) (Lua.tonumber_tostring last)
    obtain ⟨notAll, notSwitch⟩ := ne_names_of_pieceNumbers numbers
    rw [checkPortRange_eq notAll notSwitch, numbers, VlanCli.checkPortRange]
    by_cases reversed : first > last
    · simp [reversed]
    · simp [reversed, toPortRange]

end TfortisPack.Clish
