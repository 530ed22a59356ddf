import TfortisPack.Library.CText
import TfortisPack.Library.StringLiterals

/-!
# The listing of the rpcd configuration

`checkMD5Sum` pipes `ubus call uci get '{"config":"rpcd"}'` through a buffer
of 128 bytes.  The command prints the sections of the configuration as a JSON
object, one member a line: the four dotted members of rpcd first, then the
options, with a comma behind every member but the last of its table.
-/

namespace TfortisPack.DeviceMonitor

open TfortisPack.Library
open TfortisPack.Library.StringLiterals

def bytesOf (text : String) : List UInt8 :=
  text.toByteArray.data.toList

/-- The value of an option: a C string. -/
structure Text where
  bytes : List UInt8
  noNul : 0 ∉ bytes
  deriving DecidableEq

def IsNameByte (byte : UInt8) : Prop :=
  (48 ≤ byte ∧ byte ≤ 57) ∨ (65 ≤ byte ∧ byte ≤ 90) ∨ (97 ≤ byte ∧ byte ≤ 122) ∨ byte = 95

instance : DecidablePred IsNameByte :=
  fun _ => inferInstanceAs (Decidable (_ ∨ _))

def IsName (bytes : List UInt8) : Prop :=
  ∀ byte ∈ bytes, IsNameByte byte

instance : DecidablePred IsName :=
  fun bytes => List.decidableBAll _ bytes

/-- The name of an option or a section: letters, digits and underscores. -/
structure Name where
  bytes : List UInt8
  valid : IsName bytes
  deriving DecidableEq

theorem zero_notMem_name (name : Name) : (0 : UInt8) ∉ name.bytes := by
  intro member
  have isName := name.valid 0 member
  revert isName
  decide

inductive Setting where
  | text (value : Text)
  | list (values : List Text)
  deriving DecidableEq

structure Section where
  name : Name
  anonymous : Bool
  type : Text
  options : List (Name × Setting)

structure Configuration where
  sections : List Section

/-- The `hash` of the options of a section, where it is a string. -/
def Section.hashes (entry : Section) : List (List UInt8) :=
  entry.options.filterMap fun option =>
    match option.2 with
    | .text value => if option.1.bytes = bytesOf "hash" then some value.bytes else none
    | .list _ => none

/-- The users are the sections of type `login`. -/
def Configuration.hashes (config : Configuration) : List (List UInt8) :=
  (config.sections.filter fun entry => entry.type.bytes = bytesOf "login").flatMap Section.hashes

theorem Configuration.zero_notMem_hashes {config : Configuration} {hash : List UInt8}
    (configured : hash ∈ config.hashes) : 0 ∉ hash := by
  obtain ⟨entry, _, inSection⟩ := List.mem_flatMap.mp configured
  obtain ⟨⟨name, setting⟩, _, isHash⟩ := List.mem_filterMap.mp inSection
  cases setting with
  | text value =>
      simp only [Option.ite_none_right_eq_some, Option.some.injEq] at isHash
      obtain ⟨_, rfl⟩ := isHash
      exact value.noNul
  | list values =>
      simp at isHash

section Printing

def comma : List UInt8 := bytesOf ","

def separator : List UInt8 := bytesOf ": "

def indent (depth : Nat) : List UInt8 :=
  List.replicate depth 9

/-- A value as the listing shows it. -/
inductive Shown where
  | flag (value : Bool)
  | number (value : Nat)
  | text (value : Text)
  | list (values : List Text)

def Setting.shown : Setting → Shown
  | .text value => .text value
  | .list values => .list values

/-- The entries of a table or an array, all but the last with a comma.  Without
entries the indentation stands alone. -/
def punctuated {α : Type} (depth : Nat) (print : α → List UInt8 → List (List UInt8)) :
    List α → List (List UInt8)
  | [] => [indent depth]
  | [entry] => print entry []
  | entry :: next :: rest => print entry comma ++ punctuated depth print (next :: rest)

def elementLine (value ending : List UInt8) : List UInt8 :=
  indent 4 ++ (literal value ++ ending)

def memberLine (key value ending : List UInt8) : List UInt8 :=
  indent 3 ++ (literal key ++ (separator ++ (literal value ++ ending)))

def decimal (value : Nat) : List UInt8 :=
  (Nat.toDigits 10 value).map fun digit => UInt8.ofNat digit.toNat

/-- A member of a table whose value is not a string. -/
def bareLine (depth : Nat) (key word ending : List UInt8) : List UInt8 :=
  indent depth ++ (literal key ++ (separator ++ (word ++ ending)))

def memberLines (entry : List UInt8 × Shown) (ending : List UInt8) : List (List UInt8) :=
  match entry.2 with
  | .flag true => [bareLine 3 entry.1 (bytesOf "true") ending]
  | .flag false => [bareLine 3 entry.1 (bytesOf "false") ending]
  | .number value => [bareLine 3 entry.1 (decimal value) ending]
  | .text value => [memberLine entry.1 value.bytes ending]
  | .list values =>
      bareLine 3 entry.1 (bytesOf "[") [] ::
        (punctuated 4 (fun value ending => [elementLine value.bytes ending]) values ++
          [indent 3 ++ (bytesOf "]" ++ ending)])

def Section.members (entry : Section) (index : Nat) : List (List UInt8 × Shown) :=
  [(bytesOf ".anonymous", .flag entry.anonymous),
    (bytesOf ".type", .text entry.type),
    (bytesOf ".name", .text ⟨entry.name.bytes, zero_notMem_name entry.name⟩),
    (bytesOf ".index", .number index)] ++
      entry.options.map fun option => (option.1.bytes, option.2.shown)

def sectionLines (entry : Section × Nat) (ending : List UInt8) : List (List UInt8) :=
  bareLine 2 entry.1.name.bytes (bytesOf "\x7b") [] ::
    (punctuated 3 memberLines (entry.1.members entry.2) ++
      [indent 2 ++ (bytesOf "\x7d" ++ ending)])

def Configuration.lines (config : Configuration) : List (List UInt8) :=
  [bytesOf "\x7b", bareLine 1 (bytesOf "values") (bytesOf "\x7b") []] ++
    punctuated 2 sectionLines config.sections.zipIdx ++
      [indent 1 ++ bytesOf "\x7d", bytesOf "\x7d"]

def Configuration.listing (config : Configuration) : List UInt8 :=
  CText.unlines config.lines

end Printing

section Shape

/-- ASCII text that a literal shows as it is. -/
def Printable (key : List UInt8) : Prop :=
  ∀ byte ∈ key, (32 ≤ byte ∧ byte ≠ doubleQuote ∧ byte ≠ backslash) ∧ byte < 128

instance (key : List UInt8) : Decidable (Printable key) :=
  List.decidableBAll _ key

/-- The lines of a listing: at most one literal, or a member with a string. -/
inductive LineShape : List UInt8 → Prop
  | bare (line : List UInt8) (quotes : line.count doubleQuote ≤ 2) : LineShape line
  | element (value : List UInt8) {ending : List UInt8} (ends : ending = [] ∨ ending = comma) :
      LineShape (elementLine value ending)
  | member {key : List UInt8} (printable : Printable key) (value : Text) {ending : List UInt8}
      (ends : ending = [] ∨ ending = comma) : LineShape (memberLine key value.bytes ending)

theorem plain_of_ends {ending : List UInt8} (ends : ending = [] ∨ ending = comma) :
    Plain (ending ++ [CText.newline]) := by
  rcases ends with rfl | rfl <;> decide

theorem plain_indent (depth : Nat) : Plain (indent depth) := by
  intro byte member
  rw [List.eq_of_mem_replicate member]
  decide

theorem plain_escape {key : List UInt8} (printable : Printable key) : Plain (escape key) := by
  rw [escape_of_printable fun byte member => (printable byte member).1]
  exact fun byte member => (printable byte member).1.2

theorem printable_name (name : Name) : Printable name.bytes := by
  have single : ∀ byte : UInt8, IsNameByte byte →
      (32 ≤ byte ∧ byte ≠ doubleQuote ∧ byte ≠ backslash) ∧ byte < 128 :=
    forall_byte (by decide +kernel)
  exact fun byte member => single byte (name.valid byte member)

/-- A line of the listing: its shape, and no line end within. -/
def Listed (line : List UInt8) : Prop :=
  CText.newline ∉ line ∧ LineShape line

theorem newline_notMem_literal (value : List UInt8) : CText.newline ∉ literal value := by
  have escaped := newline_notMem_escape value
  rw [literal]
  simp only [List.mem_cons, List.mem_append, List.not_mem_nil, or_false, not_or]
  exact ⟨by decide, escaped, by decide⟩

theorem newline_notMem_indent (depth : Nat) : CText.newline ∉ indent depth := by
  intro member
  have isTab := List.eq_of_mem_replicate member
  revert isTab
  decide

theorem newline_notMem_ends {ending : List UInt8} (ends : ending = [] ∨ ending = comma) :
    CText.newline ∉ ending := by
  rcases ends with rfl | rfl <;> decide

theorem count_ends {ending : List UInt8} (ends : ending = [] ∨ ending = comma) :
    ending.count doubleQuote = 0 := by
  rcases ends with rfl | rfl <;> decide

theorem listed_bareLine {key word ending : List UInt8} (depth : Nat) (printable : Printable key)
    (noQuote : doubleQuote ∉ word) (noNewline : CText.newline ∉ word)
    (ends : ending = [] ∨ ending = comma) : Listed (bareLine depth key word ending) := by
  refine ⟨?_, .bare _ ?_⟩
  · simp only [bareLine, List.mem_append, not_or]
    exact ⟨newline_notMem_indent depth, newline_notMem_literal key, by decide, noNewline,
      newline_notMem_ends ends⟩
  · have inIndent : (indent depth).count doubleQuote = 0 :=
      List.count_eq_zero.mpr fun member => (plain_indent depth _ member).1 rfl
    have inKey : (escape key).count doubleQuote = 0 :=
      List.count_eq_zero.mpr fun member => (plain_escape printable _ member).1 rfl
    have inSeparator : separator.count doubleQuote = 0 := by decide
    have inWord : word.count doubleQuote = 0 := List.count_eq_zero.mpr noQuote
    have inLiteral : (literal key).count doubleQuote = 2 := by
      rw [literal, List.count_cons_self, List.count_append, inKey, List.count_singleton_self]
    rw [bareLine, List.count_append, List.count_append, List.count_append, List.count_append,
      inIndent, inLiteral, inSeparator, inWord, count_ends ends]

theorem listed_memberLine {key : List UInt8} (printable : Printable key) (value : Text)
    {ending : List UInt8} (ends : ending = [] ∨ ending = comma) :
    Listed (memberLine key value.bytes ending) := by
  refine ⟨?_, .member printable value ends⟩
  simp only [memberLine, List.mem_append, not_or]
  exact ⟨newline_notMem_indent 3, newline_notMem_literal key, by decide,
    newline_notMem_literal value.bytes, newline_notMem_ends ends⟩

theorem listed_elementLine (value : Text) {ending : List UInt8}
    (ends : ending = [] ∨ ending = comma) : Listed (elementLine value.bytes ending) := by
  refine ⟨?_, .element value.bytes ends⟩
  simp only [elementLine, List.mem_append, not_or]
  exact ⟨newline_notMem_indent 4, newline_notMem_literal value.bytes, newline_notMem_ends ends⟩

theorem listed_indent (depth : Nat) : Listed (indent depth) := by
  refine ⟨newline_notMem_indent depth, .bare _ ?_⟩
  rw [List.count_eq_zero.mpr fun member => (plain_indent depth _ member).1 rfl]
  exact Nat.zero_le 2

theorem listed_closing {bracket : List UInt8} (depth : Nat) (noQuote : doubleQuote ∉ bracket)
    (noNewline : CText.newline ∉ bracket) {ending : List UInt8}
    (ends : ending = [] ∨ ending = comma) : Listed (indent depth ++ (bracket ++ ending)) := by
  refine ⟨?_, .bare _ ?_⟩
  · simp only [List.mem_append, not_or]
    exact ⟨newline_notMem_indent depth, noNewline, newline_notMem_ends ends⟩
  · have inIndent : (indent depth).count doubleQuote = 0 :=
      List.count_eq_zero.mpr fun member => (plain_indent depth _ member).1 rfl
    rw [List.count_append, List.count_append, inIndent, List.count_eq_zero.mpr noQuote,
      count_ends ends]
    exact Nat.zero_le 2

theorem listed_punctuated {α : Type} (depth : Nat)
    {print : α → List UInt8 → List (List UInt8)} {entries : List α}
    (listed : ∀ entry ∈ entries, ∀ ending, (ending = [] ∨ ending = comma) →
      ∀ line ∈ print entry ending, Listed line) :
    ∀ line ∈ punctuated depth print entries, Listed line := by
  induction entries with
  | nil =>
      intro line member
      rw [List.mem_singleton.mp member]
      exact listed_indent depth
  | cons entry rest inductionHypothesis =>
      have later := inductionHypothesis fun other member =>
        listed other (List.mem_cons_of_mem entry member)
      have here := listed entry List.mem_cons_self
      cases rest with
      | nil =>
          exact here [] (Or.inl rfl)
      | cons next rest =>
          intro line member
          rcases List.mem_append.mp member with inEntry | inRest
          · exact here comma (Or.inr rfl) line inEntry
          · exact later line inRest

theorem plain_decimal (value : Nat) :
    doubleQuote ∉ decimal value ∧ CText.newline ∉ decimal value := by
  have digit : ∀ byte ∈ decimal value, 48 ≤ byte.toNat ∧ byte.toNat ≤ 57 := by
    intro byte member
    obtain ⟨char, inDigits, rfl⟩ := List.mem_map.mp member
    have isDigit := Nat.isDigit_of_mem_toDigits (by decide) (by decide) inDigits
    have bounds : 48 ≤ char.toNat ∧ char.toNat ≤ 57 := by
      simpa [Char.isDigit, UInt32.le_iff_toNat_le] using isDigit
    have small : char.toNat % 256 = char.toNat := Nat.mod_eq_of_lt (by omega)
    simpa [small] using bounds
  constructor
  · intro member
    have bounds := digit _ member
    revert bounds
    decide
  · intro member
    have bounds := digit _ member
    revert bounds
    decide

theorem listed_memberLines {entry : List UInt8 × Shown} (printable : Printable entry.1)
    {ending : List UInt8} (ends : ending = [] ∨ ending = comma) :
    ∀ line ∈ memberLines entry ending, Listed line := by
  obtain ⟨key, shown⟩ := entry
  cases shown with
  | flag value =>
      cases value with
      | true =>
          intro line member
          rw [List.mem_singleton.mp member]
          exact listed_bareLine 3 printable (by decide) (by decide) ends
      | false =>
          intro line member
          rw [List.mem_singleton.mp member]
          exact listed_bareLine 3 printable (by decide) (by decide) ends
  | number value =>
      intro line member
      rw [List.mem_singleton.mp member]
      exact listed_bareLine 3 printable (plain_decimal value).1 (plain_decimal value).2 ends
  | text value =>
      intro line member
      rw [List.mem_singleton.mp member]
      exact listed_memberLine printable value ends
  | list values =>
      intro line member
      rcases List.mem_cons.mp member with rfl | inside
      · exact listed_bareLine 3 printable (by decide) (by decide) (Or.inl rfl)
      · rcases List.mem_append.mp inside with inElements | isClosing
        · refine listed_punctuated 4 ?_ line inElements
          intro value _ ending ends line member
          rw [List.mem_singleton.mp member]
          exact listed_elementLine value ends
        · rw [List.mem_singleton.mp isClosing]
          exact listed_closing 3 (by decide) (by decide) ends

theorem printable_members (entry : Section) (index : Nat) :
    ∀ member ∈ entry.members index, Printable member.1 := by
  intro member inMembers
  rcases List.mem_append.mp inMembers with dotted | inOptions
  · have all : ∀ key ∈ [bytesOf ".anonymous", bytesOf ".type", bytesOf ".name",
        bytesOf ".index"], Printable key := by
      decide
    apply all
    have mapped := List.mem_map_of_mem (f := Prod.fst) dotted
    exact mapped
  · obtain ⟨option, _, rfl⟩ := List.mem_map.mp inOptions
    exact printable_name option.1

theorem listed_lines (config : Configuration) : ∀ line ∈ config.lines, Listed line := by
  have brace : ∀ depth, ∀ bracket ∈ [bytesOf "\x7b", bytesOf "\x7d"],
      Listed (indent depth ++ bracket) := by
    intro depth bracket member
    have plain : ∀ other ∈ [bytesOf "\x7b", bytesOf "\x7d"],
        doubleQuote ∉ other ∧ CText.newline ∉ other := by decide
    have listed := listed_closing depth (plain bracket member).1 (plain bracket member).2
      (Or.inl rfl)
    rwa [List.append_nil] at listed
  intro line member
  rcases List.mem_append.mp member with front | back
  · rcases List.mem_append.mp front with opening | inSections
    · rcases List.mem_cons.mp opening with rfl | isValues
      · exact brace 0 (bytesOf "\x7b") (by decide)
      · rw [List.mem_singleton.mp isValues]
        exact listed_bareLine 1 (by decide) (by decide) (by decide) (Or.inl rfl)
    · refine listed_punctuated 2 ?_ line inSections
      intro entry _ ending ends line inSection
      rcases List.mem_cons.mp inSection with rfl | inside
      · exact listed_bareLine 2 (printable_name entry.1.name) (by decide) (by decide) (Or.inl rfl)
      · rcases List.mem_append.mp inside with inMembers | isClosing
        · refine listed_punctuated 3 ?_ line inMembers
          intro entry' inEntries ending ends
          exact listed_memberLines (printable_members _ _ _ inEntries) ends
        · rw [List.mem_singleton.mp isClosing]
          exact listed_closing 2 (by decide) (by decide) ends
  · rcases List.mem_cons.mp back with rfl | isLast
    · exact brace 1 (bytesOf "\x7d") (by decide)
    · rw [List.mem_singleton.mp isLast]
      exact brace 0 (bytesOf "\x7d") (by decide)

end Shape

end TfortisPack.DeviceMonitor
