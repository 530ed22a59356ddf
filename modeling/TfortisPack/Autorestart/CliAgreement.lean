import TfortisPack.Autorestart.Decimals
import Mathlib.Data.List.TakeWhile

/-!
# The values that the command line stores

`config_autorestart.lua` stores the address and the times of the autorestart
after a check of its own.  The Lua patterns are not anchored and the hour may be
24; the daemon reads the whole text with `sscanf` and an anchored expression.
The two agree on exactly the texts that have nothing around what the pattern
found.
-/

namespace TfortisPack.Autorestart

open TfortisPack.Library

namespace CliAgreement

namespace TfUtilities

def timePattern : List (Lua.Item Char) :=
  [.many Char.isDigit, .one (· == ':'), .many Char.isDigit]

/-- `hh` and `mm` of `is_valid_time`. -/
def readTime (time : String) : Option (Nat × Nat) :=
  match Lua.findMatch timePattern time.toList with
  | some [hh, _, mm] =>
      match Lua.tonumber mm, Lua.tonumber hh with
      | some mm, some hh => some (hh, mm)
      | _, _ => none
  | _ => none

/-- `is_valid_time`; a text of digits is never negative. -/
def isValidTime (time : String) : Bool :=
  match readTime time with
  | none => false
  | some (hh, mm) => !(mm > 59 || hh > 24)

def ipPattern : List (Lua.Item Char) :=
  [.many Char.isDigit, .one (· == '.'), .many Char.isDigit, .one (· == '.'),
    .many Char.isDigit, .one (· == '.'), .many Char.isDigit]

/-- `parts` of `is_valid_ip`. -/
def readIp (ip : String) : List (List Char) :=
  match Lua.findMatch ipPattern ip.toList with
  | some [first, _, second, _, third, _, fourth] => [first, second, third, fourth]
  | _ => []

/-- The checks of `is_valid_ip` on one part. -/
def isValidPart (part : List Char) : Bool :=
  (Lua.tonumber part).any (· ≤ 255) && !(part.length > 1 && part.head? == some '0')

/-- `is_valid_ip`. -/
def isValidIp (ip : String) : Bool :=
  (readIp ip).length == 4 && (readIp ip).all isValidPart

end TfUtilities

/-- The values of `cmd_in` that are checked. -/
inductive Parameter where
  | host
  | timeUp
  | timeDown
  deriving DecidableEq, Repr

def Parameter.cmdIn : Parameter → String
  | .host => "host"
  | .timeUp => "timeUp"
  | .timeDown => "timeDown"

/-- `ar_setParam`: the commands it executes for the ports from `first` to
`last`. -/
def arSetParam (cmdIn valueIn : String) (first last : Nat) : List String :=
  let status :=
    if cmdIn = "host" then TfUtilities.isValidIp valueIn
    else if cmdIn = "timeUp" ∨ cmdIn = "timeDown" then TfUtilities.isValidTime valueIn
    else true
  if status then
    (List.range' first (last + 1 - first)).map fun port =>
      "uci set tf_autorestart.lan" ++ toString port ++ "." ++ cmdIn ++ "=" ++ valueIn
  else []

/-! ## The properties -/

def Stores (parameter : Parameter) (value : String) (first last : Nat) : Prop :=
  arSetParam parameter.cmdIn value first last ≠ []

def OnlyDigitsAnd (separator : Char) (value : String) : Prop :=
  ∀ char ∈ value.toList, char.isDigit = true ∨ char = separator

/-- The daemon accepts the value and reads the same, and the value has no other
character. -/
def Agrees : Parameter → String → Prop
  | .host, value =>
      checkValidIp value = true ∧
        (∀ group ∈ value.toList.splitOn '.', digitsValue group ≤ 255) ∧
        OnlyDigitsAnd '.' value
  | .timeUp, value | .timeDown, value =>
      (∃ time, TfUtilities.readTime value = some time ∧ isValidTime value = some time) ∧
        OnlyDigitsAnd ':' value

/-- The text begins with an hour of the day, a colon and a digit. -/
def BeginsWithTime (text : List Char) : Prop :=
  match text.takeWhile Char.isDigit, text.dropWhile Char.isDigit with
  | hour, ':' :: digit :: _ => hour ≠ [] ∧ digit.isDigit = true ∧ digitsValue hour ≤ 23
  | _, _ => False

/-- An address is four groups of digits between points, and nothing else; a time
stands at the beginning, and only digits and colons follow. -/
def WellShaped : Parameter → String → Prop
  | .host, value =>
      (value.toList.splitOn '.').length = 4 ∧
        ∀ group ∈ value.toList.splitOn '.',
          group ≠ [] ∧ ∀ char ∈ group, char.isDigit = true
  | .timeUp, value | .timeDown, value =>
      BeginsWithTime value.toList ∧ OnlyDigitsAnd ':' value

instance (parameter : Parameter) (value : String) (first last : Nat) :
    Decidable (Stores parameter value first last) :=
  inferInstanceAs (Decidable (_ ≠ _))

theorem stores_checked {value : String} {first last : Nat} :
    ∀ {parameter : Parameter}, Stores parameter value first last →
      match parameter with
      | .host => TfUtilities.isValidIp value = true
      | .timeUp | .timeDown => TfUtilities.isValidTime value = true := by
  intro parameter stored
  cases parameter <;>
    · by_contra refused
      simp [Stores, arSetParam, Parameter.cmdIn, refused] at stored

/-! ## Numbers -/

theorem tonumber_digits {digits : List Char} (nonempty : digits ≠ [])
    (decimal : ∀ digit ∈ digits, digit.isDigit = true) :
    Lua.tonumber digits = some (digitsValue digits) := by
  rw [Lua.tonumber, if_pos ⟨nonempty, List.all_eq_true.mpr decimal⟩]
  rfl

/-- A number of three digits at most, if it has no leading zero. -/
theorem length_le_of_isValidPart {part : List Char} (nonempty : part ≠ [])
    (decimal : ∀ digit ∈ part, digit.isDigit = true)
    (valid : TfUtilities.isValidPart part = true) :
    part.length ≤ 3 ∧ digitsValue part ≤ 255 := by
  simp only [TfUtilities.isValidPart, tonumber_digits nonempty decimal, Option.any_some,
    Bool.and_eq_true, decide_eq_true_eq] at valid
  obtain ⟨small, noZero⟩ := valid
  refine ⟨?_, small⟩
  by_contra long
  obtain ⟨first, rest, shape⟩ := List.exists_cons_of_ne_nil nonempty
  rw [shape] at long noZero decimal small
  have notZero : first ≠ '0' := by
    intro zero
    simp [zero] at noZero
    simp [noZero] at long
  have atLeast : 48 ≤ first.toNat :=
    (Char.isDigit_iff_toNat.mp (decimal first List.mem_cons_self)).1
  have large : 49 ≤ first.toNat := by
    have other : first.toNat ≠ 48 := fun same => notZero (Char.toNat_inj.mp same)
    omega
  have value : digitsValue (first :: rest) =
      10 ^ rest.length * (first.toNat - 48) + Nat.ofDigitChars 10 rest 0 := by
    rw [← Nat.ofDigitChars_eq_ofDigitChars_zero]
    simp [digitsValue, Nat.ofDigitChars]
  have power : 10 ^ 3 ≤ 10 ^ rest.length :=
    Nat.pow_le_pow_right (by decide) (by simp only [List.length_cons] at long; omega)
  have product : 10 ^ 3 * 1 ≤ 10 ^ rest.length * (first.toNat - 48) :=
    Nat.mul_le_mul power (by omega)
  omega

/-! ## Times -/

section Times

theorem isDigit_of_mem_takeWhile (text : List Char) :
    ∀ char ∈ text.takeWhile Char.isDigit, char.isDigit = true :=
  fun _ member => List.mem_takeWhile_imp member

theorem head_dropWhile (text : List Char) :
    ∀ char ∈ (text.dropWhile Char.isDigit).head?, char.isDigit = false := by
  intro char first
  have stopped := List.head?_dropWhile_not Char.isDigit text
  rw [Option.mem_def] at first
  rw [first] at stopped
  simpa using stopped

theorem beginsWithTime_iff (text : List Char) :
    BeginsWithTime text ↔
      ∃ digit rest, text.dropWhile Char.isDigit = ':' :: digit :: rest ∧
        text.takeWhile Char.isDigit ≠ [] ∧ digit.isDigit = true ∧
          digitsValue (text.takeWhile Char.isDigit) ≤ 23 := by
  unfold BeginsWithTime
  split
  · rename_i digit rest left
    constructor
    · intro begins
      exact ⟨digit, rest, left, begins⟩
    · intro begins
      obtain ⟨other, others, same, begins⟩ := begins
      rw [left] at same
      cases same
      exact begins
  · rename_i noColon
    refine iff_of_false id ?_
    intro begins
    obtain ⟨digit, rest, left, _⟩ := begins
    exact noColon digit rest left

/-- What both programs read of a time at the beginning of the text. -/
theorem readTime_of_begins {value : String} (begins : BeginsWithTime value.toList) :
    ∃ time, TfUtilities.readTime value = some time ∧ time.1 ≤ 23 ∧
      (time.2 ≤ 59 → isValidTime value = some time) := by
  obtain ⟨digit, rest, left, hourNonempty, isDigit, hourSmall⟩ :=
    (beginsWithTime_iff _).mp begins
  have whole := List.takeWhile_append_dropWhile (p := Char.isDigit) (l := value.toList)
  have hourDigits := isDigit_of_mem_takeWhile value.toList
  rw [left] at whole
  generalize value.toList.takeWhile Char.isDigit = hour at *
  have minuteWhole := List.takeWhile_append_dropWhile (p := Char.isDigit) (l := digit :: rest)
  have minuteDigits := isDigit_of_mem_takeWhile (digit :: rest)
  have minuteStops := head_dropWhile (digit :: rest)
  have minuteNonempty : (digit :: rest).takeWhile Char.isDigit ≠ [] := by
    simp [isDigit]
  generalize (digit :: rest).takeWhile Char.isDigit = minute at *
  generalize (digit :: rest).dropWhile Char.isDigit = behind at *
  have colonStops : ∀ char ∈ (':' :: digit :: rest).head?, char.isDigit = false := by
    simp +decide
  refine ⟨(digitsValue hour, digitsValue minute), ?_, hourSmall, ?_⟩
  · have minuteMatched : Lua.matchItems [.many Char.isDigit] (digit :: rest) = some [minute] := by
      rw [← minuteWhole]
      exact Lua.matchItems_many minuteNonempty minuteDigits minuteStops rfl
    have matched : Lua.matchItems TfUtilities.timePattern value.toList =
        some [hour, [':'], minute] := by
      rw [← whole]
      exact Lua.matchItems_many hourNonempty hourDigits colonStops
        (Lua.matchItems_one rfl minuteMatched)
    rw [TfUtilities.readTime, Lua.findMatch_of_matchItems matched]
    simp only [tonumber_digits hourNonempty hourDigits,
      tonumber_digits minuteNonempty minuteDigits]
  · intro minuteSmall
    have hourScanned := DecimalText.scanInt_digits hourNonempty hourDigits colonStops
    have minuteScanned := DecimalText.scanInt_digits minuteNonempty minuteDigits minuteStops
    rw [whole] at hourScanned
    rw [minuteWhole] at minuteScanned
    simp only at hourSmall minuteSmall
    simp only [isValidTime, hourScanned, Option.bind_eq_bind, Option.bind_some, minuteScanned]
    rw [if_neg (by simp; omega)]
    simp

/-- Without blanks and signs a conversion reads the digits at the beginning. -/
theorem scanInt_of_onlyDigitsAnd {separator : Char} {text rest : List Char} {number : Int}
    (plain : ∀ char ∈ text, char.isDigit = true ∨ char = separator)
    (unsigned : separator ≠ '-' ∧ separator ≠ '+' ∧ isSpace separator = false)
    (scanned : scanInt text = some (number, rest)) :
    text.takeWhile Char.isDigit ≠ [] ∧ number = digitsValue (text.takeWhile Char.isDigit) ∧
      rest = text.dropWhile Char.isDigit := by
  have digits : text.takeWhile Char.isDigit ≠ [] := by
    intro empty
    cases text with
    | nil =>
        cases scanned
    | cons first others =>
        have notDigit : first.isDigit = false := by
          by_contra digit
          simp [digit] at empty
        have same : first = separator := by
          simpa [notDigit] using plain first List.mem_cons_self
        rw [same] at scanned notDigit
        obtain ⟨notMinus, notPlus, notBlank⟩ := unsigned
        simp [scanInt, notBlank, notMinus, notPlus, notDigit] at scanned
  have again := DecimalText.scanInt_digits digits (isDigit_of_mem_takeWhile text)
    (head_dropWhile text)
  rw [List.takeWhile_append_dropWhile, scanned] at again
  cases again
  exact ⟨digits, rfl, rfl⟩

/-- A text of digits and colons from which the daemon reads a time begins with
it. -/
theorem begins_of_isValidTime {value : String} {time : Nat × Nat}
    (plain : OnlyDigitsAnd ':' value) (valid : isValidTime value = some time) :
    BeginsWithTime value.toList := by
  have unsigned : ':' ≠ '-' ∧ ':' ≠ '+' ∧ isSpace ':' = false := by
    decide
  simp only [isValidTime, Option.bind_eq_bind, Option.bind_eq_some_iff] at valid
  obtain ⟨⟨hour, rest⟩, hourScanned, valid⟩ := valid
  obtain ⟨hourNonempty, hourValue, left⟩ :=
    scanInt_of_onlyDigitsAnd plain unsigned hourScanned
  split at valid
  · rename_i minuteText shape
    obtain ⟨⟨minute, behind⟩, minuteScanned, valid⟩ := Option.bind_eq_some_iff.mp valid
    simp only at shape
    have whole := List.takeWhile_append_dropWhile (p := Char.isDigit) (l := value.toList)
    rw [← left, shape] at whole
    have minutePlain : ∀ char ∈ minuteText, char.isDigit = true ∨ char = ':' := by
      intro char member
      refine plain char ?_
      rw [← whole]
      exact List.mem_append_right _ (List.mem_cons_of_mem _ member)
    obtain ⟨minuteNonempty, _, _⟩ :=
      scanInt_of_onlyDigitsAnd minutePlain unsigned minuteScanned
    split at valid
    · cases valid
    · rename_i inside
      simp only [Bool.or_eq_true, decide_eq_true_eq, not_or] at inside
      cases minuteText with
      | nil =>
          exact absurd rfl minuteNonempty
      | cons digit others =>
          have isDigit : digit.isDigit = true := by
            by_contra other
            simp [other] at minuteNonempty
          refine (beginsWithTime_iff _).mpr ⟨digit, others, ?_, hourNonempty, isDigit, ?_⟩
          · rw [← left, shape]
          · omega
  · cases valid

theorem time_agrees_iff {value : String} (stored : TfUtilities.isValidTime value = true) :
    ((∃ time, TfUtilities.readTime value = some time ∧ isValidTime value = some time) ∧
        OnlyDigitsAnd ':' value) ↔
      BeginsWithTime value.toList ∧ OnlyDigitsAnd ':' value := by
  refine and_congr_left fun plain => ?_
  constructor
  · intro agrees
    obtain ⟨time, _, valid⟩ := agrees
    exact begins_of_isValidTime plain valid
  · intro begins
    obtain ⟨time, read, _, valid⟩ := readTime_of_begins begins
    have accepted : time.2 ≤ 59 := by
      rw [TfUtilities.isValidTime, read] at stored
      simp only [Bool.not_eq_true', Bool.or_eq_false_iff, decide_eq_false_iff_not] at stored
      omega
    exact ⟨time, read, valid accepted⟩

end Times

/-! ## Addresses -/

section Addresses

theorem digits_stop_at_dot (rest : List Char) :
    ∀ char ∈ ('.' :: rest).head?, char.isDigit = false := by
  intro char first
  cases first
  decide

/-- The parts that Lua finds in four groups of digits are the groups. -/
theorem readIp_of_groups {ip : String} {first second third fourth : List Char}
    (groups : ip.toList.splitOn '.' = [first, second, third, fourth])
    (digits : ∀ group ∈ ip.toList.splitOn '.',
      group ≠ [] ∧ ∀ char ∈ group, char.isDigit = true) :
    TfUtilities.readIp ip = [first, second, third, fourth] := by
  have whole : ['.'].intercalate (ip.toList.splitOn '.') = ip.toList :=
    List.intercalate_splitOn '.'
  rw [groups] at whole digits
  simp only [List.forall_mem_cons] at digits
  obtain ⟨⟨firstSome, firstDigits⟩, ⟨secondSome, secondDigits⟩, ⟨thirdSome, thirdDigits⟩,
    ⟨fourthSome, fourthDigits⟩, _⟩ := digits
  have shape : ip.toList =
      first ++ '.' :: (second ++ '.' :: (third ++ '.' :: (fourth ++ []))) := by
    rw [← whole]
    simp [List.intercalate]
  have noRest : ∀ char ∈ ([] : List Char).head?, char.isDigit = false := by
    simp
  have matched : Lua.matchItems TfUtilities.ipPattern ip.toList =
      some [first, ['.'], second, ['.'], third, ['.'], fourth] := by
    rw [shape]
    exact Lua.matchItems_many firstSome firstDigits (digits_stop_at_dot _)
      (Lua.matchItems_one rfl
        (Lua.matchItems_many secondSome secondDigits (digits_stop_at_dot _)
          (Lua.matchItems_one rfl
            (Lua.matchItems_many thirdSome thirdDigits (digits_stop_at_dot _)
              (Lua.matchItems_one rfl
                (Lua.matchItems_many fourthSome fourthDigits noRest rfl))))))
  rw [TfUtilities.readIp, Lua.findMatch_of_matchItems matched]

theorem mem_of_groups {text : List Char} {char separator : Char} (member : char ∈ text) :
    (∃ group ∈ text.splitOn separator, char ∈ group) ∨ char = separator := by
  have whole : [separator].intercalate (text.splitOn separator) = text :=
    List.intercalate_splitOn separator
  rw [← whole] at member
  clear whole
  generalize text.splitOn separator = groups at *
  induction groups with
  | nil =>
      cases member
  | cons group groups inductionHypothesis =>
      cases groups with
      | nil =>
          simp only [List.intercalate_singleton] at member
          exact Or.inl ⟨group, List.mem_cons_self, member⟩
      | cons next others =>
          rw [List.intercalate_cons_cons, List.append_assoc, List.mem_append, List.mem_append,
            List.mem_singleton] at member
          obtain inside | isSeparator | later := member
          · exact Or.inl ⟨group, List.mem_cons_self, inside⟩
          · exact Or.inr isSeparator
          · refine (inductionHypothesis later).imp_left ?_
            intro found
            obtain ⟨other, listed, inside⟩ := found
            exact ⟨other, List.mem_cons_of_mem _ listed, inside⟩

theorem host_agrees_iff {value : String} (stored : TfUtilities.isValidIp value = true) :
    (checkValidIp value = true ∧
        (∀ group ∈ value.toList.splitOn '.', digitsValue group ≤ 255) ∧
        OnlyDigitsAnd '.' value) ↔
      (value.toList.splitOn '.').length = 4 ∧
        ∀ group ∈ value.toList.splitOn '.',
          group ≠ [] ∧ ∀ char ∈ group, char.isDigit = true := by
  simp only [checkValidIp, Bool.and_eq_true, decide_eq_true_eq, List.all_eq_true]
  constructor
  · intro agrees
    obtain ⟨⟨four, groups⟩, _⟩ := agrees
    refine ⟨four, ?_⟩
    intro group member
    obtain ⟨⟨some, _⟩, digits⟩ := groups group member
    exact ⟨List.length_pos_iff.mp some, digits⟩
  · intro shaped
    obtain ⟨four, groups⟩ := shaped
    obtain ⟨first, second, third, fourth, listed⟩ := List.length_eq_four.mp four
    have parts : ∀ group ∈ value.toList.splitOn '.', TfUtilities.isValidPart group = true := by
      rw [listed]
      simp only [TfUtilities.isValidIp, readIp_of_groups listed groups, Bool.and_eq_true,
        List.all_eq_true] at stored
      exact stored.2
    have short (group : List Char) (member : group ∈ value.toList.splitOn '.') :=
      length_le_of_isValidPart (groups group member).1 (groups group member).2
        (parts group member)
    refine ⟨⟨four, ?_⟩, ?_, ?_⟩
    · intro group member
      exact ⟨⟨List.length_pos_iff.mpr (groups group member).1, (short group member).1⟩,
        (groups group member).2⟩
    · intro group member
      exact (short group member).2
    · intro char member
      refine (mem_of_groups member).imp_left ?_
      intro found
      obtain ⟨group, listed, inside⟩ := found
      exact (groups group listed).2 char inside

end Addresses

/-- For every checked parameter, every text and every range of ports: whatever is
stored agrees with the daemon exactly if whatever is stored is well shaped. -/
theorem cli_agrees_iff (parameter : Parameter) (value : String) (first last : Nat) :
    (Stores parameter value first last → Agrees parameter value) ↔
      (Stores parameter value first last → WellShaped parameter value) := by
  refine imp_congr_right fun stored => ?_
  have checked := stores_checked stored
  cases parameter with
  | host => exact host_agrees_iff checked
  | timeUp => exact time_agrees_iff checked
  | timeDown => exact time_agrees_iff checked

/-- `24:00` is stored and the daemon does not accept it; a text that ends the
command and starts another one is stored too. -/
theorem midnight_is_stored :
    Stores .timeUp "24:00" 1 1 ∧ isValidTime "24:00" = none ∧
      Stores .timeDown "1:30;reboot" 1 1 ∧ ¬OnlyDigitsAnd ':' "1:30;reboot" ∧
      ¬(Stores .timeUp "24:00" 1 1 → Agrees .timeUp "24:00") := by
  have stored : Stores .timeUp "24:00" 1 1 := by
    decide
  have refused : isValidTime "24:00" = none := by
    decide
  have semicolon : ';' ∈ "1:30;reboot".toList := by
    decide
  refine ⟨stored, refused, by decide, fun plain => absurd (plain _ semicolon) (by decide), ?_⟩
  intro agrees
  obtain ⟨⟨time, _, valid⟩, _⟩ := agrees stored
  rw [refused] at valid
  cases valid

end CliAgreement

end TfortisPack.Autorestart
