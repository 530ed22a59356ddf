import TfortisPack.DeviceMonitor.SettingsText
import TfortisPack.Library.Shell
import Mathlib.Data.List.TakeWhile

/-!
# Settings values in shell commands

Six handlers of `settings_module.c` build an `uci set` from their value and hand
it to a shell.  A value stands in brackets; each bracket is replaced by a quote
character, wherever it stands.
-/

namespace TfortisPack.DeviceMonitor

open TfortisPack.Library

/-! ## Values and commands -/

/-- A text that fits, in brackets, into the slot of a value: a C string of at most
`SETTINGS_VALUE_LENGTH - 3` characters. -/
structure ValueText where
  bytes : List UInt8
  noNul : 0 ∉ bytes
  short : bytes.length ≤ 125

def ValueText.value (text : ValueText) : List UInt8 :=
  91 :: (text.bytes ++ [93])

/-- The settings that carry a value. -/
inductive ValueSetting where
  | ipAddress
  | netMask
  | gateway
  | systemName
  | systemLocation
  | snmp
  deriving DecidableEq, Repr

namespace ValueSetting

def cmd : ValueSetting → SettingsCmd
  | ipAddress => .ipAddress
  | netMask => .netMask
  | gateway => .gateway
  | systemName => .systemName
  | systemLocation => .systemLocation
  | snmp => .snmp

/-- The option that is set, with the equals sign. -/
def key : ValueSetting → List UInt8
  | ipAddress => bytesOf "network.lan.ipaddr="
  | netMask => bytesOf "network.lan.netmask="
  | gateway => bytesOf "network.lan.gateway="
  | systemName => bytesOf "system.@system[0].description="
  | systemLocation => bytesOf "system.@system[0].location="
  | snmp => bytesOf "snmpd.general.enabled="

/-- The words of the command that sets the option to a text. -/
def words (setting : ValueSetting) (text : List UInt8) : List (List UInt8) :=
  [bytesOf "uci", bytesOf "set", setting.key ++ text]

/-- The handler returns, and one of its commands is the single simple command that sets the
option to the text. -/
def Sets (host : SettingsHost) (setting : ValueSetting) (info : SettingsInfo)
    (inData text : List UInt8) : Prop :=
  ∃ result, runSetingsCmd host setting.cmd inData info = some result ∧
    ∃ command ∈ result.1, Shell.shellWords command = some (setting.words text)

/-- The handlers that keep what follows the first line. -/
def KeepsLines (host : SettingsHost) (setting : ValueSetting) : Prop :=
  host.locationTestFlag = true ∧ (setting = .systemName ∨ setting = .systemLocation)

instance (host : SettingsHost) (setting : ValueSetting) : Decidable (KeepsLines host setting) :=
  inferInstanceAs (Decidable (_ ∧ _))

/-- The handler builds a command at all. -/
def Builds (host : SettingsHost) (setting : ValueSetting) (inData : List UInt8) : Prop :=
  match setting with
  | ipAddress => host.protoLines ≠ 0
  | netMask => True
  | gateway => checkGateWayValid inData = 0
  | _ => inData ≠ []

/-- A text without brackets and quotes, on one line where the handler cuts the value, that fits
into the buffer of the command. -/
structure Quotable (host : SettingsHost) (setting : ValueSetting) (text : ValueText) : Prop where
  builds : Builds host setting text.value
  noQuote : 39 ∉ text.bytes
  noOpening : 91 ∉ text.bytes
  noClosing : 93 ∉ text.bytes
  oneLine : KeepsLines host setting ∨ CText.newline ∉ text.bytes
  fits : (bytesOf "uci set ").length + setting.key.length + text.bytes.length + 2 < 128

/-! ## The command that is built -/

/-- What is appended to the start of the command. -/
def added (host : SettingsHost) (setting : ValueSetting) (inData : List UInt8) : List UInt8 :=
  if KeepsLines host setting then quote inData else firstLine (quote inData)

def start (setting : ValueSetting) : List UInt8 :=
  bytesOf "uci set " ++ setting.key

theorem run_start (setting : ValueSetting) :
    Shell.run .start setting.start =
      some ⟨.plain, some setting.key, [bytesOf "uci", bytesOf "set"]⟩ := by
  cases setting <;> decide +kernel

/-- The words of the command that is built, read from behind its start. -/
theorem shellWords_start (setting : ValueSetting) (behind : List UInt8) :
    Shell.shellWords (setting.start ++ behind) =
      (Shell.run ⟨.plain, some setting.key, [bytesOf "uci", bytesOf "set"]⟩ behind).bind
        Shell.finish := by
  rw [Shell.shellWords, Shell.run_append, setting.run_start, Option.bind_some]

theorem locationData_eq (host : SettingsHost) {setting : ValueSetting}
    (keeps : setting = .systemName ∨ setting = .systemLocation) (inData : List UInt8) :
    locationData host inData = added host setting inData := by
  unfold locationData added
  by_cases flag : host.locationTestFlag = true
  · have kept : KeepsLines host setting := ⟨flag, keeps⟩
    rw [if_pos flag, if_pos kept]
  · have cut : ¬KeepsLines host setting := fun kept => flag kept.1
    rw [if_neg flag, if_neg cut]

theorem added_of_cut (host : SettingsHost) {setting : ValueSetting}
    (name : setting ≠ .systemName) (location : setting ≠ .systemLocation)
    (inData : List UInt8) :
    added host setting inData = firstLine (quote inData) := by
  apply if_neg
  intro keeps
  rcases keeps.2 with isName | isLocation
  · exact name isName
  · exact location isLocation

/-- The commands of a handler that do not hold the value. -/
def fixed (setting : ValueSetting) : List (List UInt8) :=
  match setting with
  | ipAddress =>
      [bytesOf "uci show network.lan.proto", bytesOf "uci set network.lan.proto='static'"]
  | netMask => []
  | gateway => [bytesOf "uci del network.lan.gateway", bytesOf "uci commit network"]
  | systemName => [bytesOf "uci commit system"]
  | systemLocation => [bytesOf "uci commit system"]
  | snmp => [bytesOf "uci commit snmpd", bytesOf "/etc/init.d/snmpd reload"]

/-- The words of a command set another option or none. -/
def misses (setting : ValueSetting) (command : List UInt8) : Bool :=
  match Shell.shellWords command with
  | some [_, verb, word] => verb ≠ bytesOf "set" || !setting.key.isPrefixOf word
  | _ => true

theorem fixed_misses (setting : ValueSetting) : setting.fixed.all setting.misses = true := by
  cases setting <;> decide +kernel

theorem shellWords_ne_of_misses {setting : ValueSetting} {command : List UInt8}
    (missed : setting.misses command = true) (text : List UInt8) :
    Shell.shellWords command ≠ some (setting.words text) := by
  intro read
  simp only [misses, read, words] at missed
  have start : setting.key.isPrefixOf (setting.key ++ text) = true :=
    List.isPrefixOf_iff_prefix.mpr (List.prefix_append _ _)
  simp [start] at missed

/-! ## What a handler runs -/

section Handlers

variable (host : SettingsHost) (setting : ValueSetting) (info : SettingsInfo)
  (inData : List UInt8)

/-- A handler that builds a command runs it beside fixed commands, and is undefined
if its buffer does not hold it. -/
theorem runSetingsCmd_of_builds (builds : Builds host setting inData) :
    ∃ commands : List UInt8 → List (List UInt8), ∃ raised,
      runSetingsCmd host setting.cmd inData info =
          (mainCommand setting.start (added host setting inData)).map
            (fun command => (commands command, raised)) ∧
        ∀ command, command ∈ commands command ∧
          ∀ other ∈ commands command, other = command ∨ other ∈ setting.fixed := by
  cases setting with
  | ipAddress =>
      refine ⟨fun command => bytesOf "uci show network.lan.proto" ::
        (List.replicate host.protoLines
          [bytesOf "uci set network.lan.proto='static'", command]).flatten,
        { info with applyNetwork := true }, ?_, ?_⟩
      · simp only [runSetingsCmd, cmd, runSetIp]
        rw [if_neg builds, added_of_cut host (by decide) (by decide)]
        rfl
      · intro command
        have printed : host.protoLines ≠ 0 := builds
        simp only [List.mem_cons, List.mem_flatten, List.mem_replicate, fixed]
        refine ⟨Or.inr ⟨_, ⟨printed, rfl⟩, by simp⟩, ?_⟩
        rintro other (rfl | ⟨_, ⟨_, rfl⟩, member⟩)
        · simp
        · simp only [List.mem_cons, List.not_mem_nil, or_false] at member ⊢
          rcases member with static | same
          · exact Or.inr (Or.inr static)
          · exact Or.inl same
  | netMask =>
      refine ⟨fun command => [command], { info with applyNetwork := true }, ?_, ?_⟩
      · simp only [runSetingsCmd, cmd, runSetMask]
        rw [added_of_cut host (by decide) (by decide)]
        rfl
      · simp
  | gateway =>
      refine ⟨fun command => [command, bytesOf "uci commit network"],
        { info with applyNetwork := true }, ?_, ?_⟩
      · have valid : checkGateWayValid inData = 0 := builds
        simp only [runSetingsCmd, cmd, runSetGate]
        rw [if_pos valid, added_of_cut host (by decide) (by decide)]
        rfl
      · simp [fixed]
  | systemName =>
      refine ⟨fun command => command :: [bytesOf "uci commit system"],
        { info with applySystem := true }, ?_, ?_⟩
      · simp only [runSetingsCmd, cmd, runSetDescription, setIfGiven]
        rw [if_neg builds, locationData_eq host (Or.inl rfl)]
        rfl
      · simp [fixed]
  | systemLocation =>
      refine ⟨fun command => command :: [bytesOf "uci commit system"],
        { info with applySystem := true }, ?_, ?_⟩
      · simp only [runSetingsCmd, cmd, runSetLocation, setIfGiven]
        rw [if_neg builds, locationData_eq host (Or.inr rfl)]
        rfl
      · simp [fixed]
  | snmp =>
      refine ⟨fun command =>
        command :: [bytesOf "uci commit snmpd", bytesOf "/etc/init.d/snmpd reload"],
        { info with applyNetwork := true }, ?_, ?_⟩
      · simp only [runSetingsCmd, cmd, runSetSnmp, setIfGiven]
        rw [if_neg builds, added_of_cut host (by decide) (by decide)]
        rfl
      · simp [fixed]

theorem runSetingsCmd_of_not_builds (builds : ¬Builds host setting inData) :
    ∃ result, runSetingsCmd host setting.cmd inData info = some result ∧
      ∀ other ∈ result.1, other ∈ setting.fixed := by
  cases setting with
  | ipAddress =>
      have silent : host.protoLines = 0 := not_not.mp builds
      refine ⟨_, if_pos silent, ?_⟩
      simp [fixed]
  | netMask =>
      exact absurd trivial builds
  | gateway =>
      refine ⟨_, if_neg builds, ?_⟩
      simp [fixed]
  | _ =>
      have empty : inData = [] := not_not.mp builds
      exact ⟨_, if_pos empty, by simp⟩

/-- Only the command that holds the value can set the option to a text. -/
theorem sets_iff (text : List UInt8) :
    Sets host setting info inData text ↔
      Builds host setting inData ∧
        setting.start.length + (added host setting inData).length < 128 ∧
        Shell.shellWords (setting.start ++ added host setting inData) =
          some (setting.words text) := by
  have others : ∀ other ∈ setting.fixed,
      Shell.shellWords other ≠ some (setting.words text) := by
    intro other member
    exact shellWords_ne_of_misses (List.all_eq_true.mp setting.fixed_misses other member) text
  by_cases builds : Builds host setting inData
  · obtain ⟨commands, raised, ran, among⟩ :=
      runSetingsCmd_of_builds host setting info inData builds
    unfold Sets
    rw [ran, mainCommand]
    split
    · rename_i fits
      constructor
      · rintro ⟨result, made, command, member, read⟩
        obtain rfl := Option.some.inj made
        rcases (among _).2 command member with same | isFixed
        · rw [same] at read
          exact ⟨builds, fits, read⟩
        · exact absurd read (others command isFixed)
      · rintro ⟨_, _, read⟩
        exact ⟨_, rfl, _, (among _).1, read⟩
    · rename_i overflows
      constructor
      · rintro ⟨result, made, _⟩
        exact nomatch made
      · rintro ⟨_, fits, _⟩
        exact absurd fits overflows
  · constructor
    · rintro ⟨result, made, command, member, read⟩
      obtain ⟨found, ran, among⟩ :=
        runSetingsCmd_of_not_builds host setting info inData builds
      rw [ran] at made
      obtain rfl := Option.some.inj made
      exact absurd read (others command (among command member))
    · rintro ⟨built, _⟩
      exact absurd built builds

end Handlers

/-! ## The quotes around the text -/

section Quotes

variable {host : SettingsHost} {setting : ValueSetting} {text : ValueText}

theorem quote_eq_self {bytes : List UInt8} :
    quote bytes = bytes ↔ 91 ∉ bytes ∧ 93 ∉ bytes := by
  induction bytes with
  | nil =>
      simp [quote]
  | cons byte rest inductionHypothesis =>
      have head : (if byte = 91 ∨ byte = 93 then 39 else byte) = byte ↔
          91 ≠ byte ∧ 93 ≠ byte := by
        split
        · rename_i bracket
          rcases bracket with rfl | rfl <;> decide
        · rename_i other
          rw [not_or] at other
          exact iff_of_true rfl ⟨Ne.symm other.1, Ne.symm other.2⟩
      simp only [quote, List.map_cons, List.cons.injEq] at inductionHypothesis ⊢
      rw [head, inductionHypothesis]
      simp only [List.mem_cons, not_or]
      constructor
      · rintro ⟨⟨opening, closing⟩, opens, closes⟩
        exact ⟨⟨opening, opens⟩, closing, closes⟩
      · rintro ⟨⟨opening, opens⟩, closing, closes⟩
        exact ⟨⟨opening, closing⟩, opens, closes⟩

theorem quote_value : quote text.value = 39 :: (quote text.bytes ++ [39]) := by
  simp [quote, ValueText.value]

/-- What stands behind the opening quote. -/
def body (host : SettingsHost) (setting : ValueSetting) (text : ValueText) : List UInt8 :=
  if KeepsLines host setting then quote text.bytes ++ [39]
  else firstLine (quote text.bytes ++ [39])

theorem added_value : added host setting text.value = 39 :: body host setting text := by
  unfold added body
  rw [quote_value]
  split
  · rfl
  · rw [firstLine, List.takeWhile_cons_of_pos (by decide)]
    rfl

theorem body_start (host : SettingsHost) (setting : ValueSetting) (text : ValueText) :
    body host setting text <+: quote text.bytes ++ [39] := by
  unfold body
  split
  · exact List.prefix_rfl
  · exact List.takeWhile_prefix _

theorem body_eq_iff :
    body host setting text = text.bytes ++ [39] ↔
      91 ∉ text.bytes ∧ 93 ∉ text.bytes ∧
        (KeepsLines host setting ∨ CText.newline ∉ text.bytes) := by
  have cutWhole : firstLine (text.bytes ++ [39]) = text.bytes ++ [39] ↔
      CText.newline ∉ text.bytes := by
    rw [firstLine, List.takeWhile_eq_self_iff]
    simp only [List.mem_append, List.mem_singleton, decide_eq_true_eq]
    constructor
    · intro others member
      exact others _ (Or.inl member) rfl
    · rintro free letter (member | rfl)
      · exact fun same => free (same ▸ member)
      · decide
  constructor
  · intro whole
    have unchanged : quote text.bytes = text.bytes := by
      have start : text.bytes ++ [39] <+: quote text.bytes ++ [39] :=
        whole ▸ body_start host setting text
      have same := start.eq_of_length (by simp [quote])
      exact (List.append_cancel_right same).symm
    obtain ⟨opening, closing⟩ := quote_eq_self.mp unchanged
    refine ⟨opening, closing, ?_⟩
    unfold body at whole
    split at whole
    · rename_i keeps
      exact Or.inl keeps
    · rw [unchanged] at whole
      exact Or.inr (cutWhole.mp whole)
  · rintro ⟨opening, closing, lines⟩
    unfold body
    rw [quote_eq_self.mpr ⟨opening, closing⟩]
    split
    · rfl
    · rename_i cuts
      exact cutWhole.mpr (lines.resolve_left cuts)

theorem length_body_le : (body host setting text).length ≤ text.bytes.length + 1 := by
  have short := (body_start host setting text).length_le
  simpa [quote] using short

theorem body_ends (whole : (body host setting text).length = text.bytes.length + 1) :
    ∃ front, body host setting text = front ++ [39] := by
  have same := (body_start host setting text).eq_of_length
    (by simp [whole, quote])
  exact ⟨_, same⟩

/-- The text arrives exactly if it needs no quoting beyond the brackets. -/
theorem shellWords_added :
    Shell.shellWords (setting.start ++ added host setting text.value) =
        some (setting.words text.bytes) ↔
      39 ∉ text.bytes ∧ body host setting text = text.bytes ++ [39] := by
  rw [shellWords_start, added_value]
  constructor
  · intro read
    exact Shell.eq_quoted_of_read [bytesOf "uci", bytesOf "set"] read length_body_le body_ends
  · rintro ⟨noQuote, whole⟩
    rw [whole, Shell.run_quoted _ noQuote]
    rfl

/-- A handler sets its option to the text exactly if the text is quotable. -/
theorem sets_value_iff (info : SettingsInfo) :
    Sets host setting info text.value text.bytes ↔ Quotable host setting text := by
  rw [sets_iff, shellWords_added, body_eq_iff]
  have startLength : setting.start.length =
      (bytesOf "uci set ").length + setting.key.length := List.length_append
  constructor
  · rintro ⟨builds, fits, noQuote, opening, closing, lines⟩
    have whole := body_eq_iff.mpr ⟨opening, closing, lines⟩
    rw [added_value, whole, startLength] at fits
    simp only [List.length_cons, List.length_append, List.length_nil] at fits
    exact ⟨builds, noQuote, opening, closing, lines, by omega⟩
  · intro quotable
    have whole := body_eq_iff.mpr
      ⟨quotable.noOpening, quotable.noClosing, quotable.oneLine⟩
    refine ⟨quotable.builds, ?_, quotable.noQuote, quotable.noOpening, quotable.noClosing,
      quotable.oneLine⟩
    have fits := quotable.fits
    rw [added_value, whole, startLength]
    simp only [List.length_cons, List.length_append, List.length_nil]
    omega

end Quotes

/-! ## From the message to the handler -/

section Message

variable {host : SettingsHost} {setting : ValueSetting} {text : ValueText}

/-- The item of a settings message that carries a value. -/
def message (setting : ValueSetting) (text : ValueText) : List UInt8 :=
  settingsTable setting.cmd ++ equals :: text.value

/-- The handler that is called for the first item of the message, and its value. -/
def received (setting : ValueSetting) (text : ValueText) : Option (SettingsCmd × List UInt8) := do
  let item ← (splitLine hash (message setting text)).tokens 0
  let slot ← getCmdType (splitLine equals item) noSlot
  let cmd ← settingsCmds[slot.cmd]?
  let inData ← stringOf slot.value
  some (cmd, inData)

theorem key_free (setting : ValueSetting) :
    hash ∉ settingsTable setting.cmd ∧ equals ∉ settingsTable setting.cmd ∧
      0 ∉ settingsTable setting.cmd ∧ settingsTable setting.cmd ≠ [] ∧
      findCmd (settingsTable setting.cmd) = some setting.cmd := by
  cases setting <;> decide +kernel

theorem mem_value_iff {letter : UInt8} (opening : letter ≠ 91) (closing : letter ≠ 93) :
    letter ∈ text.value ↔ letter ∈ text.bytes := by
  simp [ValueText.value, opening, closing]

theorem message_noNul : 0 ∉ message setting text := by
  have key := (key_free setting).2.2.1
  have value : (0 : UInt8) ∉ text.value := by
    rw [mem_value_iff (by decide) (by decide)]
    exact text.noNul
  simp only [message, List.mem_append, List.mem_cons, not_or]
  exact ⟨key, by decide, value⟩

theorem received_of_free (noHash : hash ∉ text.bytes) (noEquals : equals ∉ text.bytes) :
    received setting text = some (setting.cmd, text.value) := by
  obtain ⟨keyHash, keyEquals, _, keyNonempty, known⟩ := key_free setting
  have valueEquals : equals ∉ text.value := by
    rw [mem_value_iff (by decide) (by decide)]
    exact noEquals
  have valueNoNul : 0 ∉ text.value := by
    rw [mem_value_iff (by decide) (by decide)]
    exact text.noNul
  have messageHash : hash ∉ message setting text := by
    simp only [message, List.mem_append, List.mem_cons, not_or]
    refine ⟨keyHash, by decide, ?_⟩
    rw [mem_value_iff (by decide) (by decide)]
    exact noHash
  have item : (splitLine hash (message setting text)).tokens 0 =
      some (message setting text) := by
    have one := Texts.tokens_of_free messageHash (by simp [message])
    have few : (Texts.tokens hash (message setting text)).length < 256 := by simp [one]
    have first := tokens_of_few few (Nat.zero_le _)
    rw [one] at first
    exact first
  have pair : Texts.tokens equals (message setting text) =
      [settingsTable setting.cmd, text.value] := by
    rw [message, Texts.tokens_append_cons, Texts.tokens_of_free keyEquals keyNonempty,
      Texts.tokens_of_free valueEquals (by simp [ValueText.value])]
    rfl
  obtain ⟨first, second⟩ := tokens_pair pair
  have short : text.value.length < 128 := by
    have most := text.short
    simp only [ValueText.value, List.length_cons, List.length_append, List.length_nil]
    omega
  simp only [received, item, getCmdType, first, second, known, Option.bind_eq_bind,
    Option.bind_some, Option.map_some, settingsCmds_index, stringOf_copyValue valueNoNul,
    if_pos short]

/-- The separators of the message do not reach a handler. -/
theorem free_of_received {inData : List UInt8} (info : SettingsInfo)
    (gets : received setting text = some (setting.cmd, inData))
    (returns : (runSetingsCmd host setting.cmd inData info).isSome = true) :
    hash ∉ inData ∧ equals ∉ inData := by
  simp only [received, Option.bind_eq_bind, Option.bind_eq_some_iff, Option.some.injEq,
    Prod.mk.injEq] at gets
  obtain ⟨item, isItem, slot, fills, _, names, _, holds, rfl, rfl⟩ := gets
  have member := mem_of_splitLine_tokens isItem
  have noNul : 0 ∉ item := fun zero => message_noNul (Texts.mem_of_mem_tokens member zero)
  obtain ⟨_, _, _, second, _⟩ := named_of_fills noNul fills names holds returns
  have token := mem_of_splitLine_tokens second
  constructor
  · intro inToken
    exact Texts.free_of_mem_tokens member (Texts.mem_of_mem_tokens token inToken)
  · exact Texts.free_of_mem_tokens token

theorem not_mem_added {letter : UInt8} {inData : List UInt8} (noQuote : letter ≠ 39)
    (free : letter ∉ inData) : letter ∉ added host setting inData := by
  have quoted : letter ∉ quote inData := by
    intro member
    obtain ⟨byte, inside, becomes⟩ := List.mem_map.mp member
    split at becomes
    · exact noQuote becomes.symm
    · exact free (becomes ▸ inside)
  unfold added
  split
  · exact quoted
  · exact fun member => quoted (List.takeWhile_subset _ member)

theorem not_mem_of_sets {letter : UInt8} {inData bytes : List UInt8} {info : SettingsInfo}
    (noQuote : letter ≠ 39) (free : letter ∉ inData)
    (sets : Sets host setting info inData bytes) : letter ∉ bytes := by
  obtain ⟨_, _, read⟩ := (sets_iff host setting info inData bytes).mp sets
  rw [shellWords_start] at read
  exact Shell.not_mem_of_read [bytesOf "uci", bytesOf "set"] read (not_mem_added noQuote free)

/-- The handlers set their option to the text in brackets exactly if it is quotable, and from a
message exactly if it holds no separator besides. -/
theorem setting_value_iff (host : SettingsHost) (setting : ValueSetting) (info : SettingsInfo)
    (text : ValueText) :
    (Sets host setting info text.value text.bytes ↔ Quotable host setting text) ∧
      ((∃ inData, received setting text = some (setting.cmd, inData) ∧
          Sets host setting info inData text.bytes) ↔
        Quotable host setting text ∧ hash ∉ text.bytes ∧ equals ∉ text.bytes) := by
  refine ⟨sets_value_iff info, ?_, ?_⟩
  · rintro ⟨inData, gets, sets⟩
    have returns : (runSetingsCmd host setting.cmd inData info).isSome = true := by
      obtain ⟨result, ran, _⟩ := sets
      rw [ran]
      rfl
    obtain ⟨noHash, noEquals⟩ := free_of_received info gets returns
    have textHash := not_mem_of_sets (by decide) noHash sets
    have textEquals := not_mem_of_sets (by decide) noEquals sets
    rw [received_of_free textHash textEquals] at gets
    obtain rfl := congrArg Prod.snd (Option.some.inj gets)
    exact ⟨(sets_value_iff info).mp sets, textHash, textEquals⟩
  · rintro ⟨quotable, noHash, noEquals⟩
    exact ⟨_, received_of_free noHash noEquals, (sets_value_iff info).mpr quotable⟩

/-- A mask with a bracket in its text: the bracket becomes a quote and is lost. -/
theorem setting_value_with_bracket :
    ¬∀ host setting info, ∀ text : ValueText, Builds host setting text.value →
      Sets host setting info text.value text.bytes := by
  intro quotes
  have sets := quotes ⟨1, false⟩ .netMask .cleared
    ⟨[97, 91, 98], by decide, by decide⟩ trivial
  exact ((sets_value_iff _).mp sets).noOpening (by simp)

end Message

end ValueSetting

end TfortisPack.DeviceMonitor
