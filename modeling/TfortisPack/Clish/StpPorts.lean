import TfortisPack.Clish.PortRanges
import TfortisPack.Library.Words

/-!
# STP port commands (`config_stp_port.lua`)

A command sets one option in the `mstpd` sections of the switch ports in a
range.  Each option has a setter of its own, which looks at the third argument.
-/

namespace TfortisPack.Clish

open Library
open Library.LuaNumerals (tonumber)
open VlanCli (Text portText)

namespace StpPorts

/-- The options of a section. -/
abbrev Options := Text → Option Text

/-- The sections of `mstpd` by name. -/
abbrev Config := Text → Option Options

/-- `uci:set`, which refuses a section that is not there. -/
def uciSet (config : Config) (port option value : Text) : Config :=
  match config port with
  | none => config
  | some options => Function.update config port (some (Function.update options option (some value)))

inductive PortCommand where
  | treeprio
  | pathcost
  | adminedge
  | autoedge
  | bpdufilter
  | bpduguard
  deriving DecidableEq, Repr

/-- `cmd` of a command, which is also the name of its option. -/
def PortCommand.cmd : PortCommand → Text
  | .treeprio => ['t', 'r', 'e', 'e', 'p', 'r', 'i', 'o']
  | .pathcost => ['p', 'a', 't', 'h', 'c', 'o', 's', 't']
  | .adminedge => ['a', 'd', 'm', 'i', 'n', 'e', 'd', 'g', 'e']
  | .autoedge => ['a', 'u', 't', 'o', 'e', 'd', 'g', 'e']
  | .bpdufilter => ['b', 'p', 'd', 'u', 'f', 'i', 'l', 't', 'e', 'r']
  | .bpduguard => ['b', 'p', 'd', 'u', 'g', 'u', 'a', 'r', 'd']

def yes : Text := ['y', 'e', 's']

def no : Text := ['n', 'o']

/-! ## The setters -/

def configPortPriority (value port : Text) (config : Config) : Except Failure Config :=
  match tonumber value with
  | none => .error .comparedNil
  | some number =>
      if number ≥ 0 ∧ number ≤ 15 then .ok (uciSet config port PortCommand.treeprio.cmd value)
      else .ok config

/-- The two bounds are joined by `or`. -/
def configPortPathcost (value port : Text) (config : Config) : Except Failure Config :=
  match tonumber value with
  | none => .error .comparedNil
  | some number =>
      if number ≥ 0 ∨ number ≤ 200000000 then
        .ok (uciSet config port PortCommand.pathcost.cmd value)
      else .ok config

/-- The setters of the options that are `yes` or `no`. -/
def configYesNo (option value port : Text) (config : Config) : Except Failure Config :=
  if value = yes ∨ value = no then .ok (uciSet config port option value) else .ok config

def configPortAdminEdge : Text → Text → Config → Except Failure Config :=
  configYesNo PortCommand.adminedge.cmd

def configPortAutoEdge : Text → Text → Config → Except Failure Config :=
  configYesNo PortCommand.autoedge.cmd

def configPortBpduFilter : Text → Text → Config → Except Failure Config :=
  configYesNo PortCommand.bpdufilter.cmd

/-- The value that is set is `arg[2]`, the name of the command. -/
def configPortBpduGuard (command value port : Text) (config : Config) : Except Failure Config :=
  match tonumber value with
  | none => .error .comparedNil
  | some number =>
      if number ≥ 6 ∧ number ≤ 40 then .ok (uciSet config port PortCommand.bpduguard.cmd command)
      else .ok config

/-! ## The script -/

/-- The numbers in a text, each with a blank behind it. -/
def getPort (inputString : Text) : Text :=
  (words (fun letter => !letter.isDigit) inputString).foldl
    (fun numbers word =>
      match Lua.tonumber word with
      | some number => numbers ++ Lua.tostring number ++ [' ']
      | none => numbers)
    []

def PortCommand.func (command : PortCommand) (arg2 arg3 : Text) :
    Text → Config → Except Failure Config :=
  match command with
  | .treeprio => configPortPriority arg3
  | .pathcost => configPortPathcost arg3
  | .adminedge => configPortAdminEdge arg3
  | .autoedge => configPortAutoEdge arg3
  | .bpdufilter => configPortBpduFilter arg3
  | .bpduguard => configPortBpduGuard arg2 arg3

def cmdPortList : List PortCommand :=
  [.treeprio, .pathcost, .adminedge, .autoedge, .bpdufilter, .bpduguard]

/-- The commands of the name `arg[2]` for one port. -/
def runPort (arg2 arg3 portStr : Text) (config : Config) : Except Failure Config :=
  cmdPortList.foldlM
    (fun config value =>
      if arg2 = value.cmd then value.func arg2 arg3 portStr config else .ok config)
    config

/-- The loop over the ports of the switch; an error leaves what has been set. -/
def runPorts (portRange : PortRange) (arg2 arg3 : Text) :
    List Text → Config → Config × Option Failure
  | [], config => (config, none)
  | portStr :: rest, config =>
      match tonumber (getPort portStr) with
      | none => (config, some .comparedNil)
      | some portNum =>
          if portNum ≥ portRange.min ∧ portNum ≤ portRange.max then
            match runPort arg2 arg3 portStr config with
            | .error failure => (config, some failure)
            | .ok next => runPorts portRange arg2 arg3 rest next
          else runPorts portRange arg2 arg3 rest config

def runConfigStpPort (portList : List Text) (arg1 arg2 arg3 : Text) (config : Config) :
    Config × Option Failure :=
  match checkPortRange arg1 with
  | .error failure => (config, some failure)
  | .ok none => (config, none)
  | .ok (some portRange) => runPorts portRange arg2 arg3 portList config

/-! ## What a command is for -/

/-- A text of the range grammar with the range it stands for. -/
structure RangeArgument where
  text : Text
  range : PortRange
  grammar : Grammar text range

/-- The values of an option. -/
def Legal (command : PortCommand) (value : Text) : Prop :=
  match command with
  | .treeprio => ∃ number ∈ tonumber value, 0 ≤ number ∧ number ≤ 15
  | .pathcost => ∃ number ∈ tonumber value, 0 ≤ number ∧ number ≤ 200000000
  | .adminedge => value = yes ∨ value = no
  | .autoedge => value = yes ∨ value = no
  | .bpdufilter => value = yes ∨ value = no
  | .bpduguard => ∃ number ∈ tonumber value, 6 ≤ number ∧ number ≤ 40

/-- The section of a switch port in the range. -/
def Selected (ports : List Nat) (range : PortRange) (name : Text) : Prop :=
  ∃ port ∈ ports, portText port .untagged = name ∧ range.min ≤ port ∧ (port : ℚ) ≤ range.max

/-- What a command has to make of the configuration. -/
structure Configured (ports : List Nat) (range : PortRange) (command : PortCommand) (value : Text)
    (before after : Config) : Prop where
  selected : ∀ name, Selected ports range name → Legal command value →
    after name = (before name).map fun options =>
      Function.update options command.cmd (some value)
  others : ∀ name, ¬(Selected ports range name ∧ Legal command value) → after name = before name

/-! ## Ports -/

/-- The number in the name of a port is the number of the port. -/
theorem tonumber_getPort (num : Nat) :
    tonumber (getPort (portText num .untagged)) = some (num : ℚ) := by
  have digits : ∀ letter ∈ Lua.tostring num, (!letter.isDigit) = false := fun letter member => by
    rw [Lua.isDigit_of_mem_tostring member]
    rfl
  have letters : ∀ letter ∈ ['l', 'a', 'n'], (!letter.isDigit) = true :=
    List.all_eq_true.mp (by decide)
  have stops : BlankFirst (fun letter : Char => !letter.isDigit) [] := fun _ member => by
    cases member
  have number : words (fun letter => !letter.isDigit) (Lua.tostring num) = [Lua.tostring num] := by
    have whole := words_append (Lua.tostring_ne_nil num) digits stops
    rwa [List.append_nil] at whole
  have name : words (fun letter => !letter.isDigit) (portText num .untagged) =
      [Lua.tostring num] := by
    rw [portText, List.append_nil, words_append_of_blank letters, number]
  rw [getPort, name, List.foldl_cons, List.foldl_nil, Lua.tonumber_tostring]
  exact LuaNumerals.tonumber_append_blank (Lua.tonumber_tostring num)

/-! ## What a setter writes -/

/-- What the setter of a command puts into the option, if anything. -/
def PortCommand.written (command : PortCommand) (value : Text) : Except Failure (Option Text) :=
  match command, tonumber value with
  | .treeprio, none => .error .comparedNil
  | .treeprio, some number => .ok (if number ≥ 0 ∧ number ≤ 15 then some value else none)
  | .pathcost, none => .error .comparedNil
  | .pathcost, some number => .ok (if number ≥ 0 ∨ number ≤ 200000000 then some value else none)
  | .bpduguard, none => .error .comparedNil
  | .bpduguard, some number =>
      .ok (if number ≥ 6 ∧ number ≤ 40 then some PortCommand.bpduguard.cmd else none)
  | .adminedge, _ => .ok (if value = yes ∨ value = no then some value else none)
  | .autoedge, _ => .ok (if value = yes ∨ value = no then some value else none)
  | .bpdufilter, _ => .ok (if value = yes ∨ value = no then some value else none)

def store (config : Config) (port option : Text) : Option Text → Config
  | none => config
  | some text => uciSet config port option text

theorem set_or_keep (condition : Prop) [Decidable condition] (config : Config)
    (port option text : Text) :
    (if condition then .ok (uciSet config port option text) else .ok config) =
      (Except.ok (if condition then some text else none) : Except Failure (Option Text)).map
        (store config port option) := by
  split
  · rfl
  · rfl

theorem func_eq (command : PortCommand) (value port : Text) (config : Config) :
    command.func command.cmd value port config =
      (command.written value).map (store config port command.cmd) := by
  cases command with
  | treeprio =>
    rw [PortCommand.func, PortCommand.written.eq_def, configPortPriority]
    cases tonumber value with
    | none => rfl
    | some number => exact set_or_keep _ config port _ value
  | pathcost =>
    rw [PortCommand.func, PortCommand.written.eq_def, configPortPathcost]
    cases tonumber value with
    | none => rfl
    | some number => exact set_or_keep _ config port _ value
  | bpduguard =>
    rw [PortCommand.func, PortCommand.written.eq_def, configPortBpduGuard]
    cases tonumber value with
    | none => rfl
    | some number => exact set_or_keep _ config port _ _
  | adminedge => exact set_or_keep _ config port _ value
  | autoedge => exact set_or_keep _ config port _ value
  | bpdufilter => exact set_or_keep _ config port _ value

theorem cmd_injective {left right : PortCommand} (same : left.cmd = right.cmd) : left = right := by
  cases left <;> cases right <;> first | rfl | exact absurd same (by decide)

/-- Exactly one entry of the command list has the name of a command. -/
theorem runPort_cmd (command : PortCommand) (value port : Text) (config : Config) :
    runPort command.cmd value port config =
      (command.written value).map (store config port command.cmd) := by
  rw [← func_eq]
  have skipped : ∀ (commands : List PortCommand) (config : Config), command ∉ commands →
      commands.foldlM (fun config other =>
        if command.cmd = other.cmd then other.func command.cmd value port config
        else .ok config) config = (.ok config : Except Failure Config) := by
    intro commands
    induction commands with
    | nil => exact fun _ _ => rfl
    | cons other rest inductionHypothesis =>
      intro config absent
      rw [List.mem_cons, not_or] at absent
      have different : command.cmd ≠ other.cmd := fun same => absent.1 (cmd_injective same)
      rw [List.foldlM_cons, if_neg different]
      exact inductionHypothesis config absent.2
  have listed : command ∈ cmdPortList := by
    cases command <;> decide
  obtain ⟨before, behind, split⟩ := List.append_of_mem listed
  have distinct : (before ++ command :: behind).Nodup := by
    rw [← split]
    decide
  rw [List.nodup_middle, List.nodup_cons, List.mem_append, not_or] at distinct
  rw [runPort, split, List.foldlM_append, skipped before config distinct.1.1]
  change (if command.cmd = command.cmd then command.func command.cmd value port config
    else .ok config) >>= _ = _
  rw [if_pos rfl]
  cases ran : command.func command.cmd value port config with
  | error failure => rfl
  | ok next => exact skipped behind next distinct.1.2

/-! ## The loop over the ports -/

/-- What a value that is written makes of the options of a section. -/
def overwritten (option : Text) : Option Text → Options → Options
  | none, options => options
  | some text, options => Function.update options option (some text)

theorem store_self (config : Config) (port option : Text) (stored : Option Text) :
    store config port option stored port = (config port).map (overwritten option stored) := by
  cases stored with
  | none => exact Option.map_id'.symm
  | some text =>
    rw [store, uciSet]
    cases found : config port with
    | none => simp [found]
    | some options => simp [overwritten]

theorem store_of_ne {name port : Text} (different : name ≠ port) (config : Config) (option : Text)
    (stored : Option Text) : store config port option stored name = config name := by
  cases stored with
  | none => rfl
  | some text =>
    rw [store, uciSet]
    cases config port with
    | none => rfl
    | some options => exact Function.update_of_ne different _ _

/-- Writing twice is writing once. -/
theorem overwritten_twice (option : Text) (stored : Option Text) (options : Options) :
    overwritten option stored (overwritten option stored options) =
      overwritten option stored options := by
  cases stored with
  | none => rfl
  | some text => exact Function.update_idem _ _ _

/-- `final` is `before` with the value written in the sections of the selected ports. -/
structure Written (selected : Text → Prop) (option : Text) (stored : Option Text)
    (before final : Config) : Prop where
  inside : ∀ name, selected name → final name = (before name).map (overwritten option stored)
  outside : ∀ name, ¬selected name → final name = before name

section Loop

variable {range : PortRange} {command : PortCommand} {value : Text}

theorem selected_cons_iff {port : Nat} {rest : List Nat} {name : Text} :
    Selected (port :: rest) range name ↔
      (portText port .untagged = name ∧ range.min ≤ port ∧ (port : ℚ) ≤ range.max) ∨
        Selected rest range name := by
  simp only [Selected, List.exists_mem_cons_iff]

theorem not_selected_nil (name : Text) : ¬Selected [] range name := by
  simp [Selected]

theorem Written.selected_cons {port : Nat} {rest : List Nat} {stored : Option Text}
    {config final : Config} (inRange : range.min ≤ port ∧ (port : ℚ) ≤ range.max)
    (later : Written (Selected rest range) command.cmd stored
      (store config (portText port .untagged) command.cmd stored) final) :
    Written (Selected (port :: rest) range) command.cmd stored config final := by
  refine ⟨fun name selected => ?_, fun name absent => ?_⟩
  · by_cases same : name = portText port .untagged
    · by_cases again : Selected rest range name
      · rw [later.inside name again, same, store_self, Option.map_map]
        congr 1
        exact funext (overwritten_twice command.cmd stored)
      · rw [later.outside name again, same, store_self]
    · have inRest : Selected rest range name := by
        rcases selected_cons_iff.mp selected with first | inRest
        · exact absurd first.1.symm same
        · exact inRest
      rw [later.inside name inRest, store_of_ne same]
  · rw [selected_cons_iff, not_or] at absent
    have different : name ≠ portText port .untagged := fun same => absent.1 ⟨same.symm, inRange⟩
    rw [later.outside name absent.2, store_of_ne different]

theorem Written.selected_skip {port : Nat} {rest : List Nat} {stored : Option Text}
    {config final : Config} (outOfRange : ¬(range.min ≤ port ∧ (port : ℚ) ≤ range.max))
    (later : Written (Selected rest range) command.cmd stored config final) :
    Written (Selected (port :: rest) range) command.cmd stored config final := by
  have same : ∀ name, Selected (port :: rest) range name ↔ Selected rest range name :=
    fun name => selected_cons_iff.trans (or_iff_right fun first => outOfRange first.2)
  exact ⟨fun name selected => later.inside name ((same name).mp selected),
    fun name absent => later.outside name fun selected => absent ((same name).mpr selected)⟩

/-- A value that the setter looks at is written, or not, in every selected section. -/
theorem written_runPorts {stored : Option Text} (written : command.written value = .ok stored)
    (ports : List Nat) (config : Config) :
    Written (Selected ports range) command.cmd stored config
      (runPorts range command.cmd value (ports.map (portText · .untagged)) config).1 := by
  induction ports generalizing config with
  | nil => exact ⟨fun name selected => absurd selected (not_selected_nil name), fun _ _ => rfl⟩
  | cons port rest inductionHypothesis =>
    rw [List.map_cons, runPorts, tonumber_getPort]
    by_cases inRange : range.min ≤ port ∧ (port : ℚ) ≤ range.max
    · simp only [if_pos inRange, ge_iff_le, runPort_cmd, written, Except.map]
      exact (inductionHypothesis _).selected_cons inRange
    · simp only [if_neg inRange, ge_iff_le]
      exact (inductionHypothesis config).selected_skip inRange

/-- An error comes before anything is set. -/
theorem runPorts_of_error {failure : Failure} (written : command.written value = .error failure)
    (ports : List Nat) (config : Config) :
    (runPorts range command.cmd value (ports.map (portText · .untagged)) config).1 = config := by
  induction ports with
  | nil => rfl
  | cons port rest inductionHypothesis =>
    rw [List.map_cons, runPorts, tonumber_getPort]
    by_cases inRange : range.min ≤ port ∧ (port : ℚ) ≤ range.max
    · simp only [if_pos inRange, ge_iff_le, runPort_cmd, written, Except.map]
    · simp only [if_neg inRange, ge_iff_le]
      exact inductionHypothesis

end Loop

/-! ## Where the right value is written -/

section Configured

variable {ports : List Nat} {argument : RangeArgument} {command : PortCommand} {value : Text}
  {config : Config}

/-- The configuration after a command. -/
def configured (ports : List Nat) (argument : RangeArgument) (command : PortCommand) (value : Text)
    (config : Config) : Config :=
  (runConfigStpPort (ports.map (portText · .untagged)) argument.text command.cmd value config).1

theorem configured_eq :
    configured ports argument command value config =
      (runPorts argument.range command.cmd value (ports.map (portText · .untagged)) config).1 := by
  rw [configured, runConfigStpPort, checkPortRange_of_grammar argument.grammar]

variable (ports argument config) in
theorem written_configured {stored : Option Text} (written : command.written value = .ok stored) :
    Written (Selected ports argument.range) command.cmd stored config
      (configured ports argument command value config) := by
  rw [configured_eq]
  exact written_runPorts written ports config

/-- A legal value that is written as it is. -/
theorem configured_of_legal (legal : Legal command value)
    (written : command.written value = .ok (some value)) :
    Configured ports argument.range command value config
      (configured ports argument command value config) where
  selected := fun name selected _ => (written_configured ports argument config written).inside name selected
  others := fun name notBoth =>
    (written_configured ports argument config written).outside name fun selected => notBoth ⟨selected, legal⟩

theorem configured_of_unchanged (illegal : ¬Legal command value)
    (unchanged : configured ports argument command value config = config) :
    Configured ports argument.range command value config
      (configured ports argument command value config) where
  selected := fun _ _ legal => absurd legal illegal
  others := fun name _ => congrFun unchanged name

theorem configured_of_illegal (illegal : ¬Legal command value)
    (written : command.written value = .ok none) :
    Configured ports argument.range command value config
      (configured ports argument command value config) := by
  refine configured_of_unchanged illegal (funext fun name => ?_)
  by_cases selected : Selected ports argument.range name
  · rw [(written_configured ports argument config written).inside name selected]
    exact Option.map_id'
  · exact (written_configured ports argument config written).outside name selected

theorem configured_of_error (failure : Failure) (illegal : ¬Legal command value)
    (written : command.written value = .error failure) :
    Configured ports argument.range command value config
      (configured ports argument command value config) := by
  refine configured_of_unchanged illegal ?_
  rw [configured_eq]
  exact runPorts_of_error written ports config

/-- An illegal value that is written is noticed unless it has been there before. -/
theorem configured_iff_of_illegal (illegal : ¬Legal command value)
    (written : command.written value = .ok (some value)) :
    Configured ports argument.range command value config
        (configured ports argument command value config) ↔
      ∀ name, Selected ports argument.range name →
        ∀ options ∈ config name, options command.cmd = some value := by
  have result := written_configured ports argument config written
  constructor
  · intro right name selected options found
    have unchanged := right.others name fun both => illegal both.2
    rw [result.inside name selected, found, Option.map_some, Option.some.injEq, overwritten,
      Function.update_eq_self_iff] at unchanged
    exact unchanged.symm
  · intro present
    refine ⟨fun _ _ legal => absurd legal illegal, fun name _ => ?_⟩
    by_cases selected : Selected ports argument.range name
    · rw [result.inside name selected]
      cases found : config name with
      | none => rfl
      | some options =>
        rw [Option.map_some, overwritten, Function.update_eq_self_iff.mpr]
        exact (present name selected options found).symm
    · exact result.outside name selected

/-- Another text written for a legal value is noticed wherever there is a section. -/
theorem configured_iff_of_other {other : Text} (legal : Legal command value)
    (written : command.written value = .ok (some other)) (different : other ≠ value) :
    Configured ports argument.range command value config
        (configured ports argument command value config) ↔
      ∀ name, Selected ports argument.range name → config name = none := by
  have result := written_configured ports argument config written
  constructor
  · intro right name selected
    have changed := right.selected name selected legal
    rw [result.inside name selected] at changed
    cases found : config name with
    | none => rfl
    | some options =>
      rw [found, Option.map_some, Option.map_some, Option.some.injEq] at changed
      have read := congrFun changed command.cmd
      rw [overwritten, Function.update_self, Function.update_self, Option.some.injEq] at read
      exact absurd read different
  · intro absent
    refine ⟨fun name selected _ => ?_, fun name notBoth => ?_⟩
    · rw [result.inside name selected, absent name selected]
      rfl
    · exact result.outside name fun selected => notBoth ⟨selected, legal⟩

end Configured

/-- Where a command does what it is for: a path cost has to be legal, no number at all or set
already, and a guard must not be legal or meet no section. -/
def Succeeds (ports : List Nat) (range : PortRange) (command : PortCommand) (value : Text)
    (config : Config) : Prop :=
  match command with
  | .pathcost =>
      Legal .pathcost value ∨ tonumber value = none ∨
        ∀ name, Selected ports range name →
          ∀ options ∈ config name, options PortCommand.pathcost.cmd = some value
  | .bpduguard =>
      ¬Legal .bpduguard value ∨ ∀ name, Selected ports range name → config name = none
  | .treeprio => True
  | .adminedge => True
  | .autoedge => True
  | .bpdufilter => True

section Commands

variable (ports : List Nat) (argument : RangeArgument) (value : Text) (config : Config)

theorem configured_treeprio :
    Configured ports argument.range .treeprio value config
      (configured ports argument .treeprio value config) := by
  cases number : tonumber value with
  | none =>
    refine configured_of_error .comparedNil ?_ ?_
    · simp [Legal, number]
    · simp [PortCommand.written, number]
  | some found =>
    by_cases inside : 0 ≤ found ∧ found ≤ 15
    · refine configured_of_legal ?_ ?_
      · exact ⟨found, number, inside⟩
      · simp [PortCommand.written, number, inside]
    · refine configured_of_illegal ?_ ?_
      · simpa [Legal, number] using inside
      · simp only [PortCommand.written, number, ge_iff_le, if_neg inside]

theorem configured_pathcost_iff :
    Configured ports argument.range .pathcost value config
        (configured ports argument .pathcost value config) ↔
      Succeeds ports argument.range .pathcost value config := by
  cases number : tonumber value with
  | none =>
    have right : Configured ports argument.range .pathcost value config
        (configured ports argument .pathcost value config) := by
      refine configured_of_error .comparedNil ?_ ?_
      · simp [Legal, number]
      · simp [PortCommand.written, number]
    exact ⟨fun _ => Or.inr (Or.inl number), fun _ => right⟩
  | some found =>
    have always : found ≥ 0 ∨ found ≤ 200000000 := by
      rcases le_total 0 found with positive | negative
      · exact Or.inl positive
      · exact Or.inr (negative.trans (by norm_num))
    have written : PortCommand.pathcost.written value = .ok (some value) := by
      simp only [PortCommand.written, number, if_pos always]
    by_cases legal : Legal .pathcost value
    · exact ⟨fun _ => Or.inl legal, fun _ => configured_of_legal legal written⟩
    · rw [configured_iff_of_illegal legal written, Succeeds, or_iff_right legal, number,
        or_iff_right (by simp)]

theorem configured_bpduguard_iff :
    Configured ports argument.range .bpduguard value config
        (configured ports argument .bpduguard value config) ↔
      Succeeds ports argument.range .bpduguard value config := by
  by_cases legal : Legal .bpduguard value
  · have bounds := legal
    obtain ⟨found, number, inside⟩ := bounds
    have read : tonumber value = some found := number
    have written : PortCommand.bpduguard.written value =
        .ok (some PortCommand.bpduguard.cmd) := by
      simp [PortCommand.written, read, inside]
    have different : PortCommand.bpduguard.cmd ≠ value := by
      rintro rfl
      exact absurd read (by simp [show tonumber PortCommand.bpduguard.cmd = none from rfl])
    rw [configured_iff_of_other legal written different, Succeeds,
      or_iff_right (not_not_intro legal)]
  · refine iff_of_true ?_ (Or.inl legal)
    cases number : tonumber value with
    | none =>
      exact configured_of_error .comparedNil legal (by
        simp [PortCommand.written, number])
    | some found =>
      have outside : ¬(6 ≤ found ∧ found ≤ 40) := fun inside => legal ⟨found, number, inside⟩
      exact configured_of_illegal legal (by
        simp only [PortCommand.written, number, ge_iff_le, if_neg outside])

/-- The three setters of `yes` and `no`. -/
theorem configured_yesNo {command : PortCommand}
    (legal : Legal command value ↔ value = yes ∨ value = no)
    (written : command.written value =
      .ok (if value = yes ∨ value = no then some value else none)) :
    Configured ports argument.range command value config
      (configured ports argument command value config) := by
  by_cases known : value = yes ∨ value = no
  · rw [if_pos known] at written
    exact configured_of_legal (legal.mpr known) written
  · rw [if_neg known] at written
    exact configured_of_illegal (fun isLegal => known (legal.mp isLegal)) written

/-- A port command leaves exactly the legal value in the sections of the ports in the range and
nothing else changed, except for the path cost and the guard. -/
theorem stp_port_command_iff (command : PortCommand) :
    Configured ports argument.range command value config
        (configured ports argument command value config) ↔
      Succeeds ports argument.range command value config := by
  cases command with
  | treeprio => exact iff_of_true (configured_treeprio ports argument value config) trivial
  | pathcost => exact configured_pathcost_iff ports argument value config
  | adminedge =>
    exact iff_of_true (configured_yesNo ports argument value config Iff.rfl rfl) trivial
  | autoedge =>
    exact iff_of_true (configured_yesNo ports argument value config Iff.rfl rfl) trivial
  | bpdufilter =>
    exact iff_of_true (configured_yesNo ports argument value config Iff.rfl rfl) trivial
  | bpduguard => exact configured_bpduguard_iff ports argument value config

end Commands

/-- `bpduguard 20` for port 5 stores the name of the command. -/
theorem guard_stores_its_name :
    ¬∀ (ports : List Nat) (argument : RangeArgument) (command : PortCommand) (value : Text)
      (config : Config),
      Configured ports argument.range command value config
        (configured ports argument command value config) := by
  intro all
  have grammar : Grammar ['5'] { min := (5 : Nat), max := (5 : Nat), kind := .once } :=
    .once (by decide)
  let argument : RangeArgument := ⟨['5'], _, grammar⟩
  have right := all [5] argument .bpduguard ['2', '0'] fun _ => some fun _ => none
  have number : tonumber ['2', '0'] = some ((20 : Nat) : ℚ) :=
    LuaNumerals.tonumber_of_digits (by decide)
  have legal : Legal .bpduguard ['2', '0'] := ⟨_, number, by norm_num, by norm_num⟩
  have selected : Selected [5] argument.range (portText 5 .untagged) :=
    ⟨5, List.mem_cons_self, rfl, le_refl _, le_refl _⟩
  rcases (configured_bpduguard_iff [5] argument ['2', '0'] _).mp right with illegal | absent
  · exact illegal legal
  · exact absurd (absent _ selected) (by simp)

end StpPorts

end TfortisPack.Clish
