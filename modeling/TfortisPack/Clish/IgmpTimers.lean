import Mathlib.Tactic.Linarith
import TfortisPack.Clish.PortRanges
import TfortisPack.Library.Runs

/-!
# IGMP timers (`igmp_config.lua`)

The commands set options of the section `network.switch`.  The two intervals of
the querier are given in seconds and stored in hundredths of a second; the
response interval is compared with the query interval when it is set, and both
go when the querier or IGMP snooping is switched off.

An option is kept as the number that its text stands for, and the arithmetic of
the commands is exact.
-/

namespace TfortisPack.Clish

open Library

namespace IgmpTimers

/-- `tostring` of a number, as the number that the text stands for.  It keeps 14 digits. -/
structure Printing where
  printed : ℚ → ℚ
  monotone : ∀ {left right}, left ≤ right → printed left ≤ printed right
  idempotent : ∀ value, printed (printed value) = printed value
  integer : ∀ number : Nat, number < 10 ^ 14 → printed number = number

/-- The texts of numbers that have 14 digits at most. -/
def exactPrinting : Printing where
  printed := fun value => value
  monotone := fun ordered => ordered
  idempotent := fun _ => rfl
  integer := fun _ _ => rfl

/-! ## The options -/

/-- `igmp_module.option`; the commands have the same order. -/
inductive IgmpOption where
  | igmpSnooping
  | hashMax
  | multicastQuerier
  | robustness
  | queryInterval
  | queryResponseInterval
  | lastMemberInterval
  deriving DecidableEq, Repr

/-- The options of `network.switch`. -/
abbrev Switch := IgmpOption → Option ℚ

def options : List IgmpOption :=
  [.igmpSnooping, .hashMax, .multicastQuerier, .robustness, .queryInterval,
    .queryResponseInterval, .lastMemberInterval]

/-- `tf.uci:set`. -/
def uciSet (switch : Switch) (option : IgmpOption) (value : ℚ) : Switch :=
  Function.update switch option (some value)

/-- The options from one position to another go. -/
def uciDelete (start stop : Nat) (switch : Switch) : Switch :=
  ((options.take stop).drop (start - 1)).foldl
    (fun switch option => Function.update switch option none) switch

/-- What `getIgmpSatus` makes of an option. -/
inductive Status where
  | notdef
  | zero
  | value (number : ℚ)

def getIgmpSatus (switch : Switch) (option : IgmpOption) : Status :=
  match switch option with
  | none => .notdef
  | some number => if number = 0 then .zero else .value number

def cantiSec : ℚ := 100

/-! ## The commands -/

section Commands

variable (printing : Printing)

/-- `state` and `multicast_querier`: the options from `start` on go with a 0; there is no message
for any other number than 0 and 1. -/
def configEnable (option : IgmpOption) (start : Nat) (stateValue : ℚ) (switch : Switch) :
    Switch × Option Failure :=
  let switch := uciSet switch option (printing.printed stateValue)
  if stateValue = 0 then (uciDelete start options.length switch, none)
  else if stateValue = 1 then (switch, none)
  else (switch, some .wroteNil)

def igmpConfigState : ℚ → Switch → Switch × Option Failure :=
  configEnable printing .igmpSnooping 1

def igmpConfigEnableMulticastQuerier : ℚ → Switch → Switch × Option Failure :=
  configEnable printing .multicastQuerier 3

/-- The options that need another option and have bounds. -/
def configBounded (needed option : IgmpOption) (lower upper factor : ℚ) (value : ℚ)
    (switch : Switch) : Switch × Option Failure :=
  match getIgmpSatus switch needed with
  | .notdef => (switch, none)
  | .zero => (switch, none)
  | .value _ =>
      if value < lower ∨ value > upper then (switch, none)
      else (uciSet switch option (printing.printed (value * factor)), none)

def igmpConfigMaxSnoopingTableSize : ℚ → Switch → Switch × Option Failure :=
  configBounded printing .igmpSnooping .hashMax 1 1024 1

def igmpConfigRobustness : ℚ → Switch → Switch × Option Failure :=
  configBounded printing .multicastQuerier .robustness 2 255 1

def igmpConfigQueryInterval : ℚ → Switch → Switch × Option Failure :=
  configBounded printing .multicastQuerier .queryInterval 60 600 cantiSec

def igmpConfigQueryResponseInterval (responseIntervalValue : ℚ) (switch : Switch) :
    Switch × Option Failure :=
  match getIgmpSatus switch .multicastQuerier with
  | .notdef => (switch, none)
  | .zero => (switch, none)
  | .value _ =>
      match getIgmpSatus switch .queryInterval with
      | .notdef => (switch, none)
      | .zero => (switch, none)
      | .value queryIntervalValue =>
          if responseIntervalValue ≥ queryIntervalValue / cantiSec then (switch, none)
          else
            (uciSet switch .queryResponseInterval
              (printing.printed (responseIntervalValue * cantiSec)), none)

/-- A querier that is switched off by a 0 does not hinder this one. -/
def igmpConfigLastMemberInterval (lastMemberInterval : ℚ) (switch : Switch) :
    Switch × Option Failure :=
  match getIgmpSatus switch .multicastQuerier with
  | .notdef => (switch, none)
  | _ =>
      if lastMemberInterval < 1 ∨ lastMemberInterval > 25 then (switch, none)
      else
        (uciSet switch .lastMemberInterval (printing.printed (lastMemberInterval * cantiSec)), none)

/-- `arg[1]`, by the option it is about, and the number in `arg[2]`. -/
structure Command where
  option : IgmpOption
  value : ℚ

/-- `config_igmp`. -/
def configIgmp (switch : Switch) (command : Command) : Switch × Option Failure :=
  match command.option with
  | .igmpSnooping => igmpConfigState printing command.value switch
  | .hashMax => igmpConfigMaxSnoopingTableSize printing command.value switch
  | .multicastQuerier => igmpConfigEnableMulticastQuerier printing command.value switch
  | .robustness => igmpConfigRobustness printing command.value switch
  | .queryInterval => igmpConfigQueryInterval printing command.value switch
  | .queryResponseInterval => igmpConfigQueryResponseInterval printing command.value switch
  | .lastMemberInterval => igmpConfigLastMemberInterval printing command.value switch

/-- The commands one after the other, with their errors. -/
def configuration : Machine Switch Command Failure where
  step switch command :=
    let result := configIgmp printing switch command
    (result.1, result.2.toList)

end Commands

/-! ## The relation -/

/-- Where both intervals are set, the response interval is the smaller one and the query interval
is within its bounds. -/
def InRelation (switch : Switch) : Prop :=
  ∀ query ∈ switch .queryInterval, ∀ response ∈ switch .queryResponseInterval,
    response < query ∧ 6000 ≤ query ∧ query ≤ 60000

/-- What is stored of the query interval. -/
def Bounded (printing : Printing) (switch : Switch) : Prop :=
  ∀ query ∈ switch .queryInterval,
    printing.printed query = query ∧ 6000 ≤ query ∧ query ≤ 60000

def QuerierOn (switch : Switch) : Prop :=
  ∃ number ∈ switch .multicastQuerier, number ≠ 0

/-- A query interval that is accepted stays above the response interval that is set, and a
response interval that is accepted is not rounded up to the query interval. -/
def Careful (printing : Printing) (switch : Switch) (command : Command) : Prop :=
  match command.option with
  | .queryInterval =>
      QuerierOn switch → 60 ≤ command.value → command.value ≤ 600 →
        ∀ response ∈ switch .queryResponseInterval,
          response < printing.printed (command.value * cantiSec)
  | .queryResponseInterval =>
      QuerierOn switch →
        ∀ query ∈ switch .queryInterval, command.value < query / cantiSec →
          printing.printed (command.value * cantiSec) ≠ query
  | _ => True

/-! ## What a command does to the intervals -/

/-- The two intervals are kept. -/
def SameIntervals (switch next : Switch) : Prop :=
  next .queryInterval = switch .queryInterval ∧
    next .queryResponseInterval = switch .queryResponseInterval

/-- Neither interval is set. -/
def NoIntervals (switch : Switch) : Prop :=
  switch .queryInterval = none ∧ switch .queryResponseInterval = none

theorem sameIntervals_uciSet {option : IgmpOption} (notQuery : option ≠ .queryInterval)
    (notResponse : option ≠ .queryResponseInterval) (switch : Switch) (value : ℚ) :
    SameIntervals switch (uciSet switch option value) :=
  ⟨Function.update_of_ne notQuery.symm _ _, Function.update_of_ne notResponse.symm _ _⟩

section Steps

variable {printing : Printing} {switch : Switch} {value : ℚ}

theorem intervals_configEnable {option : IgmpOption} {start : Nat}
    (notQuery : option ≠ .queryInterval) (notResponse : option ≠ .queryResponseInterval)
    (covered : ∀ switch, NoIntervals (uciDelete start options.length switch)) :
    NoIntervals (configEnable printing option start value switch).1 ∨
      SameIntervals switch (configEnable printing option start value switch).1 := by
  have kept := sameIntervals_uciSet notQuery notResponse switch (printing.printed value)
  rw [configEnable]
  split
  · exact Or.inl (covered _)
  · refine Or.inr ?_
    split
    · exact kept
    · exact kept

theorem intervals_configBounded {needed option : IgmpOption} {lower upper factor : ℚ}
    (notQuery : option ≠ .queryInterval) (notResponse : option ≠ .queryResponseInterval) :
    SameIntervals switch
      (configBounded printing needed option lower upper factor value switch).1 := by
  rw [configBounded]
  cases getIgmpSatus switch needed with
  | notdef => exact ⟨rfl, rfl⟩
  | zero => exact ⟨rfl, rfl⟩
  | value number =>
    dsimp only
    split
    · exact ⟨rfl, rfl⟩
    · exact sameIntervals_uciSet notQuery notResponse switch _

theorem intervals_lastMember :
    SameIntervals switch (igmpConfigLastMemberInterval printing value switch).1 := by
  have notQuery : IgmpOption.lastMemberInterval ≠ .queryInterval := by decide
  have notResponse : IgmpOption.lastMemberInterval ≠ .queryResponseInterval := by decide
  rw [igmpConfigLastMemberInterval]
  split
  · exact ⟨rfl, rfl⟩
  · split
    · exact ⟨rfl, rfl⟩
    · exact sameIntervals_uciSet notQuery notResponse switch _

/-- Any other command keeps the intervals or takes both away. -/
theorem intervals_of_other {command : Command} (notQuery : command.option ≠ .queryInterval)
    (notResponse : command.option ≠ .queryResponseInterval) :
    NoIntervals (configIgmp printing switch command).1 ∨
      SameIntervals switch (configIgmp printing switch command).1 := by
  obtain ⟨option, value⟩ := command
  cases option with
  | igmpSnooping =>
    exact intervals_configEnable (by decide) (by decide) fun _ => ⟨rfl, rfl⟩
  | multicastQuerier =>
    exact intervals_configEnable (by decide) (by decide) fun _ => ⟨rfl, rfl⟩
  | hashMax => exact Or.inr (intervals_configBounded (by decide) (by decide))
  | robustness => exact Or.inr (intervals_configBounded (by decide) (by decide))
  | lastMemberInterval => exact Or.inr intervals_lastMember
  | queryInterval => exact absurd rfl notQuery
  | queryResponseInterval => exact absurd rfl notResponse

theorem getIgmpSatus_of_ne_zero {option : IgmpOption} {number : ℚ}
    (stored : switch option = some number) (nonzero : number ≠ 0) :
    getIgmpSatus switch option = .value number := by
  rw [getIgmpSatus, stored]
  exact if_neg nonzero

theorem stored_of_getIgmpSatus {option : IgmpOption} {number : ℚ}
    (status : getIgmpSatus switch option = .value number) :
    switch option = some number ∧ number ≠ 0 := by
  rw [getIgmpSatus] at status
  split at status
  case h_1 => cases status
  case h_2 stored found =>
    split at status
    case isTrue => cases status
    case isFalse nonzero =>
      injection status with same
      rw [found, ← same]
      exact ⟨rfl, nonzero⟩

theorem queryInterval_accepted (on : QuerierOn switch) (above : 60 ≤ value) (below : value ≤ 600) :
    (igmpConfigQueryInterval printing value switch).1 =
      uciSet switch .queryInterval (printing.printed (value * cantiSec)) := by
  obtain ⟨number, stored, nonzero⟩ := on
  rw [igmpConfigQueryInterval, configBounded, getIgmpSatus_of_ne_zero stored nonzero]
  dsimp only
  rw [if_neg (by simp [above, below])]

theorem queryInterval_refused (refused : ¬(QuerierOn switch ∧ 60 ≤ value ∧ value ≤ 600)) :
    (igmpConfigQueryInterval printing value switch).1 = switch := by
  rw [igmpConfigQueryInterval, configBounded]
  cases status : getIgmpSatus switch .multicastQuerier with
  | notdef => rfl
  | zero => rfl
  | value number =>
    have on : QuerierOn switch := ⟨number, stored_of_getIgmpSatus status⟩
    have outside : value < 60 ∨ value > 600 := by
      by_contra inside
      rw [not_or, not_lt, gt_iff_lt, not_lt] at inside
      exact refused ⟨on, inside⟩
    dsimp only
    rw [if_pos outside]

theorem response_accepted {query : ℚ} (on : QuerierOn switch)
    (set : switch .queryInterval = some query) (nonzero : query ≠ 0)
    (smaller : value < query / cantiSec) :
    (igmpConfigQueryResponseInterval printing value switch).1 =
      uciSet switch .queryResponseInterval (printing.printed (value * cantiSec)) := by
  obtain ⟨number, stored, numberNonzero⟩ := on
  rw [igmpConfigQueryResponseInterval, getIgmpSatus_of_ne_zero stored numberNonzero,
    getIgmpSatus_of_ne_zero set nonzero]
  dsimp only
  rw [if_neg (not_le_of_gt smaller)]

theorem response_refused
    (refused : ¬(QuerierOn switch ∧ ∃ query ∈ switch .queryInterval, value < query / cantiSec)) :
    (igmpConfigQueryResponseInterval printing value switch).1 = switch := by
  rw [igmpConfigQueryResponseInterval]
  cases status : getIgmpSatus switch .multicastQuerier with
  | notdef => rfl
  | zero => rfl
  | value number =>
    have on : QuerierOn switch := ⟨number, stored_of_getIgmpSatus status⟩
    cases queryStatus : getIgmpSatus switch .queryInterval with
    | notdef => rfl
    | zero => rfl
    | value query =>
      have stored := (stored_of_getIgmpSatus queryStatus).1
      have larger : value ≥ query / cantiSec := by
        by_contra smaller
        exact refused ⟨on, query, stored, not_le.mp smaller⟩
      dsimp only
      rw [if_pos larger]

end Steps

/-! ## Steps -/

/-- All that a command can do to the intervals. -/
inductive Effect (printing : Printing) (switch : Switch) (command : Command) (next : Switch) : Prop
  | removed :
      command.option ≠ .queryInterval → command.option ≠ .queryResponseInterval →
      NoIntervals next → Effect printing switch command next
  | kept :
      (command.option = .queryInterval →
        ¬(QuerierOn switch ∧ 60 ≤ command.value ∧ command.value ≤ 600)) →
      (command.option = .queryResponseInterval →
        ¬(QuerierOn switch ∧ ∃ query ∈ switch .queryInterval, command.value < query / cantiSec)) →
      SameIntervals switch next → Effect printing switch command next
  | query :
      command.option = .queryInterval → QuerierOn switch →
      60 ≤ command.value → command.value ≤ 600 →
      next = uciSet switch .queryInterval (printing.printed (command.value * cantiSec)) →
      Effect printing switch command next
  | response (query : ℚ) :
      command.option = .queryResponseInterval → QuerierOn switch →
      switch .queryInterval = some query → command.value < query / cantiSec →
      next = uciSet switch .queryResponseInterval (printing.printed (command.value * cantiSec)) →
      Effect printing switch command next

section Steps

variable {printing : Printing} {switch : Switch} {value : ℚ}

theorem effect_queryInterval (value : ℚ) :
    Effect printing switch ⟨.queryInterval, value⟩
      (igmpConfigQueryInterval printing value switch).1 := by
  by_cases accepted : QuerierOn switch ∧ 60 ≤ value ∧ value ≤ 600
  · obtain ⟨on, above, below⟩ := accepted
    exact .query rfl on above below (queryInterval_accepted on above below)
  · refine .kept (fun _ => accepted) (fun different => absurd different (by simp)) ?_
    rw [queryInterval_refused accepted]
    exact ⟨rfl, rfl⟩

theorem effect_response (bounded : Bounded printing switch) (value : ℚ) :
    Effect printing switch ⟨.queryResponseInterval, value⟩
      (igmpConfigQueryResponseInterval printing value switch).1 := by
  by_cases accepted : QuerierOn switch ∧ ∃ query ∈ switch .queryInterval, value < query / cantiSec
  · obtain ⟨on, query, set, smaller⟩ := accepted
    have positive : query ≠ 0 := by
      have above := (bounded query set).2.1
      intro zero
      linarith
    exact .response query rfl on set smaller (response_accepted on set positive smaller)
  · refine .kept (fun different => absurd different (by simp)) (fun _ => accepted) ?_
    rw [response_refused accepted]
    exact ⟨rfl, rfl⟩

theorem effect_configIgmp (bounded : Bounded printing switch) (command : Command) :
    Effect printing switch command (configIgmp printing switch command).1 := by
  by_cases isQuery : command.option = .queryInterval
  · obtain ⟨option, value⟩ := command
    cases isQuery
    exact effect_queryInterval value
  · by_cases isResponse : command.option = .queryResponseInterval
    · obtain ⟨option, value⟩ := command
      cases isResponse
      exact effect_response bounded value
    · rcases intervals_of_other isQuery isResponse with removed | same
      · exact .removed isQuery isResponse removed
      · exact .kept (fun query => absurd query isQuery)
          (fun response => absurd response isResponse) same

/-- The number that is stored of an accepted query interval. -/
theorem bounds_printed (above : 60 ≤ value) (below : value ≤ 600) :
    6000 ≤ printing.printed (value * cantiSec) ∧
      printing.printed (value * cantiSec) ≤ 60000 := by
  have lower : printing.printed ((6000 : Nat) : ℚ) = ((6000 : Nat) : ℚ) :=
    printing.integer 6000 (by norm_num)
  have upper : printing.printed ((60000 : Nat) : ℚ) = ((60000 : Nat) : ℚ) :=
    printing.integer 60000 (by norm_num)
  have fromBelow : ((6000 : Nat) : ℚ) ≤ value * cantiSec := by
    norm_num [cantiSec]
    linarith
  have fromAbove : value * cantiSec ≤ ((60000 : Nat) : ℚ) := by
    norm_num [cantiSec]
    linarith
  have least := printing.monotone fromBelow
  have greatest := printing.monotone fromAbove
  rw [lower] at least
  rw [upper] at greatest
  exact ⟨by exact_mod_cast least, by exact_mod_cast greatest⟩

/-- The bounds of the query interval survive every command. -/
theorem bounded_next (command : Command) (bounded : Bounded printing switch) :
    Bounded printing (configIgmp printing switch command).1 := by
  intro query stored
  cases effect_configIgmp bounded command with
  | removed _ _ removed =>
    rw [removed.1] at stored
    cases stored
  | kept _ _ same =>
    rw [same.1] at stored
    exact bounded query stored
  | query _ on above below result =>
    rw [result, uciSet, Function.update_self, Option.mem_some_iff] at stored
    rw [← stored, printing.idempotent]
    exact ⟨rfl, bounds_printed above below⟩
  | response _ _ _ _ _ result =>
    rw [result, uciSet, Function.update_of_ne (by decide)] at stored
    exact bounded query stored

theorem careful_of_other {command : Command} (notQuery : command.option ≠ .queryInterval)
    (notResponse : command.option ≠ .queryResponseInterval) : Careful printing switch command := by
  rw [Careful]
  split
  · exact absurd ‹_› notQuery
  · exact absurd ‹_› notResponse
  · trivial

/-- The relation after a new query interval. -/
theorem inRelation_query_iff (above : 60 ≤ value) (below : value ≤ 600) :
    InRelation (uciSet switch .queryInterval (printing.printed (value * cantiSec))) ↔
      ∀ response ∈ switch .queryResponseInterval,
        response < printing.printed (value * cantiSec) := by
  constructor
  · intro related response set
    refine (related _ (Function.update_self _ _ _) response ?_).1
    rw [uciSet, Function.update_of_ne (by decide)]
    exact set
  · intro smaller query stored response set
    rw [uciSet, Function.update_self, Option.mem_some_iff] at stored
    rw [uciSet, Function.update_of_ne (by decide)] at set
    rw [← stored]
    exact ⟨smaller response set, bounds_printed above below⟩

/-- The relation after a new response interval, which can be rounded up to the query interval but
not above it. -/
theorem inRelation_response_iff {query : ℚ} (bounded : Bounded printing switch)
    (stored : switch .queryInterval = some query) (smaller : value < query / cantiSec) :
    InRelation (uciSet switch .queryResponseInterval (printing.printed (value * cantiSec))) ↔
      printing.printed (value * cantiSec) ≠ query := by
  obtain ⟨fixed, above, below⟩ := bounded query stored
  have still : uciSet switch .queryResponseInterval (printing.printed (value * cantiSec))
      .queryInterval = some query := by
    rw [uciSet, Function.update_of_ne (by decide)]
    exact stored
  have reaches : printing.printed (value * cantiSec) ≤ query := by
    have product : value * cantiSec ≤ query := by
      have scaled := (lt_div_iff₀ (show (0 : ℚ) < cantiSec by norm_num [cantiSec])).mp smaller
      exact scaled.le
    have rounded := printing.monotone product
    rw [fixed] at rounded
    exact rounded
  constructor
  · intro related
    exact ((related query still _ (Function.update_self _ _ _)).1).ne
  · intro different other otherStored response set
    rw [still, Option.mem_some_iff] at otherStored
    rw [uciSet, Function.update_self, Option.mem_some_iff] at set
    rw [← otherStored, ← set]
    exact ⟨lt_of_le_of_ne reaches different, above, below⟩

/-- A command keeps the relation exactly if it is careful. -/
theorem inRelation_next_iff (bounded : Bounded printing switch) (holds : InRelation switch)
    (command : Command) :
    InRelation (configIgmp printing switch command).1 ↔ Careful printing switch command := by
  cases effect_configIgmp bounded command with
  | removed notQuery notResponse removed =>
    refine iff_of_true (fun query stored => ?_) (careful_of_other notQuery notResponse)
    rw [removed.1] at stored
    cases stored
  | kept refusedQuery refusedResponse same =>
    refine iff_of_true (fun query stored response set => ?_) ?_
    · rw [same.1] at stored
      rw [same.2] at set
      exact holds query stored response set
    · rw [Careful]
      split
      case h_1 isQuery =>
        exact fun on above below => absurd ⟨on, above, below⟩ (refusedQuery isQuery)
      case h_2 isResponse =>
        exact fun on query stored smaller =>
          absurd ⟨on, query, stored, smaller⟩ (refusedResponse isResponse)
      case h_3 => trivial
  | query isQuery on above below result =>
    obtain ⟨option, value⟩ := command
    cases isQuery
    rw [result, inRelation_query_iff above below]
    exact ⟨fun smaller _ _ _ => smaller, fun careful => careful on above below⟩
  | response query isResponse on stored smaller result =>
    obtain ⟨option, value⟩ := command
    cases isResponse
    rw [result, inRelation_response_iff bounded stored smaller]
    constructor
    · intro different _ other otherStored _
      rw [stored, Option.mem_some_iff] at otherStored
      rw [← otherStored]
      exact different
    · exact fun careful => careful on query stored smaller

end Steps

/-! ## Runs -/

/-- A configuration in which no command has set an interval. -/
structure Unconfigured where
  switch : Switch
  query : switch .queryInterval = none
  response : switch .queryResponseInterval = none

/-- The relation holds after every command of a run exactly if no command of it sets an interval
that the other one does not allow. -/
theorem timer_relation_iff (printing : Printing) (start : Unconfigured) (commands : List Command) :
    (configuration printing).AllStates InRelation start.switch commands ↔
      (configuration printing).AllSteps (Careful printing) start.switch commands := by
  have initially : Bounded printing start.switch := by
    intro query stored
    rw [start.query] at stored
    cases stored
  have related : InRelation start.switch := by
    intro query stored
    rw [start.query] at stored
    cases stored
  have stays : ∀ switch command, Bounded printing switch →
      Bounded printing ((configuration printing).next switch command) :=
    fun _ command bounded => bounded_next command bounded
  exact Machine.allStates_iff_allSteps stays
    (fun _ command bounded holds => inRelation_next_iff bounded holds command) initially related

def unconfigured : Unconfigured where
  switch := fun _ => none
  query := rfl
  response := rfl

/-- The querier on, intervals of 600 and 500 seconds, and then a query interval of 60. -/
def loweredInterval : List Command :=
  [⟨.multicastQuerier, 1⟩, ⟨.queryInterval, 600⟩, ⟨.queryResponseInterval, 500⟩,
    ⟨.queryInterval, 60⟩]

theorem lowered_interval_breaks_relation :
    ¬∀ (printing : Printing) (start : Unconfigured) (commands : List Command),
      (configuration printing).AllStates InRelation start.switch commands := by
  intro all
  have states := all exactPrinting unconfigured loweredInterval
  have query : (configuration exactPrinting).final unconfigured.switch loweredInterval
      .queryInterval = some (60 * 100) := by
    decide +kernel
  have response : (configuration exactPrinting).final unconfigured.switch loweredInterval
      .queryResponseInterval = some (500 * 100) := by
    decide +kernel
  have last := (states.final _ query _ response).1
  norm_num at last

end IgmpTimers

end TfortisPack.Clish
