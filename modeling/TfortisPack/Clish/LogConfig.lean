import Mathlib.Logic.Function.Basic
import TfortisPack.Clish.PortRanges
import TfortisPack.Library.Runs

/-!
# The log configuration (`log_config.lua`, `log_module.lua`)

Filters, actions and rules are unnamed sections of the configuration `log`,
which the commands tell apart by their option `name`.  A command reads the
sections of its type into a table by name and then adds, changes or deletes a section
through `ubus`.  The quotes of the shell and of JSON are left out: a text is sent
as it is.
-/

namespace TfortisPack.Clish

open Library
open Library.Lua (Pairs)
open VlanCli (Text)

namespace LogConfig

/-! ## Sections -/

inductive Kind where
  | filter
  | action
  | rule
  deriving DecidableEq, Repr

/-- The options of the three types. -/
inductive Param where
  | name
  | facility
  | severity
  | progname
  | content
  | action
  | logEmail
  | logSyslog
  | filter
  deriving DecidableEq, Repr

def Param.text : Param → Text
  | .name => ['n', 'a', 'm', 'e']
  | .facility => ['f', 'a', 'c', 'i', 'l', 'i', 't', 'y']
  | .severity => ['s', 'e', 'v', 'e', 'r', 'i', 't', 'y']
  | .progname => ['p', 'r', 'o', 'g', 'n', 'a', 'm', 'e']
  | .content => ['c', 'o', 'n', 't', 'e', 'n', 't']
  | .action => ['a', 'c', 't', 'i', 'o', 'n']
  | .logEmail => ['l', 'o', 'g', '_', 'e', 'm', 'a', 'i', 'l']
  | .logSyslog => ['l', 'o', 'g', '_', 's', 'y', 's', 'l', 'o', 'g']
  | .filter => ['f', 'i', 'l', 't', 'e', 'r']

/-- The value of an option or the items of a list option. -/
inductive Value where
  | text (value : Text)
  | list (items : List Text)
  deriving DecidableEq, Repr

/-- A section with the number that stands for its generated name. -/
structure Section where
  id : Nat
  type : Kind
  options : Param → Option Value

/-- An option that is not a list. -/
def Section.text (dict : Section) (param : Param) : Option Text :=
  match dict.options param with
  | some (.text value) => some value
  | _ => none

/-- A number that no section of a list has. -/
def freshId : List Section → Nat
  | [] => 0
  | dict :: rest => max (dict.id + 1) (freshId rest)

/-- The configuration `log`. -/
structure Store where
  sections : List Section
  distinct : (sections.map Section.id).Nodup

theorem id_lt_freshId {sections : List Section} {dict : Section} (member : dict ∈ sections) :
    dict.id < freshId sections := by
  induction sections with
  | nil => cases member
  | cons first rest inductionHypothesis =>
    rw [freshId]
    rcases List.mem_cons.mp member with same | later
    · rw [same]
      omega
    · have below := inductionHypothesis later
      omega

/-- The values of a `uci set`. -/
abbrev Values := List (Param × Value)

def setValues (options : Param → Option Value) (values : Values) : Param → Option Value :=
  values.foldl (fun options value => Function.update options value.1 (some value.2)) options

/-- `uci add` -/
def uciAdd (type : Kind) (store : Store) : Store where
  sections := store.sections ++ [{ id := freshId store.sections, type, options := fun _ => none }]
  distinct := by
    rw [List.map_append, List.map_singleton, List.nodup_append]
    refine ⟨store.distinct, List.nodup_singleton _, fun id member other last => ?_⟩
    obtain ⟨dict, listed, rfl⟩ := List.mem_map.mp member
    rw [List.mem_singleton.mp last]
    exact Nat.ne_of_lt (id_lt_freshId listed)

def Section.setIf (id : Nat) (values : Values) (dict : Section) : Section :=
  if dict.id = id then { dict with options := setValues dict.options values } else dict

theorem Section.id_setIf (id : Nat) (values : Values) (dict : Section) :
    (dict.setIf id values).id = dict.id := by
  rw [Section.setIf]
  split
  · rfl
  · rfl

/-- `uci set` of a section; the type that is passed with it selects nothing. -/
def uciSet (id : Nat) (values : Values) (store : Store) : Store where
  sections := store.sections.map (Section.setIf id values)
  distinct := by
    have ids : Section.id ∘ Section.setIf id values = Section.id :=
      funext (Section.id_setIf id values)
    rw [List.map_map, ids]
    exact store.distinct

/-- `uci delete` -/
def uciDelete (id : Nat) (store : Store) : Store where
  sections := store.sections.filter fun dict => dict.id ≠ id
  distinct := store.distinct.sublist (List.filter_sublist.map Section.id)

/-! ## Tables -/

/-- The entry `section` of a table by name. -/
abbrev ListConfig := Text → Option Nat

def noList : ListConfig := fun _ => none

/-- The sections of one type that have a name go into the table. -/
def readSection (type : Kind) (listConfig : ListConfig) (dict : Section) : ListConfig :=
  if dict.type = type then
    match dict.text .name with
    | some name => Function.update listConfig name (some dict.id)
    | none => listConfig
  else listConfig

def readSections (type : Kind) (pairs : Pairs) (store : Store) (listConfig : ListConfig) :
    ListConfig :=
  (pairs.order store.sections).foldl (readSection type) listConfig

def getFilterList : Pairs → Store → ListConfig → ListConfig :=
  readSections .filter

def getActionList : Pairs → Store → ListConfig → ListConfig :=
  readSections .action

def getRulesList : Pairs → Store → ListConfig → ListConfig :=
  readSections .rule

/-! ## Arguments -/

/-- The table that `log_getparam` fills. -/
abbrev Args := Param → Option Text

/-- From the third argument on, names of parameters and values alternate.  A name has to be at the
place that it has in the list of the parameters. -/
def logGetparam : List Param → List Text → Args → Args
  | param :: params, key :: value :: rest, argList =>
      logGetparam params rest
        (if key = param.text ∧ value ≠ [] then Function.update argList param (some value)
        else argList)
  | _, _, argList => argList

def filterParamList : List Param := [.name, .facility, .severity, .progname, .content]

def actionParamList : List Param := [.name, .action, .logEmail, .logSyslog]

def ruleParamList : List Param := [.name, .filter, .action]

/-! ## Editing -/

/-- `tf.parse_emails` and `tf.parse_ip`, which keep the valid addresses of a list. -/
structure Addresses where
  parseEmails : Text → List Text
  parseIp : Text → List Text

/-- What is sent for an argument; a list without a valid address has one empty item. -/
def sentValue (addresses : Addresses) (param : Param) (argument : Text) : Value :=
  let items (valid : List Text) : Value := .list (if valid = [] then [[]] else valid)
  match param with
  | .logEmail => items (addresses.parseEmails argument)
  | .logSyslog => items (addresses.parseIp argument)
  | _ => .text argument

def sentValues (addresses : Addresses) (params : List Param) (argList : Args) : Values :=
  params.filterMap fun param =>
    (argList param).map fun argument => (param, sentValue addresses param argument)

/-- The three functions `log_..._edit`: a section that is not found is added first, with the
type `added`, and gets the name. -/
def logEdit (added : Kind) (params : List Param) (addresses : Addresses) (argList : Args)
    (found : Option Nat) (store : Store) : Store :=
  match found with
  | none =>
      let values := sentValues addresses (.name :: params) argList
      if values.isEmpty then uciAdd added store
      else uciSet (freshId store.sections) values (uciAdd added store)
  | some id =>
      let values := sentValues addresses params argList
      if values.isEmpty then store else uciSet id values store

def logFilterEdit : Addresses → Args → Option Nat → Store → Store :=
  logEdit .filter [.facility, .severity, .progname, .content]

def logActionEdit : Addresses → Args → Option Nat → Store → Store :=
  logEdit .action [.action, .logEmail, .logSyslog]

/-- The section is added with `log_ubus_cmd_add_action`. -/
def logRuleEdit : Addresses → Args → Option Nat → Store → Store :=
  logEdit .action [.filter, .action]

/-! ## Handlers -/

inductive Verb where
  | add
  | edit
  | delete
  deriving DecidableEq, Repr

structure Command where
  kind : Kind
  verb : Verb
  /-- `arg[3]` and those behind it. -/
  arguments : List Text
  deriving DecidableEq, Repr

/-- What the commands find outside of the configuration. -/
structure Surroundings where
  pairs : Pairs
  addresses : Addresses

section Handlers

variable (surroundings : Surroundings)

/-- `listConfig[name]`, where the name may be `nil`. -/
def findByName (name : Option Text) (listConfig : ListConfig) : Option Nat :=
  name.bind listConfig

/-- A section that is not found is reported by its name. -/
def deleteByName (name : Option Text) (listConfig : ListConfig) (store : Store) :
    Store × Option Failure :=
  match findByName name listConfig, name with
  | some id, _ => (uciDelete id store, none)
  | none, some _ => (store, none)
  | none, none => (store, some .joinedNil)

def filterHandler (verb : Verb) (arguments : List Text) (store : Store) :
    Store × Option Failure :=
  let argList := logGetparam filterParamList arguments fun _ => none
  let listConfig := getFilterList surroundings.pairs store noList
  let name := argList .name
  match verb with
  | .delete => deleteByName name listConfig store
  | _ => (logFilterEdit surroundings.addresses argList (findByName name listConfig) store, none)

def actionHandler (verb : Verb) (arguments : List Text) (store : Store) :
    Store × Option Failure :=
  let argList := logGetparam actionParamList arguments fun _ => none
  let listConfig := getActionList surroundings.pairs store noList
  let name := argList .name
  match verb with
  | .delete => deleteByName name listConfig store
  | _ => (logActionEdit surroundings.addresses argList (findByName name listConfig) store, none)

/-- A name that is given has to be in the table. -/
def isListed (argument : Option Text) (listConfig : ListConfig) : Bool :=
  match argument with
  | none => true
  | some name => (listConfig name).isSome

/-- The rules go into the table of the filters, and `rule_listConfig` stays empty. -/
def ruleHandler (verb : Verb) (arguments : List Text) (store : Store) : Store × Option Failure :=
  let argList := logGetparam ruleParamList arguments fun _ => none
  let filterListConfig := getRulesList surroundings.pairs store noList
  let ruleListConfig := noList
  let name := argList .name
  match verb with
  | .delete => deleteByName name ruleListConfig store
  | _ =>
      let filterListConfig := getFilterList surroundings.pairs store filterListConfig
      let actionListConfig := getActionList surroundings.pairs store noList
      if (argList .filter).isNone && (argList .action).isNone then (store, none)
      else if isListed (argList .filter) filterListConfig &&
          isListed (argList .action) actionListConfig then
        (logRuleEdit surroundings.addresses argList (findByName name ruleListConfig) store, none)
      else (store, none)

def runLogConfig (store : Store) (command : Command) : Store × Option Failure :=
  match command.kind with
  | .filter => filterHandler surroundings command.verb command.arguments store
  | .action => actionHandler surroundings command.verb command.arguments store
  | .rule => ruleHandler surroundings command.verb command.arguments store

/-- The commands one after the other, with their errors. -/
def logConfiguration : Machine Store Command Failure where
  step store command :=
    let result := runLogConfig surroundings store command
    (result.1, result.2.toList)

end Handlers

end LogConfig

end TfortisPack.Clish
