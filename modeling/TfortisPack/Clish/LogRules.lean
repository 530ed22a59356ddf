import TfortisPack.Clish.LogConfig

/-!
# What the log commands keep

The names are unique among the sections of a type and a rule names a filter and
an action.  A command either adds a section behind the others, changes options
other than the name of a section, deletes one, or does nothing; what each of
these does to the sections of a name is said once.
-/

namespace TfortisPack.Clish

open Library
open Library.Lua (Pairs)
open VlanCli (Text)

namespace LogConfig

/-! ## Sections of a name -/

def HasName (type : Kind) (name : Text) (dict : Section) : Prop :=
  dict.type = type ∧ dict.text .name = some name

instance decidableHasName (type : Kind) (name : Text) (dict : Section) :
    Decidable (HasName type name dict) :=
  inferInstanceAs (Decidable (_ ∧ _))

/-- The sections of a type that have a name. -/
def named (type : Kind) (name : Text) (store : Store) : List Section :=
  store.sections.filter fun dict => HasName type name dict

/-- The option of a rule that names a section of a type. -/
def reference : Kind → Option Param
  | .filter => some .filter
  | .action => some .action
  | .rule => none

/-- A rule names a filter or an action. -/
def Refers (rule : Section) (type : Kind) (name : Text) : Prop :=
  rule.type = .rule ∧ ∃ param ∈ reference type, rule.text param = some name

/-- Names are unique per type, and what a rule names is there. -/
structure Consistent (store : Store) : Prop where
  unique : ∀ type name, (named type name store).length ≤ 1
  references : ∀ rule ∈ store.sections, ∀ type name,
    Refers rule type name → named type name store ≠ []

theorem mem_named {type : Kind} {name : Text} {store : Store} {dict : Section} :
    dict ∈ named type name store ↔ dict ∈ store.sections ∧ HasName type name dict := by
  rw [named, List.mem_filter, decide_eq_true_eq]

theorem named_eq_nil_iff {type : Kind} {name : Text} {store : Store} :
    named type name store = [] ↔ ∀ dict ∈ store.sections, ¬HasName type name dict := by
  simp only [named, List.filter_eq_nil_iff, decide_eq_true_eq]

/-- A name that is there once. -/
theorem Consistent.named_eq_singleton {store : Store} (consistent : Consistent store) {type : Kind}
    {name : Text} {dict : Section} (member : dict ∈ named type name store) :
    named type name store = [dict] := by
  obtain ⟨only, single⟩ := List.length_eq_one_iff.mp
    (Nat.le_antisymm (consistent.unique type name) (List.length_pos_of_mem member))
  rw [single, List.mem_singleton] at member
  rw [single, member]

theorem eq_of_id_eq {store : Store} {left right : Section} (leftMember : left ∈ store.sections)
    (rightMember : right ∈ store.sections) (same : left.id = right.id) : left = right :=
  List.inj_on_of_nodup_map store.distinct leftMember rightMember same

/-! ## The tables -/

section Tables

variable {type : Kind} {name : Text}

theorem readSection_of_hasName {dict : Section} (hasName : HasName type name dict)
    (listConfig : ListConfig) : readSection type listConfig dict name = some dict.id := by
  rw [readSection, if_pos hasName.1, hasName.2]
  exact Function.update_self _ _ _

theorem readSection_of_not {dict : Section} (other : ¬HasName type name dict)
    (listConfig : ListConfig) : readSection type listConfig dict name = listConfig name := by
  rw [readSection]
  split
  case isTrue sameType =>
    cases found : dict.text .name with
    | none => rfl
    | some otherName =>
      refine Function.update_of_ne (fun same => other ⟨sameType, ?_⟩) _ _
      rw [found, same]
  case isFalse => rfl

/-- Nothing is read under a name that no section has. -/
theorem foldl_readSection_of_absent {sections : List Section}
    (absent : ∀ dict ∈ sections, ¬HasName type name dict) (listConfig : ListConfig) :
    sections.foldl (readSection type) listConfig name = listConfig name := by
  induction sections generalizing listConfig with
  | nil => rfl
  | cons dict rest inductionHypothesis =>
    rw [List.foldl_cons, inductionHypothesis fun later member =>
      absent later (List.mem_cons_of_mem dict member)]
    exact readSection_of_not (absent dict List.mem_cons_self) listConfig

/-- The section of a name is read where it is the only one, or has been read already. -/
theorem foldl_readSection_of_present {sections : List Section} {id : Nat}
    (all : ∀ dict ∈ sections, HasName type name dict → dict.id = id) {listConfig : ListConfig}
    (present : listConfig name = some id ∨ ∃ dict ∈ sections, HasName type name dict) :
    sections.foldl (readSection type) listConfig name = some id := by
  induction sections generalizing listConfig with
  | nil =>
    rcases present with read | ⟨dict, member, _⟩
    · exact read
    · cases member
  | cons dict rest inductionHypothesis =>
    rw [List.foldl_cons]
    refine inductionHypothesis
      (fun later member => all later (List.mem_cons_of_mem dict member)) ?_
    by_cases hasName : HasName type name dict
    · left
      rw [readSection_of_hasName hasName, all dict List.mem_cons_self hasName]
    · rcases present with read | ⟨found, member, foundName⟩
      · left
        rw [readSection_of_not hasName, read]
      · right
        rcases List.mem_cons.mp member with same | later
        · exact absurd (same ▸ foundName) hasName
        · exact ⟨found, later, foundName⟩

variable {store : Store} (pairs : Pairs) {listConfig : ListConfig}

theorem readSections_of_nil (absent : named type name store = []) :
    readSections type pairs store listConfig name = listConfig name :=
  foldl_readSection_of_absent
    (fun dict member => named_eq_nil_iff.mp absent dict (pairs.mem_order.mp member)) listConfig

theorem readSections_of_singleton {dict : Section} (single : named type name store = [dict]) :
    readSections type pairs store listConfig name = some dict.id := by
  have member : dict ∈ named type name store := by
    rw [single]
    exact List.mem_singleton_self dict
  obtain ⟨listed, hasName⟩ := mem_named.mp member
  refine foldl_readSection_of_present (fun other otherListed otherName => ?_)
    (Or.inr ⟨dict, pairs.mem_order.mpr listed, hasName⟩)
  have otherMember := mem_named.mpr ⟨pairs.mem_order.mp otherListed, otherName⟩
  rw [single, List.mem_singleton] at otherMember
  rw [otherMember]

/-- A name is in the table exactly if a section of the type has it or it was there before. -/
theorem Consistent.readSections_isSome_iff (consistent : Consistent store) :
    (readSections type pairs store listConfig name).isSome ↔
      named type name store ≠ [] ∨ (listConfig name).isSome := by
  by_cases absent : named type name store = []
  · rw [readSections_of_nil pairs absent, or_iff_right (not_not_intro absent)]
  · obtain ⟨dict, member⟩ := List.exists_mem_of_ne_nil _ absent
    rw [readSections_of_singleton pairs (consistent.named_eq_singleton member)]
    exact iff_of_true rfl (Or.inl absent)

end Tables

/-! ## Values -/

theorem setValues_of_not_mem {values : Values} {param : Param}
    (absent : ∀ value ∈ values, value.1 ≠ param) (options : Param → Option Value) :
    setValues options values param = options param := by
  induction values generalizing options with
  | nil => rfl
  | cons value rest inductionHypothesis =>
    rw [setValues, List.foldl_cons]
    refine (inductionHypothesis
      (fun later member => absent later (List.mem_cons_of_mem value member)) _).trans ?_
    exact Function.update_of_ne (absent value List.mem_cons_self).symm _ _

theorem param_of_mem_sentValues {addresses : Addresses} {params : List Param} {argList : Args}
    {value : Param × Value} (member : value ∈ sentValues addresses params argList) :
    value.1 ∈ params := by
  obtain ⟨param, listed, sent⟩ := List.mem_filterMap.mp member
  obtain ⟨argument, _, rfl⟩ := Option.map_eq_some_iff.mp sent
  exact listed

/-- The options of a section that is added with a name. -/
def addedOptions (addresses : Addresses) (params : List Param) (argList : Args) :
    Param → Option Value :=
  setValues (fun _ => none) (sentValues addresses (.name :: params) argList)

theorem addedOptions_name {addresses : Addresses} {params : List Param} {argList : Args}
    (noName : Param.name ∉ params) :
    addedOptions addresses params argList .name = (argList .name).map Value.text := by
  have others : ∀ value ∈ sentValues addresses params argList, value.1 ≠ .name := by
    intro value member same
    exact noName (same ▸ param_of_mem_sentValues member)
  rw [addedOptions, sentValues, List.filterMap_cons]
  cases given : argList .name with
  | none =>
    exact setValues_of_not_mem others _
  | some argument =>
    rw [Option.map_some, Option.map_some, setValues, List.foldl_cons]
    refine (setValues_of_not_mem others _).trans ?_
    exact Function.update_self _ _ _

/-! ## Editing -/

theorem map_setIf_of_fresh {sections : List Section} {id : Nat} (values : Values)
    (fresh : ∀ dict ∈ sections, dict.id ≠ id) :
    sections.map (Section.setIf id values) = sections := by
  conv => rhs; rw [← List.map_id sections]
  exact List.map_congr_left fun dict member => if_neg (fresh dict member)

/-- A section that is not found is added with everything that is given. -/
theorem sections_logEdit_none (added : Kind) (params : List Param) (addresses : Addresses)
    (argList : Args) (store : Store) :
    (logEdit added params addresses argList none store).sections =
      store.sections ++
        [{ id := freshId store.sections, type := added,
           options := addedOptions addresses params argList }] := by
  have fresh : ∀ dict ∈ store.sections, dict.id ≠ freshId store.sections :=
    fun dict member => Nat.ne_of_lt (id_lt_freshId member)
  rw [logEdit]
  split
  case isTrue empty =>
    rw [addedOptions, List.isEmpty_iff.mp empty]
    rfl
  case isFalse =>
    rw [uciSet, uciAdd]
    simp only [List.map_append, List.map_singleton, map_setIf_of_fresh _ fresh]
    simp only [Section.setIf, if_true, addedOptions]

/-- A section that is found gets the values that are given. -/
theorem sections_logEdit_some (added : Kind) (params : List Param) (addresses : Addresses)
    (argList : Args) (id : Nat) (store : Store) :
    (logEdit added params addresses argList (some id) store).sections =
      store.sections.map (Section.setIf id (sentValues addresses params argList)) := by
  rw [logEdit]
  split
  case isTrue empty =>
    have untouched : Section.setIf id [] = fun dict => dict := by
      funext dict
      rw [Section.setIf]
      split
      · rfl
      · rfl
    rw [List.isEmpty_iff.mp empty, untouched, List.map_id']
  case isFalse => rfl

theorem hasName_setIf {id : Nat} {values : Values} (noName : ∀ value ∈ values, value.1 ≠ .name)
    (dict : Section) (type : Kind) (name : Text) :
    HasName type name (dict.setIf id values) ↔ HasName type name dict := by
  rw [Section.setIf]
  split
  · simp only [HasName, Section.text, setValues_of_not_mem noName]
  · exact Iff.rfl

/-! ## A section behind the others -/

section Appended

variable {store next : Store} {dict : Section}
  (appended : next.sections = store.sections ++ [dict])

include appended

theorem named_appended (type : Kind) (name : Text) :
    named type name next =
      named type name store ++ if HasName type name dict then [dict] else [] := by
  rw [named, appended, List.filter_append, List.filter_singleton]
  by_cases hasName : HasName type name dict
  · simp [hasName, named]
  · simp [hasName, named]

theorem named_appended_of_ne {type : Kind} (different : dict.type ≠ type) (name : Text) :
    named type name next = named type name store := by
  rw [named_appended appended, if_neg fun hasName => different hasName.1, List.append_nil]

/-- A section that is no rule keeps the store consistent exactly if its name is new. -/
theorem consistent_appended_iff (consistent : Consistent store) (notRule : dict.type ≠ .rule) :
    Consistent next ↔ ∀ name ∈ dict.text .name, named dict.type name store = [] := by
  constructor
  · intro after name hasName
    have twice := after.unique dict.type name
    rw [named_appended appended, if_pos ⟨rfl, hasName⟩, List.length_append,
      List.length_singleton] at twice
    exact List.length_eq_zero_iff.mp (by omega)
  · intro new
    refine ⟨fun type name => ?_, fun rule member type name refers => ?_⟩
    · rw [named_appended appended]
      by_cases hasName : HasName type name dict
      · obtain ⟨rfl, nameText⟩ := hasName
        rw [new name nameText, if_pos ⟨rfl, nameText⟩]
        exact Nat.le_refl 1
      · rw [if_neg hasName, List.append_nil]
        exact consistent.unique type name
    · rw [appended, List.mem_append, List.mem_singleton] at member
      rcases member with before | same
      · rw [named_appended appended]
        exact List.append_ne_nil_of_left_ne_nil
          (consistent.references rule before type name refers) _
      · exact absurd (same ▸ refers.1) notRule

end Appended

/-! ## A section with other options -/

section Changed

variable {store next : Store} {change : Section → Section}
  (changed : next.sections = store.sections.map change)
  (sameName : ∀ dict type name, HasName type name (change dict) ↔ HasName type name dict)

include changed sameName

theorem named_changed (type : Kind) (name : Text) :
    named type name next = (named type name store).map change := by
  have same : (fun dict => decide (HasName type name dict)) ∘ change =
      fun dict => decide (HasName type name dict) :=
    funext fun dict => decide_eq_decide.mpr (sameName dict type name)
  rw [named, changed, List.filter_map, same, named]

/-- The store stays consistent where the rules are not touched. -/
theorem consistent_changed (consistent : Consistent store)
    (rules : ∀ dict ∈ store.sections, (change dict).type = .rule → change dict = dict) :
    Consistent next := by
  refine ⟨fun type name => ?_, fun rule member type name refers => ?_⟩
  · rw [named_changed changed sameName, List.length_map]
    exact consistent.unique type name
  · rw [changed] at member
    obtain ⟨dict, listed, rfl⟩ := List.mem_map.mp member
    rw [rules dict listed refers.1] at refers
    rw [named_changed changed sameName, ne_eq, List.map_eq_nil_iff]
    exact consistent.references dict listed type name refers

end Changed

/-! ## A section less -/

section Deleted

variable {store : Store} {type : Kind} {name : Text} {dict : Section}
  (single : named type name store = [dict])

include single

theorem listed_of_named : dict ∈ store.sections ∧ HasName type name dict := by
  apply mem_named.mp
  rw [single]
  exact List.mem_singleton_self dict

theorem named_deleted : named type name (uciDelete dict.id store) = [] := by
  rw [named_eq_nil_iff]
  intro other member hasName
  rw [uciDelete, List.mem_filter, decide_eq_true_eq] at member
  have otherNamed : other ∈ named type name store := mem_named.mpr ⟨member.1, hasName⟩
  rw [single, List.mem_singleton] at otherNamed
  exact member.2 (by rw [otherNamed])

theorem named_deleted_of_ne {otherType : Kind} {otherName : Text}
    (different : ¬(otherType = type ∧ otherName = name)) :
    named otherType otherName (uciDelete dict.id store) = named otherType otherName store := by
  obtain ⟨listed, hasName⟩ := listed_of_named single
  rw [named, uciDelete, List.filter_filter]
  apply List.filter_congr
  intro other member
  by_cases otherNamed : HasName otherType otherName other
  · have kept : other.id ≠ dict.id := by
      intro same
      have equal := eq_of_id_eq member listed same
      rw [equal] at otherNamed
      refine different ⟨otherNamed.1.symm.trans hasName.1, ?_⟩
      have names := otherNamed.2
      rw [hasName.2] at names
      exact (Option.some.inj names).symm
    simp [otherNamed, kept]
  · simp [otherNamed]

/-- A section may go exactly if no rule names it. -/
theorem consistent_deleted_iff (consistent : Consistent store) :
    Consistent (uciDelete dict.id store) ↔
      ∀ rule ∈ store.sections, ¬Refers rule type name := by
  obtain ⟨listed, hasName⟩ := listed_of_named single
  constructor
  · intro after rule member refers
    have kept : rule ∈ (uciDelete dict.id store).sections := by
      rw [uciDelete, List.mem_filter, decide_eq_true_eq]
      refine ⟨member, fun same => ?_⟩
      have equal := eq_of_id_eq member listed same
      obtain ⟨isRule, param, known, _⟩ := refers
      rw [equal, hasName.1] at isRule
      rw [isRule] at known
      cases known
    exact after.references rule kept type name refers (named_deleted single)
  · intro free
    refine ⟨fun otherType otherName => ?_, fun rule member otherType otherName refers => ?_⟩
    · by_cases same : otherType = type ∧ otherName = name
      · rw [same.1, same.2, named_deleted single]
        exact Nat.zero_le 1
      · rw [named_deleted_of_ne single same]
        exact consistent.unique otherType otherName
    · rw [uciDelete, List.mem_filter] at member
      by_cases same : otherType = type ∧ otherName = name
      · rw [same.1, same.2] at refers
        exact absurd refers (free rule member.1)
      · rw [named_deleted_of_ne single same]
        exact consistent.references rule member.1 otherType otherName refers

end Deleted

/-! ## Filters and actions -/

section Editing

variable {store : Store} {type : Kind} {params : List Param} {addresses : Addresses}
  {argList : Args}

theorem text_added_name (noName : Param.name ∉ params) (id : Nat) (type : Kind) :
    Section.text { id, type, options := addedOptions addresses params argList } .name =
      argList .name := by
  simp only [Section.text, addedOptions_name noName]
  cases argList .name with
  | none => rfl
  | some name => rfl

/-- Adding or changing a filter or an action keeps the store consistent. -/
theorem consistent_logEdit (consistent : Consistent store) (noName : Param.name ∉ params)
    (notRule : type ≠ .rule) (pairs : Pairs) :
    Consistent
      (logEdit type params addresses argList
        (findByName (argList .name) (readSections type pairs store noList)) store) := by
  have added (absent : ∀ name ∈ argList .name, named type name store = []) :
      Consistent (logEdit type params addresses argList none store) := by
    rw [consistent_appended_iff (sections_logEdit_none type params addresses argList store)
      consistent notRule, text_added_name noName]
    exact absent
  cases given : argList .name with
  | none =>
    refine added fun name given' => ?_
    rw [given] at given'
    cases given'
  | some name =>
    rw [findByName, Option.bind_some]
    by_cases absent : named type name store = []
    · rw [readSections_of_nil pairs absent]
      refine added fun other given' => ?_
      rw [given, Option.mem_some_iff] at given'
      rw [← given']
      exact absent
    · obtain ⟨dict, member⟩ := List.exists_mem_of_ne_nil _ absent
      have single := consistent.named_eq_singleton member
      obtain ⟨listed, hasName⟩ := mem_named.mp member
      have sent : ∀ value ∈ sentValues addresses params argList, value.1 ≠ .name :=
        fun value inValues same => noName (same ▸ param_of_mem_sentValues inValues)
      rw [readSections_of_singleton pairs single]
      refine consistent_changed (sections_logEdit_some type params addresses argList dict.id store)
        (hasName_setIf sent) consistent fun other otherListed isRule => ?_
      have different : other.id ≠ dict.id := by
        intro same
        have equal := eq_of_id_eq otherListed listed same
        rw [Section.setIf, if_pos same] at isRule
        exact notRule (hasName.1.symm.trans (equal ▸ isRule))
      exact if_neg different

/-- Deleting by a name that is read from the right table. -/
theorem consistent_deleteByName_iff (consistent : Consistent store) (pairs : Pairs)
    (given : Option Text) :
    Consistent (deleteByName given (readSections type pairs store noList) store).1 ↔
      ∀ name ∈ given, ∀ rule ∈ store.sections, ¬Refers rule type name := by
  cases given with
  | none =>
    refine iff_of_true consistent fun name none => ?_
    cases none
  | some name =>
    simp only [deleteByName, findByName, Option.bind_some]
    by_cases absent : named type name store = []
    · rw [readSections_of_nil pairs absent]
      refine iff_of_true consistent fun other given rule member refers => ?_
      rw [Option.mem_some_iff] at given
      rw [← given] at refers
      exact consistent.references rule member type name refers absent
    · obtain ⟨dict, member⟩ := List.exists_mem_of_ne_nil _ absent
      have single := consistent.named_eq_singleton member
      rw [readSections_of_singleton pairs single]
      have deleted := consistent_deleted_iff single consistent
      constructor
      · intro after other given
        rw [Option.mem_some_iff] at given
        rw [← given]
        exact deleted.mp after
      · intro free
        exact deleted.mpr (free name rfl)

end Editing

/-! ## Rules -/

/-- The arguments of a command. -/
def argumentsOf (command : Command) : Args :=
  match command.kind with
  | .filter => logGetparam filterParamList command.arguments fun _ => none
  | .action => logGetparam actionParamList command.arguments fun _ => none
  | .rule => logGetparam ruleParamList command.arguments fun _ => none

/-- A filter or an action is given, and each one that is given exists. -/
structure Valid (store : Store) (argList : Args) : Prop where
  given : argList .filter ≠ none ∨ argList .action ≠ none
  filter : ∀ name ∈ argList .filter, named .filter name store ≠ []
  action : ∀ name ∈ argList .action, named .action name store ≠ []

/-- What the code makes sure of: the name of a rule passes for that of a filter. -/
structure Accepted (store : Store) (argList : Args) : Prop where
  given : argList .filter ≠ none ∨ argList .action ≠ none
  filter : ∀ name ∈ argList .filter, named .filter name store ≠ [] ∨ named .rule name store ≠ []
  action : ∀ name ∈ argList .action, named .action name store ≠ []

/-- A rule has the filter and the action that are given. -/
def Carries (rule : Section) (argList : Args) : Prop :=
  (∀ name ∈ argList .filter, rule.text .filter = some name) ∧
    ∀ name ∈ argList .action, rule.text .action = some name

/-- What a command about a rule has to leave. -/
def Outcome (store : Store) (command : Command) (next : Store) : Prop :=
  match command.kind, command.verb with
  | .rule, .delete => ∀ name ∈ argumentsOf command .name, named .rule name next = []
  | .rule, _ =>
      Valid store (argumentsOf command) → ∀ name ∈ argumentsOf command .name,
        ∃ rule, named .rule name next = [rule] ∧ Carries rule (argumentsOf command)
  | _, _ => True

/-- No filter or action is deleted that a rule names; a rule is only added or edited where it is
there already as it is given, and no action has its name; and no rule is deleted that is there. -/
def Careful (store : Store) (command : Command) : Prop :=
  match command.kind, command.verb with
  | .rule, .delete => ∀ name ∈ argumentsOf command .name, named .rule name store = []
  | .rule, _ =>
      (Accepted store (argumentsOf command) → ∀ name ∈ argumentsOf command .name,
        named .action name store = []) ∧
      (Valid store (argumentsOf command) → ∀ name ∈ argumentsOf command .name,
        ∃ rule, named .rule name store = [rule] ∧ Carries rule (argumentsOf command))
  | kind, .delete =>
      ∀ name ∈ argumentsOf command .name, ∀ rule ∈ store.sections, ¬Refers rule kind name
  | _, _ => True

theorem isListed_iff {argument : Option Text} {listConfig : ListConfig} :
    isListed argument listConfig = true ↔ ∀ name ∈ argument, (listConfig name).isSome := by
  cases argument with
  | none => simp [isListed]
  | some name => simp [isListed]

theorem Valid.accepted {store : Store} {argList : Args} (valid : Valid store argList) :
    Accepted store argList where
  given := valid.given
  filter := fun name given => Or.inl (valid.filter name given)
  action := valid.action

/-- The checks of the code. -/
theorem accepted_iff {store : Store} (consistent : Consistent store) (pairs : Pairs)
    (argList : Args) :
    Accepted store argList ↔
      ¬((argList .filter).isNone && (argList .action).isNone) = true ∧
      (isListed (argList .filter)
          (getFilterList pairs store (getRulesList pairs store noList)) &&
        isListed (argList .action) (getActionList pairs store noList)) = true := by
  have filters (name : Text) :
      (getFilterList pairs store (getRulesList pairs store noList) name).isSome ↔
        named .filter name store ≠ [] ∨ named .rule name store ≠ [] := by
    rw [getFilterList, consistent.readSections_isSome_iff, getRulesList,
      consistent.readSections_isSome_iff,
      or_iff_left (b := (noList name).isSome) (by simp [noList])]
  have actions (name : Text) :
      (getActionList pairs store noList name).isSome ↔ named .action name store ≠ [] := by
    rw [getActionList, consistent.readSections_isSome_iff,
      or_iff_left (b := (noList name).isSome) (by simp [noList])]
  rw [Bool.and_eq_true, Bool.and_eq_true, isListed_iff, isListed_iff, Option.isNone_iff_eq_none,
    Option.isNone_iff_eq_none, not_and_or]
  simp only [filters, actions]
  exact ⟨fun accepted => ⟨accepted.given, accepted.filter, accepted.action⟩,
    fun checks => ⟨checks.1, checks.2.1, checks.2.2⟩⟩

/-- The sections after a rule has been added or edited, where the command is accepted. -/
theorem sections_ruleHandler {store : Store} (surroundings : Surroundings) {verb : Verb}
    {arguments : List Text} (notDelete : verb ≠ .delete) (consistent : Consistent store)
    (accepted : Accepted store (logGetparam ruleParamList arguments fun _ => none)) :
    (ruleHandler surroundings verb arguments store).1.sections =
      store.sections ++
        [{ id := freshId store.sections, type := .action,
           options := addedOptions surroundings.addresses [.filter, .action]
            (logGetparam ruleParamList arguments fun _ => none) }] := by
  obtain ⟨given, listed⟩ := (accepted_iff consistent surroundings.pairs _).mp accepted
  rw [← sections_logEdit_none]
  cases verb with
  | delete => exact absurd rfl notDelete
  | add =>
    simp only [ruleHandler, if_neg given, if_pos listed]
    cases found : logGetparam ruleParamList arguments (fun _ => none) .name <;> rfl
  | edit =>
    simp only [ruleHandler, if_neg given, if_pos listed]
    cases found : logGetparam ruleParamList arguments (fun _ => none) .name <;> rfl

theorem ruleHandler_of_not_accepted {store : Store} (surroundings : Surroundings) {verb : Verb}
    {arguments : List Text} (notDelete : verb ≠ .delete) (consistent : Consistent store)
    (refused : ¬Accepted store (logGetparam ruleParamList arguments fun _ => none)) :
    (ruleHandler surroundings verb arguments store).1 = store := by
  rw [accepted_iff consistent surroundings.pairs, not_and] at refused
  have unchanged : ∀ edited : Store × Option Failure,
      (if ((logGetparam ruleParamList arguments fun _ => none) .filter).isNone &&
          ((logGetparam ruleParamList arguments fun _ => none) .action).isNone then
        (store, none)
      else if isListed ((logGetparam ruleParamList arguments fun _ => none) .filter)
            (getFilterList surroundings.pairs store
              (getRulesList surroundings.pairs store noList)) &&
          isListed ((logGetparam ruleParamList arguments fun _ => none) .action)
            (getActionList surroundings.pairs store noList) then edited
      else (store, none)).1 = store := by
    intro edited
    split
    case isTrue => rfl
    case isFalse given => rw [if_neg (refused given)]
  cases verb with
  | delete => exact absurd rfl notDelete
  | add => exact unchanged _
  | edit => exact unchanged _

/-! ## Steps -/

section Steps

variable {store : Store} {surroundings : Surroundings}

/-- What is in the way of a rule that is added or edited. -/
theorem ruleHandler_edit_iff {verb : Verb} {arguments : List Text} (notDelete : verb ≠ .delete)
    (consistent : Consistent store) {argList : Args}
    (given : argList = logGetparam ruleParamList arguments fun _ => none) :
    Consistent (ruleHandler surroundings verb arguments store).1 ∧
        (Valid store argList → ∀ name ∈ argList .name,
          ∃ rule, named .rule name (ruleHandler surroundings verb arguments store).1 = [rule] ∧
            Carries rule argList) ↔
      (Accepted store argList → ∀ name ∈ argList .name, named .action name store = []) ∧
        (Valid store argList → ∀ name ∈ argList .name,
          ∃ rule, named .rule name store = [rule] ∧ Carries rule argList) := by
  subst given
  by_cases accepted : Accepted store (logGetparam ruleParamList arguments fun _ => none)
  · have appended := sections_ruleHandler surroundings notDelete consistent accepted
    have notRule : Kind.action ≠ .rule := by decide
    have same (name : Text) :
        named .rule name (ruleHandler surroundings verb arguments store).1 =
          named .rule name store :=
      named_appended_of_ne appended notRule name
    rw [consistent_appended_iff appended consistent notRule, text_added_name (by decide)]
    simp only [same]
    exact and_congr_left fun _ => ⟨fun new _ => new, fun new => new accepted⟩
  · have refused := ruleHandler_of_not_accepted surroundings notDelete consistent accepted
    have invalid : ¬Valid store (logGetparam ruleParamList arguments fun _ => none) :=
      fun valid => accepted valid.accepted
    rw [refused]
    exact ⟨fun _ => ⟨fun accepted' => absurd accepted' accepted,
        fun valid => absurd valid invalid⟩,
      fun _ => ⟨consistent, fun valid => absurd valid invalid⟩⟩

/-- A rule that is deleted stays. -/
theorem ruleHandler_delete (arguments : List Text) :
    (ruleHandler surroundings .delete arguments store).1 = store := by
  simp only [ruleHandler, deleteByName, findByName]
  cases logGetparam ruleParamList arguments (fun _ => none) .name <;> rfl

/-- A command leaves a consistent store and what it has to leave exactly if it is careful. -/
theorem step_iff (consistent : Consistent store) (command : Command) :
    Consistent (runLogConfig surroundings store command).1 ∧
        Outcome store command (runLogConfig surroundings store command).1 ↔
      Careful store command := by
  obtain ⟨kind, verb, arguments⟩ := command
  have notRule : Kind.filter ≠ .rule ∧ Kind.action ≠ .rule := by decide
  cases kind with
  | filter =>
    refine (and_iff_left trivial).trans ?_
    cases verb with
    | add => exact iff_of_true (consistent_logEdit consistent (by decide) notRule.1 _) trivial
    | edit => exact iff_of_true (consistent_logEdit consistent (by decide) notRule.1 _) trivial
    | delete => exact consistent_deleteByName_iff consistent surroundings.pairs _
  | action =>
    refine (and_iff_left trivial).trans ?_
    cases verb with
    | add => exact iff_of_true (consistent_logEdit consistent (by decide) notRule.2 _) trivial
    | edit => exact iff_of_true (consistent_logEdit consistent (by decide) notRule.2 _) trivial
    | delete => exact consistent_deleteByName_iff consistent surroundings.pairs _
  | rule =>
    have editing : Verb.add ≠ .delete ∧ Verb.edit ≠ .delete := by decide
    cases verb with
    | add => exact ruleHandler_edit_iff editing.1 consistent rfl
    | edit => exact ruleHandler_edit_iff editing.2 consistent rfl
    | delete =>
      change Consistent (ruleHandler surroundings .delete arguments store).1 ∧
        Outcome store ⟨.rule, .delete, arguments⟩
          (ruleHandler surroundings .delete arguments store).1 ↔ _
      rw [ruleHandler_delete]
      exact and_iff_right consistent

end Steps

/-! ## Runs -/

/-- A configuration to start from. -/
structure ConsistentStore where
  store : Store
  consistent : Consistent store

/-- Every command of a run leaves a consistent store with the rule that it is about as it should be
exactly if every command is careful. -/
theorem log_rules_iff (surroundings : Surroundings) (start : ConsistentStore)
    (commands : List Command) :
    (logConfiguration surroundings).AllSteps
        (fun store command =>
          Consistent ((logConfiguration surroundings).next store command) ∧
            Outcome store command ((logConfiguration surroundings).next store command))
        start.store commands ↔
      (logConfiguration surroundings).AllSteps Careful start.store commands :=
  Machine.allSteps_iff_of_invariant
    (fun _ command consistent => step_iff consistent command)
    (fun _ _ _ kept => kept.1) start.consistent

def emptyStore : ConsistentStore where
  store := { sections := [], distinct := List.nodup_nil }
  consistent :=
    { unique := fun _ _ => Nat.zero_le 1
      references := fun _ member => absurd member List.not_mem_nil }

def plainSurroundings : Surroundings where
  pairs := Pairs.stored
  addresses := { parseEmails := fun _ => [], parseIp := fun _ => [] }

/-- A filter `f`, an action `a` and a rule `r` that joins them. -/
def firstRule : List Command :=
  [⟨.filter, .add, [Param.name.text, ['f'], Param.facility.text, ['u']]⟩,
    ⟨.action, .add, [Param.name.text, ['a'], Param.action.text, ['u']]⟩,
    ⟨.rule, .add, [Param.name.text, ['r'], Param.filter.text, ['f'], Param.action.text, ['a']]⟩]

/-- The rule that is added last is not there. -/
theorem first_rule_is_missing :
    ¬∀ (surroundings : Surroundings) (start : ConsistentStore) (commands : List Command),
      (logConfiguration surroundings).AllSteps
        (fun store command =>
          Consistent ((logConfiguration surroundings).next store command) ∧
            Outcome store command ((logConfiguration surroundings).next store command))
        start.store commands := by
  intro all
  obtain ⟨_, _, ⟨_, outcome⟩, _⟩ := all plainSurroundings emptyStore firstRule
  have filters : (named .filter ['f'] ((logConfiguration plainSurroundings).final
      emptyStore.store (firstRule.take 2))).length = 1 := by decide +kernel
  have actions : (named .action ['a'] ((logConfiguration plainSurroundings).final
      emptyStore.store (firstRule.take 2))).length = 1 := by decide +kernel
  have rules : (named .rule ['r'] ((logConfiguration plainSurroundings).final
      emptyStore.store firstRule)).length = 0 := by decide +kernel
  have valid : Valid ((logConfiguration plainSurroundings).final emptyStore.store
      (firstRule.take 2)) (logGetparam ruleParamList
        [Param.name.text, ['r'], Param.filter.text, ['f'], Param.action.text, ['a']]
        fun _ => none) := by
    refine ⟨Or.inl (by decide), fun name given => ?_, fun name given => ?_⟩
    · have same : name = ['f'] := (Option.some.inj given).symm
      rw [same, ← List.length_pos_iff, filters]
      exact Nat.one_pos
    · have same : name = ['a'] := (Option.some.inj given).symm
      rw [same, ← List.length_pos_iff, actions]
      exact Nat.one_pos
  obtain ⟨rule, single, _⟩ := outcome valid ['r'] rfl
  have one : (named .rule ['r'] ((logConfiguration plainSurroundings).final
      emptyStore.store firstRule)).length = 1 := congrArg List.length single
  rw [rules] at one
  cases one

end LogConfig

end TfortisPack.Clish
