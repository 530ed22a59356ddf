import Mathlib.Data.List.Nodup
import TfortisPack.Library.LastWith
import TfortisPack.RealtekPoe.PortSetup

/-!
# Loading the configuration

`config_load` reads two uci packages.  The sections `port` of the package `poe` name their port by
the option `id`; the sections `lan` of the package `port` are matched with the ports by their
position.  A package that cannot be loaded is skipped.

The argument `init` decides only about the budgets, which are left out here.  An index behind
`config.ports` is recorded, and the access has no effect on the model.
-/

namespace TfortisPack.RealtekPoe

open TfortisPack.Library

/-! ## Sections -/

/-- A section of a uci package. -/
structure UciSection where
  type : String
  name : String
  options : List (String × String)
  deriving DecidableEq

/-- `uci_lookup_option_string`. -/
def UciSection.lookup (s : UciSection) (option : String) : Option String :=
  s.options.lookup option

abbrev UciPackage := List UciSection

/-- `strtoul(text, NULL, 0)` with the 32-bit `unsigned long` of the target. -/
def strtoul0 (text : List Char) : Nat :=
  let trimmed := text.dropWhile isSpace
  let negative := trimmed.head? = some '-'
  let unsigned := if negative ∨ trimmed.head? = some '+' then trimmed.tail else trimmed
  let (base, digits) : Nat × List Char :=
    match unsigned with
    | '0' :: x :: digit :: rest =>
        if (x = 'x' ∨ x = 'X') ∧ (hexDigit digit).isSome then (16, digit :: rest)
        else (8, unsigned)
    | '0' :: _ => (8, unsigned)
    | _ => (10, unsigned)
  let run := digits.takeWhile fun letter => (hexDigit letter).any (· < base)
  let value := run.foldl (fun number letter => base * number + (hexDigit letter).getD 0) 0
  if value ≥ 4294967296 then 4294967295
  else if negative then (4294967296 - value) % 4294967296
  else value

/-! ## The table -/

/-- `config`, as far as the ports are concerned. -/
structure Config where
  portCount : PortCount
  ports : Fin maxPort → ConfiguredPort

/-- An entry after `memset`. -/
def emptyPort : ConfiguredPort where
  name := ""
  enable := false
  valid := false
  priority := 0
  powerUpMode := 0
  powerBudget := 0

theorem pred_lt_maxPort {id : Nat} (inside : 0 < id ∧ id ≤ maxPort) : id - 1 < maxPort :=
  Nat.lt_of_lt_of_le (Nat.pred_lt_of_lt inside.1) inside.2

/-- The index and the name in a section, if both options are there and the number is
in range. -/
def declaration (s : UciSection) : Option (Fin maxPort × String) :=
  match s.lookup "id", s.lookup "name" with
  | some idStr, some name =>
      let id := strtoul0 idStr.toList
      if inside : 0 < id ∧ id ≤ maxPort then some (⟨id - 1, pred_lt_maxPort inside⟩, name) else none
  | _, _ => none

/-- `strncpy` into `name[16]`. -/
def storedName (name : String) : String :=
  String.ofList (name.toList.take 16)

/-- `config.ports[id].priority`. -/
def sectionPriority (s : UciSection) : UInt8 :=
  let priority :=
    match s.lookup "priority" with
    | some text => UInt8.ofNat (strtoul0 text.toList)
    | none => 0
  if priority > 3 then 3 else priority

/-- The new entry and the index it is written to. -/
def loadPortConfig (config : Config) (s : UciSection) : Config × List Nat :=
  match declaration s with
  | none => (config, [])
  | some (id, name) =>
      let port := config.ports id
      let loaded : ConfiguredPort :=
        { port with
          name := storedName name
          valid := true
          priority := sectionPriority s
          enable := true
          powerUpMode := if s.lookup "poe_plus" = some "1" then 3 else port.powerUpMode }
      ({ portCount := ⟨max config.portCount.val (id.val + 1), by
            have count := config.portCount.property
            have inside := id.isLt
            omega⟩
         ports := Function.update config.ports id loaded }, [id.val])

/-- `enable ? !strcmp(enable, "enable") : 0`. -/
def saysEnable (s : UciSection) : Bool :=
  s.lookup "poe" == some "enable"

def loadPortStateConfig (config : Config) (s : UciSection) (port : Nat) :
    Config × List Nat :=
  if inside : port < maxPort then
    ({ config with
        ports := Function.update config.ports ⟨port, inside⟩
          { config.ports ⟨port, inside⟩ with enable := saysEnable s } }, [port])
  else (config, [port])

/-- The loop over the package `poe`. -/
def loadPorts : Config → UciPackage → Config × List Nat
  | config, [] => (config, [])
  | config, s :: rest =>
      if s.type = "port" then
        let loaded := loadPortConfig config s
        let later := loadPorts loaded.1 rest
        (later.1, loaded.2 ++ later.2)
      else loadPorts config rest

/-- The loop over the package `port`; `port` counts its sections `lan`. -/
def loadStates : Config → (port : Nat) → UciPackage → Config × List Nat
  | config, _, [] => (config, [])
  | config, port, s :: rest =>
      if s.type = "lan" then
        let loaded := loadPortStateConfig config s port
        let later := loadStates loaded.1 (port + 1) rest
        (later.1, loaded.2 ++ later.2)
      else loadStates config port rest

/-- The first half of `config_load`, given what `uci_load` delivers. -/
def loadPoePackage (config : Config) : Option UciPackage → Config × List Nat
  | none => (config, [])
  | some package => loadPorts config package

/-- The second half. -/
def loadPortPackage (config : Config) : Option UciPackage → Config × List Nat
  | none => (config, [])
  | some package => loadStates config 0 package

/-- `config_load`, with the indexes of the entries it writes. -/
def configLoad (config : Config) (poe port : Option UciPackage) : Config × List Nat :=
  let cleared := { config with ports := fun _ => emptyPort }
  let declared := loadPoePackage cleared poe
  let states := loadPortPackage declared.1 port
  (states.1, declared.2 ++ states.2)

/-! ## What the packages describe -/

def portSections (package : UciPackage) : List UciSection :=
  package.filter fun s => s.type == "port"

def lanSections (package : UciPackage) : List UciSection :=
  package.filter fun s => s.type == "lan"

theorem portSections_cons (s : UciSection) (package : UciPackage) :
    portSections (s :: package) =
      if s.type = "port" then s :: portSections package else portSections package := by
  simp only [portSections, List.filter_cons, beq_iff_eq]

theorem lanSections_cons (s : UciSection) (package : UciPackage) :
    lanSections (s :: package) =
      if s.type = "lan" then s :: lanSections package else lanSections package := by
  simp only [lanSections, List.filter_cons, beq_iff_eq]

/-- The section declares the port with index `i`. -/
def declares (i : Fin maxPort) (s : UciSection) : Bool :=
  (declaration s).any fun declared => declared.1 == i

/-- The section declares the port and asks for PoE+. -/
def declaresPlus (i : Fin maxPort) (s : UciSection) : Bool :=
  declares i s && s.lookup "poe_plus" == some "1"

/-- The entry that the sections of the two packages describe: the last declaration of a port
counts, except that PoE+ stays once it is asked for; the enable bit is that of the `lan`
section at the same position, if there is one. -/
def describedPort (poe port : UciPackage) (i : Fin maxPort) : ConfiguredPort :=
  let last := lastWith (declares i) (portSections poe)
  { name := last.elim "" fun s => (declaration s).elim "" fun declared => storedName declared.2
    enable := ((lanSections port)[i.val]?).elim last.isSome saysEnable
    valid := last.isSome
    priority := last.elim 0 sectionPriority
    powerUpMode := (lastWith (declaresPlus i) (portSections poe)).elim 0 fun _ => 3
    powerBudget := 0 }

theorem ConfiguredPort.eq_of_members {port other : ConfiguredPort}
    (name : port.name = other.name) (enable : port.enable = other.enable)
    (valid : port.valid = other.valid) (priority : port.priority = other.priority)
    (powerUpMode : port.powerUpMode = other.powerUpMode)
    (powerBudget : port.powerBudget = other.powerBudget) : port = other := by
  obtain ⟨⟨_, _⟩, _, _, _, _⟩ := port
  obtain ⟨⟨_, _⟩, _, _, _, _⟩ := other
  simp only at name enable valid priority powerUpMode powerBudget
  rw [name, enable, valid, priority, powerUpMode, powerBudget]

section Load

variable (config : Config)

theorem loadPorts_eq (package : UciPackage) :
    (loadPorts config package).1 =
      (portSections package).foldl (fun config s => (loadPortConfig config s).1) config := by
  induction package generalizing config with
  | nil =>
      rfl
  | cons s rest inductionHypothesis =>
      rw [loadPorts, portSections_cons]
      by_cases isPort : s.type = "port"
      · rw [if_pos isPort, if_pos isPort, List.foldl_cons]
        exact inductionHypothesis _
      · rw [if_neg isPort, if_neg isPort]
        exact inductionHypothesis _

theorem loadPorts_written (package : UciPackage) :
    ∀ index ∈ (loadPorts config package).2, index < maxPort := by
  induction package generalizing config with
  | nil =>
      exact fun _ member => absurd member List.not_mem_nil
  | cons s rest inductionHypothesis =>
      rw [loadPorts]
      split
      · intro index member
        rcases List.mem_append.mp member with here | later
        · rw [loadPortConfig] at here
          split at here
          · exact absurd here List.not_mem_nil
          · rw [List.mem_singleton.mp here]
            exact Fin.isLt _
        · exact inductionHypothesis _ index later
      · exact inductionHypothesis _

/-- The entry of a port after one of its declarations. -/
def declaredEntry (port : ConfiguredPort) (s : UciSection) : ConfiguredPort :=
  { port with
    name := (declaration s).elim "" fun declared => storedName declared.2
    valid := true
    priority := sectionPriority s
    enable := true
    powerUpMode := if s.lookup "poe_plus" = some "1" then 3 else port.powerUpMode }

theorem loadPortConfig_ports (s : UciSection) (i : Fin maxPort) :
    (loadPortConfig config s).1.ports i =
      if declares i s then declaredEntry (config.ports i) s else config.ports i := by
  rw [loadPortConfig, declares, declaredEntry]
  cases declared : declaration s with
  | none => rfl
  | some entry =>
      obtain ⟨id, name⟩ := entry
      by_cases same : id = i
      · subst same
        simp
      · have other : (id == i) = false := beq_false_of_ne same
        simp [other, Function.update_of_ne (Ne.symm same)]

theorem loadPortStateConfig_ports (s : UciSection) (port : Nat) (i : Fin maxPort) :
    (loadPortStateConfig config s port).1.ports i =
      if i.val = port then { config.ports i with enable := saysEnable s } else config.ports i := by
  rw [loadPortStateConfig]
  by_cases here : i.val = port
  · subst here
    simp
  · rw [if_neg here]
    split
    · have other : i ≠ ⟨port, by assumption⟩ := fun same => here (congrArg Fin.val same)
      exact Function.update_of_ne other _ _
    · rfl

theorem loadStates_ports (port : Nat) (package : UciPackage) (i : Fin maxPort) :
    (loadStates config port package).1.ports i =
      if port ≤ i.val then
        { config.ports i with
          enable := ((lanSections package)[i.val - port]?).elim (config.ports i).enable saysEnable }
      else config.ports i := by
  induction package generalizing config port with
  | nil =>
      simp [loadStates, lanSections]
  | cons s rest inductionHypothesis =>
      rw [loadStates, lanSections_cons]
      by_cases isLan : s.type = "lan"
      · rw [if_pos isLan, if_pos isLan]
        simp only
        rw [inductionHypothesis, loadPortStateConfig_ports]
        rcases Nat.lt_trichotomy i.val port with before | here | behind
        · rw [if_neg (by omega), if_neg (by omega), if_neg (by omega)]
        · have first : i.val - port = 0 := by omega
          rw [if_neg (by omega), if_pos here, if_pos (by omega), first, List.getElem?_cons_zero,
            Option.elim_some]
        · have next : i.val - port = (i.val - (port + 1)) + 1 := by omega
          rw [if_pos (by omega), if_neg (by omega), if_pos (by omega), next,
            List.getElem?_cons_succ]
      · rw [if_neg isLan, if_neg isLan]
        exact inductionHypothesis _ _

theorem loadStates_written (port : Nat) (package : UciPackage) :
    (loadStates config port package).2 =
      List.range' port (lanSections package).length := by
  induction package generalizing config port with
  | nil =>
      rfl
  | cons s rest inductionHypothesis =>
      rw [loadStates, lanSections_cons]
      by_cases isLan : s.type = "lan"
      · rw [if_pos isLan, if_pos isLan, List.length_cons, List.range'_succ]
        simp only
        rw [inductionHypothesis, loadPortStateConfig]
        split <;> rfl
      · rw [if_neg isLan, if_neg isLan]
        exact inductionHypothesis _ _

/-- A member of an entry that some sections overwrite. -/
theorem loadPorts_field {β : Type} (field : ConfiguredPort → β) {test : UciSection → Bool}
    {value : UciSection → β} (i : Fin maxPort)
    (writes : ∀ config s, field ((loadPortConfig config s).1.ports i) =
      if test s then value s else field (config.ports i)) (package : UciPackage) :
    field ((loadPorts config package).1.ports i) =
      (lastWith test (portSections package)).elim (field (config.ports i)) value := by
  rw [loadPorts_eq]
  exact observe_foldl (fun config : Config => field (config.ports i)) writes config _

/-- A member that every declaration overwrites. -/
theorem loadPorts_declared {β : Type} (field : ConfiguredPort → β) (value : UciSection → β)
    (i : Fin maxPort) (overwritten : ∀ port s, field (declaredEntry port s) = value s)
    (package : UciPackage) :
    field ((loadPorts config package).1.ports i) =
      (lastWith (declares i) (portSections package)).elim (field (config.ports i)) value := by
  refine loadPorts_field config field i ?_ package
  intro config s
  rw [loadPortConfig_ports]
  split
  · exact overwritten _ s
  · rfl

theorem loadPorts_powerUpMode (package : UciPackage) (i : Fin maxPort) :
    ((loadPorts config package).1.ports i).powerUpMode =
      (lastWith (declaresPlus i) (portSections package)).elim (config.ports i).powerUpMode
        fun _ => 3 := by
  refine loadPorts_field config (fun port => port.powerUpMode) i ?_ package
  intro config s
  rw [loadPortConfig_ports, declaresPlus]
  cases declares i s with
  | false => rfl
  | true => by_cases asked : s.lookup "poe_plus" = some "1" <;> simp [asked, declaredEntry]

theorem loadPorts_powerBudget (package : UciPackage) (i : Fin maxPort) :
    ((loadPorts config package).1.ports i).powerBudget = (config.ports i).powerBudget := by
  have kept : ∀ config s, ((loadPortConfig config s).1.ports i).powerBudget =
      if (fun _ : UciSection => false) s then (0 : UInt8)
      else (config.ports i).powerBudget := by
    intro config s
    rw [loadPortConfig_ports]
    split <;> rfl
  have loaded := loadPorts_field config (fun port => port.powerBudget) i kept package
  have never : lastWith (fun _ : UciSection => false) (portSections package) = none :=
    lastWith_eq_none_iff.mpr fun _ _ => Bool.false_ne_true
  rw [never] at loaded
  exact loaded

/-- The entries after the package `poe`, which starts from cleared ones. -/
theorem loadPorts_ports (package : UciPackage) (i : Fin maxPort)
    (cleared : config.ports i = emptyPort) :
    (loadPorts config package).1.ports i = describedPort package [] i := by
  have name := loadPorts_declared config (fun port => port.name) _ i (fun _ _ => rfl) package
  have enable := loadPorts_declared config (fun port => port.enable) _ i (fun _ _ => rfl) package
  have valid := loadPorts_declared config (fun port => port.valid) _ i (fun _ _ => rfl) package
  have priority :=
    loadPorts_declared config (fun port => port.priority) _ i (fun _ _ => rfl) package
  have powerUpMode := loadPorts_powerUpMode config package i
  have powerBudget := loadPorts_powerBudget config package i
  rw [cleared] at name enable valid priority powerUpMode powerBudget
  have isSome : ∀ last : Option UciSection, last.elim false (fun _ => true) = last.isSome := by
    intro last
    cases last <;> rfl
  refine ConfiguredPort.eq_of_members ?_ ?_ ?_ ?_ powerUpMode powerBudget
  · exact name
  · exact enable.trans (isSome _)
  · exact valid.trans (isSome _)
  · exact priority

end Load

/-! ## The loaded table -/

/-- The table is what the packages describe; one that cannot be loaded counts as
empty. -/
theorem configLoad_ports (config : Config) (poe port : Option UciPackage) (i : Fin maxPort) :
    (configLoad config poe port).1.ports i = describedPort (poe.getD []) (port.getD []) i := by
  have declared :
      (loadPoePackage { config with ports := fun _ => emptyPort } poe).1.ports i =
        describedPort (poe.getD []) [] i := by
    cases poe with
    | none => rfl
    | some package => exact loadPorts_ports _ package i rfl
  simp only [configLoad]
  cases port with
  | none => exact declared
  | some package =>
      rw [loadPortPackage, loadStates_ports, if_pos (Nat.zero_le _), declared]
      rfl

theorem configLoad_written_iff (config : Config) (poe port : UciPackage) :
    (∀ index ∈ (configLoad config (some poe) (some port)).2, index < maxPort) ↔
      (lanSections port).length ≤ maxPort := by
  simp only [configLoad, loadPoePackage, loadPortPackage, List.forall_mem_append,
    loadStates_written]
  rw [and_iff_right (loadPorts_written _ poe)]
  constructor
  · intro inside
    by_contra long
    have member : maxPort ∈ List.range' 0 (lanSections port).length := by
      rw [List.mem_range'_1]
      omega
    exact absurd (inside maxPort member) (Nat.lt_irrefl _)
  · intro short index member
    rw [List.mem_range'_1] at member
    omega

/-! ## Agreement of the two packages -/

/-- The port is declared in the package `poe`. -/
def Declared (poe : UciPackage) (i : Fin maxPort) : Prop :=
  ∃ s ∈ portSections poe, declares i s = true

/-- The name of the `lan` section of a port. -/
def lanName (i : Fin maxPort) : String :=
  "lan" ++ toString (i.val + 1)

/-- The `lan` section of the port says `poe=enable`. -/
def LanEnables (port : UciPackage) (i : Fin maxPort) : Prop :=
  ∃ s ∈ lanSections port, s.name = lanName i ∧ s.lookup "poe" = some "enable"

/-- Only entries of the table are written, and a declared port is enabled exactly if its `lan`
section enables it. -/
structure Agrees (poe port : UciPackage) (loaded : Config × List Nat) : Prop where
  inside : ∀ index ∈ loaded.2, index < maxPort
  enabled : ∀ i, Declared poe i → ((loaded.1.ports i).enable = true ↔ LanEnables port i)

/-- There are at most 24 `lan` sections, and for every declared port the one at its position
says `poe=enable`, or there is none at its position, exactly if the one with its name
says so. -/
def Aligned (poe port : UciPackage) : Prop :=
  (lanSections port).length ≤ maxPort ∧
    ∀ i, Declared poe i →
      ((∀ s, (lanSections port)[i.val]? = some s → s.lookup "poe" = some "enable") ↔
        LanEnables port i)

theorem describedPort_enable {poe port : UciPackage} {i : Fin maxPort}
    (declared : Declared poe i) :
    (describedPort poe port i).enable = true ↔
      ∀ s, (lanSections port)[i.val]? = some s → s.lookup "poe" = some "enable" := by
  have isSome : (lastWith (declares i) (portSections poe)).isSome = true := by
    rw [Option.isSome_iff_ne_none, ne_eq, lastWith_eq_none_iff]
    intro none
    obtain ⟨s, member, declares⟩ := declared
    exact none s member declares
  simp only [describedPort, isSome]
  cases (lanSections port)[i.val]? with
  | none => simp
  | some s => simp [saysEnable]

/-- For every configuration in effect and every content of the two packages: the loaded table
agrees with them exactly if they are aligned. -/
theorem config_load_agrees_iff (config : Config) (poe port : UciPackage) :
    Agrees poe port (configLoad config (some poe) (some port)) ↔ Aligned poe port := by
  have entry := fun i => configLoad_ports config (some poe) (some port) i
  simp only [Option.getD_some] at entry
  constructor
  · intro agrees
    refine ⟨(configLoad_written_iff config poe port).mp agrees.inside, fun i declared => ?_⟩
    rw [← agrees.enabled i declared, entry, describedPort_enable declared]
  · intro aligned
    refine ⟨(configLoad_written_iff config poe port).mpr aligned.1, fun i declared => ?_⟩
    rw [entry, describedPort_enable declared]
    exact aligned.2 i declared

def portSection (id name : String) : UciSection :=
  ⟨"port", "port" ++ id, [("id", id), ("name", name)]⟩

def lanSection (name poe : String) : UciSection :=
  ⟨"lan", name, [("poe", poe)]⟩

def initialConfig : Config where
  portCount := ⟨0, by decide⟩
  ports := fun _ => emptyPort

/-- With the sections of the ports 1 and 2 in the other order, port 1 gets the state of port 2;
the 25th `lan` section is stored behind the table. -/
theorem swapped_lans_disagree :
    ((configLoad initialConfig (some [portSection "1" "lan1"])
        (some [lanSection "lan2" "disable", lanSection "lan1" "enable"])).1.ports
        ⟨0, by decide⟩).enable = false ∧
      24 ∈ (configLoad initialConfig (some [])
        (some (List.replicate 25 (lanSection "lan1" "enable")))).2 ∧
      ¬∀ (config : Config) (poe port : UciPackage),
        Agrees poe port (configLoad config (some poe) (some port)) := by
  have swapped : ((configLoad initialConfig (some [portSection "1" "lan1"])
      (some [lanSection "lan2" "disable", lanSection "lan1" "enable"])).1.ports
      ⟨0, by decide⟩).enable = false := by decide +kernel
  refine ⟨swapped, by decide +kernel, fun always => ?_⟩
  have agrees := always initialConfig [portSection "1" "lan1"]
    [lanSection "lan2" "disable", lanSection "lan1" "enable"]
  have declared : Declared [portSection "1" "lan1"] ⟨0, by decide⟩ :=
    ⟨portSection "1" "lan1", by decide +kernel, by decide +kernel⟩
  have enables : LanEnables [lanSection "lan2" "disable", lanSection "lan1" "enable"]
      ⟨0, by decide⟩ :=
    ⟨lanSection "lan1" "enable", by decide +kernel, by decide +kernel, by decide +kernel⟩
  have enabled := (agrees.enabled ⟨0, by decide⟩ declared).mpr enables
  rw [swapped] at enabled
  exact Bool.false_ne_true enabled

/-- Packages as they are shipped are aligned: the `lan` sections stand in the order of their
numbers, there are no two of the same name, and every declared port has one. -/
theorem aligned_of_numbered {poe port : UciPackage}
    (short : (lanSections port).length ≤ maxPort)
    (distinct : ((lanSections port).map UciSection.name).Nodup)
    (numbered : ∀ (i : Fin maxPort) s, (lanSections port)[i.val]? = some s → s.name = lanName i)
    (covered : ∀ i, Declared poe i → i.val < (lanSections port).length) : Aligned poe port := by
  refine ⟨short, fun i declared => ?_⟩
  have inside := covered i declared
  have atI := List.getElem?_eq_getElem inside
  have member := List.getElem_mem inside
  have name := numbered i _ atI
  constructor
  · intro enables
    exact ⟨_, member, name, enables _ atI⟩
  · rintro ⟨s, isLan, named, enables⟩ other atOther
    rw [atI] at atOther
    cases atOther
    have same : (lanSections port)[i.val] = s :=
      List.inj_on_of_nodup_map distinct member isLan (name.trans named.symm)
    rw [same]
    exact enables

end TfortisPack.RealtekPoe
