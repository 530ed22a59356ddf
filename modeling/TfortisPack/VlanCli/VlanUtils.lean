import Mathlib.Data.List.AList
import TfortisPack.Library.Lua

/-!
# Port lists of a VLAN (`vlan_utils.lua`)

The `network` configuration holds one `bridge-vlan` section per VLAN, whose
`ports` option lists the member ports as texts: `lan3` for an untagged, `lan3:t`
for a tagged member.  `setPorts` reads such a list into a table of port numbers,
`uciSetVlanParam` writes tables back.

A tagged port is read with the pattern `(%w+)(%d+):(%a+)`.  Its first repetition
also takes digits, so only the last digit is left for the port number.
-/

namespace TfortisPack.VlanCli

open Library
open Library.Lua (Item Pairs findMatch matchItems tostring tonumber)

abbrev Text := List Char

inductive Tag where
  | tagged
  | untagged
  deriving Repr, DecidableEq

/-- What stops a script: a port text without a number used as a table index, an
interface without a device, a VLAN that is not in the table, a comparison with
the number of a VLAN that has none, and a range that was rejected. -/
inductive Failure where
  | unreadablePort
  | missingDevice
  | missingVlan
  | missingNumber
  | missingRange
  deriving Repr, DecidableEq

abbrev Ports := AList fun _ : Nat => Tag

inductive SectionType where
  | interface
  | device
  | bridgeVlan
  | other
  deriving Repr, DecidableEq

/-- The options that describe the device of a VLAN. -/
structure DeviceOptions where
  name : Option Text := none
  type : Option Text := none
  ifname : Option Text := none
  vid : Option Text := none
  macaddr : Option Text := none
  deriving Repr, DecidableEq

/-- A section of the configuration, with the options that the VLAN commands read and
write.  A list option without an item is the same as no option. -/
structure Section where
  type : SectionType
  vlan : Option Text := none
  device : Option Text := none
  ports : List Text := []
  state : Option Text := none
  deviceOptions : DeviceOptions := {}
  deriving Repr, DecidableEq

abbrev Network := AList fun _ : Text => Section

/-- What a script keeps of a `bridge-vlan` section. -/
structure VlanList where
  id : Text
  num : Text
  ports : Option Ports
  mngtVlan : Bool := false
  ifname : Option Text := none

/-- The VLANs by number, as Lua keeps them: the keys are texts. -/
abbrev VlanArr := AList fun _ : Text => VlanList

def setVlanParam (param : Option Text) : Text :=
  param.getD ['n', 'o', 't', '_', 's', 'e', 't']

/-! ## Reading -/

/-- `(%w+)(%d+):(%a+)` -/
def taggedPattern : List (Item Char) :=
  [.many Char.isAlphanum, .many Char.isDigit, .one (· == ':'), .many Char.isAlpha]

/-- `(%a+)(%d+)` -/
def untaggedPattern : List (Item Char) :=
  [.many Char.isAlpha, .many Char.isDigit]

/-- The second capture of a match, as a number. -/
def capturedNumber (pieces : Option (List Text)) : Option Nat :=
  pieces.bind fun pieces => (pieces[1]?).bind tonumber

def getPortType (portStr : Text) : Option Nat × Tag :=
  if [':', 't'] <:+: portStr then
    (capturedNumber (findMatch taggedPattern portStr), .tagged)
  else
    (capturedNumber (findMatch untaggedPattern portStr), .untagged)

def readPort (portsList : Ports) (portStr : Text) : Except Failure Ports :=
  match getPortType portStr with
  | (some portNumber, state) => .ok (portsList.insert portNumber state)
  | (none, _) => .error .unreadablePort

def setPorts (pairs : Pairs) (ports : List Text) : Except Failure (Option Ports) :=
  if ports = [] then
    .ok none
  else
    ((pairs.order ports).foldlM readPort ∅).map some

/-! ## Writing -/

/-- A change of the options of a section; `uci` refuses it where there is no such
section. -/
def modifySection (name : Text) (change : Section → Section) (network : Network) : Network :=
  match network.lookup name with
  | some found => network.insert name (change found)
  | none => network

def portText (num : Nat) (state : Tag) : Text :=
  ['l', 'a', 'n'] ++ tostring num ++
    match state with
    | .untagged => []
    | .tagged => [':', 't']

def saveVlan (vlanList : VlanList) : Ports :=
  vlanList.ports.getD ∅

/-- The ports of one VLAN: the old list is deleted where there is one, the new
texts are appended one by one. -/
def uciSetPorts (pairs : Pairs) (vlanList : VlanList) (portlist : Ports) (network : Network) :
    Network :=
  let cleared :=
    if vlanList.ports.isSome then
      modifySection vlanList.id (fun found => { found with ports := [] }) network
    else
      network
  (pairs.order portlist.entries).foldl
    (fun network port =>
      modifySection vlanList.id
        (fun found => { found with ports := found.ports ++ [portText port.1 port.2] }) network)
    cleared

/-- Every VLAN of the saved lists was found in `vlanArr` when it was saved. -/
def uciSetVlanParam (pairs : Pairs) (vlanArr : VlanArr) (busyVlanPortList : List (Nat × Ports))
    (network : Network) : Network :=
  busyVlanPortList.foldl
    (fun network saved =>
      match vlanArr.lookup (tostring saved.1) with
      | some vlanList => uciSetPorts pairs vlanList saved.2 network
      | none => network)
    network

/-! ## What is read of a written text -/

/-- The number that a written port is read back as. -/
def readNumber (num : Nat) : Tag → Nat
  | .untagged => num
  | .tagged => num % 10

theorem readNumber_eq_self_iff {num : Nat} {state : Tag} :
    readNumber num state = num ↔ (state = .tagged → num < 10) := by
  cases state with
  | untagged =>
      simp [readNumber]
  | tagged =>
      simp only [readNumber, true_implies]
      omega

theorem isAlpha_eq_false_of_isDigit {letter : Char} (digit : letter.isDigit = true) :
    letter.isAlpha = false := by
  have small : letter.toNat ≤ 57 := (Char.isDigit_iff_toNat.mp digit).2
  have notUpper : letter.isUpper = false := by
    apply decide_eq_false
    intro bounds
    have large : 65 ≤ letter.toNat := bounds.1
    omega
  have notLower : letter.isLower = false := by
    refine Bool.and_eq_false_iff.mpr (Or.inl (decide_eq_false ?_))
    intro bound
    have large : 97 ≤ letter.toNat := bound
    omega
  exact Bool.or_eq_false_iff.mpr ⟨notUpper, notLower⟩

theorem colon_notMem_tostring (num : Nat) : ':' ∉ tostring num := by
  intro member
  have digit := Lua.isDigit_of_mem_tostring member
  simp at digit

theorem getPortType_untagged (num : Nat) :
    getPortType (portText num .untagged) = (some num, .untagged) := by
  have free : ':' ∉ portText num .untagged := by
    simp [portText, colon_notMem_tostring]
  have plain : ¬ [':', 't'] <:+: portText num .untagged :=
    fun inside => free (inside.subset List.mem_cons_self)
  have digits : matchItems [.many Char.isDigit] (tostring num) = some [tostring num] := by
    have whole : matchItems [.many Char.isDigit] (tostring num ++ []) = some [tostring num] :=
      Lua.matchItems_many (Lua.tostring_ne_nil num)
        (fun _ member => Lua.isDigit_of_mem_tostring member) (by simp) rfl
    rwa [List.append_nil] at whole
  have stops : ∀ letter ∈ (tostring num).head?, Char.isAlpha letter = false :=
    fun letter first =>
      isAlpha_eq_false_of_isDigit (Lua.isDigit_of_mem_tostring (List.mem_of_mem_head? first))
  have matched : matchItems untaggedPattern (portText num .untagged) =
      some [['l', 'a', 'n'], tostring num] := by
    rw [portText, List.append_nil]
    have name : ∀ letter ∈ ['l', 'a', 'n'], Char.isAlpha letter = true :=
      List.all_eq_true.mp (by decide)
    exact Lua.matchItems_many (by decide) name stops digits
  rw [getPortType, if_neg plain, Lua.findMatch_of_matchItems matched]
  simp [capturedNumber, Lua.tonumber_tostring]

/-- The name takes all digits but the last. -/
theorem getPortType_tagged (num : Nat) :
    getPortType (portText num .tagged) = (some (num % 10), .tagged) := by
  have marked : [':', 't'] <:+: portText num .tagged :=
    (List.suffix_append _ _).isInfix
  obtain ⟨front, numeral⟩ := Lua.exists_tostring_eq_append num
  have behind : matchItems [.many Char.isDigit, .one (· == ':'), .many Char.isAlpha]
      ([Nat.digitChar (num % 10)] ++ [':', 't']) =
        some [[Nat.digitChar (num % 10)], [':'], ['t']] := by
    apply Lua.matchItems_many
    · simp
    · simpa using Nat.mod_lt num (by decide)
    · simp
    · rfl
  have inside : ∀ letter ∈ (['l', 'a', 'n'] ++ front) ++ [Nat.digitChar (num % 10)],
      Char.isAlphanum letter = true := by
    intro letter member
    rw [List.append_assoc, ← numeral, List.mem_append] at member
    rcases member with name | digit
    · exact List.all_eq_true.mp (by decide) letter name
    · rw [Char.isAlphanum, Lua.isDigit_of_mem_tostring digit, Bool.or_true]
  have matched : matchItems taggedPattern (portText num .tagged) =
      some [['l', 'a', 'n'] ++ front, [Nat.digitChar (num % 10)], [':'], ['t']] := by
    rw [portText, numeral, ← List.append_assoc, List.append_assoc]
    exact Lua.matchItems_many_gives_back (by simp) inside (by simp) rfl behind
  rw [getPortType, if_pos marked, Lua.findMatch_of_matchItems matched]
  simp [capturedNumber, Lua.tonumber_digitChar]

theorem getPortType_portText (num : Nat) (state : Tag) :
    getPortType (portText num state) = (some (readNumber num state), state) := by
  cases state with
  | untagged =>
      exact getPortType_untagged num
  | tagged =>
      exact getPortType_tagged num

theorem portText_injective {first second : Nat} {state other : Tag}
    (same : portText first state = portText second other) : first = second ∧ state = other := by
  have states : state = other := by
    have types := congrArg getPortType same
    rw [getPortType_portText, getPortType_portText] at types
    exact congrArg Prod.snd types
  subst states
  simp only [portText, List.append_left_inj, List.append_right_inj] at same
  exact ⟨Lua.tostring_injective same, rfl⟩

/-- The texts are a table of ports: each is a written port, and no port is
listed with both tags. -/
structure PortTable (texts : List Text) : Prop where
  written : ∀ text ∈ texts, ∃ num state, text = portText num state
  single :
    ∀ {num state other}, portText num state ∈ texts → portText num other ∈ texts → state = other

/-- Every tagged port has a single digit. -/
def Legible (texts : List Text) : Prop :=
  ∀ num, portText num .tagged ∈ texts → num < 10

theorem Legible.getPortType {texts : List Text} (legible : Legible texts) {num : Nat} {state : Tag}
    (member : portText num state ∈ texts) :
    getPortType (portText num state) = (some num, state) := by
  have same : readNumber num state = num := by
    rw [readNumber_eq_self_iff]
    intro tagged
    exact legible num (tagged ▸ member)
  rw [getPortType_portText, same]

theorem readPort_of_getPortType {start : Ports} {text : Text} {num : Nat} {state : Tag}
    (read : getPortType text = (some num, state)) :
    readPort start text = .ok (start.insert num state) := by
  rw [readPort, read]

theorem lookup_foldlM_readPort {texts : List Text} (table : PortTable texts)
    (legible : Legible texts) {rest : List Text} (part : ∀ text ∈ rest, text ∈ texts)
    {start ports : Ports} (read : rest.foldlM readPort start = .ok ports)
    {num : Nat} {state : Tag} :
    ports.lookup num = some state ↔
      portText num state ∈ rest ∨
        (∀ other, portText num other ∉ rest) ∧ start.lookup num = some state := by
  induction rest generalizing start with
  | nil =>
      rw [List.foldlM_nil] at read
      cases read
      simp
  | cons text rest inductionHypothesis =>
      obtain ⟨first, tag, rfl⟩ := table.written text (part text List.mem_cons_self)
      have listed := part _ List.mem_cons_self
      rw [List.foldlM_cons, readPort_of_getPortType (legible.getPortType listed)] at read
      have later : ∀ text ∈ rest, text ∈ texts :=
        fun text member => part text (List.mem_cons_of_mem _ member)
      rw [inductionHypothesis later read]
      by_cases same : num = first
      · subst same
        simp only [AList.lookup_insert, Option.some.injEq, List.mem_cons, not_or]
        constructor
        · rintro (member | ⟨-, rfl⟩)
          · exact Or.inl (Or.inr member)
          · exact Or.inl (Or.inl rfl)
        · rintro ((equal | member) | ⟨apart, -⟩)
          · have states := (portText_injective equal).2
            by_cases again : ∃ other, portText num other ∈ rest
            · obtain ⟨other, member⟩ := again
              have tags := table.single listed (later _ member)
              rw [states, tags]
              exact Or.inl member
            · rw [not_exists] at again
              exact Or.inr ⟨again, states.symm⟩
          · exact Or.inl member
          · exact absurd rfl (apart tag).1
      · have different : ∀ other, portText num other ≠ portText first tag :=
          fun other equal => same (portText_injective equal).1
        simp only [AList.lookup_insert_ne same, List.mem_cons, different, false_or]

/-- What is read of a legible table is what stands in it. -/
theorem lookup_setPorts {pairs : Pairs} {texts : List Text} (table : PortTable texts)
    (legible : Legible texts) {ports : Option Ports} (read : setPorts pairs texts = .ok ports)
    {num : Nat} {state : Tag} :
    (ports.getD ∅).lookup num = some state ↔ portText num state ∈ texts := by
  rw [setPorts] at read
  split at read
  · rename_i empty
    cases read
    simp [empty]
  · cases fold : (pairs.order texts).foldlM readPort ∅ with
    | error failure =>
        rw [fold] at read
        cases read
    | ok ports =>
        rw [fold] at read
        cases read
        have part : ∀ text ∈ pairs.order texts, text ∈ texts :=
          fun _ member => pairs.mem_order.mp member
        rw [Option.getD_some, lookup_foldlM_readPort table legible part fold]
        simp [pairs.mem_order]

theorem setPorts_eq_none_iff {pairs : Pairs} {texts : List Text} {ports : Option Ports}
    (read : setPorts pairs texts = .ok ports) : ports = none ↔ texts = [] := by
  rw [setPorts] at read
  split at read
  · rename_i empty
    cases read
    simp [empty]
  · rename_i nonempty
    cases fold : (pairs.order texts).foldlM readPort ∅ with
    | error failure =>
        rw [fold] at read
        cases read
    | ok ports =>
        rw [fold] at read
        cases read
        simp [nonempty]

theorem setPorts_ends (pairs : Pairs) {texts : List Text}
    (readable : ∀ text ∈ texts, ∃ num state, getPortType text = (some num, state)) :
    ∃ ports, setPorts pairs texts = .ok ports := by
  rw [setPorts]
  split
  · exact ⟨none, rfl⟩
  · have read : ∀ (state : Ports), ∀ text ∈ pairs.order texts, True →
        ∃ next, readPort state text = .ok next ∧ True := by
      intro state text member _
      obtain ⟨num, tag, typed⟩ := readable text (pairs.mem_order.mp member)
      exact ⟨_, readPort_of_getPortType typed, trivial⟩
    obtain ⟨ports, ran, -⟩ :=
      Lua.foldlM_ends (fun _ => True) read (trivial : (fun _ : Ports => True) ∅)
    rw [ran]
    exact ⟨some ports, rfl⟩

/-! ## What is written -/

def portTexts (pairs : Pairs) (ports : Ports) : List Text :=
  (pairs.order ports.entries).map fun port => portText port.1 port.2

theorem portText_mem_portTexts {pairs : Pairs} {ports : Ports} {num : Nat} {state : Tag} :
    portText num state ∈ portTexts pairs ports ↔ ports.lookup num = some state := by
  rw [← Option.mem_def, AList.mem_lookup_iff, portTexts, List.mem_map]
  constructor
  · rintro ⟨⟨first, tag⟩, member, equal⟩
    obtain ⟨rfl, rfl⟩ := portText_injective equal
    exact pairs.mem_order.mp member
  · intro member
    exact ⟨⟨num, state⟩, pairs.mem_order.mpr member, rfl⟩

theorem portTable_portTexts (pairs : Pairs) (ports : Ports) :
    PortTable (portTexts pairs ports) where
  written := by
    intro text member
    rw [portTexts, List.mem_map] at member
    obtain ⟨port, -, rfl⟩ := member
    exact ⟨port.1, port.2, rfl⟩
  single := by
    intro num state other first second
    rw [portText_mem_portTexts] at first second
    exact Option.some.inj (first.symm.trans second)

theorem lookup_modifySection (name : Text) (change : Section → Section) (network : Network)
    (key : Text) :
    (modifySection name change network).lookup key =
      if key = name then (network.lookup name).map change else network.lookup key := by
  rw [modifySection]
  split
  · rename_i found lookup
    by_cases same : key = name
    · subst same
      simp [lookup]
    · rw [if_neg same, AList.lookup_insert_ne same]
  · rename_i lookup
    by_cases same : key = name
    · subst same
      simp [lookup]
    · rw [if_neg same]

theorem lookup_foldl_append (name : Text) (texts : List Text) (network : Network) (key : Text) :
    (texts.foldl (fun network text =>
        modifySection name (fun found => { found with ports := found.ports ++ [text] }) network)
      network).lookup key =
      if key = name then
        (network.lookup name).map fun found => { found with ports := found.ports ++ texts }
      else
        network.lookup key := by
  induction texts generalizing network with
  | nil =>
      by_cases same : key = name
      · subst same
        simp
      · simp [same]
  | cons text rest inductionHypothesis =>
      rw [List.foldl_cons, inductionHypothesis, lookup_modifySection, lookup_modifySection]
      by_cases same : key = name
      · simp [same, Function.comp_def]
      · simp [same]

theorem lookup_uciSetPorts (pairs : Pairs) (vlanList : VlanList) (portlist : Ports)
    (network : Network) (key : Text) :
    (uciSetPorts pairs vlanList portlist network).lookup key =
      if key = vlanList.id then
        (network.lookup vlanList.id).map fun found =>
          { found with
            ports := (if vlanList.ports.isSome then [] else found.ports) ++
              portTexts pairs portlist }
      else
        network.lookup key := by
  have folded := lookup_foldl_append vlanList.id (portTexts pairs portlist)
    (if vlanList.ports.isSome then
      modifySection vlanList.id (fun found => { found with ports := [] }) network
    else network) key
  rw [portTexts, List.foldl_map] at folded
  rw [uciSetPorts, folded, ← portTexts]
  by_cases same : key = vlanList.id
  · cases ports : vlanList.ports with
    | none =>
        simp [same]
    | some _ =>
        simp [same, lookup_modifySection, Function.comp_def]
  · cases ports : vlanList.ports with
    | none =>
        simp [same]
    | some _ =>
        simp [same, lookup_modifySection]

theorem uciSetVlanParam_cons (pairs : Pairs) (vlanArr : VlanArr) (saved : Nat × Ports)
    (rest : List (Nat × Ports)) (network : Network) :
    uciSetVlanParam pairs vlanArr (saved :: rest) network =
      uciSetVlanParam pairs vlanArr rest
        (match vlanArr.lookup (tostring saved.1) with
        | some vlanList => uciSetPorts pairs vlanList saved.2 network
        | none => network) :=
  rfl

theorem lookup_uciSetVlanParam_of_ne (pairs : Pairs) {vlanArr : VlanArr}
    {lists : List (Nat × Ports)} {key : Text}
    (other : ∀ saved ∈ lists, ∀ vlanList,
      vlanArr.lookup (tostring saved.1) = some vlanList → key ≠ vlanList.id)
    (network : Network) :
    (uciSetVlanParam pairs vlanArr lists network).lookup key = network.lookup key := by
  induction lists generalizing network with
  | nil =>
      rfl
  | cons saved rest inductionHypothesis =>
      have later := inductionHypothesis
        fun saved member => other saved (List.mem_cons_of_mem _ member)
      rw [uciSetVlanParam_cons, later]
      cases found : vlanArr.lookup (tostring saved.1) with
      | none =>
          rfl
      | some vlanList =>
          rw [lookup_uciSetPorts, if_neg (other saved List.mem_cons_self vlanList found)]

theorem lookup_uciSetVlanParam {pairs : Pairs} {vlanArr : VlanArr} {lists : List (Nat × Ports)}
    {saved : Nat × Ports} (member : saved ∈ lists) (distinct : (lists.map Prod.fst).Nodup)
    {vlanList : VlanList} (present : vlanArr.lookup (tostring saved.1) = some vlanList)
    (apart : ∀ number ≠ saved.1, ∀ other,
      vlanArr.lookup (tostring number) = some other → vlanList.id ≠ other.id)
    {network : Network} {found : Section} (lookup : network.lookup vlanList.id = some found)
    (absent : vlanList.ports = none → found.ports = []) :
    (uciSetVlanParam pairs vlanArr lists network).lookup vlanList.id =
      some { found with ports := portTexts pairs saved.2 } := by
  induction lists generalizing network with
  | nil =>
      cases member
  | cons first rest inductionHypothesis =>
      rw [List.map_cons, List.nodup_cons] at distinct
      rcases List.mem_cons.mp member with rfl | later
      · have others : ∀ other ∈ rest, ∀ another,
            vlanArr.lookup (tostring other.1) = some another → vlanList.id ≠ another.id := by
          intro other inRest another found
          apply apart other.1 _ another found
          intro same
          exact distinct.1 (same ▸ List.mem_map_of_mem inRest)
        rw [uciSetVlanParam_cons, lookup_uciSetVlanParam_of_ne pairs others, present,
          lookup_uciSetPorts, if_pos rfl, lookup, Option.map_some]
        cases ports : vlanList.ports with
        | none =>
            simp [absent ports]
        | some _ =>
            simp
      · have different : first.1 ≠ saved.1 := by
          intro same
          exact distinct.1 (same ▸ List.mem_map_of_mem later)
        rw [uciSetVlanParam_cons]
        apply inductionHypothesis later distinct.2
        cases found : vlanArr.lookup (tostring first.1) with
        | none =>
            exact lookup
        | some other =>
            rw [lookup_uciSetPorts, if_neg (apart first.1 different other found)]
            exact lookup

end TfortisPack.VlanCli
