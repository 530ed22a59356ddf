import TfortisPack.VlanCli.VlanModule

/-!
# The VLAN table of a configuration

`Holds` says that a port is listed in a VLAN of the configuration.  For a
configuration that holds a table of VLANs (`Tidy`), and in which every tagged port
has one digit (`Plain`), the script reads this table, and what it writes is the
table with its edits.
-/

namespace TfortisPack.VlanCli

open Library
open Library.Lua (Pairs tostring tonumber)

/-! ## What is read -/

/-- The section behind an entry of the table. -/
structure Describes (pairs : Pairs) (network : Network) (key : Text) (vlanList : VlanList)
    (found : Section) : Prop where
  lookup : network.lookup vlanList.id = some found
  type : found.type = .bridgeVlan
  vlan : setVlanParam found.vlan = key
  ports : setPorts pairs found.ports = .ok vlanList.ports

theorem addBridgeVlan_cases {pairs : Pairs} {vlanArr next : VlanArr} {entry : (_ : Text) × Section}
    (ran : addBridgeVlan pairs vlanArr entry = .ok next) :
    (entry.2.type = .bridgeVlan ∧ ∃ ports, setPorts pairs entry.2.ports = .ok ports ∧
      next = vlanArr.insert (setVlanParam entry.2.vlan)
        { id := entry.1, num := setVlanParam entry.2.vlan, ports := ports }) ∨
    (entry.2.type ≠ .bridgeVlan ∧ next = vlanArr) := by
  rw [addBridgeVlan] at ran
  split at ran
  · rename_i bridge
    obtain ⟨ports, read, inserted⟩ := Lua.bind_eq_ok ran
    cases inserted
    exact Or.inl ⟨bridge, ports, read, rfl⟩
  · rename_i other
    cases ran
    exact Or.inr ⟨other, rfl⟩

section Reading

variable {pairs : Pairs} {network : Network} {vlanArr : VlanArr}

theorem describes_of_getBridgeVlanList (read : getBridgeVlanList pairs network = .ok vlanArr)
    {key : Text} {vlanList : VlanList} (present : vlanArr.lookup key = some vlanList) :
    ∃ found, Describes pairs network key vlanList found := by
  revert key vlanList
  refine Lua.foldlM_invariant (fun _ vlanArr => ∀ {key : Text} {vlanList : VlanList},
    AList.lookup key vlanArr = some vlanList → ∃ found, Describes pairs network key vlanList found)
    ?_ ?_ read
  · intro done state entry next member sound ran key vlanList present
    rcases addBridgeVlan_cases ran with ⟨bridge, ports, read, rfl⟩ | ⟨-, rfl⟩
    · by_cases same : key = setVlanParam entry.2.vlan
      · subst same
        rw [AList.lookup_insert, Option.some.injEq] at present
        subst present
        have stored := AList.mem_lookup_iff.mpr (pairs.mem_order.mp member)
        exact ⟨entry.2, stored, bridge, rfl, read⟩
      · rw [AList.lookup_insert_ne same] at present
        exact sound present
    · exact sound present
  · intro key vlanList present
    simp at present

theorem getBridgeVlanList_complete (read : getBridgeVlanList pairs network = .ok vlanArr)
    {name : Text} {found : Section} (lookup : network.lookup name = some found)
    (bridge : found.type = .bridgeVlan) :
    ∃ vlanList, vlanArr.lookup (setVlanParam found.vlan) = some vlanList := by
  have complete := Lua.foldlM_invariant
    (fun done vlanArr => ∀ entry ∈ done, entry.2.type = .bridgeVlan →
      (AList.lookup (setVlanParam entry.2.vlan) vlanArr).isSome) ?_ ?_ read
  · have member : ⟨name, found⟩ ∈ pairs.order network.entries :=
      pairs.mem_order.mpr (AList.mem_lookup_iff.mp lookup)
    exact Option.isSome_iff_exists.mp (complete _ member bridge)
  · intro done state entry next _ complete ran other member bridge
    rcases addBridgeVlan_cases ran with ⟨-, ports, -, rfl⟩ | ⟨notBridge, rfl⟩
    · rw [AList.lookup_isSome, AList.mem_insert]
      rcases List.mem_append.mp member with earlier | last
      · exact Or.inr (AList.lookup_isSome.mp (complete other earlier bridge))
      · rw [List.mem_singleton] at last
        exact Or.inl (last ▸ rfl)
    · rcases List.mem_append.mp member with earlier | last
      · exact complete other earlier bridge
      · rw [List.mem_singleton] at last
        exact absurd (last ▸ bridge) notBridge
  · intro entry member
    cases member

end Reading

/-! ## Tables of VLANs -/

/-- The VLAN lists the port with this tag. -/
def Holds (network : Network) (vlan port : Nat) (state : Tag) : Prop :=
  ∃ name found, network.lookup name = some found ∧ found.type = .bridgeVlan ∧
    found.vlan = some (tostring vlan) ∧ portText port state ∈ found.ports

/-- The `bridge-vlan` sections are a table: each has a number, no two have the
same one, and their ports are tables of ports. -/
structure Tidy (network : Network) : Prop where
  numbered : ∀ {name found}, network.lookup name = some found → found.type = .bridgeVlan →
    ∃ vlan, found.vlan = some (tostring vlan)
  distinct : ∀ {name other found another}, network.lookup name = some found →
    network.lookup other = some another → found.type = .bridgeVlan →
    another.type = .bridgeVlan → found.vlan = another.vlan → name = other
  table : ∀ {name found}, network.lookup name = some found → found.type = .bridgeVlan →
    PortTable found.ports

/-- Every tagged port has a single digit. -/
def Plain (network : Network) : Prop :=
  ∀ vlan port, Holds network vlan port .tagged → port < 10

/-- The tag of a port in the VLAN with this key. -/
def entry (vlanArr : VlanArr) (key : Text) (port : Nat) : Option Tag :=
  (vlanArr.lookup key).bind fun vlanList => (saveVlan vlanList).lookup port

theorem entry_of_lookup {vlanArr : VlanArr} {key : Text} {vlanList : VlanList}
    (present : vlanArr.lookup key = some vlanList) :
    entry vlanArr key = (saveVlan vlanList).lookup := by
  funext port
  rw [entry, present, Option.bind_some]

/-- The nested loops over the table meet its entries. -/
theorem mem_members_iff {vlanArr : VlanArr} {key : Text} {port : Nat} {state : Tag} :
    ⟨key, port, state⟩ ∈ members vlanArr ↔ entry vlanArr key port = some state := by
  rw [members, List.mem_flatMap, entry, Option.bind_eq_some_iff]
  constructor
  · rintro ⟨⟨name, vlanList⟩, stored, member⟩
    cases ports : vlanList.ports with
    | none =>
        simp [ports] at member
    | some list =>
        simp only [ports, List.mem_map, Member.mk.injEq] at member
        obtain ⟨⟨num, tag⟩, listed, rfl, rfl, rfl⟩ := member
        refine ⟨vlanList, AList.mem_lookup_iff.mpr stored, ?_⟩
        rw [saveVlan, ports, Option.getD_some]
        exact AList.mem_lookup_iff.mpr listed
  · rintro ⟨vlanList, present, listed⟩
    refine ⟨⟨key, vlanList⟩, AList.mem_lookup_iff.mp present, ?_⟩
    cases ports : vlanList.ports with
    | none =>
        simp [saveVlan, ports] at listed
    | some list =>
        rw [saveVlan, ports, Option.getD_some] at listed
        exact List.mem_map.mpr ⟨⟨port, state⟩, AList.mem_lookup_iff.mp listed, rfl⟩

/-- The tag of a port in a VLAN of the table that was read. -/
def status (vlanArr : VlanArr) (vlan port : Nat) : Option Tag :=
  (vlanArr.lookup (tostring vlan)).bind fun vlanList => (saveVlan vlanList).lookup port

section Status

variable {pairs : Pairs} {network : Network} {vlanArr : VlanArr}

theorem Tidy.number_eq (tidy : Tidy network) {key : Text} {vlanList : VlanList} {found : Section}
    (described : Describes pairs network key vlanList found) :
    ∃ vlan, key = tostring vlan ∧ found.vlan = some (tostring vlan) := by
  obtain ⟨vlan, numbered⟩ := tidy.numbered described.lookup described.type
  refine ⟨vlan, ?_, numbered⟩
  rw [← described.vlan, numbered, setVlanParam, Option.getD_some]

theorem Tidy.describes (tidy : Tidy network) (read : getBridgeVlanList pairs network = .ok vlanArr)
    {name : Text} {found : Section} (lookup : network.lookup name = some found)
    (bridge : found.type = .bridgeVlan) {vlan : Nat} (number : found.vlan = some (tostring vlan)) :
    ∃ vlanList, vlanArr.lookup (tostring vlan) = some vlanList ∧ vlanList.id = name ∧
      Describes pairs network (tostring vlan) vlanList found := by
  obtain ⟨vlanList, present⟩ := getBridgeVlanList_complete read lookup bridge
  rw [number, setVlanParam, Option.getD_some] at present
  obtain ⟨another, described⟩ := describes_of_getBridgeVlanList read present
  obtain ⟨other, key, numbered⟩ := tidy.number_eq described
  have same : vlanList.id = name := by
    apply tidy.distinct described.lookup lookup described.type bridge
    rw [numbered, number, key]
  have sections : another = found := by
    have stored := described.lookup
    rw [same, lookup] at stored
    exact (Option.some.inj stored).symm
  exact ⟨vlanList, present, same, sections ▸ described⟩

theorem Plain.legible (plain : Plain network) {name : Text} {found : Section}
    (lookup : network.lookup name = some found) (bridge : found.type = .bridgeVlan) {vlan : Nat}
    (number : found.vlan = some (tostring vlan)) : Legible found.ports :=
  fun port member => plain vlan port ⟨name, found, lookup, bridge, number, member⟩

/-- What is read of a plain table is what the configuration holds. -/
theorem holds_iff_status (tidy : Tidy network) (plain : Plain network)
    (read : getBridgeVlanList pairs network = .ok vlanArr) {vlan port : Nat} {state : Tag} :
    Holds network vlan port state ↔ status vlanArr vlan port = some state := by
  rw [status, Option.bind_eq_some_iff]
  constructor
  · rintro ⟨name, found, lookup, bridge, number, member⟩
    obtain ⟨vlanList, present, -, described⟩ := tidy.describes read lookup bridge number
    refine ⟨vlanList, present, ?_⟩
    rw [saveVlan, lookup_setPorts (tidy.table lookup bridge) (plain.legible lookup bridge number)
      described.ports]
    exact member
  · rintro ⟨vlanList, present, listed⟩
    obtain ⟨found, described⟩ := describes_of_getBridgeVlanList read present
    obtain ⟨other, key, number⟩ := tidy.number_eq described
    rw [← key] at number
    refine ⟨vlanList.id, found, described.lookup, described.type, number, ?_⟩
    rw [saveVlan, lookup_setPorts (tidy.table described.lookup described.type)
      (plain.legible described.lookup described.type number) described.ports] at listed
    exact listed

end Status

/-! ## Edits of port lists -/

/-- An edit of one port acts on its entry alone, and doing it twice does no more. -/
structure Edits (change : Nat → Ports → Ports × Nat) (effect : Option Tag → Option Tag) :
    Prop where
  lookup : ∀ port list other, (change port list).1.lookup other =
    if other = port then effect (list.lookup port) else list.lookup other
  idempotent : ∀ entry, effect (effect entry) = effect entry

/-- What a command does to the entry of a free port. -/
def Cmd.effect (cmd : Cmd) (state : Tag) (entry : Option Tag) : Option Tag :=
  match cmd, entry with
  | .add, none => some state
  | .add, some old => some old
  | .edit, some _ => some state
  | .edit, none => none

theorem edits_setPort (cmd : Cmd) (state : Tag) : Edits (setPort cmd state) (cmd.effect state) where
  lookup := by
    intro port list other
    by_cases same : other = port
    · subst same
      cases cmd <;> cases entry : AList.lookup other list <;> simp [setPort, Cmd.effect, entry]
    · cases cmd <;> cases entry : AList.lookup port list <;>
        simp [setPort, entry, same, AList.lookup_insert_ne]
  idempotent := by
    intro entry
    cases cmd <;> cases entry <;> rfl

theorem edits_removePort : Edits removePort (fun _ => none) where
  lookup := by
    intro port list other
    by_cases same : other = port
    · subst same
      cases entry : AList.lookup other list <;> simp [removePort, entry]
    · cases entry : AList.lookup port list <;>
        simp [removePort, entry, same, AList.lookup_erase_ne]
  idempotent := fun _ => rfl

/-- The loop edits the free ports of its range, the same way in every list. -/
theorem changePorts_lists {busy : Nat → Except Failure Bool}
    {change : Nat → Ports → Ports × Nat} {effect : Option Tag → Option Tag}
    (edits : Edits change effect) {ports : List Nat} {saved final : Saved}
    (ran : changePorts busy change ports saved = .ok final) :
    ∃ edit : Ports → Ports,
      final.lists = saved.lists.map (fun list => (list.1, edit list.2)) ∧
      ∀ list port, (edit list).lookup port =
        if port ∈ ports ∧ busy port = .ok false then effect (list.lookup port)
        else list.lookup port := by
  refine Lua.foldlM_invariant (fun done (state : Saved) => ∃ edit : Ports → Ports,
    state.lists = saved.lists.map (fun list => (list.1, edit list.2)) ∧
    ∀ list port, (edit list).lookup port =
      if port ∈ done ∧ busy port = .ok false then effect (list.lookup port)
      else list.lookup port) ?_ ?_ ran
  · rintro done state port next - ⟨edit, lists, entries⟩ stepped
    obtain ⟨taken, status, ended⟩ := Lua.bind_eq_ok stepped
    cases taken with
    | true =>
        cases ended
        refine ⟨edit, lists, ?_⟩
        intro list other
        rw [entries]
        by_cases same : other = port
        · simp [same, status]
        · simp [same]
    | false =>
        cases ended
        refine ⟨fun list => (change port (edit list)).1, ?_, ?_⟩
        · simp [changeLists, lists, Function.comp_def]
        · intro list other
          rw [edits.lookup, entries, entries]
          by_cases same : other = port
          · subst same
            by_cases again : other ∈ done
            · simp [again, status, edits.idempotent]
            · simp [again, status]
          · simp [same]
  · exact ⟨fun list => list, by simp, by simp⟩

theorem map_fst_savedLists_sublist (vlanArr : VlanArr) (vlans : List Nat) :
    ((savedLists vlanArr vlans).map Prod.fst).Sublist vlans := by
  induction vlans with
  | nil =>
      exact List.Sublist.refl []
  | cons vlan rest inductionHypothesis =>
      cases present : vlanArr.lookup (tostring vlan) with
      | none =>
          simpa [savedLists, present] using List.Sublist.cons vlan inductionHypothesis
      | some vlanList =>
          simpa [savedLists, present] using inductionHypothesis

theorem mem_savedLists {vlanArr : VlanArr} {vlans : List Nat} {vlan : Nat} {list : Ports} :
    (vlan, list) ∈ savedLists vlanArr vlans ↔
      vlan ∈ vlans ∧ ∃ vlanList, vlanArr.lookup (tostring vlan) = some vlanList ∧
        saveVlan vlanList = list := by
  simp only [savedLists, List.mem_filterMap, Option.map_eq_some_iff, Prod.mk.injEq]
  constructor
  · rintro ⟨number, member, vlanList, present, rfl, rfl⟩
    exact ⟨member, vlanList, present, rfl⟩
  · rintro ⟨member, vlanList, present, rfl⟩
    exact ⟨vlan, member, vlanList, present, rfl, rfl⟩

/-! ## Writing the edited lists -/

/-- The configuration after the saved lists of some VLANs are edited and written. -/
def rewriteVlans (pairs : Pairs) (vlanArr : VlanArr) (vlans : List Nat) (edit : Ports → Ports)
    (network : Network) : Network :=
  uciSetVlanParam pairs vlanArr
    ((savedLists vlanArr vlans).map fun list => (list.1, edit list.2)) network

section Writing

variable {pairs : Pairs} {network : Network} {vlanArr : VlanArr} {vlans : List Nat}
variable (edit : Ports → Ports)

theorem id_ne_of_getBridgeVlanList (read : getBridgeVlanList pairs network = .ok vlanArr)
    {vlan number : Nat} (different : number ≠ vlan) {vlanList other : VlanList}
    (present : vlanArr.lookup (tostring vlan) = some vlanList)
    (another : vlanArr.lookup (tostring number) = some other) : vlanList.id ≠ other.id := by
  intro same
  obtain ⟨found, described⟩ := describes_of_getBridgeVlanList read present
  obtain ⟨second, describedOther⟩ := describes_of_getBridgeVlanList read another
  have sections : some found = some second := by
    rw [← described.lookup, ← describedOther.lookup, same]
  rw [Option.some.injEq] at sections
  have keys : tostring number = tostring vlan := by
    rw [← described.vlan, ← describedOther.vlan, sections]
  exact different (Lua.tostring_injective keys)

/-- The section of a saved VLAN gets the edited list, if no other VLAN has it. -/
theorem lookup_rewriteVlans_of_apart (distinct : vlans.Nodup) {vlan : Nat}
    (member : vlan ∈ vlans) {vlanList : VlanList}
    (present : vlanArr.lookup (tostring vlan) = some vlanList)
    (apart : ∀ number ≠ vlan, ∀ other,
      vlanArr.lookup (tostring number) = some other → vlanList.id ≠ other.id)
    {found : Section} (lookup : network.lookup vlanList.id = some found)
    (absent : vlanList.ports = none → found.ports = []) :
    (rewriteVlans pairs vlanArr vlans edit network).lookup vlanList.id =
      some { found with ports := portTexts pairs (edit (saveVlan vlanList)) } := by
  have listed : (vlan, edit (saveVlan vlanList)) ∈
      (savedLists vlanArr vlans).map fun list => (list.1, edit list.2) :=
    List.mem_map.mpr ⟨(vlan, saveVlan vlanList),
      mem_savedLists.mpr ⟨member, vlanList, present, rfl⟩, rfl⟩
  have numbers : (((savedLists vlanArr vlans).map fun list => (list.1, edit list.2)).map
      Prod.fst).Nodup := by
    rw [List.map_map]
    exact (map_fst_savedLists_sublist vlanArr vlans).nodup distinct
  exact lookup_uciSetVlanParam listed numbers present apart lookup absent

theorem lookup_rewriteVlans (read : getBridgeVlanList pairs network = .ok vlanArr)
    (distinct : vlans.Nodup) {vlan : Nat} (member : vlan ∈ vlans)
    {vlanList : VlanList} (present : vlanArr.lookup (tostring vlan) = some vlanList)
    {found : Section} (described : Describes pairs network (tostring vlan) vlanList found) :
    (rewriteVlans pairs vlanArr vlans edit network).lookup vlanList.id =
      some { found with ports := portTexts pairs (edit (saveVlan vlanList)) } := by
  apply lookup_rewriteVlans_of_apart edit distinct member present
  · intro number different other another
    exact id_ne_of_getBridgeVlanList read different present another
  · exact described.lookup
  · exact (setPorts_eq_none_iff described.ports).mp

theorem lookup_rewriteVlans_of_ne {name : Text}
    (other : ∀ vlan ∈ vlans, ∀ vlanList,
      vlanArr.lookup (tostring vlan) = some vlanList → name ≠ vlanList.id) :
    (rewriteVlans pairs vlanArr vlans edit network).lookup name = network.lookup name := by
  apply lookup_uciSetVlanParam_of_ne
  intro saved member vlanList present
  obtain ⟨list, inSaved, rfl⟩ := List.mem_map.mp member
  exact other list.1 (mem_savedLists.mp inSaved).1 vlanList present

/-- A section of the result is the rewritten section of a saved VLAN, or it is as
it was. -/
theorem rewriteVlans_cases (read : getBridgeVlanList pairs network = .ok vlanArr)
    (distinct : vlans.Nodup) {name : Text} {found : Section}
    (lookup : (rewriteVlans pairs vlanArr vlans edit network).lookup name = some found) :
    (∃ vlan ∈ vlans, ∃ vlanList old, vlanArr.lookup (tostring vlan) = some vlanList ∧
      name = vlanList.id ∧ Describes pairs network (tostring vlan) vlanList old ∧
      found = { old with ports := portTexts pairs (edit (saveVlan vlanList)) }) ∨
    ((∀ vlan ∈ vlans, ∀ vlanList,
      vlanArr.lookup (tostring vlan) = some vlanList → name ≠ vlanList.id) ∧
      network.lookup name = some found) := by
  by_cases saved : ∃ vlan ∈ vlans, ∃ vlanList,
      vlanArr.lookup (tostring vlan) = some vlanList ∧ name = vlanList.id
  · obtain ⟨vlan, member, vlanList, present, rfl⟩ := saved
    obtain ⟨old, described⟩ := describes_of_getBridgeVlanList read present
    rw [lookup_rewriteVlans edit read distinct member present described] at lookup
    exact Or.inl ⟨vlan, member, vlanList, old, present, rfl, described,
      (Option.some.inj lookup).symm⟩
  · have other : ∀ vlan ∈ vlans, ∀ vlanList,
        vlanArr.lookup (tostring vlan) = some vlanList → name ≠ vlanList.id :=
      fun vlan member vlanList present same => saved ⟨vlan, member, vlanList, present, same⟩
    rw [lookup_rewriteVlans_of_ne edit other] at lookup
    exact Or.inr ⟨other, lookup⟩

theorem rewriteVlans_keeps (read : getBridgeVlanList pairs network = .ok vlanArr)
    (distinct : vlans.Nodup) {name : Text} {found : Section}
    (lookup : (rewriteVlans pairs vlanArr vlans edit network).lookup name = some found) :
    ∃ old, network.lookup name = some old ∧ old.type = found.type ∧ old.vlan = found.vlan := by
  rcases rewriteVlans_cases edit read distinct lookup with
    ⟨vlan, -, vlanList, old, -, rfl, described, rfl⟩ | ⟨-, stored⟩
  · exact ⟨old, described.lookup, rfl, rfl⟩
  · exact ⟨found, stored, rfl, rfl⟩

theorem tidy_rewriteVlans (tidy : Tidy network)
    (read : getBridgeVlanList pairs network = .ok vlanArr) (distinct : vlans.Nodup) :
    Tidy (rewriteVlans pairs vlanArr vlans edit network) where
  numbered := by
    intro name found lookup bridge
    obtain ⟨old, stored, type, vlan⟩ := rewriteVlans_keeps edit read distinct lookup
    obtain ⟨number, numbered⟩ := tidy.numbered stored (type.trans bridge)
    exact ⟨number, vlan.symm.trans numbered⟩
  distinct := by
    intro name other found another lookup lookupOther bridge bridgeOther same
    obtain ⟨old, stored, type, vlan⟩ := rewriteVlans_keeps edit read distinct lookup
    obtain ⟨second, storedOther, typeOther, vlanOther⟩ :=
      rewriteVlans_keeps edit read distinct lookupOther
    apply tidy.distinct stored storedOther (type.trans bridge) (typeOther.trans bridgeOther)
    rw [vlan, vlanOther, same]
  table := by
    intro name found lookup bridge
    rcases rewriteVlans_cases edit read distinct lookup with
      ⟨vlan, -, vlanList, old, -, rfl, -, rfl⟩ | ⟨-, stored⟩
    · exact portTable_portTexts pairs (edit (saveVlan vlanList))
    · exact tidy.table stored bridge

theorem holds_rewriteVlans (tidy : Tidy network)
    (read : getBridgeVlanList pairs network = .ok vlanArr) (distinct : vlans.Nodup) {vlan : Nat}
    (member : vlan ∈ vlans) {vlanList : VlanList}
    (present : vlanArr.lookup (tostring vlan) = some vlanList) {port : Nat} {state : Tag} :
    Holds (rewriteVlans pairs vlanArr vlans edit network) vlan port state ↔
      (edit (saveVlan vlanList)).lookup port = some state := by
  obtain ⟨found, described⟩ := describes_of_getBridgeVlanList read present
  have written := lookup_rewriteVlans edit read distinct member present described
  obtain ⟨number, key, numbered⟩ := tidy.number_eq described
  rw [← key] at numbered
  rw [← portText_mem_portTexts]
  constructor
  · rintro ⟨name, another, lookup, bridge, vlanOption, listed⟩
    have tidied := tidy_rewriteVlans edit tidy read distinct
    have same : name = vlanList.id :=
      tidied.distinct lookup written bridge described.type (vlanOption.trans numbered.symm)
    rw [same, written, Option.some.injEq] at lookup
    subst lookup
    exact listed
  · intro listed
    exact ⟨vlanList.id, _, written, described.type, numbered, listed⟩

theorem present_of_holds_rewriteVlans (tidy : Tidy network)
    (read : getBridgeVlanList pairs network = .ok vlanArr) (distinct : vlans.Nodup)
    {vlan port : Nat} {state : Tag}
    (holds : Holds (rewriteVlans pairs vlanArr vlans edit network) vlan port state) :
    ∃ vlanList, vlanArr.lookup (tostring vlan) = some vlanList := by
  obtain ⟨name, found, lookup, bridge, number, -⟩ := holds
  obtain ⟨old, stored, type, option⟩ := rewriteVlans_keeps edit read distinct lookup
  obtain ⟨vlanList, present, -⟩ :=
    tidy.describes read stored (type.trans bridge) (option.trans number)
  exact ⟨vlanList, present⟩

theorem holds_rewriteVlans_of_not (tidy : Tidy network)
    (read : getBridgeVlanList pairs network = .ok vlanArr) (distinct : vlans.Nodup) {vlan : Nat}
    (other : vlan ∉ vlans) {port : Nat} {state : Tag} :
    Holds (rewriteVlans pairs vlanArr vlans edit network) vlan port state ↔
      Holds network vlan port state := by
  constructor
  · rintro ⟨name, found, lookup, bridge, vlanOption, listed⟩
    rcases rewriteVlans_cases edit read distinct lookup with
      ⟨number, member, vlanList, old, -, rfl, described, rfl⟩ | ⟨-, stored⟩
    · exfalso
      have key := described.vlan
      rw [vlanOption, setVlanParam, Option.getD_some] at key
      exact other (Lua.tostring_injective key ▸ member)
    · exact ⟨name, found, stored, bridge, vlanOption, listed⟩
  · rintro ⟨name, found, lookup, bridge, vlanOption, listed⟩
    have apart : ∀ number ∈ vlans, ∀ vlanList,
        vlanArr.lookup (tostring number) = some vlanList → name ≠ vlanList.id := by
      intro number member vlanList present
      obtain ⟨entry, presentOwn, rfl, -⟩ := tidy.describes read lookup bridge vlanOption
      have different : number ≠ vlan := fun same => other (same ▸ member)
      exact id_ne_of_getBridgeVlanList read different presentOwn present
    refine ⟨name, found, ?_, bridge, vlanOption, listed⟩
    rw [lookup_rewriteVlans_of_ne edit apart]
    exact lookup

end Writing

end TfortisPack.VlanCli
