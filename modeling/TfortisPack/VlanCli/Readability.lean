import TfortisPack.VlanCli.Effects
import TfortisPack.VlanCli.Tables

/-!
# Reading the table with its interfaces

Every command first reads the VLANs, looks up the VLAN of each interface on the
switch, and stops where a port text or an interface is not as expected.  Whether
it gets through does not depend on the order of the tables.
-/

namespace TfortisPack.VlanCli

open Library
open Library.Lua (Pairs tostring tonumber)

/-! ## What is read -/

theorem getMngmntVlan_cases {devInfo : Option Text} {vlanArr next : VlanArr} {ifName : Text}
    (ran : getMngmntVlan devInfo vlanArr ifName = .ok next) :
    next = vlanArr ∨ ∃ num vlanList, vlanArr.lookup num = some vlanList ∧
      next = vlanArr.insert num { vlanList with mngtVlan := true, ifname := some ifName } := by
  cases devInfo with
  | none =>
      cases ran
  | some device =>
      simp only [getMngmntVlan] at ran
      split at ran
      · split at ran
        · cases ran
        · rename_i num _
          split at ran
          · cases ran
          · rename_i vlanList present
            exact Or.inr ⟨num, vlanList, present, (Except.ok.inj ran).symm⟩
      · exact Or.inl (Except.ok.inj ran).symm

/-- The entries of the table say what stands in the sections. -/
def Described (pairs : Pairs) (network : Network) (vlanArr : VlanArr) : Prop :=
  ∀ {key vlanList}, vlanArr.lookup key = some vlanList →
    ∃ found, Describes pairs network key vlanList found

/-- A `bridge-vlan` section has this number. -/
def Numbers (network : Network) (num : Text) : Prop :=
  ∃ name found, network.lookup name = some found ∧ found.type = .bridgeVlan ∧
    setVlanParam found.vlan = num

section Reading

variable {surroundings : Surroundings} {network : Network} {vlanArr next : VlanArr}

/-- Marking an interface keeps what the entries say about the sections. -/
theorem Described.marked {pairs : Pairs} (described : Described pairs network vlanArr)
    {devInfo : Option Text} {ifName : Text}
    (ran : getMngmntVlan devInfo vlanArr ifName = .ok next) :
    Described pairs network next ∧ ∀ key, key ∈ next ↔ key ∈ vlanArr := by
  rcases getMngmntVlan_cases ran with rfl | ⟨num, old, present, rfl⟩
  · exact ⟨described, fun _ => Iff.rfl⟩
  · constructor
    · intro key vlanList lookup
      by_cases same : key = num
      · subst same
        rw [AList.lookup_insert, Option.some.injEq] at lookup
        subst lookup
        obtain ⟨found, description⟩ := described present
        exact ⟨found, description.lookup, description.type, description.vlan, description.ports⟩
      · rw [AList.lookup_insert_ne same] at lookup
        exact described lookup
    · intro key
      rw [AList.mem_insert, or_iff_right_iff_imp]
      rintro rfl
      exact AList.lookup_isSome.mp (by rw [present]; rfl)

/-- The table that is read has the numbers of the VLANs and describes their sections. -/
theorem marked_of_getVlanArr (read : getVlanArr surroundings network = .ok vlanArr) :
    (∀ {key vlanList}, vlanArr.lookup key = some vlanList →
      ∃ found, Describes surroundings.pairs network key vlanList found) ∧
    (∀ {name found}, network.lookup name = some found → found.type = .bridgeVlan →
      (vlanArr.lookup (setVlanParam found.vlan)).isSome) := by
  obtain ⟨bridges, listed, marked⟩ := Lua.bind_eq_ok read
  refine Lua.foldlM_invariant (fun _ (vlanArr : VlanArr) =>
    Described surroundings.pairs network vlanArr ∧
    (∀ {name found}, network.lookup name = some found → found.type = .bridgeVlan →
      (vlanArr.lookup (setVlanParam found.vlan)).isSome)) ?_ ?_ marked
  · rintro done state ifName next - ⟨described, complete⟩ ran
    obtain ⟨describes, keys⟩ := described.marked ran
    refine ⟨describes, fun lookup bridge => ?_⟩
    rw [AList.lookup_isSome, keys]
    exact AList.lookup_isSome.mp (complete lookup bridge)
  · refine ⟨fun present => describes_of_getBridgeVlanList listed present, ?_⟩
    intro name found lookup bridge
    exact Option.isSome_iff_exists.mpr (getBridgeVlanList_complete listed lookup bridge)

end Reading

/-! ## What can be read -/

/-- Every port text has a number, every interface on the switch a device, and every
device that is a VLAN its section. -/
structure Readable (ifList : List Text) (network : Network) : Prop where
  texts : ∀ {name found}, network.lookup name = some found → found.type = .bridgeVlan →
    ∀ text ∈ found.ports, ∃ num state, getPortType text = (some num, state)
  devices : ∀ ifName ∈ ifList, ∃ device, (network.lookup ifName).bind Section.device = some device ∧
    ((Texts.tokens '.' device)[0]? = some switchName →
      ∃ num, (Texts.tokens '.' device)[1]? = some num ∧ Numbers network num)

section Ends

variable {surroundings : Surroundings} {network : Network} {vlanArr : VlanArr}

theorem readable_of_setPorts {pairs : Pairs} {texts : List Text} {ports : Option Ports}
    (read : setPorts pairs texts = .ok ports) :
    ∀ text ∈ texts, ∃ num state, getPortType text = (some num, state) := by
  rw [setPorts] at read
  split at read
  · rename_i empty
    rw [empty]
    intro text member
    cases member
  · cases fold : (pairs.order texts).foldlM readPort ∅ with
    | error failure =>
        rw [fold] at read
        cases read
    | ok table =>
        have typed := Lua.foldlM_invariant
          (fun done (_ : Ports) => ∀ text ∈ done, ∃ num state, getPortType text = (some num, state))
          ?_ ?_ fold
        · intro text member
          exact typed text (pairs.mem_order.mpr member)
        · intro done state text next _ earlier stepped other member
          rcases List.mem_append.mp member with before | last
          · exact earlier other before
          · rw [List.mem_singleton.mp last]
            rw [readPort] at stepped
            split at stepped
            · rename_i num tag typed
              exact ⟨num, tag, typed⟩
            · cases stepped
        · intro text member
          cases member

theorem readable_of_getVlanArr (read : getVlanArr surroundings network = .ok vlanArr) :
    Readable surroundings.ifList network := by
  obtain ⟨bridges, listed, marked⟩ := Lua.bind_eq_ok read
  constructor
  · intro name found lookup bridge
    have texts := Lua.foldlM_invariant
      (fun done (_ : VlanArr) => ∀ entry ∈ done, entry.2.type = .bridgeVlan →
        ∀ text ∈ entry.2.ports, ∃ num state, getPortType text = (some num, state)) ?_ ?_ listed
    · exact texts ⟨name, found⟩
        (surroundings.pairs.mem_order.mpr (AList.mem_lookup_iff.mp lookup)) bridge
    · intro done state entry next _ earlier stepped other member isBridge
      rcases List.mem_append.mp member with before | last
      · exact earlier other before isBridge
      · rw [List.mem_singleton.mp last] at isBridge ⊢
        rcases addBridgeVlan_cases stepped with ⟨_, ports, ported, _⟩ | ⟨notBridge, _⟩
        · exact readable_of_setPorts ported
        · exact absurd isBridge notBridge
    · intro entry member
      cases member
  · have invariant := Lua.foldlM_invariant (fun done (vlanArr : VlanArr) =>
      Described surroundings.pairs network vlanArr ∧ ∀ ifName ∈ done, ∃ device,
        (network.lookup ifName).bind Section.device = some device ∧
          ((Texts.tokens '.' device)[0]? = some switchName →
            ∃ num, (Texts.tokens '.' device)[1]? = some num ∧ Numbers network num)) ?_ ?_ marked
    · exact invariant.2
    · rintro done state ifName next - ⟨described, earlier⟩ stepped
      refine ⟨(described.marked stepped).1, fun other member => ?_⟩
      rcases List.mem_append.mp member with before | last
      · exact earlier other before
      · rw [List.mem_singleton.mp last]
        cases named : (network.lookup ifName).bind Section.device with
        | none =>
            rw [named] at stepped
            cases stepped
        | some device =>
            refine ⟨device, rfl, fun onSwitch => ?_⟩
            simp only [named, getMngmntVlan, if_pos onSwitch] at stepped
            split at stepped
            · cases stepped
            · rename_i num isNum
              split at stepped
              · cases stepped
              · rename_i vlanList present
                obtain ⟨found, description⟩ := described present
                exact ⟨num, isNum, vlanList.id, found, description.lookup, description.type,
                  description.vlan⟩
    · refine ⟨fun present => describes_of_getBridgeVlanList listed present, ?_⟩
      intro ifName member
      cases member

theorem getBridgeVlanList_ends (pairs : Pairs)
    (texts : ∀ {name found}, network.lookup name = some found → found.type = .bridgeVlan →
      ∀ text ∈ found.ports, ∃ num state, getPortType text = (some num, state)) :
    ∃ vlanArr, getBridgeVlanList pairs network = .ok vlanArr := by
  have read : ∀ (state : VlanArr), ∀ entry ∈ pairs.order network.entries, True →
      ∃ next, addBridgeVlan pairs state entry = .ok next ∧ True := by
    intro state entry member _
    rw [addBridgeVlan]
    split
    · rename_i bridge
      have stored := AList.mem_lookup_iff.mpr (pairs.mem_order.mp member)
      obtain ⟨ports, ran⟩ := setPorts_ends pairs (texts stored bridge)
      rw [ran]
      exact ⟨_, rfl, trivial⟩
    · exact ⟨state, rfl, trivial⟩
  obtain ⟨vlanArr, ran, -⟩ :=
    Lua.foldlM_ends (fun _ => True) read (trivial : (fun _ : VlanArr => True) ∅)
  exact ⟨vlanArr, ran⟩

/-- A readable configuration is read in every order. -/
theorem getVlanArr_ends (surroundings : Surroundings)
    (readable : Readable surroundings.ifList network) :
    ∃ vlanArr, getVlanArr surroundings network = .ok vlanArr := by
  obtain ⟨bridges, listed⟩ := getBridgeVlanList_ends surroundings.pairs readable.texts
  have mark : ∀ (state : VlanArr), ∀ ifName ∈ surroundings.ifList,
      (∀ num, Numbers network num → num ∈ state) →
      ∃ next, getMngmntVlan ((network.lookup ifName).bind Section.device) state ifName = .ok next ∧
        ∀ num, Numbers network num → num ∈ next := by
    intro state ifName member complete
    obtain ⟨device, named, onVlan⟩ := readable.devices ifName member
    simp only [named, getMngmntVlan]
    split
    · rename_i onSwitch
      obtain ⟨num, isNum, numbered⟩ := onVlan onSwitch
      obtain ⟨vlanList, present⟩ :=
        Option.isSome_iff_exists.mp (AList.lookup_isSome.mpr (complete num numbered))
      simp only [isNum, present]
      refine ⟨_, rfl, ?_⟩
      intro other has
      exact (AList.mem_insert _).mpr (Or.inr (complete other has))
    · exact ⟨state, rfl, complete⟩
  have complete : ∀ num, Numbers network num → num ∈ bridges := by
    rintro num ⟨name, found, lookup, bridge, rfl⟩
    have present := getBridgeVlanList_complete listed lookup bridge
    rw [← Option.isSome_iff_exists] at present
    exact AList.lookup_isSome.mp present
  obtain ⟨vlanArr, ran, -⟩ := Lua.foldlM_ends
    (fun state : VlanArr => ∀ num, Numbers network num → num ∈ state) mark complete
  refine ⟨vlanArr, ?_⟩
  rw [getVlanArr, listed]
  exact ran

end Ends

end TfortisPack.VlanCli
