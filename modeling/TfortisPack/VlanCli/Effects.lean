import TfortisPack.VlanCli.MainVlan

/-!
# What a command does to the sections

A command deletes sections (`Within`), changes port lists (`PortsOnly`), creates
the sections of new VLANs (`Grown`), or sets the device of one interface.
-/

namespace TfortisPack.VlanCli

open Library
open Library.Lua (Pairs tostring tonumber)

/-! ## Deleting VLANs -/

/-- Every section of the configuration was there before. -/
def Within (next network : Network) : Prop :=
  ∀ {name found}, next.lookup name = some found → network.lookup name = some found

theorem within_vlanDelete (vlanRange : Range) (vlans : List ((_ : Text) × VlanList))
    (network : Network) : Within (vlanDelete vlanRange vlans network).1 network := by
  induction vlans generalizing network with
  | nil =>
      exact fun lookup => lookup
  | cons vlan rest inductionHypothesis =>
      intro name found lookup
      rw [vlanDelete] at lookup
      split at lookup
      · exact lookup
      · have kept := inductionHypothesis _ lookup
        split at kept
        · by_cases same : name = vlan.2.id
          · rw [delete, same, AList.lookup_erase] at kept
            cases kept
          · rwa [delete, AList.lookup_erase_ne same] at kept
        · exact kept

/-! ## Changing port lists -/

/-- The section with other ports, all of them written by the script. -/
structure Rewritten (old found : Section) : Prop where
  type : found.type = old.type
  vlan : found.vlan = old.vlan
  device : found.device = old.device
  ports : ∀ text ∈ found.ports, text ∈ old.ports ∨ ∃ num state, text = portText num state
  state : found.state = old.state
  deviceOptions : found.deviceOptions = old.deviceOptions

theorem Rewritten.refl (found : Section) : Rewritten found found where
  type := rfl
  vlan := rfl
  device := rfl
  ports := fun _ member => Or.inl member
  state := rfl
  deviceOptions := rfl

theorem Rewritten.trans {first second third : Section} (left : Rewritten first second)
    (right : Rewritten second third) : Rewritten first third where
  type := right.type.trans left.type
  vlan := right.vlan.trans left.vlan
  device := right.device.trans left.device
  ports := by
    intro text member
    rcases right.ports text member with old | written
    · exact left.ports text old
    · exact Or.inr written
  state := right.state.trans left.state
  deviceOptions := right.deviceOptions.trans left.deviceOptions

/-- The configurations have the same sections up to their ports. -/
structure PortsOnly (network next : Network) : Prop where
  back : ∀ {name found}, next.lookup name = some found →
    ∃ old, network.lookup name = some old ∧ Rewritten old found
  forth : ∀ {name old}, network.lookup name = some old →
    ∃ found, next.lookup name = some found ∧ Rewritten old found

theorem PortsOnly.refl (network : Network) : PortsOnly network network where
  back := fun lookup => ⟨_, lookup, Rewritten.refl _⟩
  forth := fun lookup => ⟨_, lookup, Rewritten.refl _⟩

theorem PortsOnly.trans {first second third : Network} (left : PortsOnly first second)
    (right : PortsOnly second third) : PortsOnly first third where
  back := by
    intro name found lookup
    obtain ⟨middle, between, later⟩ := right.back lookup
    obtain ⟨old, before, earlier⟩ := left.back between
    exact ⟨old, before, earlier.trans later⟩
  forth := by
    intro name old lookup
    obtain ⟨middle, between, earlier⟩ := left.forth lookup
    obtain ⟨found, after, later⟩ := right.forth between
    exact ⟨found, after, earlier.trans later⟩

theorem portsOnly_uciSetPorts (pairs : Pairs) (vlanList : VlanList) (portlist : Ports)
    (network : Network) : PortsOnly network (uciSetPorts pairs vlanList portlist network) := by
  have rewritten : ∀ old : Section, Rewritten old
      { old with
        ports :=
          (if vlanList.ports.isSome then [] else old.ports) ++ portTexts pairs portlist } := by
    intro old
    refine ⟨rfl, rfl, rfl, ?_, rfl, rfl⟩
    intro text member
    rcases List.mem_append.mp member with kept | written
    · split at kept
      · cases kept
      · exact Or.inl kept
    · exact Or.inr ((portTable_portTexts pairs portlist).written text written)
  constructor
  · intro name found lookup
    rw [lookup_uciSetPorts] at lookup
    split at lookup
    · rename_i same
      obtain ⟨old, stored, changed⟩ := Option.map_eq_some_iff.mp lookup
      exact ⟨old, same ▸ stored, changed ▸ rewritten old⟩
    · exact ⟨found, lookup, Rewritten.refl found⟩
  · intro name old lookup
    rw [lookup_uciSetPorts]
    split
    · rename_i same
      rw [← same, lookup]
      exact ⟨_, rfl, rewritten old⟩
    · exact ⟨old, lookup, Rewritten.refl old⟩

theorem portsOnly_uciSetVlanParam (pairs : Pairs) (vlanArr : VlanArr)
    (lists : List (Nat × Ports)) (network : Network) :
    PortsOnly network (uciSetVlanParam pairs vlanArr lists network) := by
  induction lists generalizing network with
  | nil =>
      exact PortsOnly.refl network
  | cons saved rest inductionHypothesis =>
      rw [uciSetVlanParam_cons]
      refine PortsOnly.trans ?_ (inductionHypothesis _)
      split
      · exact portsOnly_uciSetPorts pairs _ saved.2 network
      · exact PortsOnly.refl network

theorem portsOnly_writeSaved (pairs : Pairs) (vlanArr : VlanArr) (saved : Saved)
    (network : Network) : PortsOnly network (writeSaved pairs vlanArr saved network) := by
  rw [writeSaved]
  split
  · exact portsOnly_uciSetVlanParam pairs vlanArr saved.lists network
  · exact PortsOnly.refl network

theorem changePorts_ends {busy : Nat → Except Failure Bool}
    (decided : ∀ port, ∃ taken, busy port = .ok taken) (change : Nat → Ports → Ports × Nat)
    (ports : List Nat) (saved : Saved) :
    ∃ final, changePorts busy change ports saved = .ok final := by
  have ended : ∃ final, changePorts busy change ports saved = .ok final ∧ True := by
    refine Lua.foldlM_ends (fun _ => True) ?_ trivial
    intro state port _ _
    obtain ⟨taken, status⟩ := decided port
    rw [status]
    cases taken with
    | true =>
        exact ⟨state, rfl, trivial⟩
    | false =>
        exact ⟨changeLists (change port) state, rfl, trivial⟩
  obtain ⟨final, ran, -⟩ := ended
  exact ⟨final, ran⟩

/-- Every change of ports ends: the commands pass `add` to the tagged operation, which
then compares no number of a VLAN. -/
theorem vlanChange_ends (pairs : Pairs) (cmd : Cmd) (type : TaggedType) (vlanArr : VlanArr)
    (vlanRange portRange : CheckedRange) (network : Network) :
    ∃ next, vlanChange pairs cmd type vlanArr vlanRange portRange network = .ok next ∧
      PortsOnly network next := by
  have written : ∀ {busy : Nat → Except Failure Bool}, (∀ port, ∃ taken, busy port = .ok taken) →
      ∀ change ports saved, ∃ next, (do
        let saved ← changePorts busy change ports saved
        .ok (writeSaved pairs vlanArr saved network)) = Except.ok next ∧
          PortsOnly network next := by
    intro busy decided change ports saved
    obtain ⟨final, ran⟩ := changePorts_ends decided change ports saved
    rw [ran]
    exact ⟨_, rfl, portsOnly_writeSaved pairs vlanArr final network⟩
  cases type with
  | tagged =>
      refine written (fun port => ?_) _ _ _
      obtain ⟨taken, scanned, -⟩ := Lua.foldlM_ends (fun _ : Bool => True)
        (fun busy (member : Member) _ _ =>
          ⟨busy || (member.port == port && member.state == .untagged), rfl, trivial⟩) trivial
      exact ⟨taken, scanned⟩
  | untagged =>
      rw [vlanChange]
      split
      · exact ⟨network, rfl, PortsOnly.refl network⟩
      · exact written (fun port => ⟨_, rfl⟩) _ _ _
  | notMemb =>
      exact written (fun _ => ⟨false, rfl⟩) _ _ _

/-! ## Deleting VLANs by number -/

theorem lookup_vlanDelete {vlanRange : Range} {vlans : List ((_ : Text) × VlanList)} {name : Text}
    (spared : ∀ vlan ∈ vlans, ∀ index, tonumber vlan.1 = some index →
      index ∈ vlanRange.numbers → vlan.2.id ≠ name) (network : Network) :
    (vlanDelete vlanRange vlans network).1.lookup name = network.lookup name := by
  induction vlans generalizing network with
  | nil =>
      rfl
  | cons vlan rest inductionHypothesis =>
      have later := inductionHypothesis
        fun vlan member => spared vlan (List.mem_cons_of_mem _ member)
      rw [vlanDelete]
      split
      · rfl
      · rename_i index number
        rw [later]
        split
        · rename_i inRange
          have different := spared vlan List.mem_cons_self index number
            (Range.mem_numbers.mpr inRange)
          rw [delete, AList.lookup_erase_ne different.symm]
        · rfl

theorem vlanDelete_ends {vlanRange : Range} {vlans : List ((_ : Text) × VlanList)}
    (numbered : ∀ vlan ∈ vlans, ∃ index, tonumber vlan.1 = some index) (network : Network) :
    (vlanDelete vlanRange vlans network).2 = none := by
  induction vlans generalizing network with
  | nil =>
      rfl
  | cons vlan rest inductionHypothesis =>
      obtain ⟨index, number⟩ := numbered vlan List.mem_cons_self
      rw [vlanDelete, number]
      exact inductionHypothesis (fun vlan member => numbered vlan (List.mem_cons_of_mem _ member)) _

/-! ## Creating VLANs -/

/-- Interfaces and VLANs stay; what comes new is a VLAN without ports. -/
structure Grown (network next : Network) : Prop where
  interfaces : ∀ {name found}, found.type = .interface →
    (next.lookup name = some found ↔ network.lookup name = some found)
  vlans : ∀ {name found}, network.lookup name = some found → found.type = .bridgeVlan →
    next.lookup name = some found
  created : ∀ {name found}, next.lookup name = some found → found.type = .bridgeVlan →
    network.lookup name = some found ∨
      found.ports = [] ∧ ∃ vlan, found.vlan = some (tostring vlan)

theorem Grown.refl (network : Network) : Grown network network where
  interfaces := fun _ => Iff.rfl
  vlans := fun lookup _ => lookup
  created := fun lookup _ => Or.inl lookup

theorem Grown.trans {first second third : Network} (left : Grown first second)
    (right : Grown second third) : Grown first third where
  interfaces := fun interface => (right.interfaces interface).trans (left.interfaces interface)
  vlans := fun lookup bridge => right.vlans (left.vlans lookup bridge) bridge
  created := by
    intro name found lookup bridge
    rcases right.created lookup bridge with between | new
    · exact left.created between bridge
    · exact Or.inr new

theorem vlanSection_injective {vlan other : Nat} (same : vlanSection vlan = vlanSection other) :
    vlan = other := by
  rw [vlanSection, vlanSection, List.append_right_inj] at same
  exact Lua.tostring_injective same

theorem switchSection_injective {vlan other : Nat}
    (same : switchSection vlan = switchSection other) : vlan = other := by
  rw [switchSection, switchSection, List.append_right_inj] at same
  exact Lua.tostring_injective same

theorem vlanSection_ne_switchSection (vlan other : Nat) :
    vlanSection vlan ≠ switchSection other := by
  simp [vlanSection, switchSection, switchName]

theorem lookup_addSection (type : SectionType) (name : Text) (network : Network) (key : Text) :
    (addSection type name network).lookup key =
      if key = name then some { (network.lookup name).getD { type := type } with type := type }
      else network.lookup key := by
  rw [addSection]
  split
  · rename_i found lookup
    by_cases same : key = name
    · subst same
      simp [lookup]
    · rw [if_neg same, AList.lookup_insert_ne same]
  · rename_i lookup
    by_cases same : key = name
    · subst same
      simp [lookup]
    · rw [if_neg same, AList.lookup_insert_ne same]

/-- The names of the sections of a VLAN are free: nothing is called `vlan<id>`, and
what is called `switch<id>` is a device. -/
structure Unclaimed (network : Network) (vlan : Nat) : Prop where
  unused : network.lookup (vlanSection vlan) = none
  switch : ∀ found, network.lookup (switchSection vlan) = some found → found.type = .device

theorem lookup_uciAddVlan (network : Network) (vlan : Nat) (key : Text) :
    (uciAddVlan vlan network).lookup key =
      if key = switchSection vlan then
        some
          { (network.lookup (switchSection vlan)).getD { type := .device } with
            type := .device
            deviceOptions := vlanDevice vlan }
      else if key = vlanSection vlan then
        some
          { (network.lookup (vlanSection vlan)).getD { type := .bridgeVlan } with
            type := .bridgeVlan
            vlan := some (tostring vlan)
            device := some switchName
            state := some ['e', 'n', 'a', 'b', 'l', 'e'] }
      else
        network.lookup key := by
  have apart := vlanSection_ne_switchSection vlan vlan
  simp only [uciAddVlan, lookup_addSection, lookup_modifySection, apart.symm, if_true, if_false,
    Option.map_some]
  by_cases isSwitch : key = switchSection vlan
  · simp [isSwitch]
  · by_cases same : key = vlanSection vlan
    · simp [same, apart]
    · simp [same, isSwitch]

theorem Unclaimed.kept {network : Network} {vlan : Nat} (unclaimed : Unclaimed network vlan)
    {name : Text} {found : Section} (lookup : network.lookup name = some found)
    (notDevice : found.type ≠ .device) : (uciAddVlan vlan network).lookup name = some found := by
  have notSwitch : name ≠ switchSection vlan := by
    intro same
    rw [same] at lookup
    exact notDevice (unclaimed.switch found lookup)
  have notVlan : name ≠ vlanSection vlan := by
    intro same
    rw [same, unclaimed.unused] at lookup
    cases lookup
  rw [lookup_uciAddVlan, if_neg notSwitch, if_neg notVlan]
  exact lookup

theorem Unclaimed.cases {network : Network} {vlan : Nat} (unclaimed : Unclaimed network vlan)
    {name : Text} {found : Section} (lookup : (uciAddVlan vlan network).lookup name = some found) :
    found.type = .device ∨
      (found.type = .bridgeVlan ∧ found.ports = [] ∧ found.vlan = some (tostring vlan)) ∨
      network.lookup name = some found := by
  rw [lookup_uciAddVlan, unclaimed.unused, Option.getD_none] at lookup
  split at lookup
  · rw [← Option.some.inj lookup]
    exact Or.inl rfl
  · split at lookup
    · rw [← Option.some.inj lookup]
      exact Or.inr (Or.inl ⟨rfl, rfl, rfl⟩)
    · exact Or.inr (Or.inr lookup)

theorem grown_uciAddVlan {network : Network} {vlan : Nat} (unclaimed : Unclaimed network vlan) :
    Grown network (uciAddVlan vlan network) where
  interfaces := by
    intro name found interface
    constructor
    · intro lookup
      rcases unclaimed.cases lookup with device | ⟨bridge, -⟩ | stored
      · rw [interface] at device
        cases device
      · rw [interface] at bridge
        cases bridge
      · exact stored
    · intro stored
      apply unclaimed.kept stored
      rw [interface]
      decide
  vlans := by
    intro name found stored bridge
    apply unclaimed.kept stored
    rw [bridge]
    decide
  created := by
    intro name found lookup bridge
    rcases unclaimed.cases lookup with device | ⟨-, empty, number⟩ | stored
    · rw [bridge] at device
      cases device
    · exact Or.inr ⟨empty, vlan, number⟩
    · exact Or.inl stored

theorem Unclaimed.uciAddVlan {network : Network} {vlan other : Nat}
    (spare : Unclaimed network other) (different : other ≠ vlan) :
    Unclaimed (uciAddVlan vlan network) other where
  unused := by
    have notSwitch := vlanSection_ne_switchSection other vlan
    have notVlan : vlanSection other ≠ vlanSection vlan :=
      fun same => different (vlanSection_injective same)
    rw [lookup_uciAddVlan, if_neg notSwitch, if_neg notVlan]
    exact spare.unused
  switch := by
    intro found lookup
    have notSwitch : switchSection other ≠ switchSection vlan :=
      fun same => different (switchSection_injective same)
    have notVlan := (vlanSection_ne_switchSection vlan other).symm
    rw [lookup_uciAddVlan, if_neg notSwitch, if_neg notVlan] at lookup
    exact spare.switch found lookup

theorem grown_addVlans {vlans : List Nat} (distinct : vlans.Nodup) {network : Network}
    (unclaimed : ∀ vlan ∈ vlans, Unclaimed network vlan) :
    Grown network (addVlans vlans network) := by
  induction vlans generalizing network with
  | nil =>
      exact Grown.refl network
  | cons vlan rest inductionHypothesis =>
      rw [List.nodup_cons] at distinct
      have first := unclaimed vlan List.mem_cons_self
      refine (grown_uciAddVlan first).trans (inductionHypothesis distinct.2 ?_)
      intro other member
      have different : other ≠ vlan := fun same => distinct.1 (same ▸ member)
      exact (unclaimed other (List.mem_cons_of_mem _ member)).uciAddVlan different

end TfortisPack.VlanCli
