import TfortisPack.Library.Runs
import TfortisPack.VlanCli.Readability

/-!
# Management interfaces

An interface with the device `switch.N` needs VLAN `N`: every command first looks
up the VLANs of all interfaces on the switch and stops where one is missing.  The
commands keep these VLANs, with two exceptions: `delete` takes a VLAN without
asking whether an interface is on it, and `add` creates its sections over
whatever has their names.
-/

namespace TfortisPack.VlanCli

open Library
open Library.Lua (Pairs tostring tonumber)

/-! ## Interfaces and their VLANs -/

def HasVlan (network : Network) (vlan : Nat) : Prop :=
  ∃ name found, network.lookup name = some found ∧ found.type = .bridgeVlan ∧
    found.vlan = some (tostring vlan)

/-- An interface has the device of the VLAN. -/
def InUse (network : Network) (vlan : Nat) : Prop :=
  ∃ name found, network.lookup name = some found ∧ found.type = .interface ∧
    found.device = some (deviceName (tostring vlan))

/-- Every interface with the device `switch.N` has VLAN `N`. -/
def Managed (network : Network) : Prop :=
  ∀ vlan, InUse network vlan → HasVlan network vlan

/-- A `delete` spares the VLANs in use, an `add` creates its sections under free
names. -/
def Harmless (network : Network) (input : Surroundings × Call) : Prop :=
  match input.2.action with
  | .change .add _ =>
      ∀ vlanRange, checkPortRange input.2.vlanRangeIn = some vlanRange →
        ∀ vlan ∈ askedVlans vlanRange, ¬ HasVlan network vlan → Unclaimed network vlan
  | .change .edit _ => True
  | .delete =>
      ∀ vlanRange, checkPortRange input.2.vlanRangeIn = some vlanRange →
        ∀ vlan ∈ vlanRange.numbers, ¬ InUse network vlan
  | .mngtVlan _ => True

theorem eq_some_of_setVlanParam {option : Option Text} {vlan : Nat}
    (number : setVlanParam option = tostring vlan) : option = some (tostring vlan) := by
  cases option with
  | none =>
      have letter : 'n' ∈ tostring vlan := by
        rw [← number]
        decide
      cases Lua.isDigit_of_mem_tostring letter
  | some text =>
      exact congrArg some number

theorem deviceName_injective {first second : Text} (same : deviceName first = deviceName second) :
    first = second := by
  simpa [deviceName] using same

/-! ## One command -/

/-- What a property has to survive: changed port lists, new VLANs, deletions
that spare the VLANs in use, and an interface moved to a VLAN that is there. -/
structure Kept (property : Network → Prop) : Prop where
  ports : ∀ {network next}, property network → PortsOnly network next → property next
  grown : ∀ {network next}, property network → Grown network next → property next
  deleted : ∀ {network next}, property network → Within next network →
    (∀ vlan, InUse network vlan → HasVlan network vlan → HasVlan next vlan) → property next
  moved : ∀ {network name found} ifName, property network → network.lookup name = some found →
    found.type = .bridgeVlan →
    property (modifySection ifName
      (fun old => { old with device := some (deviceName (setVlanParam found.vlan)) }) network)

section Commands

variable {surroundings : Surroundings} {network : Network} {vlanArr : VlanArr}

theorem spared_vlanDelete (read : getVlanArr surroundings network = .ok vlanArr)
    {vlanRange : Range} (unused : ∀ vlan ∈ vlanRange.numbers, ¬ InUse network vlan) {vlan : Nat}
    (used : InUse network vlan) (has : HasVlan network vlan) :
    HasVlan (vlanDelete vlanRange (surroundings.pairs.order vlanArr.entries) network).1 vlan := by
  obtain ⟨holder, vlanFound, present, bridge, number⟩ := has
  refine ⟨holder, vlanFound, (lookup_vlanDelete ?_ network).trans present, bridge, number⟩
  rintro entry member index numeral inRange rfl
  have entryPresent := AList.mem_lookup_iff.mpr (surroundings.pairs.mem_order.mp member)
  obtain ⟨described, description⟩ := (marked_of_getVlanArr read).1 entryPresent
  have sections := description.lookup
  rw [present, Option.some.injEq] at sections
  have key := description.vlan
  rw [← sections, number, setVlanParam, Option.getD_some] at key
  rw [← key, Lua.tonumber_tostring, Option.some.injEq] at numeral
  exact unused index inRange (numeral ▸ used)

theorem vlanMngtVlan_cases (ifList : List Text) (vlanId ifName : Text) (vlanArr : VlanArr)
    (network : Network) :
    vlanMngtVlan ifList vlanId ifName vlanArr network = network ∨
      ∃ vlanList, vlanArr.lookup vlanId = some vlanList ∧
        vlanMngtVlan ifList vlanId ifName vlanArr network =
          modifySection ifName
            (fun old => { old with device := some (deviceName vlanId) }) network := by
  rw [vlanMngtVlan]
  split
  · split
    · exact Or.inl rfl
    · rename_i vlanList present
      rw [mngtVlan]
      split
      · exact Or.inl rfl
      · split
        · exact Or.inl rfl
        · exact Or.inr ⟨vlanList, present, rfl⟩
  · exact Or.inl rfl

theorem Kept.runAction {property : Network → Prop} (kept : Kept property)
    (holds : property network) {call : Call} (read : getVlanArr surroundings network = .ok vlanArr)
    (spares : call.action = .delete → ∀ vlanRange,
      checkPortRange call.vlanRangeIn = some vlanRange →
        ∀ vlan ∈ vlanRange.numbers, ¬ InUse network vlan) :
    property (runAction surroundings call vlanArr network).1 := by
  rw [VlanCli.runAction]
  split
  · rename_i portRange vlanRange _ checked
    split
    · rename_i cmd type _
      obtain ⟨next, ran, ports⟩ := vlanChange_ends surroundings.pairs cmd type vlanArr vlanRange
        portRange network
      rw [ran]
      exact kept.ports holds ports
    · rename_i delete
      exact kept.deleted holds (within_vlanDelete vlanRange.toRange _ network)
        fun _ used has => spared_vlanDelete read (spares delete vlanRange checked) used has
    · rename_i ifName _
      rcases vlanMngtVlan_cases surroundings.ifList call.vlanRangeIn.text ifName vlanArr network
        with same | ⟨vlanList, present, moved⟩
      · rwa [same]
      · obtain ⟨found, described⟩ := (marked_of_getVlanArr read).1 present
        rw [moved, ← described.vlan]
        exact kept.moved ifName holds described.lookup described.type
  · exact holds

theorem nodup_askedVlans (vlanRange : CheckedRange) : (askedVlans vlanRange).Nodup := by
  rw [askedVlans]
  split
  · exact vlanRange.nodup_numbers
  · exact List.nodup_singleton _
  · exact List.nodup_nil
  · exact List.nodup_nil

theorem not_hasVlan_of_lookup (read : getVlanArr surroundings network = .ok vlanArr) {vlan : Nat}
    (missing : vlanArr.lookup (tostring vlan) = none) : ¬ HasVlan network vlan := by
  rintro ⟨name, found, lookup, bridge, number⟩
  have present := (marked_of_getVlanArr read).2 lookup bridge
  rw [number, setVlanParam, Option.getD_some, missing] at present
  cases present

theorem grown_createdVlans {call : Call} (harmless : Harmless network (surroundings, call))
    (read : getVlanArr surroundings network = .ok vlanArr) {vlans : List Nat}
    (created : createdVlans call vlanArr = .ok vlans) :
    Grown network (addVlans vlans network) := by
  rw [createdVlans] at created
  split at created
  · rename_i type action
    split at created
    · cases created
    · rename_i vlanRange checked
      cases created
      rw [Harmless, action] at harmless
      apply grown_addVlans ((nodup_askedVlans vlanRange).filter _)
      intro vlan member
      rw [List.mem_filter, Option.isNone_iff_eq_none] at member
      exact harmless vlanRange checked vlan member.1 (not_hasVlan_of_lookup read member.2)
  · cases created
    exact Grown.refl network

theorem Kept.runConfigVlan {property : Network → Prop} (kept : Kept property)
    (holds : property network) {call : Call} (harmless : Harmless network (surroundings, call)) :
    property (runConfigVlan surroundings call network).1 := by
  rw [VlanCli.runConfigVlan]
  split
  · exact holds
  · rename_i vlanArr read
    split
    · exact holds
    · apply kept.runAction holds read
      intro delete
      rw [Harmless, delete] at harmless
      exact harmless
    · rename_i vlan rest created
      have extended := kept.grown holds (grown_createdVlans harmless read created)
      simp only
      split
      · exact extended
      · rename_i extendedArr again
        apply kept.runAction extended again
        intro delete
        rw [createdVlans, delete] at created
        cases created

end Commands

theorem hasVlan_modifySection {network : Network} {vlan : Nat} (ifName : Text)
    (device : Option Text) (has : HasVlan network vlan) :
    HasVlan (modifySection ifName (fun old => { old with device := device }) network) vlan := by
  obtain ⟨holder, found, lookup, bridge, number⟩ := has
  by_cases same : holder = ifName
  · subst same
    refine ⟨holder, { found with device := device }, ?_, bridge, number⟩
    rw [lookup_modifySection, if_pos rfl, lookup, Option.map_some]
  · refine ⟨holder, found, ?_, bridge, number⟩
    rw [lookup_modifySection, if_neg same, lookup]

theorem kept_managed : Kept Managed where
  ports := by
    rintro network next managed ports vlan ⟨name, found, lookup, interface, device⟩
    obtain ⟨old, stored, rewritten⟩ := ports.back lookup
    obtain ⟨holder, before, present, bridge, number⟩ := managed vlan
      ⟨name, old, stored, rewritten.type ▸ interface, rewritten.device ▸ device⟩
    obtain ⟨after, later, kept⟩ := ports.forth present
    exact ⟨holder, after, later, kept.type.trans bridge, kept.vlan.trans number⟩
  grown := by
    rintro network next managed grown vlan ⟨name, found, lookup, interface, device⟩
    obtain ⟨holder, before, present, bridge, number⟩ := managed vlan
      ⟨name, found, (grown.interfaces interface).mp lookup, interface, device⟩
    exact ⟨holder, before, grown.vlans present bridge, bridge, number⟩
  deleted := by
    rintro network next managed within spared vlan ⟨name, found, lookup, interface, device⟩
    have used : InUse network vlan := ⟨name, found, within lookup, interface, device⟩
    exact spared vlan used (managed vlan used)
  moved := by
    rintro network holder vlanFound ifName managed present bridge vlan
      ⟨name, found, lookup, interface, device⟩
    apply hasVlan_modifySection
    rw [lookup_modifySection] at lookup
    split at lookup
    · obtain ⟨old, -, rfl⟩ := Option.map_eq_some_iff.mp lookup
      have number := deviceName_injective (Option.some.inj device)
      exact ⟨holder, vlanFound, present, bridge, eq_some_of_setVlanParam number⟩
    · exact managed vlan ⟨name, found, lookup, interface, device⟩

/-! ## Commands that end -/

/-- Every port text can be read, every VLAN has a number, and every interface on
the switch is on a VLAN of it. -/
structure Healthy (network : Network) : Prop where
  readable : ∀ {name found}, network.lookup name = some found → found.type = .bridgeVlan →
    ∀ text ∈ found.ports, ∃ num state, getPortType text = (some num, state)
  numbered : ∀ {name found}, network.lookup name = some found → found.type = .bridgeVlan →
    ∃ vlan, found.vlan = some (tostring vlan)
  onVlans : ∀ {name found device}, network.lookup name = some found → found.type = .interface →
    found.device = some device → (Texts.tokens '.' device)[0]? = some switchName →
    ∃ vlan, device = deviceName (tostring vlan)

/-- A section of a healthy configuration with its number, whose other ports are
written by the script and whose other device is the one of a VLAN. -/
structure Renewed (old found : Section) : Prop where
  type : found.type = old.type
  vlan : found.vlan = old.vlan
  ports : ∀ text ∈ found.ports, text ∈ old.ports ∨ ∃ num state, text = portText num state
  device : found.device = old.device ∨
    ∃ vlan, found.device = some (deviceName (tostring vlan))

theorem Healthy.of_renewed {network next : Network} (healthy : Healthy network)
    (renewed : ∀ {name found}, next.lookup name = some found →
      ∃ old, network.lookup name = some old ∧ Renewed old found) : Healthy next where
  readable := by
    intro name found lookup bridge text member
    obtain ⟨old, stored, same⟩ := renewed lookup
    rcases same.ports text member with kept | ⟨num, state, written⟩
    · exact healthy.readable stored (same.type ▸ bridge) text kept
    · rw [written]
      exact ⟨_, _, getPortType_portText num state⟩
  numbered := by
    intro name found lookup bridge
    obtain ⟨old, stored, same⟩ := renewed lookup
    rw [same.vlan]
    exact healthy.numbered stored (same.type ▸ bridge)
  onVlans := by
    intro name found device lookup interface named onSwitch
    obtain ⟨old, stored, same⟩ := renewed lookup
    rcases same.device with kept | ⟨vlan, moved⟩
    · exact healthy.onVlans stored (same.type ▸ interface) (kept ▸ named) onSwitch
    · rw [moved, Option.some.injEq] at named
      exact ⟨vlan, named.symm⟩

theorem Healthy.of_grown {network next : Network} (healthy : Healthy network)
    (grown : Grown network next) : Healthy next where
  readable := by
    intro name found lookup bridge text member
    rcases grown.created lookup bridge with stored | ⟨empty, -⟩
    · exact healthy.readable stored bridge text member
    · rw [empty] at member
      cases member
  numbered := by
    intro name found lookup bridge
    rcases grown.created lookup bridge with stored | ⟨-, number⟩
    · exact healthy.numbered stored bridge
    · exact number
  onVlans := by
    intro name found device lookup interface
    exact healthy.onVlans ((grown.interfaces interface).mp lookup) interface

theorem kept_healthy : Kept Healthy where
  ports := by
    intro network next healthy ports
    apply healthy.of_renewed
    intro name found lookup
    obtain ⟨old, stored, rewritten⟩ := ports.back lookup
    exact ⟨old, stored, rewritten.type, rewritten.vlan, rewritten.ports, Or.inl rewritten.device⟩
  grown := fun healthy grown => healthy.of_grown grown
  deleted := by
    intro network next healthy within _
    apply healthy.of_renewed
    intro name found lookup
    exact ⟨found, within lookup, rfl, rfl, fun _ member => Or.inl member, Or.inl rfl⟩
  moved := by
    intro network holder vlanFound ifName healthy present bridge
    obtain ⟨vlan, number⟩ := healthy.numbered present bridge
    apply healthy.of_renewed
    intro name found lookup
    rw [lookup_modifySection] at lookup
    split at lookup
    · rename_i same
      obtain ⟨old, stored, rfl⟩ := Option.map_eq_some_iff.mp lookup
      rw [number]
      exact ⟨old, same ▸ stored, rfl, rfl, fun _ member => Or.inl member, Or.inr ⟨vlan, rfl⟩⟩
    · exact ⟨found, lookup, rfl, rfl, fun _ member => Or.inl member, Or.inl rfl⟩

/-- Every interface that is reported is configured and has a device. -/
def Reported (network : Network) (ifList : List Text) : Prop :=
  ∀ ifName ∈ ifList, ∃ found device, network.lookup ifName = some found ∧
    found.type = .interface ∧ found.device = some device

theorem Reported.of_grown {network next : Network} {ifList : List Text}
    (reported : Reported network ifList) (grown : Grown network next) : Reported next ifList := by
  intro ifName member
  obtain ⟨found, device, lookup, interface, named⟩ := reported ifName member
  exact ⟨found, device, (grown.interfaces interface).mpr lookup, interface, named⟩

section Ends

variable {surroundings : Surroundings} {network : Network} {vlanArr : VlanArr}

theorem tokens_deviceName (vlan : Nat) :
    Texts.tokens '.' (deviceName (tostring vlan)) = [switchName, tostring vlan] := by
  have free : '.' ∉ tostring vlan := by
    intro member
    cases Lua.isDigit_of_mem_tostring member
  rw [deviceName, Texts.tokens_append_cons, Texts.tokens_of_free (by decide) (by decide),
    Texts.tokens_of_free free (Lua.tostring_ne_nil vlan)]
  rfl

theorem readable_of_healthy (managed : Managed network) (healthy : Healthy network)
    {ifList : List Text} (reported : Reported network ifList) : Readable ifList network where
  texts := healthy.readable
  devices := by
    intro ifName member
    obtain ⟨found, device, lookup, interface, named⟩ := reported ifName member
    refine ⟨device, by rw [lookup, Option.bind_some, named], fun onSwitch => ?_⟩
    obtain ⟨vlan, rfl⟩ := healthy.onVlans lookup interface named onSwitch
    obtain ⟨holder, vlanFound, present, bridge, number⟩ :=
      managed vlan ⟨ifName, found, lookup, interface, named⟩
    refine ⟨tostring vlan, by rw [tokens_deviceName]; rfl, holder, vlanFound, present, bridge, ?_⟩
    rw [number, setVlanParam, Option.getD_some]

theorem getVlanArr_of_healthy (managed : Managed network) (healthy : Healthy network)
    (reported : Reported network surroundings.ifList) :
    ∃ vlanArr, getVlanArr surroundings network = .ok vlanArr :=
  getVlanArr_ends surroundings (readable_of_healthy managed healthy reported)

theorem runAction_ends (healthy : Healthy network) (call : Call)
    (read : getVlanArr surroundings network = .ok vlanArr) :
    (runAction surroundings call vlanArr network).2 = none := by
  rw [runAction]
  split
  · rename_i portRange vlanRange _ _
    split
    · rename_i cmd type _
      obtain ⟨next, ran, -⟩ := vlanChange_ends surroundings.pairs cmd type vlanArr vlanRange
        portRange network
      rw [ran]
      rfl
    · apply vlanDelete_ends
      intro entry member
      have present := AList.mem_lookup_iff.mpr (surroundings.pairs.mem_order.mp member)
      obtain ⟨found, described⟩ := (marked_of_getVlanArr read).1 present
      obtain ⟨vlan, number⟩ := healthy.numbered described.lookup described.type
      refine ⟨vlan, ?_⟩
      rw [← described.vlan, number, setVlanParam, Option.getD_some, Lua.tonumber_tostring]
    · rfl
  · rfl

/-- Only a range in the wrong order stops a command. -/
theorem runConfigVlan_ends (managed : Managed network) (healthy : Healthy network) {call : Call}
    (harmless : Harmless network (surroundings, call))
    (reported : Reported network surroundings.ifList) :
    ∀ failure ∈ (runConfigVlan surroundings call network).2, failure = .missingRange := by
  obtain ⟨vlanArr, read⟩ := getVlanArr_of_healthy managed healthy reported
  rw [runConfigVlan, read]
  simp only
  split
  · rename_i failure created
    rw [createdVlans] at created
    split at created
    · split at created
      · cases created
        intro failure stopped
        exact (Option.some.inj stopped).symm
      · cases created
    · cases created
  · rw [runAction_ends healthy call read]
    intro failure stopped
    cases stopped
  · rename_i vlan rest created
    have grown := grown_createdVlans harmless read created
    have extended := kept_healthy.grown healthy grown
    obtain ⟨extendedArr, again⟩ := getVlanArr_of_healthy (kept_managed.grown managed grown)
      extended (reported.of_grown grown)
    rw [again]
    simp only
    rw [runAction_ends extended call again]
    intro failure stopped
    cases stopped

end Ends

/-! ## Runs of commands -/

/-- Each command works on the configuration that the one before has left. -/
def vlanCli : Machine Network (Surroundings × Call) Failure where
  step network input :=
    let result := runConfigVlan input.1 input.2 network
    (result.1, result.2.toList)

theorem kept_next {property : Network → Prop} (kept : Kept property) (network : Network)
    (input : Surroundings × Call) (holds : property network)
    (harmless : Harmless network input) : property (vlanCli.next network input) :=
  kept.runConfigVlan holds harmless

/-- Along every run of harmless commands each interface on `switch.N` has VLAN `N`,
and no command of it is stopped by what the earlier ones have left. -/
theorem management_vlans_kept {start : Network} {inputs : List (Surroundings × Call)}
    (managed : Managed start) (harmless : vlanCli.AllSteps Harmless start inputs) :
    vlanCli.AllStates Managed start inputs ∧
      (Healthy start →
        vlanCli.AllSteps (fun network input => Reported network input.1.ifList) start inputs →
        vlanCli.AllSteps (fun network input =>
          ∀ failure ∈ (runConfigVlan input.1 input.2 network).2, failure = .missingRange)
          start inputs) := by
  refine ⟨Machine.allStates_of_invariant (kept_next kept_managed) managed harmless, ?_⟩
  intro healthy reported
  have preserved : ∀ network input, Managed network ∧ Healthy network →
      Harmless network input ∧ Reported network input.1.ifList →
      Managed (vlanCli.next network input) ∧ Healthy (vlanCli.next network input) :=
    fun network input holds allowed =>
      ⟨kept_next kept_managed network input holds.1 allowed.1,
        kept_next kept_healthy network input holds.2 allowed.1⟩
  refine Machine.allSteps_of_invariant preserved ?_ ⟨managed, healthy⟩
    (Machine.AllSteps.and harmless reported)
  intro network input holds allowed
  exact runConfigVlan_ends holds.1 holds.2 allowed.1 allowed.2

def lan : Text :=
  ['l', 'a', 'n']

def interfaceOn (vlan : Nat) : Section where
  type := .interface
  device := some (deviceName (tostring vlan))

def firstVlan : Section where
  type := .bridgeVlan
  vlan := some (tostring 1)
  ports := [portText 1 .untagged]

/-- The interface `lan` on VLAN 1, which has port 1. -/
def lanOnVlan1 : Network where
  entries := [⟨lan, interfaceOn 1⟩, ⟨vlanSection 1, firstVlan⟩]
  nodupKeys := by
    change List.Nodup [lan, vlanSection 1]
    decide

theorem lanOnVlan1_cases {name : Text} {found : Section}
    (lookup : lanOnVlan1.lookup name = some found) :
    (name = lan ∧ found = interfaceOn 1) ∨ (name = vlanSection 1 ∧ found = firstVlan) := by
  have member := AList.mem_lookup_iff.mp lookup
  simpa [lanOnVlan1] using member

theorem managed_lanOnVlan1 : Managed lanOnVlan1 := by
  rintro vlan ⟨name, found, lookup, interface, device⟩
  rcases lanOnVlan1_cases lookup with ⟨-, rfl⟩ | ⟨-, rfl⟩
  · have number := Lua.tostring_injective (deviceName_injective (Option.some.inj device))
    subst number
    exact ⟨vlanSection 1, firstVlan, by decide, rfl, rfl⟩
  · cases interface

theorem healthy_lanOnVlan1 : Healthy lanOnVlan1 where
  readable := by
    intro name found lookup bridge text member
    rcases lanOnVlan1_cases lookup with ⟨-, rfl⟩ | ⟨-, rfl⟩
    · cases bridge
    · rw [List.mem_singleton.mp member]
      exact ⟨_, _, getPortType_portText 1 .untagged⟩
  numbered := by
    intro name found lookup bridge
    rcases lanOnVlan1_cases lookup with ⟨-, rfl⟩ | ⟨-, rfl⟩
    · cases bridge
    · exact ⟨1, rfl⟩
  onVlans := by
    intro name found device lookup interface named _
    rcases lanOnVlan1_cases lookup with ⟨-, rfl⟩ | ⟨-, rfl⟩
    · exact ⟨1, (Option.some.inj named).symm⟩
    · cases interface

/-- Tables in stored order, and `lan` reported on the switch. -/
def lanReported : Surroundings where
  pairs := Pairs.stored
  ifList := [lan]

/-- VLAN 2 is created with port 3, `lan` moves to it, and VLAN 1 is deleted. -/
def movingRun : List (Surroundings × Call) :=
  [(lanReported, ⟨.once 2, .change .add .tagged, .once 3⟩),
    (lanReported, ⟨.once 2, .mngtVlan lan, .all⟩),
    (lanReported, ⟨.once 1, .delete, .pair 0 0⟩)]

theorem reported_lan {network : Network} (vlan : Nat)
    (lookup : network.lookup lan = some (interfaceOn vlan)) :
    Reported network lanReported.ifList := by
  intro ifName member
  rw [List.mem_singleton.mp member]
  exact ⟨interfaceOn vlan, _, lookup, rfl, rfl⟩

theorem not_inUse_of_entries {network : Network} {vlan : Nat}
    (free : ∀ entry ∈ network.entries, entry.2.type = .interface →
      entry.2.device ≠ some (deviceName (tostring vlan))) : ¬ InUse network vlan := by
  rintro ⟨name, found, lookup, interface, device⟩
  exact free ⟨name, found⟩ (AList.mem_lookup_iff.mp lookup) interface device

theorem harmless_movingRun : vlanCli.AllSteps Harmless lanOnVlan1 movingRun := by
  refine ⟨?_, trivial, ?_, trivial⟩
  · intro vlanRange checked vlan member _
    cases checked
    rw [List.mem_singleton.mp member]
    refine ⟨by decide, ?_⟩
    intro found lookup
    have free : lanOnVlan1.lookup (switchSection 2) = none := by decide
    rw [free] at lookup
    cases lookup
  · intro vlanRange checked vlan member
    cases checked
    rw [List.mem_singleton.mp member]
    apply not_inUse_of_entries
    decide

theorem movingRun_keeps_management :
    vlanCli.AllStates Managed lanOnVlan1 movingRun ∧
      vlanCli.AllSteps (fun network input =>
        ∀ failure ∈ (runConfigVlan input.1 input.2 network).2, failure = .missingRange)
        lanOnVlan1 movingRun := by
  obtain ⟨managed, ends⟩ := management_vlans_kept managed_lanOnVlan1 harmless_movingRun
  refine ⟨managed, ends healthy_lanOnVlan1 ⟨?_, ?_, ?_, trivial⟩⟩
  · exact reported_lan 1 (by decide)
  · exact reported_lan 1 (by decide)
  · exact reported_lan 2 (by decide)

/-- VLAN 1 is deleted while `lan` is on it; then VLAN 2 is to be created. -/
def strandedRun : List (Surroundings × Call) :=
  [(lanReported, ⟨.once 1, .delete, .pair 0 0⟩),
    (lanReported, ⟨.once 2, .change .add .tagged, .once 3⟩)]

theorem delete_strands_lan :
    Managed lanOnVlan1 ∧ ¬ Managed (vlanCli.final lanOnVlan1 strandedRun) ∧
      vlanCli.outputs lanOnVlan1 strandedRun = [.missingVlan] := by
  refine ⟨managed_lanOnVlan1, ?_, by decide⟩
  intro managed
  have used : InUse (vlanCli.final lanOnVlan1 strandedRun) 1 :=
    ⟨lan, interfaceOn 1, by decide, rfl, rfl⟩
  obtain ⟨name, found, lookup, bridge, -⟩ := managed 1 used
  have gone : ∀ entry ∈ (vlanCli.final lanOnVlan1 strandedRun).entries,
      entry.2.type ≠ .bridgeVlan := by
    decide
  exact gone ⟨name, found⟩ (AList.mem_lookup_iff.mp lookup) bridge

end TfortisPack.VlanCli
