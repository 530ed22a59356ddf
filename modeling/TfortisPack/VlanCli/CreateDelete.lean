import TfortisPack.VlanCli.Management

/-!
# Creating VLANs and deleting them again

`add` creates two sections for a VLAN, `delete` takes back the one that the table
of VLANs shows.  The device section stays behind.
-/

namespace TfortisPack.VlanCli

open Library
open Library.Lua (Pairs tostring tonumber)

/-! ## What the commands should do -/

/-- The VLANs of a range of the command line that `add` looks for. -/
def RangeText.asked (text : RangeText) : List Nat :=
  ((checkPortRange text).map askedVlans).getD []

/-- No VLAN has one of the numbers. -/
def Missing (network : Network) (vlans : List Nat) : Prop :=
  ∀ {name found index}, network.lookup name = some found → found.type = .bridgeVlan →
    tonumber (setVlanParam found.vlan) = some index → index ∉ vlans

/-- The configuration after an `add`. -/
def afterAdd (pairs : Pairs) (ifList : List Text) (vlanRangeIn : RangeText) (type : TaggedType)
    (portListIn : RangeText) (network : Network) : Network :=
  (runConfigVlan ⟨pairs, ifList⟩ ⟨vlanRangeIn, .change .add type, portListIn⟩ network).1

/-- The configuration after a `delete`. -/
def afterDelete (pairs : Pairs) (ifList : List Text) (vlanRangeIn : RangeText)
    (network : Network) : Network :=
  (runConfigVlan ⟨pairs, ifList⟩ ⟨vlanRangeIn, .delete, .pair 0 0⟩ network).1

/-- In whatever order the tables are walked through, `add` and then `delete` leave the
configuration as it was. -/
def Restores (network : Network) (ifList : List Text) (vlanRangeIn : RangeText)
    (type : TaggedType) (portListIn : RangeText) : Prop :=
  ∀ first second : Pairs, ∀ name,
    (afterDelete second ifList vlanRangeIn
      (afterAdd first ifList vlanRangeIn type portListIn network)).lookup name =
        network.lookup name

/-- Every VLAN has a number. -/
def Numbered (network : Network) : Prop :=
  ∀ {name found}, network.lookup name = some found → found.type = .bridgeVlan →
    ∃ index, tonumber (setVlanParam found.vlan) = some index

/-- The device section of the VLAN is there already, as creation leaves it. -/
def Furnished (network : Network) (vlan : Nat) : Prop :=
  ∃ found, network.lookup (switchSection vlan) = some found ∧ found.type = .device ∧
    found.deviceOptions = vlanDevice vlan

/-! ## What `add` creates -/

section Created

variable {network : Network} {vlans : List Nat}

theorem addVlans_cons (vlan : Nat) (rest : List Nat) (network : Network) :
    addVlans (vlan :: rest) network = addVlans rest (uciAddVlan vlan network) :=
  rfl

/-- The sections of a VLAN, as `add` leaves them over whatever had their names. -/
structure Created (network : Network) (vlan : Nat) : Prop where
  bridge : ∃ found, network.lookup (vlanSection vlan) = some found ∧
    found.type = .bridgeVlan ∧ found.vlan = some (tostring vlan)
  device : Furnished network vlan

theorem created_uciAddVlan (network : Network) (vlan : Nat) :
    Created (uciAddVlan vlan network) vlan where
  bridge := by
    rw [lookup_uciAddVlan, if_neg (vlanSection_ne_switchSection vlan vlan), if_pos rfl]
    exact ⟨_, rfl, rfl, rfl⟩
  device := by
    rw [Furnished, lookup_uciAddVlan, if_pos rfl]
    exact ⟨_, rfl, rfl, rfl⟩

theorem Created.uciAddVlan {vlan : Nat} (created : Created network vlan) (other : Nat) :
    Created (uciAddVlan other network) vlan := by
  by_cases same : vlan = other
  · rw [same]
    exact created_uciAddVlan network other
  have notSwitch : vlanSection vlan ≠ switchSection other :=
    vlanSection_ne_switchSection vlan other
  have notVlan : vlanSection vlan ≠ vlanSection other :=
    fun equal => same (vlanSection_injective equal)
  have switchNotSwitch : switchSection vlan ≠ switchSection other :=
    fun equal => same (switchSection_injective equal)
  have switchNotVlan : switchSection vlan ≠ vlanSection other :=
    (vlanSection_ne_switchSection other vlan).symm
  constructor
  · rw [lookup_uciAddVlan, if_neg notSwitch, if_neg notVlan]
    exact created.bridge
  · rw [Furnished, lookup_uciAddVlan, if_neg switchNotSwitch, if_neg switchNotVlan]
    exact created.device

theorem Created.addVlans {vlan : Nat} (created : Created network vlan) (vlans : List Nat) :
    Created (addVlans vlans network) vlan := by
  induction vlans generalizing network with
  | nil =>
      exact created
  | cons first rest inductionHypothesis =>
      exact inductionHypothesis (created.uciAddVlan first)

theorem created_addVlans {vlan : Nat} (member : vlan ∈ vlans) (network : Network) :
    Created (addVlans vlans network) vlan := by
  induction vlans generalizing network with
  | nil =>
      cases member
  | cons first rest inductionHypothesis =>
      rw [addVlans_cons]
      rcases List.mem_cons.mp member with rfl | later
      · exact (created_uciAddVlan network vlan).addVlans rest
      · exact inductionHypothesis later _

theorem lookup_addVlans_of_ne {name : Text}
    (other : ∀ vlan ∈ vlans, name ≠ vlanSection vlan ∧ name ≠ switchSection vlan)
    (network : Network) : (addVlans vlans network).lookup name = network.lookup name := by
  induction vlans generalizing network with
  | nil =>
      rfl
  | cons vlan rest inductionHypothesis =>
      obtain ⟨notVlan, notSwitch⟩ := other vlan List.mem_cons_self
      rw [addVlans_cons, inductionHypothesis fun vlan member =>
        other vlan (List.mem_cons_of_mem _ member), lookup_uciAddVlan, if_neg notSwitch,
        if_neg notVlan]

/-- Creation leaves a device section as it is that looks like a new one. -/
theorem lookup_uciAddVlan_of_furnished {vlan : Nat} (furnished : Furnished network vlan)
    {name : Text} (other : name ≠ vlanSection vlan) :
    (uciAddVlan vlan network).lookup name = network.lookup name := by
  rw [lookup_uciAddVlan, if_neg other]
  by_cases isSwitch : name = switchSection vlan
  · obtain ⟨⟨type, number, device, ports, state, options⟩, lookup, isDevice, asNew⟩ := furnished
    cases isDevice
    cases asNew
    rw [if_pos isSwitch, isSwitch, lookup, Option.getD_some]
    rfl
  · rw [if_neg isSwitch]

theorem lookup_addVlans_of_furnished (furnished : ∀ vlan ∈ vlans, Furnished network vlan)
    {name : Text} (other : ∀ vlan ∈ vlans, name ≠ vlanSection vlan) :
    (addVlans vlans network).lookup name = network.lookup name := by
  induction vlans generalizing network with
  | nil =>
      rfl
  | cons vlan rest inductionHypothesis =>
      have first := furnished vlan List.mem_cons_self
      have later : ∀ later ∈ rest, Furnished (uciAddVlan vlan network) later := by
        intro later member
        have notVlan : switchSection later ≠ vlanSection vlan :=
          (vlanSection_ne_switchSection vlan later).symm
        rw [Furnished, lookup_uciAddVlan_of_furnished first notVlan]
        exact furnished later (List.mem_cons_of_mem _ member)
      rw [addVlans_cons, inductionHypothesis later fun vlan member =>
        other vlan (List.mem_cons_of_mem _ member)]
      exact lookup_uciAddVlan_of_furnished first (other vlan List.mem_cons_self)

end Created

/-! ## What `add` leaves -/

section Add

variable {pairs : Pairs} {ifList : List Text} {network : Network} {vlanArr : VlanArr}
  {vlanRangeIn portListIn : RangeText} {type : TaggedType}

theorem asked_subset {vlan : Nat} (asked : vlan ∈ vlanRangeIn.asked) :
    vlan ∈ vlanRangeIn.numbers := by
  cases vlanRangeIn with
  | all =>
      cases asked
  | switch =>
      cases asked
  | once value =>
      rw [List.mem_singleton.mp asked]
      exact Range.mem_numbers.mpr ⟨Nat.le_refl _, Nat.le_refl _⟩
  | pair first last =>
      simp only [RangeText.asked, RangeText.numbers, checkPortRange] at asked ⊢
      split at asked
      · cases asked
      · rename_i ordered
        rw [if_neg ordered]
        exact asked

theorem nodup_asked (text : RangeText) : text.asked.Nodup := by
  rw [RangeText.asked]
  cases checkPortRange text with
  | none =>
      exact List.nodup_nil
  | some vlanRange =>
      exact nodup_askedVlans vlanRange

theorem ordered_of_checkPortRange {text : RangeText} {range : CheckedRange}
    (checked : checkPortRange text = some range) : range.min ≤ range.max := by
  cases text with
  | pair first last =>
      rw [checkPortRange] at checked
      split at checked
      · cases checked
      · rename_i ordered
        cases checked
        exact Nat.le_of_not_lt ordered
  | _ =>
      cases checked
      simp

/-- Only the sections of the VLANs that were saved are written. -/
theorem lookup_changed_of_ne {busy : Nat → Except Failure Bool}
    {change : Nat → Ports → Ports × Nat} {effect : Option Tag → Option Tag}
    (edits : Edits change effect) {ports vlans : List Nat} {next : Network}
    (ran : (do
      let saved ← changePorts busy change ports { lists := savedLists vlanArr vlans }
      .ok (writeSaved pairs vlanArr saved network)) = .ok next) {name : Text}
    (away : ∀ vlan ∈ vlans, ∀ vlanList,
      vlanArr.lookup (tostring vlan) = some vlanList → name ≠ vlanList.id) :
    next.lookup name = network.lookup name := by
  obtain ⟨saved, changed, written⟩ := Lua.bind_eq_ok ran
  cases written
  rw [writeSaved]
  split
  · obtain ⟨edit, lists, -⟩ := changePorts_lists edits changed
    rw [lists]
    exact lookup_rewriteVlans_of_ne edit away
  · rfl

theorem lookup_vlanChange_of_ne {cmd : Cmd} {vlanRange portRange : CheckedRange}
    (ordered : vlanRange.min ≤ vlanRange.max) {next : Network}
    (ran : vlanChange pairs cmd type vlanArr vlanRange portRange network = .ok next)
    {name : Text}
    (away : ∀ vlan ∈ vlanRange.numbers, ∀ vlanList,
      vlanArr.lookup (tostring vlan) = some vlanList → name ≠ vlanList.id) :
    next.lookup name = network.lookup name := by
  cases type with
  | tagged =>
      exact lookup_changed_of_ne (edits_setPort .add .tagged) ran away
  | untagged =>
      rw [vlanChange] at ran
      split at ran
      · cases ran
        rfl
      · apply lookup_changed_of_ne (edits_setPort cmd .untagged) ran
        intro vlan member
        rw [List.mem_singleton.mp member]
        exact away _ (Range.mem_numbers.mpr ⟨Nat.le_refl _, ordered⟩)
  | notMemb =>
      exact lookup_changed_of_ne edits_removePort ran away

/-- The port lists of some VLANs have been changed, and nothing else. -/
structure Assigned (network next : Network) (vlans : List Nat) : Prop where
  ports : PortsOnly network next
  others : ∀ {name}, (∀ found, network.lookup name = some found → found.type = .bridgeVlan →
    ∀ vlan ∈ vlans, found.vlan ≠ some (tostring vlan)) →
      next.lookup name = network.lookup name

theorem Assigned.refl (network : Network) (vlans : List Nat) :
    Assigned network network vlans where
  ports := PortsOnly.refl network
  others := fun _ => rfl

theorem assigned_runAction (read : getVlanArr ⟨pairs, ifList⟩ network = .ok vlanArr)
    (cmd : Cmd) :
    Assigned network
      (runAction ⟨pairs, ifList⟩ ⟨vlanRangeIn, .change cmd type, portListIn⟩ vlanArr network).1
      vlanRangeIn.numbers := by
  unfold runAction
  split
  · rename_i portRange vlanRange _ checked
    obtain ⟨next, ran, ports⟩ := vlanChange_ends pairs cmd type vlanArr vlanRange portRange network
    simp only [ran, settle]
    have numbers : vlanRangeIn.numbers = vlanRange.numbers := by
      rw [RangeText.numbers, checked]
      rfl
    refine ⟨ports, fun others => ?_⟩
    apply lookup_vlanChange_of_ne (ordered_of_checkPortRange checked) ran
    rintro vlan member vlanList present rfl
    obtain ⟨found, described⟩ := (marked_of_getVlanArr read).1 present
    exact others found described.lookup described.type vlan (numbers ▸ member)
      (eq_some_of_setVlanParam described.vlan)
  · exact Assigned.refl network _

theorem newVlans_of_missing (read : getVlanArr ⟨pairs, ifList⟩ network = .ok vlanArr)
    (missing : Missing network vlanRangeIn.numbers) {vlanRange : CheckedRange}
    (checked : checkPortRange vlanRangeIn = some vlanRange) :
    newVlans vlanArr vlanRange = vlanRangeIn.asked := by
  have asked : vlanRangeIn.asked = askedVlans vlanRange := by
    rw [RangeText.asked, checked]
    rfl
  rw [newVlans, asked, List.filter_eq_self]
  intro vlan member
  rw [Option.isNone_iff_eq_none, Option.eq_none_iff_forall_ne_some]
  intro vlanList present
  obtain ⟨found, described⟩ := (marked_of_getVlanArr read).1 present
  apply missing described.lookup described.type _ (asked_subset (asked ▸ member))
  rw [described.vlan, Lua.tonumber_tostring]

theorem afterAdd_of_unread (unread : ¬Readable ifList network) :
    afterAdd pairs ifList vlanRangeIn type portListIn network = network := by
  unfold afterAdd runConfigVlan
  split
  · rfl
  · rename_i vlanArr read
    exact absurd (readable_of_getVlanArr read) unread

/-- `add` creates the VLANs it is asked for and assigns ports to them. -/
theorem assigned_afterAdd (pairs : Pairs) (type : TaggedType) (portListIn : RangeText)
    (readable : Readable ifList network) (missing : Missing network vlanRangeIn.numbers) :
    Assigned (addVlans vlanRangeIn.asked network)
      (afterAdd pairs ifList vlanRangeIn type portListIn network) vlanRangeIn.numbers := by
  obtain ⟨vlanArr, read⟩ := getVlanArr_ends ⟨pairs, ifList⟩ readable
  unfold afterAdd
  rw [runConfigVlan, read]
  cases checked : checkPortRange vlanRangeIn with
  | none =>
      have asked : vlanRangeIn.asked = [] := by
        rw [RangeText.asked, checked]
        rfl
      simp only [createdVlans, checked, asked]
      exact Assigned.refl network _
  | some vlanRange =>
      simp only [createdVlans, checked, newVlans_of_missing read missing checked]
      cases asked : vlanRangeIn.asked with
      | nil =>
          exact assigned_runAction read .add
      | cons vlan rest =>
          simp only
          split
          · exact Assigned.refl _ _
          · rename_i again
            exact assigned_runAction again .add

end Add

/-! ## What `delete` takes -/

section Delete

variable {pairs : Pairs} {ifList : List Text} {network : Network} {vlanArr : VlanArr}
  {vlanRangeIn : RangeText}

/-- The section of a VLAN of the range is gone, if every VLAN before it has a number. -/
theorem lookup_vlanDelete_of_mem {vlanRange : Range} {vlans : List ((_ : Text) × VlanList)}
    (numbered : ∀ vlan ∈ vlans, ∃ index, tonumber vlan.1 = some index)
    {vlan : (_ : Text) × VlanList} (member : vlan ∈ vlans) {index : Nat}
    (number : tonumber vlan.1 = some index) (inRange : index ∈ vlanRange.numbers)
    (network : Network) : (vlanDelete vlanRange vlans network).1.lookup vlan.2.id = none := by
  induction vlans generalizing network with
  | nil =>
      cases member
  | cons first rest inductionHypothesis =>
      rcases List.mem_cons.mp member with rfl | later
      · rw [vlanDelete, number]
        simp only [Range.mem_numbers.mp inRange, and_self, if_true]
        apply Option.eq_none_iff_forall_ne_some.mpr
        intro found lookup
        have stored := within_vlanDelete vlanRange rest (delete vlan.2.id network) lookup
        rw [delete, AList.lookup_erase] at stored
        cases stored
      · obtain ⟨firstIndex, firstNumber⟩ := numbered first List.mem_cons_self
        rw [vlanDelete, firstNumber]
        exact inductionHypothesis (fun vlan member => numbered vlan (List.mem_cons_of_mem _ member))
          later _

theorem afterDelete_of_unread (unread : ¬Readable ifList network) :
    afterDelete pairs ifList vlanRangeIn network = network := by
  unfold afterDelete runConfigVlan
  split
  · rfl
  · rename_i vlanArr read
    exact absurd (readable_of_getVlanArr read) unread

theorem afterDelete_of_read (read : getVlanArr ⟨pairs, ifList⟩ network = .ok vlanArr)
    {vlanRange : CheckedRange} (checked : checkPortRange vlanRangeIn = some vlanRange) :
    afterDelete pairs ifList vlanRangeIn network =
      (vlanDelete vlanRange.toRange (pairs.order vlanArr.entries) network).1 := by
  have ports : checkPortRange (.pair 0 0) = some ⟨⟨0, 0⟩, .range⟩ := rfl
  simp only [afterDelete, runConfigVlan, read, createdVlans, runAction, ports, checked]

/-- `delete` does nothing, or it walks through the table that it reads. -/
theorem afterDelete_cases (pairs : Pairs) (ifList : List Text) (vlanRangeIn : RangeText)
    (network : Network) :
    afterDelete pairs ifList vlanRangeIn network = network ∨
      ∃ vlanArr vlanRange, getVlanArr ⟨pairs, ifList⟩ network = .ok vlanArr ∧
        checkPortRange vlanRangeIn = some vlanRange ∧
        afterDelete pairs ifList vlanRangeIn network =
          (vlanDelete vlanRange.toRange (pairs.order vlanArr.entries) network).1 := by
  by_cases readable : Readable ifList network
  · obtain ⟨vlanArr, read⟩ := getVlanArr_ends ⟨pairs, ifList⟩ readable
    cases checked : checkPortRange vlanRangeIn with
    | none =>
        left
        have ports : checkPortRange (.pair 0 0) = some ⟨⟨0, 0⟩, .range⟩ := rfl
        simp only [afterDelete, runConfigVlan, read, createdVlans, runAction, ports, checked]
    | some vlanRange =>
        exact Or.inr ⟨vlanArr, vlanRange, read, rfl, afterDelete_of_read read checked⟩
  · exact Or.inl (afterDelete_of_unread readable)

/-- `delete` spares what has no number of its range. -/
theorem lookup_afterDelete_of_spared {name : Text}
    (spared : ∀ found, network.lookup name = some found → found.type = .bridgeVlan →
      ∀ index, tonumber (setVlanParam found.vlan) = some index → index ∉ vlanRangeIn.numbers) :
    (afterDelete pairs ifList vlanRangeIn network).lookup name = network.lookup name := by
  rcases afterDelete_cases pairs ifList vlanRangeIn network with
    same | ⟨vlanArr, vlanRange, read, checked, deleted⟩
  · rw [same]
  · rw [deleted]
    apply lookup_vlanDelete
    rintro entry member index number inRange rfl
    have present := AList.mem_lookup_iff.mpr (pairs.mem_order.mp member)
    obtain ⟨found, described⟩ := (marked_of_getVlanArr read).1 present
    apply spared found described.lookup described.type index
    · rw [described.vlan, number]
    · rw [RangeText.numbers, checked]
      exact inRange

theorem within_afterDelete : Within (afterDelete pairs ifList vlanRangeIn network) network := by
  rcases afterDelete_cases pairs ifList vlanRangeIn network with
    same | ⟨vlanArr, vlanRange, read, checked, deleted⟩
  · rw [same]
    exact fun lookup => lookup
  · rw [deleted]
    exact within_vlanDelete vlanRange.toRange _ network

/-- `delete` takes a VLAN of its range, if all have numbers. -/
theorem lookup_afterDelete_of_mem (readable : Readable ifList network)
    (numbered : Numbered network) {vlan : Nat} (inRange : vlan ∈ vlanRangeIn.numbers)
    {name : Text} {found : Section} (lookup : network.lookup name = some found)
    (bridge : found.type = .bridgeVlan) (number : found.vlan = some (tostring vlan))
    (single : ∀ other another, network.lookup other = some another →
      another.type = .bridgeVlan → another.vlan = some (tostring vlan) → other = name) :
    (afterDelete pairs ifList vlanRangeIn network).lookup name = none := by
  obtain ⟨vlanArr, read⟩ := getVlanArr_ends ⟨pairs, ifList⟩ readable
  obtain ⟨describes, complete⟩ := marked_of_getVlanArr read
  cases checked : checkPortRange vlanRangeIn with
  | none =>
      rw [RangeText.numbers, checked] at inRange
      cases inRange
  | some vlanRange =>
      rw [RangeText.numbers, checked] at inRange
      have isPresent := complete lookup bridge
      rw [number, setVlanParam, Option.getD_some] at isPresent
      obtain ⟨vlanList, present⟩ := Option.isSome_iff_exists.mp isPresent
      obtain ⟨another, described⟩ := describes present
      have same : vlanList.id = name := single _ _ described.lookup described.type
        (eq_some_of_setVlanParam described.vlan)
      have entryNumbered : ∀ entry ∈ pairs.order vlanArr.entries,
          ∃ index, tonumber entry.1 = some index := by
        intro entry member
        have stored := AList.mem_lookup_iff.mpr (pairs.mem_order.mp member)
        obtain ⟨holder, description⟩ := describes stored
        rw [← description.vlan]
        exact numbered description.lookup description.type
      have member : ⟨tostring vlan, vlanList⟩ ∈ pairs.order vlanArr.entries :=
        pairs.mem_order.mpr (AList.mem_lookup_iff.mp present)
      rw [afterDelete_of_read read checked, ← same]
      exact lookup_vlanDelete_of_mem entryNumbered member (Lua.tonumber_tostring vlan) inRange
        network

/-- With a VLAN without a number there is an order in which `delete` takes nothing. -/
theorem exists_order_without_delete (ifList : List Text) (vlanRangeIn : RangeText)
    {network : Network} {name : Text} {found : Section}
    (lookup : network.lookup name = some found) (bridge : found.type = .bridgeVlan)
    (unnumbered : tonumber (setVlanParam found.vlan) = none) :
    ∃ pairs, afterDelete pairs ifList vlanRangeIn network = network := by
  let chosen : ((_ : Text) × VlanList) → Bool := fun entry => (tonumber entry.1).isNone
  refine ⟨.prefer chosen, ?_⟩
  rcases afterDelete_cases (.prefer chosen) ifList vlanRangeIn network with
    same | ⟨vlanArr, vlanRange, read, checked, deleted⟩
  · exact same
  · obtain ⟨vlanList, present⟩ :=
      Option.isSome_iff_exists.mp ((marked_of_getVlanArr read).2 lookup bridge)
    have first : ⟨_, vlanList⟩ ∈ vlanArr.entries.filter chosen :=
      List.mem_filter.mpr ⟨AList.mem_lookup_iff.mp present, by simp [chosen, unnumbered]⟩
    rw [deleted, Pairs.order_prefer]
    cases front : vlanArr.entries.filter chosen with
    | nil =>
        rw [front] at first
        cases first
    | cons entry rest =>
        have isChosen : chosen entry = true :=
          (List.mem_filter.mp (front ▸ List.mem_cons_self)).2
        rw [List.cons_append, vlanDelete, Option.isNone_iff_eq_none.mp isChosen]

end Delete

/-! ## Creating and deleting -/

section Both

variable {network : Network} {ifList : List Text} {vlanRangeIn portListIn : RangeText}
  {type : TaggedType}

theorem Missing.not_number {vlans : List Nat} (missing : Missing network vlans) {name : Text}
    {found : Section} (lookup : network.lookup name = some found)
    (bridge : found.type = .bridgeVlan) {vlan : Nat} (member : vlan ∈ vlans) :
    found.vlan ≠ some (tostring vlan) := by
  intro number
  apply missing lookup bridge _ member
  rw [number, setVlanParam, Option.getD_some, Lua.tonumber_tostring]

section Leftovers

variable (readable : Readable ifList network) (missing : Missing network vlanRangeIn.numbers)
  (restores : Restores network ifList vlanRangeIn type portListIn)

include readable missing restores

theorem free_of_restores {vlan : Nat} (asked : vlan ∈ vlanRangeIn.asked) :
    network.lookup (vlanSection vlan) = none := by
  rw [Option.eq_none_iff_forall_ne_some]
  intro old lookup
  have stays := (restores .stored .stored (vlanSection vlan)).trans lookup
  have assigned := assigned_afterAdd .stored type portListIn readable missing
  obtain ⟨found, created, rewritten⟩ := assigned.ports.back (within_afterDelete stays)
  obtain ⟨again, isCreated, bridge, number⟩ := (created_addVlans asked network).bridge
  rw [isCreated, Option.some.injEq] at created
  subst created
  exact missing.not_number lookup (rewritten.type.trans bridge) (asked_subset asked)
    (rewritten.vlan.trans number)

theorem furnished_of_restores {vlan : Nat} (asked : vlan ∈ vlanRangeIn.asked) :
    Furnished network vlan := by
  have assigned := assigned_afterAdd .stored type portListIn readable missing
  obtain ⟨created, isCreated, device, options⟩ := (created_addVlans asked network).device
  obtain ⟨found, lookup, rewritten⟩ := assigned.ports.forth isCreated
  have isDevice : found.type = .device := rewritten.type.trans device
  refine ⟨found, ?_, isDevice, rewritten.deviceOptions.trans options⟩
  rw [← restores .stored .stored, lookup_afterDelete_of_spared, lookup]
  intro another again bridge
  rw [lookup, Option.some.injEq] at again
  rw [← again, isDevice] at bridge
  cases bridge

theorem numbered_of_restores {vlan : Nat} (asked : vlan ∈ vlanRangeIn.asked) :
    Numbered network := by
  intro name found lookup bridge
  by_contra unnumbered
  have stays : (addVlans vlanRangeIn.asked network).lookup name = some found := by
    rw [lookup_addVlans_of_ne _ network]
    · exact lookup
    · intro other member
      constructor
      · rintro rfl
        rw [free_of_restores readable missing restores member] at lookup
        cases lookup
      · rintro rfl
        obtain ⟨device, isStored, isDevice, -⟩ :=
          furnished_of_restores readable missing restores member
        rw [lookup, Option.some.injEq] at isStored
        rw [← isStored, bridge] at isDevice
        cases isDevice
  have assigned := assigned_afterAdd .stored type portListIn readable missing
  obtain ⟨later, isLater, rewritten⟩ := assigned.ports.forth stays
  have stops : tonumber (setVlanParam later.vlan) = none := by
    rw [rewritten.vlan, Option.eq_none_iff_forall_ne_some]
    intro index number
    exact unnumbered ⟨index, number⟩
  obtain ⟨second, nothing⟩ := exists_order_without_delete ifList vlanRangeIn isLater
    (rewritten.type.trans bridge) stops
  have gone := restores .stored second (vlanSection vlan)
  obtain ⟨created, isCreated, -⟩ := (created_addVlans asked network).bridge
  obtain ⟨remains, isThere, -⟩ := assigned.ports.forth isCreated
  rw [nothing, isThere, free_of_restores readable missing restores asked] at gone
  cases gone

end Leftovers

section Restored

variable {pairs : Pairs} (readable : Readable ifList network)
  (missing : Missing network vlanRangeIn.numbers)
  (free : ∀ vlan ∈ vlanRangeIn.asked, network.lookup (vlanSection vlan) = none)
  (furnished : ∀ vlan ∈ vlanRangeIn.asked, Furnished network vlan)

include readable missing furnished

/-- Over furnished VLANs `add` changes nothing but the sections of the VLANs. -/
theorem lookup_afterAdd_of_ne {name : Text}
    (other : ∀ vlan ∈ vlanRangeIn.asked, name ≠ vlanSection vlan) :
    (afterAdd pairs ifList vlanRangeIn type portListIn network).lookup name =
      network.lookup name := by
  have assigned := assigned_afterAdd pairs type portListIn readable missing
  have kept := lookup_addVlans_of_furnished furnished other
  rw [assigned.others, kept]
  intro found lookup bridge vlan member
  rw [kept] at lookup
  exact missing.not_number lookup bridge member

include free

/-- What `add` leaves of a VLAN is new or was there before. -/
theorem afterAdd_cases {name : Text} {found : Section}
    (lookup :
      (afterAdd pairs ifList vlanRangeIn type portListIn network).lookup name = some found) :
    network.lookup name = some found ∨
      (∃ vlan ∈ vlanRangeIn.asked, name = vlanSection vlan ∧ found.vlan = some (tostring vlan)) ∧
        ∀ text ∈ found.ports, ∃ num state, text = portText num state := by
  by_cases new : ∃ vlan ∈ vlanRangeIn.asked, name = vlanSection vlan
  · right
    obtain ⟨vlan, asked, rfl⟩ := new
    have assigned := assigned_afterAdd pairs type portListIn readable missing
    obtain ⟨created, isCreated, rewritten⟩ := assigned.ports.back lookup
    obtain ⟨again, isAgain, isBridge, number⟩ := (created_addVlans asked network).bridge
    rw [isAgain, Option.some.injEq] at isCreated
    subst isCreated
    refine ⟨⟨vlan, asked, rfl, rewritten.vlan.trans number⟩, ?_⟩
    have unclaimed : ∀ vlan ∈ vlanRangeIn.asked, Unclaimed network vlan := by
      intro vlan asked
      refine ⟨free vlan asked, fun device stored => ?_⟩
      obtain ⟨known, isKnown, isDevice, -⟩ := furnished vlan asked
      rw [stored, Option.some.injEq] at isKnown
      exact isKnown ▸ isDevice
    have grown := grown_addVlans (nodup_asked vlanRangeIn) unclaimed
    have empty : again.ports = [] := by
      rcases grown.created isAgain isBridge with stored | ⟨empty, -⟩
      · rw [free vlan asked] at stored
        cases stored
      · exact empty
    intro text member
    rcases rewritten.ports text member with old | written
    · rw [empty] at old
      cases old
    · exact written
  · left
    rw [← lookup_afterAdd_of_ne readable missing furnished fun vlan asked same =>
      new ⟨vlan, asked, same⟩]
    exact lookup

theorem readable_afterAdd :
    Readable ifList (afterAdd pairs ifList vlanRangeIn type portListIn network) where
  texts := by
    intro name found lookup bridge text member
    rcases afterAdd_cases readable missing free furnished lookup with
      stored | ⟨-, written⟩
    · exact readable.texts stored bridge text member
    · obtain ⟨num, state, rfl⟩ := written text member
      exact ⟨_, _, getPortType_portText num state⟩
  devices := by
    intro ifName member
    obtain ⟨device, named, onVlan⟩ := readable.devices ifName member
    refine ⟨device, ?_, fun onSwitch => ?_⟩
    · rw [lookup_afterAdd_of_ne readable missing furnished]
      · exact named
      · rintro vlan asked rfl
        rw [free vlan asked] at named
        cases named
    · obtain ⟨num, isNum, name, found, lookup, bridge, numbers⟩ := onVlan onSwitch
      refine ⟨num, isNum, name, found, ?_, bridge, numbers⟩
      rw [lookup_afterAdd_of_ne readable missing furnished]
      · exact lookup
      · rintro vlan asked rfl
        rw [free vlan asked] at lookup
        cases lookup

theorem numbered_afterAdd (numbered : Numbered network) :
    Numbered (afterAdd pairs ifList vlanRangeIn type portListIn network) := by
  intro name found lookup bridge
  rcases afterAdd_cases readable missing free furnished lookup with
    stored | ⟨⟨vlan, _, _, number⟩, -⟩
  · exact numbered stored bridge
  · refine ⟨vlan, ?_⟩
    rw [number, setVlanParam, Option.getD_some, Lua.tonumber_tostring]

theorem single_afterAdd {vlan : Nat} (asked : vlan ∈ vlanRangeIn.asked) {name : Text}
    {found : Section}
    (lookup :
      (afterAdd pairs ifList vlanRangeIn type portListIn network).lookup name = some found)
    (bridge : found.type = .bridgeVlan) (number : found.vlan = some (tostring vlan)) :
    name = vlanSection vlan := by
  rcases afterAdd_cases readable missing free furnished lookup with
    stored | ⟨⟨other, _, rfl, otherNumber⟩, -⟩
  · exact absurd number (missing.not_number stored bridge (asked_subset asked))
  · rw [number, Option.some.injEq] at otherNumber
    rw [Lua.tostring_injective otherNumber]

theorem lookup_afterDelete_afterAdd (second : Pairs) (numbered : Numbered network) {vlan : Nat}
    (asked : vlan ∈ vlanRangeIn.asked) :
    (afterDelete second ifList vlanRangeIn
      (afterAdd pairs ifList vlanRangeIn type portListIn network)).lookup (vlanSection vlan) =
        none := by
  have assigned := assigned_afterAdd pairs type portListIn readable missing
  obtain ⟨created, isCreated, bridge, number⟩ := (created_addVlans asked network).bridge
  obtain ⟨found, lookup, rewritten⟩ := assigned.ports.forth isCreated
  apply lookup_afterDelete_of_mem (readable_afterAdd readable missing free furnished)
    (numbered_afterAdd readable missing free furnished numbered) (asked_subset asked) lookup
    (rewritten.type.trans bridge) (rewritten.vlan.trans number)
  intro other another isAnother isBridge isNumber
  exact single_afterAdd readable missing free furnished asked isAnother isBridge isNumber

end Restored

/-- `add` and then `delete` restore a readable configuration, in whatever order its tables are
walked through, exactly if all its VLANs have numbers, the names of the new VLAN sections are free,
and the device sections are there already, as an earlier `add` has left them. -/
theorem create_delete_restores_iff (type : TaggedType) (portListIn : RangeText)
    (missing : Missing network vlanRangeIn.numbers) :
    Restores network ifList vlanRangeIn type portListIn ↔
      (Readable ifList network → ∀ vlan ∈ vlanRangeIn.asked,
        Numbered network ∧ network.lookup (vlanSection vlan) = none ∧ Furnished network vlan) := by
  constructor
  · intro restores readable vlan asked
    exact ⟨numbered_of_restores readable missing restores asked,
      free_of_restores readable missing restores asked,
      furnished_of_restores readable missing restores asked⟩
  · intro ready first second name
    have spared : ∀ found, network.lookup name = some found → found.type = .bridgeVlan →
        ∀ index, tonumber (setVlanParam found.vlan) = some index →
          index ∉ vlanRangeIn.numbers :=
      fun found lookup bridge index number => missing lookup bridge number
    by_cases readable : Readable ifList network
    · have prepared := ready readable
      have free := fun vlan asked => (prepared vlan asked).2.1
      have furnished := fun vlan asked => (prepared vlan asked).2.2
      by_cases new : ∃ vlan ∈ vlanRangeIn.asked, name = vlanSection vlan
      · obtain ⟨vlan, asked, rfl⟩ := new
        rw [free vlan asked]
        exact lookup_afterDelete_afterAdd readable missing free furnished second
          (prepared vlan asked).1 asked
      · have kept : (afterAdd first ifList vlanRangeIn type portListIn network).lookup name =
            network.lookup name :=
          lookup_afterAdd_of_ne readable missing furnished
            fun vlan asked same => new ⟨vlan, asked, same⟩
        rw [lookup_afterDelete_of_spared, kept]
        rw [kept]
        exact spared
    · rw [afterAdd_of_unread readable]
      exact lookup_afterDelete_of_spared spared

end Both

/-- The section that an earlier VLAN 2 has left. -/
def leftDevice : Section where
  type := .device
  deviceOptions := vlanDevice 2

/-- `lan` on VLAN 1, with the device of VLAN 2. -/
def lanWithDevice : Network where
  entries :=
    [⟨lan, interfaceOn 1⟩, ⟨vlanSection 1, firstVlan⟩, ⟨switchSection 2, leftDevice⟩]
  nodupKeys := by
    change List.Nodup [lan, vlanSection 1, switchSection 2]
    decide

theorem number_of_lanWithDevice {name : Text} {found : Section}
    (lookup : lanWithDevice.lookup name = some found) (bridge : found.type = .bridgeVlan) :
    tonumber (setVlanParam found.vlan) = some 1 := by
  have member := AList.mem_lookup_iff.mp lookup
  simp only [lanWithDevice, List.mem_cons, Sigma.mk.injEq, heq_eq_eq, List.not_mem_nil,
    or_false] at member
  rcases member with ⟨-, rfl⟩ | ⟨-, rfl⟩ | ⟨-, rfl⟩
  · cases bridge
  · exact Lua.tonumber_tostring 1
  · cases bridge

theorem lanWithDevice_restored :
    Missing lanWithDevice (RangeText.once 2).numbers ∧
      Restores lanWithDevice [lan] (.once 2) .tagged (.once 3) := by
  have missing : Missing lanWithDevice (RangeText.once 2).numbers := by
    intro name found index lookup bridge number
    rw [number_of_lanWithDevice lookup bridge, Option.some.injEq] at number
    subst number
    decide
  refine ⟨missing, (create_delete_restores_iff .tagged (.once 3) missing).mpr ?_⟩
  intro _ vlan asked
  obtain rfl := List.mem_singleton.mp asked
  refine ⟨?_, by decide, leftDevice, by decide, rfl, rfl⟩
  intro name found lookup bridge
  exact ⟨1, number_of_lanWithDevice lookup bridge⟩

/-- VLAN 2 is created with port 3 and deleted; its device section is left. -/
theorem device_left_behind :
    lanOnVlan1.lookup (switchSection 2) = none ∧
      (afterDelete .stored [lan] (.once 2)
        (afterAdd .stored [lan] (.once 2) .tagged (.once 3) lanOnVlan1)).lookup (switchSection 2) =
          some leftDevice := by
  decide

end TfortisPack.VlanCli
