import TfortisPack.VlanCli.Management

/-!
# Editing tagged ports

`edit ... tagged` should tag the ports that are already in the VLANs of its range.
`add_tagged` of the script passes `add` on instead of its own command: ports that
are missing join the VLANs, and ports that are untagged in one stay as they are.
-/

namespace TfortisPack.VlanCli

open Library
open Library.Lua (Pairs tostring tonumber)

/-! ## Tables and the configurations that hold them -/

/-- The texts are the ports of a table, with their tags. -/
def Lists (texts : List Text) (entries : Nat → Option Tag) : Prop :=
  ∀ text, text ∈ texts ↔ ∃ num state, entries num = some state ∧ text = portText num state

/-- A table of VLANs, and a configuration in which a section of its own lists the ports of
each. -/
structure VlanTable where
  vlanArr : VlanArr
  network : Network
  stored : ∀ {key vlanList}, vlanArr.lookup key = some vlanList →
    ∃ found, network.lookup vlanList.id = some found ∧ Lists found.ports (entry vlanArr key)
  apart : ∀ {key other vlanList another}, vlanArr.lookup key = some vlanList →
    vlanArr.lookup other = some another → key ≠ other → vlanList.id ≠ another.id

/-- The sections of the VLANs list the changed ports, and nothing else has changed. -/
structure Leaves (table : VlanTable) (changed : Text → Nat → Option Tag) (next : Network) :
    Prop where
  lists : ∀ {key vlanList}, table.vlanArr.lookup key = some vlanList →
    ∃ found texts, table.network.lookup vlanList.id = some found ∧
      next.lookup vlanList.id = some { found with ports := texts } ∧ Lists texts (changed key)
  others : ∀ {name}, (∀ key vlanList, table.vlanArr.lookup key = some vlanList →
    name ≠ vlanList.id) → next.lookup name = table.network.lookup name

section Tables

variable {table : VlanTable} {next : Network} {changed other : Text → Nat → Option Tag}

theorem lists_portTexts (pairs : Pairs) (ports : Ports) :
    Lists (portTexts pairs ports) ports.lookup := by
  intro text
  constructor
  · intro member
    obtain ⟨num, state, rfl⟩ := (portTable_portTexts pairs ports).written text member
    exact ⟨num, state, portText_mem_portTexts.mp member, rfl⟩
  · rintro ⟨num, state, present, rfl⟩
    exact portText_mem_portTexts.mpr present

theorem Lists.unique {texts : List Text} {entries others : Nat → Option Tag}
    (first : Lists texts entries) (second : Lists texts others) : entries = others := by
  funext num
  apply Option.ext
  intro state
  have same : ∀ {listed : Nat → Option Tag}, Lists texts listed →
      (portText num state ∈ texts ↔ listed num = some state) := by
    intro listed lists
    rw [lists]
    constructor
    · rintro ⟨port, tag, present, written⟩
      obtain ⟨rfl, rfl⟩ := portText_injective written
      exact present
    · intro present
      exact ⟨num, state, present, rfl⟩
  rw [← same first, same second]

theorem Leaves.unique (first : Leaves table changed next) (second : Leaves table other next)
    {key : Text} {vlanList : VlanList} (present : table.vlanArr.lookup key = some vlanList) :
    changed key = other key := by
  obtain ⟨found, texts, _, lookup, lists⟩ := first.lists present
  obtain ⟨again, otherTexts, _, otherLookup, otherLists⟩ := second.lists present
  rw [lookup, Option.some.injEq] at otherLookup
  have same : texts = otherTexts := congrArg Section.ports otherLookup
  rw [← same] at otherLists
  exact lists.unique otherLists

theorem Leaves.congr (leaves : Leaves table changed next)
    (same : ∀ key vlanList, table.vlanArr.lookup key = some vlanList → changed key = other key) :
    Leaves table other next where
  lists := by
    intro key vlanList present
    rw [← same key vlanList present]
    exact leaves.lists present
  others := leaves.others

theorem leaves_self (table : VlanTable) :
    Leaves table (entry table.vlanArr) table.network where
  lists := by
    intro key vlanList present
    obtain ⟨found, lookup, lists⟩ := table.stored present
    exact ⟨found, found.ports, lookup, lookup, lists⟩
  others := fun _ => rfl

end Tables

/-- What is read of a plain configuration is a table that it holds. -/
def VlanTable.ofRead {surroundings : Surroundings} {network : Network} {vlanArr : VlanArr}
    (tidy : Tidy network) (plain : Plain network)
    (read : getVlanArr surroundings network = .ok vlanArr) : VlanTable where
  vlanArr := vlanArr
  network := network
  stored := by
    intro key vlanList present
    obtain ⟨found, described⟩ := (marked_of_getVlanArr read).1 present
    obtain ⟨vlan, rfl, number⟩ := tidy.number_eq described
    refine ⟨found, described.lookup, ?_⟩
    have table := tidy.table described.lookup described.type
    have legible := plain.legible described.lookup described.type number
    intro text
    rw [entry_of_lookup present]
    constructor
    · intro member
      obtain ⟨num, state, rfl⟩ := table.written text member
      exact ⟨num, state, (lookup_setPorts table legible described.ports).mpr member, rfl⟩
    · rintro ⟨num, state, listed, rfl⟩
      exact (lookup_setPorts table legible described.ports).mp listed
  apart := by
    intro key other vlanList another present otherPresent different same
    obtain ⟨found, described⟩ := (marked_of_getVlanArr read).1 present
    obtain ⟨second, otherDescribed⟩ := (marked_of_getVlanArr read).1 otherPresent
    have stored := described.lookup
    rw [same, otherDescribed.lookup, Option.some.injEq] at stored
    apply different
    rw [← described.vlan, ← otherDescribed.vlan, stored]

/-! ## Which ports are untagged -/

/-- The key is the number of a VLAN of the range. -/
def Selects (vlans : List Nat) (key : Text) : Prop :=
  ∃ vlan ∈ vlans, tostring vlan = key

instance (vlans : List Nat) (key : Text) : Decidable (Selects vlans key) :=
  inferInstanceAs (Decidable (∃ vlan ∈ vlans, _))

/-- The port is untagged in some VLAN. -/
def UntaggedIn (vlanArr : VlanArr) (port : Nat) : Prop :=
  ∃ member ∈ members vlanArr, member.port = port ∧ member.state = .untagged

/-- The port is untagged in a VLAN outside of the range. -/
def UntaggedOutside (vlanArr : VlanArr) (vlans : List Nat) (port : Nat) : Prop :=
  ∃ member ∈ members vlanArr,
    ¬Selects vlans member.id ∧ member.port = port ∧ member.state = .untagged

instance (vlanArr : VlanArr) (port : Nat) : Decidable (UntaggedIn vlanArr port) :=
  inferInstanceAs (Decidable (∃ member ∈ members vlanArr, _))

instance (vlanArr : VlanArr) (vlans : List Nat) (port : Nat) :
    Decidable (UntaggedOutside vlanArr vlans port) :=
  inferInstanceAs (Decidable (∃ member ∈ members vlanArr, _))

/-- The table after `edit ... tagged`. -/
def retagged (vlanArr : VlanArr) (vlans ports : List Nat) (key : Text) (port : Nat) :
    Option Tag :=
  if Selects vlans key ∧ port ∈ ports ∧ ¬UntaggedOutside vlanArr vlans port then
    Cmd.edit.effect .tagged (entry vlanArr key port)
  else
    entry vlanArr key port

/-- The table after `add ... tagged`. -/
def joined (vlanArr : VlanArr) (vlans ports : List Nat) (key : Text) (port : Nat) :
    Option Tag :=
  if Selects vlans key ∧ port ∈ ports ∧ ¬UntaggedIn vlanArr port then
    Cmd.add.effect .tagged (entry vlanArr key port)
  else
    entry vlanArr key port

section Members

variable {vlanArr : VlanArr} {vlans : List Nat} {port : Nat}

theorem untaggedIn_iff :
    UntaggedIn vlanArr port ↔ ∃ key, entry vlanArr key port = some .untagged := by
  constructor
  · rintro ⟨⟨key, _, _⟩, member, rfl, rfl⟩
    exact ⟨key, mem_members_iff.mp member⟩
  · rintro ⟨key, untagged⟩
    exact ⟨_, mem_members_iff.mpr untagged, rfl, rfl⟩

theorem untaggedOutside_iff :
    UntaggedOutside vlanArr vlans port ↔
      ∃ key, ¬Selects vlans key ∧ entry vlanArr key port = some .untagged := by
  constructor
  · rintro ⟨⟨key, _, _⟩, member, away, rfl, rfl⟩
    exact ⟨key, away, mem_members_iff.mp member⟩
  · rintro ⟨key, away, untagged⟩
    exact ⟨_, mem_members_iff.mpr untagged, away, rfl, rfl⟩

/-- A tagged `add` finds the ports busy that are untagged anywhere. -/
theorem taggedBusy_add (vlanRange : Range) :
    taggedBusy vlanArr vlanRange .add port = .ok (decide (UntaggedIn vlanArr port)) := by
  have scanned : ∀ (list : List Member) (busy : Bool),
      list.foldlM (scanMember vlanRange .add port) busy =
        .ok (busy || decide (∃ member ∈ list, member.port = port ∧ member.state = .untagged)) := by
    intro list
    induction list with
    | nil =>
        intro busy
        simp [pure, Except.pure]
    | cons member rest inductionHypothesis =>
        intro busy
        rw [List.foldlM_cons, scanMember]
        refine (inductionHypothesis _).trans ?_
        simp only [List.exists_mem_cons_iff, Bool.decide_or, Bool.decide_and, beq_eq_decide,
          Bool.or_assoc]
  rw [taggedBusy, scanned, Bool.false_or]
  rfl

end Members

/-! ## What `add_tagged` leaves -/

section Changes

theorem changeLists_still {change : Ports → Ports × Nat}
    (keeps : ∀ list, (change list).2 = 0 → (change list).1 = list)
    (lists : List (Nat × Ports)) (count : Nat) :
    count ≤ (changeLists change ⟨lists, count⟩).count ∧
      ((changeLists change ⟨lists, count⟩).count = count →
        (changeLists change ⟨lists, count⟩).lists = lists) := by
  induction lists generalizing count with
  | nil =>
      exact ⟨Nat.le_refl _, fun _ => rfl⟩
  | cons list rest inductionHypothesis =>
      obtain ⟨below, still⟩ := inductionHypothesis (count + (change list.2).2)
      have counts : (changeLists change ⟨list :: rest, count⟩).count =
          (changeLists change ⟨rest, count + (change list.2).2⟩).count := rfl
      have listed : (changeLists change ⟨list :: rest, count⟩).lists =
          (list.1, (change list.2).1) ::
            (changeLists change ⟨rest, count + (change list.2).2⟩).lists := rfl
      rw [counts, listed]
      refine ⟨by omega, fun same => ?_⟩
      rw [still (by omega), keeps list.2 (by omega)]

/-- While nothing is counted, the saved lists stay as they were. -/
theorem changePorts_still {busy : Nat → Except Failure Bool} {change : Nat → Ports → Ports × Nat}
    (keeps : ∀ port list, (change port list).2 = 0 → (change port list).1 = list)
    {ports : List Nat} {saved final : Saved}
    (ran : changePorts busy change ports saved = .ok final) :
    saved.count ≤ final.count ∧ (final.count = saved.count → final.lists = saved.lists) := by
  refine Lua.foldlM_invariant (fun _ (later : Saved) => saved.count ≤ later.count ∧
    (later.count = saved.count → later.lists = saved.lists)) ?_ ⟨Nat.le_refl _, fun _ => rfl⟩ ran
  rintro done now port next - ⟨below, still⟩ stepped
  obtain ⟨taken, _, ended⟩ := Lua.bind_eq_ok stepped
  cases taken with
  | true =>
      cases ended
      exact ⟨below, still⟩
  | false =>
      cases ended
      obtain ⟨more, same⟩ := changeLists_still (keeps port) now.lists now.count
      refine ⟨Nat.le_trans below more, fun unchanged => ?_⟩
      have earlier : now.count = saved.count := Nat.le_antisymm (unchanged ▸ more) below
      exact (same (unchanged.trans earlier.symm)).trans (still earlier)

theorem setPort_keeps (cmd : Cmd) (state : Tag) (port : Nat) (list : Ports)
    (nothing : (setPort cmd state port list).2 = 0) : (setPort cmd state port list).1 = list := by
  cases cmd <;> cases present : list.lookup port <;> simp_all [setPort]

variable {table : VlanTable} {vlans : List Nat} {changed : Text → Nat → Option Tag}

/-- Writing edited lists back leaves the edited table. -/
theorem leaves_rewriteVlans (pairs : Pairs) (edit : Ports → Ports) (distinct : vlans.Nodup)
    (inside : ∀ vlan ∈ vlans, ∀ vlanList, table.vlanArr.lookup (tostring vlan) = some vlanList →
      changed (tostring vlan) = (edit (saveVlan vlanList)).lookup)
    (outside : ∀ key, ¬Selects vlans key → changed key = entry table.vlanArr key) :
    Leaves table changed (rewriteVlans pairs table.vlanArr vlans edit table.network) where
  lists := by
    intro key vlanList present
    obtain ⟨found, lookup, lists⟩ := table.stored present
    by_cases chosen : Selects vlans key
    · obtain ⟨vlan, member, rfl⟩ := chosen
      have written :
          (rewriteVlans pairs table.vlanArr vlans edit table.network).lookup vlanList.id =
            some { found with ports := portTexts pairs (edit (saveVlan vlanList)) } := by
        apply lookup_rewriteVlans_of_apart edit distinct member present
        · intro number different other another
          apply table.apart present another
          exact fun same => different (Lua.tostring_injective same).symm
        · exact lookup
        · intro absent
          apply List.eq_nil_iff_forall_not_mem.mpr
          intro text member
          obtain ⟨num, state, listed, -⟩ := (lists text).mp member
          rw [entry_of_lookup present, saveVlan, absent] at listed
          cases listed
      refine ⟨found, _, lookup, written, ?_⟩
      rw [inside vlan member vlanList present]
      exact lists_portTexts pairs _
    · refine ⟨found, found.ports, lookup, ?_, ?_⟩
      · rw [lookup_rewriteVlans_of_ne edit, lookup]
        intro vlan member other another
        apply table.apart present another
        exact fun same => chosen (⟨vlan, member, same.symm⟩)
      · rw [outside key chosen]
        exact lists
  others := by
    intro name away
    apply lookup_rewriteVlans_of_ne edit
    intro vlan _ vlanList present
    exact away _ _ present

/-- A tagged `add` leaves the table with the free ports of its range in the VLANs. -/
theorem leaves_addTagged (pairs : Pairs) (table : VlanTable) (vlanRange portRange : Range) :
    ∃ next, addTagged pairs table.vlanArr vlanRange portRange .add table.network = .ok next ∧
      Leaves table (joined table.vlanArr vlanRange.numbers portRange.numbers) next := by
  have decided : ∀ port, ∃ taken, taggedBusy table.vlanArr vlanRange .add port = .ok taken :=
    fun port => ⟨_, taggedBusy_add vlanRange⟩
  obtain ⟨final, ran⟩ := changePorts_ends decided (setPort .add .tagged) portRange.numbers
    { lists := savedLists table.vlanArr vlanRange.numbers }
  obtain ⟨edit, lists, entries⟩ := changePorts_lists (edits_setPort .add .tagged) ran
  have inside : ∀ vlan ∈ vlanRange.numbers, ∀ vlanList,
      table.vlanArr.lookup (tostring vlan) = some vlanList →
        joined table.vlanArr vlanRange.numbers portRange.numbers (tostring vlan) =
          (edit (saveVlan vlanList)).lookup := by
    intro vlan member vlanList present
    funext port
    have chosen : Selects vlanRange.numbers (tostring vlan) :=
      ⟨vlan, member, rfl⟩
    rw [entries, joined, entry_of_lookup present]
    simp only [chosen, taggedBusy_add, Except.ok.injEq, decide_eq_false_iff_not, true_and]
  have outside : ∀ key, ¬Selects vlanRange.numbers key →
      joined table.vlanArr vlanRange.numbers portRange.numbers key =
        entry table.vlanArr key := by
    intro key away
    funext port
    rw [joined, if_neg (fun chosen => away chosen.1)]
  have written := leaves_rewriteVlans pairs edit vlanRange.nodup_numbers inside outside
  refine ⟨writeSaved pairs table.vlanArr final table.network, ?_, ?_⟩
  · rw [addTagged, ran]
    rfl
  · rw [writeSaved]
    split
    · rw [lists]
      exact written
    · rename_i nothing
      have still := (changePorts_still (setPort_keeps .add .tagged) ran).2 (by simpa using nothing)
      apply (leaves_self table).congr
      intro key vlanList present
      by_cases chosen : Selects vlanRange.numbers key
      · obtain ⟨vlan, member, rfl⟩ := chosen
        have saved : (vlan, saveVlan vlanList) ∈ savedLists table.vlanArr vlanRange.numbers :=
          mem_savedLists.mpr ⟨member, vlanList, present, rfl⟩
        have unedited : (savedLists table.vlanArr vlanRange.numbers).map
            (fun list => (list.1, edit list.2)) =
              (savedLists table.vlanArr vlanRange.numbers).map id := by
          rw [List.map_id]
          exact lists.symm.trans still
        have same : edit (saveVlan vlanList) = saveVlan vlanList :=
          congrArg Prod.snd (List.map_inj_left.mp unedited _ saved)
        rw [inside vlan member vlanList present, same]
        exact entry_of_lookup present
      · exact (outside key chosen).symm

end Changes


/-! ## The command -/

section Command

variable {vlanArr : VlanArr} {vlans ports : List Nat}

theorem joined_of_chosen {key : Text} {port : Nat} (chosen : Selects vlans key)
    (inRange : port ∈ ports) :
    joined vlanArr vlans ports key port =
      if UntaggedIn vlanArr port then entry vlanArr key port
      else Cmd.add.effect .tagged (entry vlanArr key port) := by
  simp only [joined, chosen, inRange, true_and, ite_not]

theorem retagged_of_chosen {key : Text} {port : Nat} (chosen : Selects vlans key)
    (inRange : port ∈ ports) :
    retagged vlanArr vlans ports key port =
      if UntaggedOutside vlanArr vlans port then entry vlanArr key port
      else Cmd.edit.effect .tagged (entry vlanArr key port) := by
  simp only [retagged, chosen, inRange, true_and, ite_not]

/-- The script joins what it should retag exactly if nothing of it is to be done. -/
theorem joined_eq_retagged_iff :
    (∀ key vlanList, vlanArr.lookup key = some vlanList →
        joined vlanArr vlans ports key = retagged vlanArr vlans ports key) ↔
      ∀ port ∈ ports, UntaggedOutside vlanArr vlans port ∨
        ∀ vlan ∈ vlans, ∀ vlanList, vlanArr.lookup (tostring vlan) = some vlanList →
          entry vlanArr (tostring vlan) port = some .tagged := by
  constructor
  · intro same port inRange
    by_cases away : UntaggedOutside vlanArr vlans port
    · exact Or.inl away
    right
    have nowhere : ¬UntaggedIn vlanArr port := by
      intro untagged
      obtain ⟨key, isUntagged⟩ := untaggedIn_iff.mp untagged
      have chosen : Selects vlans key := by
        by_contra outside
        exact away (untaggedOutside_iff.mpr ⟨key, outside, isUntagged⟩)
      obtain ⟨vlanList, present, -⟩ := Option.bind_eq_some_iff.mp isUntagged
      have stays := congrFun (same key vlanList present) port
      rw [joined_of_chosen chosen inRange, retagged_of_chosen chosen inRange, if_pos untagged,
        if_neg away, isUntagged] at stays
      cases stays
    intro vlan member vlanList present
    have chosen : Selects vlans (tostring vlan) := ⟨vlan, member, rfl⟩
    have agrees := congrFun (same (tostring vlan) vlanList present) port
    rw [joined_of_chosen chosen inRange, retagged_of_chosen chosen inRange, if_neg nowhere,
      if_neg away] at agrees
    cases listed : entry vlanArr (tostring vlan) port with
    | none =>
        rw [listed] at agrees
        cases agrees
    | some state =>
        rw [listed] at agrees
        exact agrees
  · intro done key vlanList present
    funext port
    by_cases selected : Selects vlans key ∧ port ∈ ports
    · obtain ⟨chosen, inRange⟩ := selected
      rw [joined_of_chosen chosen inRange, retagged_of_chosen chosen inRange]
      rcases done port inRange with away | tagged
      · have untagged : UntaggedIn vlanArr port := by
          obtain ⟨key, -, isUntagged⟩ := untaggedOutside_iff.mp away
          exact untaggedIn_iff.mpr ⟨key, isUntagged⟩
        rw [if_pos untagged, if_pos away]
      · obtain ⟨vlan, member, rfl⟩ := chosen
        rw [tagged vlan member vlanList present]
        simp only [Cmd.effect, ite_self]
    · rw [joined, retagged, if_neg fun chosen => selected ⟨chosen.1, chosen.2.1⟩,
        if_neg fun chosen => selected ⟨chosen.1, chosen.2.1⟩]

/-- `edit ... tagged` leaves what `add ... tagged` leaves. -/
theorem leaves_edit_tagged (surroundings : Surroundings) (table : VlanTable)
    (vlanRangeIn portListIn : RangeText) :
    ∃ next, runAction surroundings ⟨vlanRangeIn, .change .edit .tagged, portListIn⟩ table.vlanArr
        table.network = (next, none) ∧
      Leaves table (joined table.vlanArr vlanRangeIn.numbers portListIn.numbers) next := by
  have unmoved : vlanRangeIn.numbers = [] ∨ portListIn.numbers = [] →
      Leaves table (joined table.vlanArr vlanRangeIn.numbers portListIn.numbers)
        table.network := by
    intro empty
    apply (leaves_self table).congr
    intro key vlanList _
    funext port
    rw [joined, if_neg]
    rintro ⟨chosen, inRange, -⟩
    rcases empty with noVlan | noPort
    · obtain ⟨vlan, member, -⟩ := chosen
      rw [noVlan] at member
      cases member
    · rw [noPort] at inRange
      cases inRange
  unfold runAction
  cases ports : checkPortRange portListIn with
  | none =>
      exact ⟨_, rfl, unmoved (Or.inr (by rw [RangeText.numbers, ports]; rfl))⟩
  | some portRange =>
      cases vlans : checkPortRange vlanRangeIn with
      | none =>
          exact ⟨_, rfl, unmoved (Or.inl (by rw [RangeText.numbers, vlans]; rfl))⟩
      | some vlanRange =>
          obtain ⟨next, ran, leaves⟩ := leaves_addTagged surroundings.pairs table
            vlanRange.toRange portRange.toRange
          refine ⟨next, ?_, ?_⟩
          · simp only [vlanChange, ran, settle]
          · rw [RangeText.numbers, RangeText.numbers, vlans, ports]
            exact leaves

/-- An `edit` creates no VLAN: it runs its operation on the table that is read. -/
theorem runConfigVlan_edit {surroundings : Surroundings} {network : Network} {vlanArr : VlanArr}
    (read : getVlanArr surroundings network = .ok vlanArr) (type : TaggedType)
    (vlanRangeIn portListIn : RangeText) :
    runConfigVlan surroundings ⟨vlanRangeIn, .change .edit type, portListIn⟩ network =
      runAction surroundings ⟨vlanRangeIn, .change .edit type, portListIn⟩ vlanArr network := by
  simp only [runConfigVlan, read, createdVlans]

/-- `edit ... tagged` retags the ports of its range exactly if each of them is untagged in a VLAN
outside of the range or already tagged in every VLAN of the range: if there is nothing to do. -/
theorem edit_tagged_iff (surroundings : Surroundings) (table : VlanTable)
    (vlanRangeIn portListIn : RangeText) :
    ((∃ next, runAction surroundings ⟨vlanRangeIn, .change .edit .tagged, portListIn⟩
          table.vlanArr table.network = (next, none) ∧
        Leaves table (retagged table.vlanArr vlanRangeIn.numbers portListIn.numbers) next) ↔
      ∀ port ∈ portListIn.numbers,
        UntaggedOutside table.vlanArr vlanRangeIn.numbers port ∨
          ∀ vlan ∈ vlanRangeIn.numbers, ∀ vlanList,
            table.vlanArr.lookup (tostring vlan) = some vlanList →
              entry table.vlanArr (tostring vlan) port = some .tagged) ∧
    (getVlanArr surroundings table.network = .ok table.vlanArr →
      runConfigVlan surroundings ⟨vlanRangeIn, .change .edit .tagged, portListIn⟩ table.network =
        runAction surroundings ⟨vlanRangeIn, .change .edit .tagged, portListIn⟩ table.vlanArr
          table.network) := by
  refine ⟨?_, fun read => runConfigVlan_edit read .tagged vlanRangeIn portListIn⟩
  obtain ⟨left, ran, leaves⟩ :=
    leaves_edit_tagged surroundings table vlanRangeIn portListIn
  rw [← joined_eq_retagged_iff, ran]
  constructor
  · rintro ⟨next, same, retags⟩ key vlanList present
    obtain rfl := congrArg Prod.fst same
    exact leaves.unique retags present
  · intro same
    exact ⟨left, rfl, leaves.congr same⟩

/-- Port 2 is in no VLAN; `edit 1 tagged 2` makes it a member of VLAN 1. -/
theorem edit_tagged_adds_port :
    (∀ state, portText 2 state ∉ firstVlan.ports) ∧
      ∃ found, (runConfigVlan lanReported ⟨.once 1, .change .edit .tagged, .once 2⟩
          lanOnVlan1).1.lookup (vlanSection 1) = some found ∧
        portText 2 .tagged ∈ found.ports := by
  refine ⟨fun state => by cases state <;> decide, ?_⟩
  exact ⟨{ firstVlan with ports := [portText 2 .tagged, portText 1 .untagged] }, by decide,
    by decide⟩

end Command

end TfortisPack.VlanCli
