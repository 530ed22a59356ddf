import TfortisPack.Library.Runs
import TfortisPack.VlanCli.Effects
import TfortisPack.VlanCli.Tables

/-!
# Untagged ports belong to one VLAN

Every operation keeps a port that is untagged in a VLAN out of all other VLANs,
as long as it reads the table that stands in the configuration.  It does not
when a tagged port has more than one digit: `lan10:t` is read as port 0, so
port 10 seems free and becomes untagged elsewhere.
-/

namespace TfortisPack.VlanCli

open Library
open Library.Lua (Pairs tostring tonumber)

/-! ## Busy ports -/

section Busy

variable {vlanArr : VlanArr}

theorem mem_members_of_status {vlan port : Nat} {state : Tag}
    (listed : status vlanArr vlan port = some state) :
    ⟨tostring vlan, port, state⟩ ∈ members vlanArr :=
  mem_members_iff.mpr listed

/-- A port that is free for an untagged `add` is in no VLAN; for an `edit` it is
in no other VLAN. -/
theorem eq_of_untaggedBusy {vlanId port : Nat} {cmd : Cmd}
    (free : untaggedBusy vlanArr vlanId cmd port = false) {vlan : Nat} {state : Tag}
    (listed : status vlanArr vlan port = some state) : vlan = vlanId := by
  rw [untaggedBusy, List.any_eq_false] at free
  have own := free _ (mem_members_of_status listed)
  cases cmd with
  | add =>
      simp at own
  | edit =>
      simp only [BEq.rfl, Bool.true_and, bne_iff_ne, ne_eq, Decidable.not_not] at own
      exact Lua.tostring_injective own

theorem scanMember_cases {vlanRange : Range} {cmd : Cmd} {port : Nat} {busy next : Bool}
    {member : Member} (scanned : scanMember vlanRange cmd port busy member = .ok next) :
    next = (busy || (member.port == port && member.state == .untagged)) ∨
      (next = busy ∧ cmd = .edit ∧ outside vlanRange member.id = .ok false) := by
  cases cmd with
  | add =>
      exact Or.inl (Except.ok.inj scanned).symm
  | edit =>
      obtain ⟨away, decided, ended⟩ := Lua.bind_eq_ok scanned
      cases away with
      | true =>
          exact Or.inl (Except.ok.inj ended).symm
      | false =>
          exact Or.inr ⟨(Except.ok.inj ended).symm, rfl, decided⟩

/-- A port that is free for a tagged `add` is untagged nowhere; for an `edit` it is
untagged at most in a VLAN of the range. -/
theorem range_of_taggedBusy {vlanRange : Range} {cmd : Cmd} {port : Nat}
    (free : taggedBusy vlanArr vlanRange cmd port = .ok false) {vlan : Nat}
    (listed : status vlanArr vlan port = some .untagged) :
    cmd = .edit ∧ vlan ∈ vlanRange.numbers := by
  have scanned := Lua.foldlM_invariant
    (fun done busy => busy = false → ∀ member ∈ done, member.port = port →
      member.state = .untagged → cmd = .edit ∧ outside vlanRange member.id = .ok false)
    ?_ ?_ free
  · obtain ⟨edit, inside⟩ := scanned rfl _ (mem_members_of_status listed) rfl rfl
    refine ⟨edit, ?_⟩
    rw [outside, Lua.tonumber_tostring] at inside
    rw [Range.mem_numbers]
    simp only [Except.ok.injEq, decide_eq_false_iff_not] at inside
    omega
  · intro done busy member next _ holds stepped freed other inDone
    rcases scanMember_cases stepped with looked | ⟨skipped, edit, inside⟩
    · rw [looked, Bool.or_eq_false_iff] at freed
      rcases List.mem_append.mp inDone with earlier | last
      · exact holds freed.1 other earlier
      · intro samePort untagged
        rw [← List.mem_singleton.mp last, samePort, untagged] at freed
        simp at freed
    · rcases List.mem_append.mp inDone with earlier | last
      · exact holds (skipped ▸ freed) other earlier
      · intro _ _
        rw [List.mem_singleton.mp last]
        exact ⟨edit, inside⟩
  · intro _ member inNil
    cases inNil

end Busy

/-! ## One operation -/

/-- A port that is untagged in a VLAN belongs to no other VLAN. -/
def Exclusive (network : Network) : Prop :=
  ∀ {vlan other port state}, Holds network vlan port .untagged →
    Holds network other port state → vlan = other

/-- It is enough that every port keeps its VLANs, is untagged nowhere, or is in a
single VLAN. -/
theorem Exclusive.of_ports {network next : Network} (exclusive : Exclusive network)
    (ports : ∀ port,
      (∀ vlan state, Holds next vlan port state → Holds network vlan port state) ∨
      (∀ vlan, ¬ Holds next vlan port .untagged) ∨
      (∃ own, ∀ vlan state, Holds next vlan port state → vlan = own)) :
    Exclusive next := by
  intro vlan other port state untagged member
  rcases ports port with keeps | nowhere | ⟨own, single⟩
  · exact exclusive (keeps vlan .untagged untagged) (keeps other state member)
  · exact absurd untagged (nowhere vlan)
  · rw [single vlan .untagged untagged, single other state member]

/-- The table after the free ports of a range are edited in some VLANs. -/
structure Edited (network : Network) (vlanArr : VlanArr) (vlans ports : List Nat)
    (busy : Nat → Except Failure Bool) (effect : Option Tag → Option Tag) (next : Network) :
    Prop where
  tidy : Tidy next
  inside : ∀ {vlan port state}, vlan ∈ vlans → port ∈ ports → busy port = .ok false →
    Holds next vlan port state → effect (status vlanArr vlan port) = some state
  outside : ∀ {vlan port state}, ¬ (vlan ∈ vlans ∧ port ∈ ports ∧ busy port = .ok false) →
    Holds next vlan port state → Holds network vlan port state

section Operations

variable {pairs : Pairs} {network next : Network} {vlanArr : VlanArr}

theorem edited_of_changePorts (tidy : Tidy network) (plain : Plain network)
    (read : getBridgeVlanList pairs network = .ok vlanArr) {vlans : List Nat}
    (distinct : vlans.Nodup) {busy : Nat → Except Failure Bool}
    {change : Nat → Ports → Ports × Nat} {effect : Option Tag → Option Tag}
    (edits : Edits change effect) {ports : List Nat}
    (ran : (do
      let saved ← changePorts busy change ports { lists := savedLists vlanArr vlans }
      .ok (writeSaved pairs vlanArr saved network)) = .ok next) :
    next = network ∨ Edited network vlanArr vlans ports busy effect next := by
  obtain ⟨saved, changed, written⟩ := Lua.bind_eq_ok ran
  cases written
  rw [writeSaved]
  split
  · right
    obtain ⟨edit, lists, entries⟩ := changePorts_lists edits changed
    rw [lists]
    change Edited network vlanArr vlans ports busy effect
      (rewriteVlans pairs vlanArr vlans edit network)
    refine ⟨tidy_rewriteVlans edit tidy read distinct, ?_, ?_⟩
    · intro vlan port state member inRange free holds
      obtain ⟨vlanList, present⟩ := present_of_holds_rewriteVlans edit tidy read distinct holds
      rw [holds_rewriteVlans edit tidy read distinct member present, entries,
        if_pos ⟨inRange, free⟩] at holds
      rw [status, present]
      exact holds
    · intro vlan port state unselected holds
      by_cases member : vlan ∈ vlans
      · rw [holds_iff_status tidy plain read]
        obtain ⟨vlanList, present⟩ := present_of_holds_rewriteVlans edit tidy read distinct holds
        have kept : ¬ (port ∈ ports ∧ busy port = .ok false) :=
          fun selected => unselected ⟨member, selected⟩
        rw [holds_rewriteVlans edit tidy read distinct member present, entries,
          if_neg kept] at holds
        rw [status, present]
        exact holds
      · exact (holds_rewriteVlans_of_not edit tidy read distinct member).mp holds
  · exact Or.inl rfl

theorem exclusive_addUntagged (tidy : Tidy network) (plain : Plain network)
    (exclusive : Exclusive network) (read : getBridgeVlanList pairs network = .ok vlanArr)
    {vlanId : Nat} {portRange : Range} {cmd : Cmd}
    (ran : addUntagged pairs vlanArr vlanId portRange cmd network = .ok next) :
    Tidy next ∧ Exclusive next := by
  rcases edited_of_changePorts tidy plain read (List.nodup_singleton vlanId)
    (edits_setPort cmd .untagged) ran with rfl | edited
  · exact ⟨tidy, exclusive⟩
  refine ⟨edited.tidy, exclusive.of_ports fun port => ?_⟩
  by_cases selected : port ∈ portRange.numbers ∧ untaggedBusy vlanArr vlanId cmd port = false
  · -- A free port is in no other VLAN, so afterwards it is at most in this one.
    refine Or.inr (Or.inr ⟨vlanId, fun vlan state holds => ?_⟩)
    by_contra other
    have unsaved : ¬ (vlan ∈ [vlanId] ∧ port ∈ portRange.numbers ∧
        (.ok (untaggedBusy vlanArr vlanId cmd port) : Except Failure Bool) = .ok false) :=
      fun chosen => other (List.mem_singleton.mp chosen.1)
    have before := edited.outside unsaved holds
    rw [holds_iff_status tidy plain read] at before
    exact other (eq_of_untaggedBusy selected.2 before)
  · refine Or.inl fun vlan state holds => edited.outside ?_ holds
    rintro ⟨-, inRange, free⟩
    exact selected ⟨inRange, Except.ok.inj free⟩

theorem exclusive_addTagged (tidy : Tidy network) (plain : Plain network)
    (exclusive : Exclusive network) (read : getBridgeVlanList pairs network = .ok vlanArr)
    {vlanRange portRange : Range} {cmd : Cmd}
    (ran : addTagged pairs vlanArr vlanRange portRange cmd network = .ok next) :
    Tidy next ∧ Exclusive next := by
  rcases edited_of_changePorts tidy plain read vlanRange.nodup_numbers
    (edits_setPort cmd .tagged) ran with rfl | edited
  · exact ⟨tidy, exclusive⟩
  refine ⟨edited.tidy, exclusive.of_ports fun port => ?_⟩
  by_cases selected : port ∈ portRange.numbers ∧
      taggedBusy vlanArr vlanRange cmd port = .ok false
  · -- A free port is untagged at most in the range, where an `edit` tags it.
    refine Or.inr (Or.inl fun vlan holds => ?_)
    by_cases member : vlan ∈ vlanRange.numbers
    · have entry := edited.inside member selected.1 selected.2 holds
      cases before : status vlanArr vlan port with
      | none =>
          cases cmd <;> simp [Cmd.effect, before] at entry
      | some state =>
          cases cmd with
          | add =>
              rw [before, Cmd.effect, Option.some.injEq] at entry
              rw [entry] at before
              cases (range_of_taggedBusy selected.2 before).1
          | edit =>
              simp [Cmd.effect, before] at entry
    · have before := edited.outside (fun chosen => member chosen.1) holds
      rw [holds_iff_status tidy plain read] at before
      exact member (range_of_taggedBusy selected.2 before).2
  · refine Or.inl fun vlan state holds => edited.outside ?_ holds
    rintro ⟨-, inRange, free⟩
    exact selected ⟨inRange, free⟩

theorem exclusive_addNotMemberPorts (tidy : Tidy network) (plain : Plain network)
    (exclusive : Exclusive network) (read : getBridgeVlanList pairs network = .ok vlanArr)
    {vlanRange portRange : Range}
    (ran : addNotMemberPorts pairs vlanArr vlanRange portRange network = .ok next) :
    Tidy next ∧ Exclusive next := by
  rcases edited_of_changePorts tidy plain read vlanRange.nodup_numbers edits_removePort ran
    with rfl | edited
  · exact ⟨tidy, exclusive⟩
  refine ⟨edited.tidy, exclusive.of_ports fun port => Or.inl fun vlan state holds => ?_⟩
  apply edited.outside _ holds
  rintro ⟨member, inRange, free⟩
  cases edited.inside member inRange free holds

end Operations

/-! ## Runs -/

theorem Within.holds {network next : Network} (within : Within next network) {vlan port : Nat}
    {state : Tag} (holds : Holds next vlan port state) : Holds network vlan port state := by
  obtain ⟨name, found, lookup, member⟩ := holds
  exact ⟨name, found, within lookup, member⟩

theorem Within.tidy {network next : Network} (within : Within next network)
    (tidy : Tidy network) : Tidy next where
  numbered := fun lookup bridge => tidy.numbered (within lookup) bridge
  distinct := fun lookup other bridge bridgeOther same =>
    tidy.distinct (within lookup) (within other) bridge bridgeOther same
  table := fun lookup bridge => tidy.table (within lookup) bridge

inductive Operation where
  | addUntagged (vlanId : Nat) (portRange : Range) (cmd : Cmd)
  | addTagged (vlanRange portRange : Range) (cmd : Cmd)
  | addNotMemberPorts (vlanRange portRange : Range)
  | delete (vlanRange : Range)
  deriving Repr, DecidableEq

def runOperation (pairs : Pairs) (operation : Operation) (network : Network) :
    Network × Option Failure :=
  match getBridgeVlanList pairs network with
  | .error failure => (network, some failure)
  | .ok vlanArr =>
      match operation with
      | .addUntagged vlanId portRange cmd =>
          settle network (addUntagged pairs vlanArr vlanId portRange cmd network)
      | .addTagged vlanRange portRange cmd =>
          settle network (addTagged pairs vlanArr vlanRange portRange cmd network)
      | .addNotMemberPorts vlanRange portRange =>
          settle network (addNotMemberPorts pairs vlanArr vlanRange portRange network)
      | .delete vlanRange => vlanDelete vlanRange (pairs.order vlanArr.entries) network

/-- Each operation reads the configuration that the one before has written. -/
def vlanTable : Machine Network (Pairs × Operation) Failure where
  step network input :=
    let result := runOperation input.1 input.2 network
    (result.1, result.2.toList)

theorem settle_cases {property : Network → Prop} {network : Network}
    {result : Except Failure Network} (stays : property network)
    (moves : ∀ next, result = .ok next → property next) : property (settle network result).1 := by
  cases result with
  | error failure =>
      exact stays
  | ok next =>
      exact moves next rfl

/-- An operation that looks at ports finds no tagged port of two digits. -/
def ReadsPlain (network : Network) (input : Pairs × Operation) : Prop :=
  match input.2 with
  | .delete _ => True
  | _ => Plain network

theorem exclusive_next (network : Network) (input : Pairs × Operation)
    (holds : Tidy network ∧ Exclusive network) (reads : ReadsPlain network input) :
    Tidy (vlanTable.next network input) ∧ Exclusive (vlanTable.next network input) := by
  obtain ⟨tidy, exclusive⟩ := holds
  obtain ⟨pairs, operation⟩ := input
  change Tidy (runOperation pairs operation network).1 ∧
    Exclusive (runOperation pairs operation network).1
  rw [runOperation]
  split
  · exact ⟨tidy, exclusive⟩
  · rename_i vlanArr read
    cases operation with
    | addUntagged vlanId portRange cmd =>
        exact settle_cases ⟨tidy, exclusive⟩
          fun next ran => exclusive_addUntagged tidy reads exclusive read ran
    | addTagged vlanRange portRange cmd =>
        exact settle_cases ⟨tidy, exclusive⟩
          fun next ran => exclusive_addTagged tidy reads exclusive read ran
    | addNotMemberPorts vlanRange portRange =>
        exact settle_cases ⟨tidy, exclusive⟩
          fun next ran => exclusive_addNotMemberPorts tidy reads exclusive read ran
    | delete vlanRange =>
        have within : Within _ network :=
          within_vlanDelete vlanRange (pairs.order vlanArr.entries) network
        exact ⟨within.tidy tidy,
          fun untagged member => exclusive (within.holds untagged) (within.holds member)⟩

/-- Along every run whose operations find no tagged port of two digits, an
untagged port stays in one VLAN. -/
theorem untagged_port_in_one_vlan {start : Network} {inputs : List (Pairs × Operation)}
    (tidy : Tidy start) (exclusive : Exclusive start)
    (reads : vlanTable.AllSteps ReadsPlain start inputs) :
    vlanTable.AllStates Exclusive start inputs :=
  (Machine.allStates_of_invariant exclusive_next ⟨tidy, exclusive⟩ reads).imp
    fun _ holds => holds.2

def bridgeVlan (vlan : Nat) (ports : List Text) : Section where
  type := .bridgeVlan
  vlan := some (tostring vlan)
  device := some switchName
  ports := ports

/-- VLAN 1 with the untagged port 1, and VLAN 2 without ports. -/
def twoVlans : Network where
  entries :=
    [⟨vlanSection 1, bridgeVlan 1 [portText 1 .untagged]⟩, ⟨vlanSection 2, bridgeVlan 2 []⟩]
  nodupKeys := by
    change List.Nodup [vlanSection 1, vlanSection 2]
    decide

theorem twoVlans_cases {name : Text} {found : Section}
    (lookup : twoVlans.lookup name = some found) :
    (name = vlanSection 1 ∧ found = bridgeVlan 1 [portText 1 .untagged]) ∨
      (name = vlanSection 2 ∧ found = bridgeVlan 2 []) := by
  have member := AList.mem_lookup_iff.mp lookup
  simpa [twoVlans] using member

theorem tidy_twoVlans : Tidy twoVlans where
  numbered := by
    intro name found lookup _
    rcases twoVlans_cases lookup with ⟨-, rfl⟩ | ⟨-, rfl⟩
    · exact ⟨1, rfl⟩
    · exact ⟨2, rfl⟩
  distinct := by
    intro name other found another lookup lookupOther _ _ same
    rcases twoVlans_cases lookup with ⟨rfl, rfl⟩ | ⟨rfl, rfl⟩ <;>
      rcases twoVlans_cases lookupOther with ⟨rfl, rfl⟩ | ⟨rfl, rfl⟩
    · rfl
    · exact absurd same (by decide)
    · exact absurd same (by decide)
    · rfl
  table := by
    intro name found lookup _
    have written := portTable_portTexts Pairs.stored (AList.singleton 1 .untagged)
    rcases twoVlans_cases lookup with ⟨-, rfl⟩ | ⟨-, rfl⟩
    · exact written
    · exact portTable_portTexts Pairs.stored ∅

theorem holds_twoVlans {vlan port : Nat} {state : Tag} (holds : Holds twoVlans vlan port state) :
    vlan = 1 ∧ port = 1 ∧ state = .untagged := by
  obtain ⟨name, found, lookup, -, number, member⟩ := holds
  rcases twoVlans_cases lookup with ⟨-, rfl⟩ | ⟨-, rfl⟩
  · have texts := portText_injective (List.mem_singleton.mp member)
    exact ⟨(Lua.tostring_injective (Option.some.inj number)).symm, texts⟩
  · cases member

theorem exclusive_twoVlans : Exclusive twoVlans := by
  intro vlan other port state untagged member
  rw [(holds_twoVlans untagged).1, (holds_twoVlans member).1]

theorem plain_of_short {network : Network}
    (short : ∀ entry ∈ network.entries, ∀ text ∈ entry.2.ports,
      ':' ∈ text → text.length ≤ 6) : Plain network := by
  rintro vlan port ⟨name, found, lookup, -, -, member⟩
  have bound := short ⟨name, found⟩ (AList.mem_lookup_iff.mp lookup) _ member (by simp [portText])
  have digits : (Nat.toDigits 10 port).length ≤ 1 := by
    simp only [portText, tostring, List.length_append, List.length_cons, List.length_nil] at bound
    omega
  exact (Nat.length_toDigits_le_iff (by decide) (by decide)).mp digits

/-- Port 2 joins VLAN 2 tagged, port 3 joins VLAN 1. -/
def plainRun : List (Pairs × Operation) :=
  [(Pairs.stored, .addTagged ⟨2, 2⟩ ⟨2, 2⟩ .add), (Pairs.stored, .addUntagged 1 ⟨3, 3⟩ .add)]

theorem plainRun_in_one_vlan :
    vlanTable.final twoVlans plainRun ≠ twoVlans ∧
      vlanTable.AllStates Exclusive twoVlans plainRun := by
  refine ⟨?_, untagged_port_in_one_vlan tidy_twoVlans exclusive_twoVlans ⟨?_, ?_, trivial⟩⟩
  · intro same
    have lookups := congrArg (AList.lookup (vlanSection 2)) same
    revert lookups
    decide
  · apply plain_of_short
    decide
  · apply plain_of_short
    decide

/-- Port 10 joins VLAN 2 tagged, then VLAN 1 untagged. -/
def tenthPortRun : List (Pairs × Operation) :=
  [(Pairs.stored, .addTagged ⟨2, 2⟩ ⟨10, 10⟩ .add), (Pairs.stored, .addUntagged 1 ⟨10, 10⟩ .add)]

theorem tenthPort_in_two_vlans :
    Tidy twoVlans ∧ Exclusive twoVlans ∧ ¬ Exclusive (vlanTable.final twoVlans tenthPortRun) := by
  refine ⟨tidy_twoVlans, exclusive_twoVlans, ?_⟩
  intro exclusive
  have untagged : Holds (vlanTable.final twoVlans tenthPortRun) 1 10 .untagged :=
    ⟨vlanSection 1, bridgeVlan 1 [portText 10 .untagged, portText 1 .untagged], by decide, rfl, rfl,
      by decide⟩
  have tagged : Holds (vlanTable.final twoVlans tenthPortRun) 2 10 .tagged :=
    ⟨vlanSection 2, bridgeVlan 2 [portText 10 .tagged], by decide, rfl, rfl, by decide⟩
  have same := exclusive untagged tagged
  omega

end TfortisPack.VlanCli
