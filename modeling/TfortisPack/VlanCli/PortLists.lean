import TfortisPack.VlanCli.Management

/-!
# Reading port lists back

A table of ports that `uciSetVlanParam` has written is read back by `setPorts` as
it was exactly if no tagged port has more than one digit.
-/

namespace TfortisPack.VlanCli

open Library
open Library.Lua (Pairs tostring tonumber)

/-- The texts are read as the table; for an empty table there is no option to read. -/
def ReadsBack (pairs : Pairs) (texts : List Text) (ports : Ports) : Prop :=
  ∃ read, setPorts pairs texts = .ok read ∧ (read = none ↔ ∀ num, ports.lookup num = none) ∧
    ∀ num, (read.getD ∅).lookup num = ports.lookup num

section Reading

variable {pairs reader : Pairs} {ports : Ports}

/-- What is read as tagged has the last digit of some port. -/
theorem lt_ten_of_read_tagged {texts : List Text}
    (written : ∀ text ∈ texts, ∃ num state, text = portText num state) {read : Option Ports}
    (reads : setPorts pairs texts = .ok read) {num : Nat}
    (tagged : (read.getD ∅).lookup num = some .tagged) : num < 10 := by
  rw [setPorts] at reads
  split at reads
  · cases reads
    cases tagged
  · cases fold : (pairs.order texts).foldlM readPort ∅ with
    | error failure =>
        rw [fold] at reads
        cases reads
    | ok table =>
        rw [fold] at reads
        cases reads
        revert tagged
        refine Lua.foldlM_invariant
          (fun _ (table : Ports) => ∀ {num}, table.lookup num = some .tagged → num < 10)
          ?_ ?_ fold
        · intro done state text next member small stepped num tagged
          obtain ⟨first, tag, rfl⟩ := written text (pairs.mem_order.mp member)
          rw [readPort, getPortType_portText] at stepped
          cases stepped
          by_cases same : num = readNumber first tag
          · subst same
            rw [AList.lookup_insert, Option.some.injEq] at tagged
            rw [tagged]
            exact Nat.mod_lt first (by decide)
          · rw [AList.lookup_insert_ne same] at tagged
            exact small tagged
        · intro num tagged
          cases tagged

theorem portTexts_eq_nil_iff : portTexts pairs ports = [] ↔ ∀ num, ports.lookup num = none := by
  rw [List.eq_nil_iff_forall_not_mem]
  constructor
  · intro empty num
    rw [Option.eq_none_iff_forall_ne_some]
    intro state present
    exact empty _ (portText_mem_portTexts.mpr present)
  · intro absent text member
    obtain ⟨num, state, rfl⟩ := (portTable_portTexts pairs ports).written text member
    rw [portText_mem_portTexts, absent] at member
    cases member

/-- A written table is read back exactly if its tagged ports have one digit. -/
theorem readsBack_portTexts_iff :
    ReadsBack reader (portTexts pairs ports) ports ↔
      ∀ num, ports.lookup num = some .tagged → num < 10 := by
  have table := portTable_portTexts pairs ports
  constructor
  · rintro ⟨read, reads, -, same⟩ num tagged
    rw [← same] at tagged
    exact lt_ten_of_read_tagged table.written reads tagged
  · intro small
    have legible : Legible (portTexts pairs ports) :=
      fun num member => small num (portText_mem_portTexts.mp member)
    obtain ⟨read, reads⟩ := setPorts_ends reader fun text member => by
      obtain ⟨num, state, rfl⟩ := table.written text member
      exact ⟨_, _, getPortType_portText num state⟩
    refine ⟨read, reads, ?_, ?_⟩
    · rw [setPorts_eq_none_iff reads, portTexts_eq_nil_iff]
    · intro num
      apply Option.ext
      intro state
      rw [lookup_setPorts table legible reads, portText_mem_portTexts]

end Reading

/-- The port list of a VLAN that was found in the table is written as a whole and read back as it
was exactly if no tagged port has more than one digit. -/
theorem written_ports_read_back_iff (reader : Pairs) {pairs : Pairs} {network : Network}
    {vlanArr : VlanArr} {lists : List (Nat × Ports)} {vlan : Nat} {ports : Ports}
    {vlanList : VlanList}
    (read : getBridgeVlanList pairs network = .ok vlanArr)
    (distinct : (lists.map Prod.fst).Nodup) (member : (vlan, ports) ∈ lists)
    (present : vlanArr.lookup (tostring vlan) = some vlanList) :
    ∃ found, (uciSetVlanParam pairs vlanArr lists network).lookup vlanList.id = some found ∧
      (ReadsBack reader found.ports ports ↔
        ∀ num, ports.lookup num = some .tagged → num < 10) := by
  obtain ⟨old, described⟩ := describes_of_getBridgeVlanList read present
  have written : (uciSetVlanParam pairs vlanArr lists network).lookup vlanList.id =
      some { old with ports := portTexts pairs ports } := by
    apply lookup_uciSetVlanParam member distinct present
    · intro number different other another
      exact id_ne_of_getBridgeVlanList read different present another
    · exact described.lookup
    · exact (setPorts_eq_none_iff described.ports).mp
  exact ⟨_, written, readsBack_portTexts_iff⟩

/-- Port 1 untagged and port 2 tagged. -/
def twoPorts : Ports :=
  (AList.singleton 1 .untagged).insert 2 .tagged

theorem twoPorts_read_back :
    ∃ vlanArr vlanList found, getBridgeVlanList .stored lanOnVlan1 = .ok vlanArr ∧
      vlanArr.lookup (tostring 1) = some vlanList ∧
      (uciSetVlanParam .stored vlanArr [(1, twoPorts)] lanOnVlan1).lookup vlanList.id =
        some found ∧
      ReadsBack .stored found.ports twoPorts := by
  obtain ⟨vlanArr, read⟩ := getBridgeVlanList_ends .stored healthy_lanOnVlan1.readable
  have stored : lanOnVlan1.lookup (vlanSection 1) = some firstVlan := by decide
  obtain ⟨vlanList, present⟩ := getBridgeVlanList_complete read stored rfl
  have distinct : ([(1, twoPorts)].map Prod.fst).Nodup := List.nodup_singleton 1
  obtain ⟨found, written, reads⟩ := written_ports_read_back_iff .stored read distinct
    (List.mem_singleton_self _) present
  refine ⟨vlanArr, vlanList, found, read, present, written, reads.mpr ?_⟩
  intro num tagged
  by_cases isTwo : num = 2
  · omega
  · rw [twoPorts, AList.lookup_insert_ne isTwo] at tagged
    have untagged := AList.mem_lookup_iff.mp tagged
    simp [AList.singleton_entries] at untagged

/-- What is read of VLAN 1 on the switch. -/
def vlanArrOfLan : VlanArr :=
  AList.singleton (tostring 1)
    { id := vlanSection 1, num := tostring 1, ports := some (AList.singleton 1 .untagged) }

/-- Port 10 becomes a tagged member of VLAN 1 and is read back as port 0. -/
theorem tenth_port_read_as_zero :
    ∃ found, (uciSetVlanParam .stored vlanArrOfLan [(1, AList.singleton 10 .tagged)]
        lanOnVlan1).lookup (vlanSection 1) = some found ∧
      setPorts .stored found.ports = .ok (some (AList.singleton 0 .tagged)) ∧
      ¬ReadsBack .stored found.ports (AList.singleton 10 .tagged) := by
  have written : (uciSetVlanParam .stored vlanArrOfLan [(1, AList.singleton 10 .tagged)]
      lanOnVlan1).lookup (vlanSection 1) =
        some { firstVlan with ports := portTexts .stored (AList.singleton 10 .tagged) } := by
    decide
  refine ⟨_, written, rfl, ?_⟩
  rw [readsBack_portTexts_iff]
  intro small
  have below := small 10 rfl
  omega

end TfortisPack.VlanCli
