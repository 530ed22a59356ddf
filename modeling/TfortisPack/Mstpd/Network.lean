import Mathlib.Data.Fintype.Basic
import TfortisPack.Library.Forests
import TfortisPack.Mstpd.Information

/-!
# A network of bridges

The bridges of a network run the machines of their common trees in any order, and
messages may be lost, repeated, delayed or made up.  Where the network comes to
rest, the Root and Designated ports form a tree: no frame can go round in a loop,
every LAN is reached, and the root is the bridge with the least identifier.
-/

namespace TfortisPack.Mstpd

open Library

/-! ## Steps of the network -/

section Machine

variable {Bridge : Type*} [DecidableEq Bridge]

/-- One bridge takes a step. -/
def protocol : Machine (Bridge → RoleTree) (Bridge × Event) Unit where
  step trees input := (Function.update trees input.1 ((trees input.1).step input.2), [])

/-- Messages that a bridge takes come from the region that it knows of the port. -/
def Steady (trees : Bridge → RoleTree) (input : Bridge × Event) : Prop :=
  input.2.Steady (trees input.1)

instance (trees : Bridge → RoleTree) (input : Bridge × Event) : Decidable (Steady trees input) :=
  decidableSteady (trees input.1) input.2

end Machine

/-! ## What does not change -/

/-- The settings of a tree. -/
def RoleTree.settings (tree : RoleTree) :
    Nat × Nat × PriorityVector × List (Nat × Bool × Bool × Nat × Nat) :=
  (tree.MSTID, tree.BridgeIdentifier, tree.BridgePriority, tree.ports.map RolePort.settings)

section Settings

variable {tree : RoleTree}

theorem settings_withPorts {change : Nat → RolePort → RolePort}
    (same : ∀ place ptp, (change place ptp).settings = ptp.settings) :
    (tree.withPorts (tree.ports.mapIdx change)).settings = tree.settings := by
  have ports : (tree.ports.mapIdx change).map RolePort.settings =
      tree.ports.map RolePort.settings := by
    apply List.ext_getElem?
    intro place
    rw [List.getElem?_map, List.getElem?_map, List.getElem?_mapIdx, Option.map_map]
    congr 1
    funext ptp
    exact same place ptp
  rw [RoleTree.settings, RoleTree.withPorts, ports]
  rfl

theorem settings_onPort (event : Event) (index : Nat) (ptp : RolePort) :
    (event.onPort index ptp).settings = ptp.settings := by
  cases event with
  | prssm => rfl
  | pism place =>
    simp only [Event.onPort]
    split
    · cases run : pismRun ptp with
      | none => rfl
      | some next => exact (Moved.of_pismRun run).settings
    · rfl
  | prtsm place =>
    simp only [Event.onPort, prtsmRun]
    split
    · split <;> rfl
    · rfl
  | rx place msg =>
    simp only [Event.onPort, prsmToReceive]
    split
    · split <;> rfl
    · rfl
  | tick => rfl
  | link place up =>
    simp only [Event.onPort]
    split <;> rfl

theorem settings_roleSelection (tree : RoleTree) :
    (prssmToRoleSelection tree).settings = tree.settings := by
  have ports : (prssmToRoleSelection tree).ports.map RolePort.settings =
      tree.ports.map RolePort.settings := by
    apply List.ext_getElem?
    intro place
    simp only [prssmToRoleSelection, setSelectedTree, updtRolesTree_ports, clearReselectTree,
      List.getElem?_map, List.getElem?_mapIdx, Option.map_map]
    cases tree.ports[place]? with
    | none => rfl
    | some ptp =>
      apply congrArg some
      obtain ⟨selectedRole, updtInfo, same⟩ := chosen_eq
        (clearReselectTree { tree with prssmState := .roleSelection }) place
        { ptp with reselect := false }
      simp only [clearReselectTree] at same
      simp only [Function.comp_apply, same]
      rfl
  rw [RoleTree.settings, ports]
  rfl

theorem settings_step (tree : RoleTree) (event : Event) :
    (tree.step event).settings = tree.settings := by
  have onPorts : (tree.withPorts (tree.ports.mapIdx event.onPort)).settings = tree.settings :=
    settings_withPorts (settings_onPort event)
  cases event with
  | prssm =>
    simp only [RoleTree.step, prssmRun]
    split
    · exact settings_roleSelection tree
    · rfl
  | pism place => exact onPorts
  | prtsm place => exact onPorts
  | rx place msg => exact onPorts
  | tick => exact onPorts
  | link place up => exact onPorts

end Settings

section Run

variable {Bridge : Type*} {trees : Bridge → RoleTree}

/-- Bridges and ports have their own identifiers, every path costs something, and every port may
become the root port. -/
structure Configured (trees : Bridge → RoleTree) : Prop where
  common : ∀ b, (trees b).MSTID = 0
  own : ∀ b, (trees b).BridgePriority =
    ⟨(trees b).BridgeIdentifier, 0, (trees b).BridgeIdentifier, 0, (trees b).BridgeIdentifier, 0⟩
  distinct : ∀ b c, (trees b).BridgeIdentifier = (trees c).BridgeIdentifier → b = c
  portIds : ∀ b (place index : Nat) (ptp other : RolePort), (trees b).ports[place]? = some ptp →
    (trees b).ports[index]? = some other → ptp.portId = other.portId → place = index
  ports : ∀ b (place : Nat) (ptp : RolePort), (trees b).ports[place]? = some ptp →
    ptp.restrictedRole = false ∧ ptp.sendRSTP = true ∧ 0 < ptp.InternalPortPathCost ∧
      0 < ptp.ExternalPortPathCost

theorem Configured.of_settings {later : Bridge → RoleTree} (configured : Configured trees)
    (same : ∀ b, (later b).settings = (trees b).settings) : Configured later := by
  have common (b : Bridge) : (later b).MSTID = (trees b).MSTID := congrArg Prod.fst (same b)
  have identifier (b : Bridge) : (later b).BridgeIdentifier = (trees b).BridgeIdentifier :=
    congrArg (fun settings => settings.2.1) (same b)
  have own (b : Bridge) : (later b).BridgePriority = (trees b).BridgePriority :=
    congrArg (fun settings => settings.2.2.1) (same b)
  have earlier {b : Bridge} {place : Nat} {ptp : RolePort}
      (isPort : (later b).ports[place]? = some ptp) :
      ∃ before, (trees b).ports[place]? = some before ∧ before.settings = ptp.settings := by
    have ports := congrArg (fun settings => settings.2.2.2[place]?) (same b)
    simp only [RoleTree.settings, List.getElem?_map, isPort, Option.map_some] at ports
    obtain ⟨before, wasPort, kept⟩ := Option.map_eq_some_iff.mp ports.symm
    exact ⟨before, wasPort, kept⟩
  constructor
  · intro b
    rw [common]
    exact configured.common b
  · intro b
    rw [own, identifier]
    exact configured.own b
  · intro b c equal
    rw [identifier, identifier] at equal
    exact configured.distinct b c equal
  · intro b place index ptp other isPort isOther equal
    obtain ⟨before, wasPort, kept⟩ := earlier isPort
    obtain ⟨otherBefore, wasOther, otherKept⟩ := earlier isOther
    have portId : before.portId = ptp.portId := congrArg Prod.fst kept
    have otherId : otherBefore.portId = other.portId := congrArg Prod.fst otherKept
    exact configured.portIds b place index before otherBefore wasPort wasOther
      (portId.trans (equal.trans otherId.symm))
  · intro b place ptp isPort
    obtain ⟨before, wasPort, kept⟩ := earlier isPort
    simp only [RolePort.settings, Prod.mk.injEq] at kept
    obtain ⟨_, restricted, rstp, internal, external⟩ := kept
    rw [← restricted, ← rstp, ← internal, ← external]
    exact configured.ports b place before wasPort

/-- The state behind `br_state_machines_begin`. -/
def Begun (tree : RoleTree) : Prop :=
  tree.prssmState = .initTree ∧
    ∀ ptp ∈ tree.ports, ptp.infoIs = .ioDisabled ∧ ptp.reselect = true ∧ ptp.selected = false

theorem Current.of_begun {tree : RoleTree} (begun : Begun tree) : Current tree :=
  ⟨fun ptp isPort => Or.inr (begun.2 ptp isPort).2.1, Or.inl begun.1⟩

/-- In every run the settings stay and the selections are up to date. -/
theorem current_of_run [DecidableEq Bridge] {inputs : List (Bridge × Event)}
    (begun : ∀ b, Begun (trees b)) (configured : Configured trees)
    (steady : protocol.AllSteps Steady trees inputs) :
    Configured (protocol.final trees inputs) ∧ ∀ b, Current (protocol.final trees inputs b) := by
  suffices states : protocol.AllStates
      (fun trees => Configured trees ∧ ∀ b, Current (trees b)) trees inputs from states.final
  refine Machine.allStates_of_invariant ?_ ⟨configured, fun b => .of_begun (begun b)⟩ steady
  rintro trees ⟨bridge, event⟩ ⟨configured, current⟩ steady
  constructor
  · refine configured.of_settings fun b => ?_
    by_cases same : b = bridge
    · subst same
      simp only [Machine.next, protocol, Function.update_self]
      exact settings_step (trees b) event
    · simp only [Machine.next, protocol, Function.update_of_ne same]
  · intro b
    by_cases same : b = bridge
    · subst same
      simp only [Machine.next, protocol, Function.update_self]
      refine (current b).step ?_ steady
      simp [RoleTree.cist, configured.common b]
    · simp only [Machine.next, protocol, Function.update_of_ne same]
      exact current b

end Run

/-! ## Rest -/

section Rest

variable {Bridge Lan : Type*} (lan : Bridge → Nat → Lan) (region : Bridge → Nat)
  (trees : Bridge → RoleTree)

/-- The port is up and sends its designated vector. -/
def Sends (ptp : RolePort) : Prop :=
  ptp.infoIs ≠ .ioDisabled ∧ ptp.role = .roleDesignated

instance : DecidablePred Sends := fun ptp =>
  inferInstanceAs (Decidable (ptp.infoIs ≠ .ioDisabled ∧ ptp.role = .roleDesignated))

def transmitted (ptp : RolePort) (sameRegion : Bool) : Message :=
  designatedMessage ptp.role ptp.designatedPriority ptp.designatedTimes ptp.portTimes sameRegion

/-- The port after it has heard a message. -/
def hear (ptp : RolePort) (msg : Message) : RolePort :=
  pismToReceive { ptp with rcvdInternal := msg.sameRegion } msg

/-- No machine has a transition to take, what is sent now changes nothing at the ports that hear
it, and all received information is still being sent. -/
structure Settled : Prop where
  prssm : ∀ b, prssmRun (trees b) = none
  pism : ∀ b (place : Nat) (ptp : RolePort), (trees b).ports[place]? = some ptp → pismRun ptp = none
  prtsm : ∀ b (place : Nat) (ptp : RolePort), (trees b).ports[place]? = some ptp →
    prtsmRun ptp = none
  quiet : ∀ b (place : Nat) (ptp : RolePort) c (index : Nat) (other : RolePort),
    (trees b).ports[place]? = some ptp →
    (trees c).ports[index]? = some other → (b, place) ≠ (c, index) → lan b place = lan c index →
    Sends ptp → other.infoIs ≠ .ioDisabled →
    (hear other (transmitted ptp (region b = region c))).portPriority = other.portPriority ∧
      (hear other (transmitted ptp (region b = region c))).infoIs = other.infoIs
  fresh : ∀ c (index : Nat) (other : RolePort), (trees c).ports[index]? = some other →
    other.infoIs = .ioReceived →
    ∃ b, ∃ place : Nat, ∃ ptp : RolePort, (trees b).ports[place]? = some ptp ∧
      (b, place) ≠ (c, index) ∧
      lan b place = lan c index ∧ Sends ptp ∧ other.portPriority = ptp.designatedPriority

end Rest

/-- A port of a tree at rest. -/
inductive Resting (tree : RoleTree) (place : Nat) (ptp : RolePort) : Prop where
  | off (infoIs : ptp.infoIs = .ioDisabled)
  | designated (infoIs : ptp.infoIs = .ioMine) (role : ptp.role = .roleDesignated)
      (own : ptp.portPriority = ptp.designatedPriority)
  | root (infoIs : ptp.infoIs = .ioReceived) (role : ptp.role = .roleRoot)
      (isRoot : (selectRoot tree).rootPtp = some place)
  | blocked (infoIs : ptp.infoIs = .ioReceived)
      (role : ptp.role = .roleAlternate ∨ ptp.role = .roleBackup)
      (root : (selectRoot tree).rootPtp ≠ some place)
      (better : betterorsamePriority ptp.portPriority ptp.designatedPriority 0 0 true = true)

section Ports

variable {tree : RoleTree} {place : Nat} {ptp : RolePort}

theorem updtInfo_of_pismRun (still : pismRun ptp = none) (enabled : ptp.infoIs ≠ .ioDisabled)
    (selected : ptp.selected = true) : ptp.updtInfo = false := by
  cases updtInfo : ptp.updtInfo with
  | false => rfl
  | true =>
    exfalso
    unfold pismRun at still
    split at still
    · cases still
    split at still
    case h_1 infoIs => exact enabled infoIs
    case h_2 =>
      rw [selected, updtInfo] at still
      cases still
    case h_3 =>
      rw [updtInfo] at still
      simp [selected] at still

theorem resting_of_placed (placed : Placed tree place ptp) (selected : ptp.selected = true)
    (information : pismRun ptp = none) (transitions : prtsmRun ptp = none) :
    Resting tree place ptp := by
  by_cases off : ptp.infoIs = .ioDisabled
  · exact .off off
  have noUpdate := updtInfo_of_pismRun information off selected
  have role : ptp.role = ptp.selectedRole := by
    simpa [prtsmRun, selected, noUpdate] using transitions
  cases placed with
  | ioDisabled infoIs _ => exact .off infoIs
  | ioAged _ _ updtInfo => cases noUpdate.symm.trans updtInfo
  | ioMine infoIs chosen updtInfo =>
    refine .designated infoIs (role.trans chosen) ?_
    rw [noUpdate, updated] at updtInfo
    split at updtInfo
    · rename_i agree
      exact eq_of_samePriorityAndTimers agree
    · cases updtInfo
  | isRoot infoIs chosen _ root => exact .root infoIs (role.trans chosen) root
  | superior infoIs chosen _ root better => exact .blocked infoIs (by rwa [role]) root better
  | inferior _ _ updtInfo _ => cases noUpdate.symm.trans updtInfo

theorem designatedPriority_of_fixed (fixed : Fixed tree) (isPort : tree.ports[place]? = some ptp)
    (sendRSTP : ptp.sendRSTP = true) :
    ptp.designatedPriority = { tree.rootPriority with
      DesignatedBridgeID := tree.BridgeIdentifier
      DesignatedPortID := ptp.portId } := by
  have same := congrArg RolePort.designatedPriority (fixed.setDesignated isPort)
  rw [← same, (fixed_iff.mp fixed).1]
  simp [setDesignated, sendRSTP]

theorem rootID_le_of_key_le {vec1 vec2 : PriorityVector} {pId1 pId2 : Nat}
    (better : key true vec1 pId1 ≤ key true vec2 pId2) : vec1.RootID ≤ vec2.RootID := by
  simp only [key, if_true, Prod.Lex.toLex_le_toLex] at better
  rcases better with less | ⟨same, _⟩
  · exact less.le
  · exact same.le

theorem rootID_rootPathPriority (tree : RoleTree) (ptp : RolePort) :
    (rootPathPriority tree ptp).RootID = ptp.portPriority.RootID := by
  unfold rootPathPriority
  split
  · rfl
  · split <;> rfl

/-- The root is no worse than the bridge itself. -/
theorem rootID_le_own (fixed : Fixed tree) (cist : tree.cist = true) :
    tree.rootPriority.RootID ≤ tree.BridgePriority.RootID := by
  rw [(fixed_iff.mp fixed).1]
  have below := (foldl_betterRoot tree tree.ports.zipIdx ⟨tree.BridgePriority, 0, none⟩).1
  rw [cist] at below
  exact rootID_le_of_key_le below

theorem rcvInfo_of_better {msg : Message} (designated : msg.roleIsDesignated = true)
    (better : betterorsamePriority ptp.portPriority msg.msgPriority 0 0 true = false) :
    rcvInfo ptp msg = .superiorDesignatedInfo := by
  simp [rcvInfo, designated, better]

/-- A port that takes a message over holds received information. -/
theorem infoIs_of_hear {msg : Message} (designated : msg.roleIsDesignated = true)
    (better : betterorsamePriority ptp.portPriority msg.msgPriority 0 0 true = false) :
    (hear ptp msg).infoIs = .ioReceived := by
  have superior : rcvInfo { ptp with rcvdInternal := msg.sameRegion } msg =
      .superiorDesignatedInfo := rcvInfo_of_better designated better
  rw [hear, pismToReceive, superior]
  rfl

end Ports

/-! ## One sender a LAN -/

section Settled

variable {Bridge Lan : Type*} {lan : Bridge → Nat → Lan} {region : Bridge → Nat}
  {trees : Bridge → RoleTree}

/-- A network at rest. -/
structure Rest (lan : Bridge → Nat → Lan) (region : Bridge → Nat) (trees : Bridge → RoleTree) :
    Prop where
  configured : Configured trees
  fixed : ∀ b, Fixed (trees b)
  resting : ∀ b (place : Nat) (ptp : RolePort), (trees b).ports[place]? = some ptp →
    Resting (trees b) place ptp
  settled : Settled lan region trees

theorem cist_of_configured (configured : Configured trees) (b : Bridge) :
    (trees b).cist = true := by
  simp [RoleTree.cist, configured.common b]

theorem Rest.of_settled (configured : Configured trees) (current : ∀ b, Current (trees b))
    (settled : Settled lan region trees) : Rest lan region trees where
  configured := configured
  fixed b := ((current b).fixed (settled.prssm b)).1
  settled := settled
  resting b place ptp isPort := by
    obtain ⟨fixed, selected⟩ := (current b).fixed (settled.prssm b)
    exact resting_of_placed (fixed.placed (cist_of_configured configured b) isPort)
      (selected ptp (List.mem_of_getElem? isPort)) (settled.pism b place ptp isPort)
      (settled.prtsm b place ptp isPort)

section Rest

variable (rest : Rest lan region trees) {b c : Bridge} {place index : Nat} {ptp other : RolePort}
include rest

theorem Rest.designatedPriority (isPort : (trees b).ports[place]? = some ptp) :
    ptp.designatedPriority = { (trees b).rootPriority with
      DesignatedBridgeID := (trees b).BridgeIdentifier
      DesignatedPortID := ptp.portId } :=
  designatedPriority_of_fixed (rest.fixed b) isPort (rest.configured.ports b place ptp isPort).2.1

theorem Rest.infoIs_of_sends (isPort : (trees b).ports[place]? = some ptp) (sends : Sends ptp) :
    ptp.infoIs = .ioMine ∧ ptp.portPriority = ptp.designatedPriority := by
  cases rest.resting b place ptp isPort with
  | off infoIs => exact absurd infoIs sends.1
  | designated infoIs _ own => exact ⟨infoIs, own⟩
  | root _ role _ => cases role.symm.trans sends.2
  | blocked _ role _ _ =>
    rcases role with role | role
    · cases role.symm.trans sends.2
    · cases role.symm.trans sends.2

/-- A port that sends hears nothing better than what it sends. -/
theorem Rest.not_better (isPort : (trees b).ports[place]? = some ptp)
    (isOther : (trees c).ports[index]? = some other) (different : (b, place) ≠ (c, index))
    (sameLan : lan b place = lan c index) (sends : Sends ptp) (otherSends : Sends other) :
    key true other.designatedPriority 0 ≤ key true ptp.designatedPriority 0 := by
  obtain ⟨otherMine, otherOwn⟩ := rest.infoIs_of_sends isOther otherSends
  have quiet := (rest.settled.quiet b place ptp c index other isPort isOther different sameLan
    sends otherSends.1).2
  have designated : (transmitted ptp (region b = region c)).roleIsDesignated = true := by
    simp [transmitted, designatedMessage, sends.2]
  apply le_of_not_gt
  intro better
  rw [infoIs_of_hear designated, otherMine] at quiet
  · cases quiet
  · rw [← Bool.not_eq_true, betterorsamePriority_iff, otherOwn]
    exact not_le_of_gt better

/-- No two ports of a LAN are Designated. -/
theorem Rest.sends_unique (isPort : (trees b).ports[place]? = some ptp)
    (isOther : (trees c).ports[index]? = some other) (sameLan : lan b place = lan c index)
    (sends : Sends ptp) (otherSends : Sends other) : (b, place) = (c, index) := by
  by_contra different
  have same : key true ptp.designatedPriority 0 = key true other.designatedPriority 0 :=
    le_antisymm
      (rest.not_better isOther isPort (Ne.symm different) sameLan.symm otherSends sends)
      (rest.not_better isPort isOther different sameLan sends otherSends)
  have vectors : ptp.designatedPriority.DesignatedBridgeID =
      other.designatedPriority.DesignatedBridgeID ∧ ptp.designatedPriority.DesignatedPortID =
        other.designatedPriority.DesignatedPortID := by
    simp only [key, if_true, toLex_inj, Prod.mk.injEq] at same
    exact ⟨same.2.2.2.2.1, same.2.2.2.2.2.1⟩
  rw [rest.designatedPriority isPort, rest.designatedPriority isOther] at vectors
  obtain rfl := rest.configured.distinct b c vectors.1
  obtain rfl := rest.configured.portIds b place index ptp other isPort isOther vectors.2
  exact different rfl

end Rest

/-! ## The way to the root -/

/-- A port of the bridge sends on the LAN. -/
def Sender (lan : Bridge → Nat → Lan) (trees : Bridge → RoleTree) (at_lan : Lan) (b : Bridge) :
    Prop :=
  ∃ place : Nat, ∃ ptp : RolePort, (trees b).ports[place]? = some ptp ∧ lan b place = at_lan ∧
    Sends ptp

/-- The path costs of a bridge, the external ones first. -/
def level (tree : RoleTree) : ℕ ×ₗ ℕ :=
  toLex (tree.rootPriority.ExtRootPathCost, tree.rootPriority.IntRootPathCost)

/-- No path cost is too large for its field. -/
def CostsFit (trees : Bridge → RoleTree) : Prop :=
  ∀ b (place : Nat) (ptp : RolePort), (trees b).ports[place]? = some ptp →
    ptp.portPriority.IntRootPathCost + ptp.InternalPortPathCost < 2 ^ 32 ∧
      ptp.portPriority.ExtRootPathCost + ptp.ExternalPortPathCost < 2 ^ 32

section Way

variable (rest : Rest lan region trees) {b c : Bridge} {place index : Nat} {ptp other : RolePort}
include rest

theorem Rest.sender_unique {at_lan : Lan} (first : Sender lan trees at_lan b)
    (second : Sender lan trees at_lan c) : b = c := by
  obtain ⟨place, ptp, isPort, atLan, sends⟩ := first
  obtain ⟨index, other, isOther, otherAtLan, otherSends⟩ := second
  exact congrArg Prod.fst
    (rest.sends_unique isPort isOther (atLan.trans otherAtLan.symm) sends otherSends)

/-- What a port has heard is what the bridge that sends on its LAN has selected. -/
theorem Rest.heard (isPort : (trees b).ports[place]? = some ptp)
    (infoIs : ptp.infoIs = .ioReceived) :
    ∃ c portId, Sender lan trees (lan b place) c ∧
      ptp.portPriority = { (trees c).rootPriority with
        DesignatedBridgeID := (trees c).BridgeIdentifier
        DesignatedPortID := portId } := by
  obtain ⟨c, index, other, isOther, _, sameLan, sends, same⟩ :=
    rest.settled.fresh b place ptp isPort infoIs
  exact ⟨c, other.portId, ⟨index, other, isOther, sameLan, sends⟩,
    same.trans (rest.designatedPriority isOther)⟩

/-- Towards the root the path costs fall. -/
theorem Rest.root_port (fit : CostsFit trees) (isPort : (trees b).ports[place]? = some ptp)
    (isRoot : (selectRoot (trees b)).rootPtp = some place) :
    ∃ c, Sender lan trees (lan b place) c ∧
      (trees b).rootPriority.RootID = (trees c).rootPriority.RootID ∧
      level (trees c) < level (trees b) := by
  have candidate := infoIs_of_root isRoot isPort
  obtain ⟨c, portId, sender, vector⟩ := rest.heard isPort (infoIs_of_isCandidate candidate).1
  have path : (trees b).rootPriority = rootPathPriority (trees b) ptp := by
    rw [(fixed_iff.mp (rest.fixed b)).1]
    rcases selectRoot_origin (trees b) with own | ⟨port, at_place, isOther, _, same⟩
    · rw [own] at isRoot
      cases isRoot
    · rw [same] at isRoot ⊢
      obtain rfl : at_place = place := Option.some.inj isRoot
      obtain rfl : port = ptp := Option.some.inj (isOther.symm.trans isPort)
      rfl
  refine ⟨c, sender, ?_, ?_⟩
  · rw [path, rootID_rootPathPriority, vector]
  · obtain ⟨internalFits, externalFits⟩ := fit b place ptp isPort
    obtain ⟨_, _, internal, external⟩ := rest.configured.ports b place ptp isPort
    rw [vector] at internalFits externalFits
    simp only at internalFits externalFits
    rw [level, level, path, rootPathPriority, vector, cist_of_configured rest.configured b]
    cases ptp.rcvdInternal with
    | true =>
      simp only [if_true, Nat.mod_eq_of_lt internalFits]
      exact Prod.Lex.toLex_lt_toLex.mpr (Or.inr ⟨rfl, Nat.lt_add_of_pos_right internal⟩)
    | false =>
      simp only [if_true, if_false, Bool.false_eq_true, Nat.mod_eq_of_lt externalFits]
      exact Prod.Lex.toLex_lt_toLex.mpr (Or.inl (Nat.lt_add_of_pos_right external))

/-- All ports of a LAN that are up agree on the root. -/
theorem Rest.sameRoot (fit : CostsFit trees) (isPort : (trees b).ports[place]? = some ptp)
    (up : ptp.infoIs ≠ .ioDisabled) :
    ∃ c, Sender lan trees (lan b place) c ∧
      (trees b).rootPriority.RootID = (trees c).rootPriority.RootID := by
  cases rest.resting b place ptp isPort with
  | off infoIs => exact absurd infoIs up
  | designated _ role _ => exact ⟨b, ⟨place, ptp, isPort, rfl, up, role⟩, rfl⟩
  | root _ _ isRoot =>
    obtain ⟨c, sender, same, _⟩ := rest.root_port fit isPort isRoot
    exact ⟨c, sender, same⟩
  | blocked infoIs _ _ better =>
    obtain ⟨c, portId, sender, vector⟩ := rest.heard isPort infoIs
    refine ⟨c, sender, ?_⟩
    by_cases own : b = c
    · rw [own]
    apply le_antisymm
    · have candidate : isCandidate (trees b) ptp = true := by
        have different : (trees c).BridgeIdentifier ≠ (trees b).BridgeIdentifier :=
          fun same => own (rest.configured.distinct b c same.symm)
        simp [isCandidate, infoIs, (rest.configured.ports b place ptp isPort).1, vector, different]
      have least := selectRoot_le isPort candidate
      rw [cist_of_configured rest.configured b] at least
      have below := rootID_le_of_key_le least
      rw [rootID_rootPathPriority, vector] at below
      rw [(fixed_iff.mp (rest.fixed b)).1]
      exact below
    · have below := rootID_le_of_key_le (betterorsamePriority_iff.mp better)
      rw [vector, rest.designatedPriority isPort] at below
      exact below

/-- A bridge is a root itself or has a root port. -/
theorem Rest.root_or_port (b : Bridge) :
    (trees b).rootPriority.RootID = (trees b).BridgeIdentifier ∨
      ∃ place : Nat, ∃ ptp : RolePort, (trees b).ports[place]? = some ptp ∧
        (selectRoot (trees b)).rootPtp = some place := by
  rcases selectRoot_origin (trees b) with own | ⟨ptp, place, isPort, _, same⟩
  · refine Or.inl ?_
    rw [(fixed_iff.mp (rest.fixed b)).1, own, rest.configured.own b]
  · refine Or.inr ⟨place, ptp, isPort, ?_⟩
    rw [same]

end Way

/-! ## The active topology -/

/-- The ports of some kind, each an edge between its bridge and its LAN. -/
def topology (lan : Bridge → Nat → Lan) (trees : Bridge → RoleTree) (uses : RolePort → Prop) :
    SimpleGraph (Bridge ⊕ Lan) :=
  SimpleGraph.fromRel fun u v => ∃ b, ∃ place : Nat, ∃ ptp : RolePort,
    (trees b).ports[place]? = some ptp ∧ uses ptp ∧ u = .inl b ∧ v = .inr (lan b place)

def Up (ptp : RolePort) : Prop :=
  ptp.infoIs ≠ .ioDisabled

/-- The ports that forward, at once or when their delays are over. -/
def Active (ptp : RolePort) : Prop :=
  Up ptp ∧ (ptp.role = .roleRoot ∨ ptp.role = .roleDesignated)

section Topology

variable {uses : RolePort → Prop}

theorem topology_adj {b : Bridge} {place : Nat} {ptp : RolePort}
    (isPort : (trees b).ports[place]? = some ptp) (used : uses ptp) :
    (topology lan trees uses).Adj (.inl b) (.inr (lan b place)) := by
  rw [topology, SimpleGraph.fromRel_adj]
  exact ⟨Sum.inl_ne_inr, Or.inl ⟨b, place, ptp, isPort, used, rfl, rfl⟩⟩

/-- Every edge is a port, seen from its bridge or from its LAN. -/
theorem topology_induction {motive : Bridge ⊕ Lan → Bridge ⊕ Lan → Prop}
    (symmetric : ∀ u v, motive u v → motive v u)
    (port : ∀ b (place : Nat) (ptp : RolePort), (trees b).ports[place]? = some ptp → uses ptp →
      motive (.inl b) (.inr (lan b place))) :
    ∀ u v, (topology lan trees uses).Adj u v → motive u v := by
  intro u v adjacent
  rw [topology, SimpleGraph.fromRel_adj] at adjacent
  rcases adjacent.2 with ⟨b, place, ptp, isPort, used, rfl, rfl⟩ |
    ⟨b, place, ptp, isPort, used, rfl, rfl⟩
  · exact port b place ptp isPort used
  · exact symmetric _ _ (port b place ptp isPort used)

theorem reachable_of_sender {at_lan : Lan} {b : Bridge} (sender : Sender lan trees at_lan b) :
    (topology lan trees Active).Reachable (.inl b) (.inr at_lan) := by
  obtain ⟨place, ptp, isPort, rfl, up, role⟩ := sender
  have active : Active ptp := ⟨up, Or.inr role⟩
  exact (topology_adj isPort active).reachable

theorem up_of_active {u v : Bridge ⊕ Lan} (reachable : (topology lan trees Active).Reachable u v) :
    (topology lan trees Up).Reachable u v := by
  refine Forests.reachable_of_adj (topology_induction ?_ ?_) reachable
  · exact fun _ _ => SimpleGraph.Reachable.symm
  · intro b place ptp isPort active
    exact (topology_adj isPort active.1).reachable

end Topology

open Classical in
/-- Towards the root the ranks fall: from a bridge to the LAN of its root port and from a LAN to
the bridge that sends on it. -/
noncomputable def rank (lan : Bridge → Nat → Lan) (trees : Bridge → RoleTree) :
    Bridge ⊕ Lan → (ℕ ×ₗ ℕ) ×ₗ ℕ
  | .inl b => toLex (level (trees b), 0)
  | .inr at_lan =>
      if sent : ∃ b, Sender lan trees at_lan b then toLex (level (trees sent.choose), 1)
      else toLex (toLex (0, 0), 0)

/-- The next step towards the root. -/
inductive Parent (lan : Bridge → Nat → Lan) (trees : Bridge → RoleTree) :
    Bridge ⊕ Lan → Bridge ⊕ Lan → Prop
  | root_port {b : Bridge} {place : Nat} (isRoot : (selectRoot (trees b)).rootPtp = some place) :
      Parent lan trees (.inl b) (.inr (lan b place))
  | sender {at_lan : Lan} {b : Bridge} (sends : Sender lan trees at_lan b) :
      Parent lan trees (.inr at_lan) (.inl b)

section Tree

variable (rest : Rest lan region trees)
include rest

theorem Rest.rank_lan {at_lan : Lan} {b : Bridge} (sender : Sender lan trees at_lan b) :
    rank lan trees (.inr at_lan) = toLex (level (trees b), 1) := by
  have sent : ∃ b, Sender lan trees at_lan b := ⟨b, sender⟩
  rw [rank, dif_pos sent, rest.sender_unique sent.choose_spec sender]

/-- An active port stands above or below its LAN. -/
theorem Rest.rank_port (fit : CostsFit trees) {b : Bridge} {place : Nat} {ptp : RolePort}
    (isPort : (trees b).ports[place]? = some ptp) (active : Active ptp) :
    Sender lan trees (lan b place) b ∧
        rank lan trees (.inl b) < rank lan trees (.inr (lan b place)) ∨
      (selectRoot (trees b)).rootPtp = some place ∧
        rank lan trees (.inr (lan b place)) < rank lan trees (.inl b) := by
  cases rest.resting b place ptp isPort with
  | off infoIs => exact absurd infoIs active.1
  | designated _ role _ =>
    have sender : Sender lan trees (lan b place) b := ⟨place, ptp, isPort, rfl, active.1, role⟩
    refine Or.inl ⟨sender, ?_⟩
    rw [rest.rank_lan sender, rank]
    exact Prod.Lex.toLex_lt_toLex.mpr (Or.inr ⟨rfl, Nat.one_pos⟩)
  | root _ _ isRoot =>
    obtain ⟨c, sender, _, below⟩ := rest.root_port fit isPort isRoot
    refine Or.inr ⟨isRoot, ?_⟩
    rw [rest.rank_lan sender, rank]
    exact Prod.Lex.toLex_lt_toLex.mpr (Or.inl below)
  | blocked _ role _ _ =>
    rcases role with role | role <;> rcases active.2 with other | other <;>
      cases role.symm.trans other

theorem Rest.parent_of_adj (fit : CostsFit trees) :
    ∀ u v, (topology lan trees Active).Adj u v →
      (rank lan trees v < rank lan trees u → Parent lan trees u v) ∧
        (rank lan trees u < rank lan trees v → Parent lan trees v u) := by
  apply topology_induction
  · exact fun _ _ both => both.symm
  · intro b place ptp isPort active
    rcases rest.rank_port fit isPort active with ⟨sender, below⟩ | ⟨isRoot, above⟩
    · exact ⟨fun above => absurd above (lt_asymm below), fun _ => .sender sender⟩
    · exact ⟨fun _ => .root_port isRoot, fun below => absurd below (lt_asymm above)⟩

theorem Rest.parent_unique {v first second : Bridge ⊕ Lan} (toFirst : Parent lan trees v first)
    (toSecond : Parent lan trees v second) : first = second := by
  cases toFirst with
  | root_port isRoot =>
    cases toSecond with
    | root_port alsoRoot =>
      obtain rfl := Option.some.inj (isRoot.symm.trans alsoRoot)
      rfl
  | sender sends =>
    cases toSecond with
    | sender alsoSends => rw [rest.sender_unique sends alsoSends]

/-- No frame goes round in a loop. -/
theorem Rest.isAcyclic (fit : CostsFit trees) : (topology lan trees Active).IsAcyclic := by
  refine @Forests.isAcyclic_of_rank _ _ _ _ (rank lan trees) ?_ ?_
  · apply topology_induction
    · exact fun _ _ different => Ne.symm different
    · intro b place ptp isPort active
      rcases rest.rank_port fit isPort active with ⟨_, below⟩ | ⟨_, above⟩
      · exact ne_of_lt below
      · exact ne_of_gt above
  · intro v first second toFirst toSecond firstBelow secondBelow
    exact rest.parent_unique ((rest.parent_of_adj fit v first toFirst).1 firstBelow)
      ((rest.parent_of_adj fit v second toSecond).1 secondBelow)

/-! ## Every bridge reaches its root -/

/-- By its root port a bridge reaches another one with the same root. -/
theorem Rest.step (fit : CostsFit trees) (b : Bridge) :
    (trees b).rootPriority.RootID = (trees b).BridgeIdentifier ∨
      ∃ c, ((topology lan trees Active).Reachable (.inl b) (.inl c) ∧
        (trees b).rootPriority.RootID = (trees c).rootPriority.RootID) ∧
        level (trees c) < level (trees b) := by
  rcases rest.root_or_port b with own | ⟨place, ptp, isPort, isRoot⟩
  · exact Or.inl own
  · obtain ⟨c, sender, same, below⟩ := rest.root_port fit isPort isRoot
    refine Or.inr ⟨c, ⟨?_, same⟩, below⟩
    have active : Active ptp := by
      have infoIs := (infoIs_of_isCandidate (infoIs_of_root isRoot isPort)).1
      cases rest.resting b place ptp isPort with
      | off off => cases infoIs.symm.trans off
      | designated mine _ _ => cases infoIs.symm.trans mine
      | root _ role _ => exact ⟨by rw [Up, infoIs]; decide, Or.inl role⟩
      | blocked _ _ notRoot _ => exact absurd isRoot notRoot
    exact (topology_adj isPort active).reachable.trans (reachable_of_sender sender).symm

/-- A bridge reaches the bridge that it takes for the root. -/
theorem Rest.exists_root (fit : CostsFit trees) (b : Bridge) :
    ∃ root, (topology lan trees Active).Reachable (.inl b) (.inl root) ∧
      (trees b).rootPriority.RootID = (trees root).BridgeIdentifier ∧
      (trees root).rootPriority.RootID = (trees root).BridgeIdentifier := by
  obtain ⟨root, isRoot, way⟩ := Forests.exists_root (rest.step fit) b
  have reaches : (topology lan trees Active).Reachable (.inl b) (.inl root) ∧
      (trees b).rootPriority.RootID = (trees root).rootPriority.RootID := by
    clear isRoot
    induction way with
    | refl => exact ⟨SimpleGraph.Reachable.refl _, rfl⟩
    | tail _ last inductionHypothesis =>
      exact ⟨inductionHypothesis.1.trans last.1, inductionHypothesis.2.trans last.2⟩
  exact ⟨root, reaches.1, reaches.2.trans isRoot, isRoot⟩

/-- Bridges that agree on the root reach each other. -/
theorem Rest.reachable_of_rootID (fit : CostsFit trees) {b c : Bridge}
    (same : (trees b).rootPriority.RootID = (trees c).rootPriority.RootID) :
    (topology lan trees Active).Reachable (.inl b) (.inl c) := by
  obtain ⟨root, reaches, isRoot, _⟩ := rest.exists_root fit b
  obtain ⟨other, otherReaches, isOther, _⟩ := rest.exists_root fit c
  obtain rfl : root = other :=
    rest.configured.distinct root other (isRoot.symm.trans (same.trans isOther))
  exact reaches.trans otherReaches.symm

/-- Where a frame can go at all, it can go by active ports. -/
theorem Rest.reachable (fit : CostsFit trees) {u v : Bridge ⊕ Lan}
    (linked : (topology lan trees Up).Reachable u v) :
    (topology lan trees Active).Reachable u v := by
  refine Forests.reachable_of_adj (topology_induction ?_ ?_) linked
  · exact fun _ _ => SimpleGraph.Reachable.symm
  · intro b place ptp isPort up
    obtain ⟨c, sender, same⟩ := rest.sameRoot fit isPort up
    exact (rest.reachable_of_rootID fit same).trans (reachable_of_sender sender)

open Classical in
/-- Bridges that are linked agree on the root. -/
theorem Rest.rootID_of_reachable (fit : CostsFit trees) {b c : Bridge}
    (linked : (topology lan trees Up).Reachable (.inl b) (.inl c)) :
    (trees b).rootPriority.RootID = (trees c).rootPriority.RootID := by
  let rootID : Bridge ⊕ Lan → Nat := Sum.elim (fun b => (trees b).rootPriority.RootID)
    fun at_lan => if sent : ∃ b, Sender lan trees at_lan b then
      (trees sent.choose).rootPriority.RootID else 0
  have edges : ∀ u v, (topology lan trees Up).Adj u v → rootID u = rootID v := by
    apply topology_induction
    · exact fun _ _ => Eq.symm
    · intro b place ptp isPort up
      obtain ⟨c, sender, same⟩ := rest.sameRoot fit isPort up
      have sent : ∃ d, Sender lan trees (lan b place) d := ⟨c, sender⟩
      simp only [rootID, Sum.elim_inl, Sum.elim_inr, dif_pos sent]
      rw [same, rest.sender_unique sent.choose_spec sender]
  exact Forests.eq_of_reachable edges linked

end Tree

/-- In every run, with whatever messages, a network that comes to rest has a spanning tree: the
active ports have no loop, they connect all that is linked, and the root that a bridge knows is
the linked bridge with the least identifier. -/
theorem settled_spanning_tree [DecidableEq Bridge] {inputs : List (Bridge × Event)}
    {later : Bridge → RoleTree} (begun : ∀ b, Begun (trees b)) (configured : Configured trees)
    (steady : protocol.AllSteps Steady trees inputs)
    (run : protocol.final trees inputs = later) (settled : Settled lan region later)
    (fit : CostsFit later) :
    (topology lan later Active).IsAcyclic ∧
      (∀ u v, (topology lan later Up).Reachable u v → (topology lan later Active).Reachable u v) ∧
      ∀ b, ∃ root, (topology lan later Up).Reachable (.inl b) (.inl root) ∧
        (later b).rootPriority.RootID = (later root).BridgeIdentifier ∧
        ∀ c, (topology lan later Up).Reachable (.inl b) (.inl c) →
          (later root).BridgeIdentifier ≤ (later c).BridgeIdentifier := by
  subst run
  obtain ⟨stillConfigured, current⟩ := current_of_run begun configured steady
  have rest := Rest.of_settled stillConfigured current settled
  refine ⟨rest.isAcyclic fit, fun u v => rest.reachable fit, fun b => ?_⟩
  obtain ⟨root, reaches, isRoot, _⟩ := rest.exists_root fit b
  refine ⟨root, up_of_active reaches, isRoot, fun c linked => ?_⟩
  have own := rootID_le_own (rest.fixed c) (cist_of_configured stillConfigured c)
  rw [stillConfigured.own c, ← rest.rootID_of_reachable fit linked, isRoot] at own
  exact own

end Settled

/-! ## Two bridges with two links -/

/-- A port as it begins. -/
def pairPort (portId : Nat) : RolePort where
  portId := portId
  portEnabled := false
  infoIs := .ioDisabled
  reselect := true
  selected := false
  rcvdMsg := none
  rcvdInfoWhile := 0
  portPriority := ⟨0, 0, 0, 0, 0, 0⟩
  portTimes := ⟨20, 15, 20, 0, 2⟩
  InternalPortPathCost := 20000
  designatedPriority := ⟨0, 0, 0, 0, 0, 0⟩
  designatedTimes := ⟨20, 15, 20, 0, 2⟩
  selectedRole := .roleDisabled
  role := .roleDisabled
  updtInfo := false
  restrictedRole := false
  rcvdInternal := false
  infoInternal := false
  sendRSTP := true
  ExternalPortPathCost := 20000
  cistInfoIs := .ioDisabled
  cistSelectedRole := .roleDisabled

/-- The bridges have the identifiers 1 and 2. -/
def pairTree (b : Bool) : RoleTree :=
  let BridgeIdentifier := if b then 2 else 1
  { MSTID := 0
    prssmState := .initTree
    BridgeIdentifier := BridgeIdentifier
    BridgePriority := ⟨BridgeIdentifier, 0, BridgeIdentifier, 0, BridgeIdentifier, 0⟩
    BridgeTimes := ⟨20, 15, 20, 0, 2⟩
    rootPriority := ⟨0, 0, 0, 0, 0, 0⟩
    rootPortId := 0
    rootTimes := ⟨20, 15, 20, 0, 2⟩
    ports := [pairPort 1, pairPort 2] }

/-- Both links come up, and then the second bridge hears the first one on both. -/
def pairInputs : List (Bool × Event) :=
  let start (b : Bool) : List (Bool × Event) :=
    [(b, .link 0 true), (b, .link 1 true), (b, .pism 0), (b, .pism 1), (b, .prssm), (b, .pism 0),
      (b, .pism 1), (b, .prtsm 0), (b, .prtsm 1)]
  let message (portId : Nat) : Message :=
    ⟨⟨1, 0, 1, portId, 1, 0⟩, ⟨20, 15, 20, 0, 2⟩, true, true⟩
  start false ++ start true ++
    [(true, .rx 0 (message 1)), (true, .pism 0), (true, .prssm), (true, .prtsm 0), (true, .pism 1),
      (true, .rx 1 (message 2)), (true, .pism 1), (true, .prssm), (true, .prtsm 1)]

def pairLater : Bool → RoleTree :=
  protocol.final pairTree pairInputs

theorem forall_port {tree : RoleTree} {property : Nat → RolePort → Prop}
    (all : ∀ ptp ∈ tree.ports.zipIdx, property ptp.2 ptp.1) (place : Nat) (ptp : RolePort)
    (isPort : tree.ports[place]? = some ptp) : property place ptp :=
  all (ptp, place) (mem_zipIdx.mpr isPort)

theorem pairConfigured : Configured pairTree where
  common := by decide
  own := by decide
  distinct := by decide
  portIds b place index ptp other isPort isOther := by
    have all : ∀ b : Bool, ∀ ptp ∈ (pairTree b).ports.zipIdx, ∀ other ∈ (pairTree b).ports.zipIdx,
        ptp.1.portId = other.1.portId → ptp.2 = other.2 := by
      decide
    exact all b (ptp, place) (mem_zipIdx.mpr isPort) (other, index) (mem_zipIdx.mpr isOther)
  ports b := by
    apply forall_port
    revert b
    decide

theorem pairSettled : Settled (fun _ place => place) (fun _ => 0) pairLater where
  prssm := by decide +kernel
  pism b := by
    apply forall_port
    revert b
    decide +kernel
  prtsm b := by
    apply forall_port
    revert b
    decide +kernel
  quiet b place ptp c index other isPort isOther := by
    have all : ∀ b c : Bool, ∀ ptp ∈ (pairLater b).ports.zipIdx,
        ∀ other ∈ (pairLater c).ports.zipIdx, (b, ptp.2) ≠ (c, other.2) → ptp.2 = other.2 →
        Sends ptp.1 → other.1.infoIs ≠ .ioDisabled →
        (hear other.1 (transmitted ptp.1 true)).portPriority = other.1.portPriority ∧
          (hear other.1 (transmitted ptp.1 true)).infoIs = other.1.infoIs := by
      decide +kernel
    exact all b c (ptp, place) (mem_zipIdx.mpr isPort) (other, index) (mem_zipIdx.mpr isOther)
  fresh c index other isOther := by
    have all : ∀ c : Bool, ∀ other ∈ (pairLater c).ports.zipIdx, other.1.infoIs = .ioReceived →
        ∃ b : Bool, ∃ ptp ∈ (pairLater b).ports.zipIdx, (b, ptp.2) ≠ (c, other.2) ∧
          ptp.2 = other.2 ∧ Sends ptp.1 ∧ other.1.portPriority = ptp.1.designatedPriority := by
      decide +kernel
    intro infoIs
    obtain ⟨b, ptp, isPort, found⟩ := all c (other, index) (mem_zipIdx.mpr isOther) infoIs
    exact ⟨b, ptp.2, ptp.1, mem_zipIdx.mp isPort, found⟩

/-- One port of the two links is blocked, and what is left has no loop. -/
theorem settled_spanning_tree_pair :
    (pairLater true).ports.map RolePort.role = [.roleRoot, .roleAlternate] ∧
      (topology (fun (_ : Bool) (place : Nat) => place) pairLater Active).IsAcyclic ∧
      ∀ u v, (topology (fun (_ : Bool) (place : Nat) => place) pairLater Up).Reachable u v →
        (topology (fun (_ : Bool) (place : Nat) => place) pairLater Active).Reachable u v := by
  have begun : ∀ b, Begun (pairTree b) := fun b => ⟨rfl, by decide +revert⟩
  have steady : protocol.AllSteps Steady pairTree pairInputs := by
    decide +kernel
  have fit : CostsFit pairLater := by
    intro b
    apply forall_port
    revert b
    decide +kernel
  have tree := settled_spanning_tree begun pairConfigured steady rfl pairSettled fit
  exact ⟨by decide +kernel, tree.1, tree.2.1⟩

end TfortisPack.Mstpd
