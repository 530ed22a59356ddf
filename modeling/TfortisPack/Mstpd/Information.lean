import TfortisPack.Library.Runs
import TfortisPack.Mstpd.Roles

/-!
# What a port knows (`mstp.c`)

The port information machine (PISM) of the common tree records what a port
receives, lets it age and puts the port's own vector in its place.  The role
selection machine (PRSSM) calls `updtRolesTree` where a port asks for it by
`reselect`.  PISM rests in DISABLED, AGED or CURRENT, which `infoIs` tells apart.

The flags are enough: in every interleaving of the machines with messages of any
content, the roles are those that `updtRolesTree` would select now, unless it is
still to be called.
-/

namespace TfortisPack.Mstpd

open Library

/-! ## Received information -/

inductive PortInfo where
  | otherInfo
  | superiorDesignatedInfo
  | repeatedDesignatedInfo
  | inferiorDesignatedInfo
  | inferiorRootAlternateInfo
  deriving DecidableEq, Repr

/-- The bridges have one address and the ports one number. -/
def samePort (vec1 vec2 : PriorityVector) : Bool :=
  vec1.DesignatedBridgeID % 2 ^ 48 = vec2.DesignatedBridgeID % 2 ^ 48 &&
    vec1.DesignatedPortID % 2 ^ 12 = vec2.DesignatedPortID % 2 ^ 12

def rcvInfo (ptp : RolePort) (msg : Message) : PortInfo :=
  let msgBetterPort := !betterorsamePriority ptp.portPriority msg.msgPriority 0 0 true
  if msg.roleIsDesignated then
    if msgBetterPort || samePort msg.msgPriority ptp.portPriority then .superiorDesignatedInfo
    else
      let msgSamePriorityAndTimersPort :=
        samePriorityAndTimers msg.msgPriority ptp.portPriority msg.msgTimes ptp.portTimes true
      if !msgSamePriorityAndTimersPort &&
          betterorsamePriority msg.msgPriority ptp.portPriority 0 0 true then
        .superiorDesignatedInfo
      else if msgSamePriorityAndTimersPort && ptp.infoIs = .ioReceived then
        .repeatedDesignatedInfo
      else .inferiorDesignatedInfo
  else if !msgBetterPort then .inferiorRootAlternateInfo
  else .otherInfo

/-- What a port sends of its tree, as the other end reads it. -/
def designatedMessage (role : Role) (designatedPriority : PriorityVector)
    (designatedTimes portTimes : Times) (sameRegion : Bool) : Message where
  msgPriority := designatedPriority
  msgTimes := { designatedTimes with helloTime := portTimes.helloTime }
  roleIsDesignated := role = .roleDesignated
  sameRegion := sameRegion

def recordTimes (ptp : RolePort) (msgTimes : Times) : Times :=
  { msgTimes with helloTime := ptp.portTimes.helloTime }

def updtRcvdInfoWhile (ptp : RolePort) : RolePort :=
  { ptp with
    rcvdInfoWhile :=
      if !ptp.rcvdInternal && ptp.portTimes.messageAge + 1 ≤ ptp.portTimes.maxAge ||
          ptp.rcvdInternal && 1 < ptp.portTimes.remainingHops then
        3 * ptp.portTimes.helloTime
      else 0 }

/-! ## The port information machine -/

def pismToDisabled (ptp : RolePort) : RolePort :=
  { ptp with
    rcvdMsg := none
    rcvdInfoWhile := 0
    infoIs := .ioDisabled
    reselect := true
    selected := false }

def pismToAged (ptp : RolePort) : RolePort :=
  { ptp with infoIs := .ioAged, reselect := true, selected := false }

def pismToUpdate (ptp : RolePort) : RolePort :=
  { ptp with
    portPriority := ptp.designatedPriority
    portTimes := ptp.designatedTimes
    updtInfo := false
    infoIs := .ioMine }

def pismToSuperiorDesignated (ptp : RolePort) (msg : Message) : RolePort :=
  let recorded := updtRcvdInfoWhile { ptp with
    infoInternal := ptp.rcvdInternal
    portPriority := msg.msgPriority
    portTimes := recordTimes ptp msg.msgTimes }
  { recorded with
    infoIs := .ioReceived
    reselect := true
    selected := false
    rcvdMsg := none }

def pismToRepeatedDesignated (ptp : RolePort) : RolePort :=
  { updtRcvdInfoWhile { ptp with infoInternal := ptp.rcvdInternal } with rcvdMsg := none }

def pismToReceive (ptp : RolePort) (msg : Message) : RolePort :=
  match rcvInfo ptp msg with
  | .superiorDesignatedInfo => pismToSuperiorDesignated ptp msg
  | .repeatedDesignatedInfo => pismToRepeatedDesignated ptp
  | _ => { ptp with rcvdMsg := none }

/-- One transition, `none` where there is none to take. -/
def pismRun (ptp : RolePort) : Option RolePort :=
  if !ptp.portEnabled && ptp.infoIs ≠ .ioDisabled then some (pismToDisabled ptp)
  else
    match ptp.infoIs with
    | .ioDisabled =>
        if ptp.portEnabled then some (pismToAged ptp)
        else if ptp.rcvdMsg.isSome then some (pismToDisabled ptp)
        else none
    | .ioAged => if ptp.selected && ptp.updtInfo then some (pismToUpdate ptp) else none
    | _ =>
        match ptp.rcvdMsg, ptp.updtInfo with
        | some msg, false => some (pismToReceive ptp msg)
        | rcvdMsg, updtInfo =>
            if ptp.infoIs = .ioReceived && ptp.rcvdInfoWhile = 0 && !updtInfo && rcvdMsg.isNone then
              some (pismToAged ptp)
            else if ptp.selected && updtInfo then some (pismToUpdate ptp)
            else none

/-! ## The other machines -/

def clearReselectTree (tree : RoleTree) : RoleTree :=
  { tree with ports := tree.ports.map fun ptp => { ptp with reselect := false } }

def setSelectedTree (tree : RoleTree) : RoleTree :=
  { tree with ports := tree.ports.map fun ptp => { ptp with selected := true } }

def prssmToRoleSelection (tree : RoleTree) : RoleTree :=
  setSelectedTree
    (updtRolesTree (clearReselectTree { tree with prssmState := .roleSelection })).tree

def prssmRun (tree : RoleTree) : Option RoleTree :=
  if tree.prssmState = .initTree || tree.ports.any RolePort.reselect then
    some (prssmToRoleSelection tree)
  else none

/-- What the role transitions machine does with the role itself. -/
def prtsmRun (ptp : RolePort) : Option RolePort :=
  if ptp.role ≠ ptp.selectedRole && ptp.selected && !ptp.updtInfo then
    some { ptp with role := ptp.selectedRole }
  else none

/-- The port receive machine takes a message where no other one is pending. -/
def prsmToReceive (ptp : RolePort) (msg : Message) : RolePort :=
  if ptp.portEnabled && ptp.rcvdMsg.isNone then
    { ptp with rcvdMsg := some msg, rcvdInternal := msg.sameRegion }
  else ptp

def ptsmTick (ptp : RolePort) : RolePort :=
  { ptp with rcvdInfoWhile := ptp.rcvdInfoWhile - 1 }

/-! ## Steps of a tree -/

def RoleTree.withPorts (tree : RoleTree) (ports : List RolePort) : RoleTree :=
  { tree with ports := ports }

/-- The machines take their steps in any order.  Ports are known by their places. -/
inductive Event where
  | prssm
  | pism (place : Nat)
  | prtsm (place : Nat)
  | rx (place : Nat) (msg : Message)
  | tick
  | link (place : Nat) (up : Bool)

/-- What an event does with the port at a place. -/
def Event.onPort : Event → Nat → RolePort → RolePort
  | .prssm, _, ptp => ptp
  | .pism place, index, ptp => if index = place then (pismRun ptp).getD ptp else ptp
  | .prtsm place, index, ptp => if index = place then (prtsmRun ptp).getD ptp else ptp
  | .rx place msg, index, ptp => if index = place then prsmToReceive ptp msg else ptp
  | .tick, _, ptp => ptsmTick ptp
  | .link place up, index, ptp => if index = place then { ptp with portEnabled := up } else ptp

def RoleTree.step (tree : RoleTree) : Event → RoleTree
  | .prssm => (prssmRun tree).getD tree
  | event => tree.withPorts (tree.ports.mapIdx event.onPort)

/-! ## Offers to the selection -/

/-- What the port at a place offers for the root. -/
def offer (tree : RoleTree) (place : Nat) (ptp : RolePort) : Option Root :=
  if isCandidate tree ptp then
    some ⟨rootPathPriority tree ptp, ptp.portId, some place⟩
  else none

def better (cist : Bool) (root : Root) : Option Root → Root
  | none => root
  | some offered =>
      if betterorsamePriority offered.rootPriority root.rootPriority offered.rootPortId
          root.rootPortId cist then offered
      else root

theorem betterRoot_eq (tree : RoleTree) (root : Root) (ptp : RolePort × Nat) :
    betterRoot tree root ptp = better tree.cist root (offer tree ptp.2 ptp.1) := by
  unfold betterRoot offer
  split <;> rfl

def offers (tree : RoleTree) : List (Option Root) :=
  tree.ports.mapIdx (offer tree)

theorem selectRoot_eq (tree : RoleTree) :
    selectRoot tree = (offers tree).foldl (better tree.cist) ⟨tree.BridgePriority, 0, none⟩ := by
  have step : betterRoot tree =
      fun root ptp => better tree.cist root (offer tree ptp.2 ptp.1) := by
    funext root ptp
    exact betterRoot_eq tree root ptp
  rw [selectRoot, step, offers, List.mapIdx_eq_zipIdx_map, List.foldl_map]

/-- An offer that does not win makes no difference. -/
theorem foldl_better_of_lost {cist : Bool} {place : Nat} {offers : List (Option Root)}
    {root offered : Root} (below : offered.key cist ≤ root.key cist)
    (origin : offered.rootPtp = some place)
    (lost : (offers.foldl (better cist) offered).rootPtp ≠ some place) :
    offers.foldl (better cist) offered = offers.foldl (better cist) root := by
  induction offers generalizing root with
  | nil => exact absurd origin lost
  | cons next offers inductionHypothesis =>
    rw [List.foldl_cons] at lost
    rw [List.foldl_cons, List.foldl_cons]
    cases next with
    | none => exact inductionHypothesis below lost
    | some next =>
      by_cases wins : betterorsamePriority next.rootPriority offered.rootPriority
        next.rootPortId offered.rootPortId cist = true
      · have alsoWins : betterorsamePriority next.rootPriority root.rootPriority
            next.rootPortId root.rootPortId cist = true :=
          betterorsamePriority_iff.mpr ((betterorsamePriority_iff.mp wins).trans below)
        simp only [better, if_pos wins, if_pos alsoWins]
      · have kept : better cist offered (some next) = offered := if_neg wins
        rw [kept] at lost ⊢
        apply inductionHypothesis _ lost
        have worse : offered.key cist ≤ next.key cist :=
          le_of_not_ge fun better => wins (betterorsamePriority_iff.mpr better)
        simp only [better]
        split
        · exact worse
        · exact below

theorem foldl_better_set {cist : Bool} {place : Nat} {offers : List (Option Root)} {index : Nat}
    {root offered : Root} (offers_index : offers[index]? = some (some offered))
    (origin : offered.rootPtp = some place)
    (lost : (offers.foldl (better cist) root).rootPtp ≠ some place) :
    (offers.set index none).foldl (better cist) root = offers.foldl (better cist) root := by
  induction offers generalizing index root with
  | nil => cases offers_index
  | cons next offers inductionHypothesis =>
    cases index with
    | succ index => exact inductionHypothesis offers_index lost
    | zero =>
      obtain rfl : next = some offered := Option.some.inj offers_index
      rw [List.foldl_cons] at lost
      rw [List.set_cons_zero, List.foldl_cons, List.foldl_cons]
      by_cases wins : betterorsamePriority offered.rootPriority root.rootPriority
        offered.rootPortId root.rootPortId cist = true
      · have taken : better cist root (some offered) = offered := if_pos wins
        rw [taken] at lost ⊢
        exact (foldl_better_of_lost (betterorsamePriority_iff.mp wins) origin lost).symm
      · have kept : better cist root (some offered) = root := if_neg wins
        rw [kept]
        rfl

/-- The root stays when a port that is not the root port takes its offer back. -/
theorem selectRoot_set {tree : RoleTree} {ptp other : RolePort} {place : Nat}
    (isPort : tree.ports[place]? = some ptp) (excluded : isCandidate tree other = false)
    (lost : (selectRoot tree).rootPtp ≠ some place) :
    selectRoot (tree.withPorts (tree.ports.set place other)) = selectRoot tree := by
  have offers_set : offers (tree.withPorts (tree.ports.set place other)) =
      (offers tree).set place none := by
    have withdrawn : offer tree place other = none := if_neg (by rw [excluded]; decide)
    rw [← withdrawn]
    exact List.mapIdx_set
  rw [selectRoot_eq] at lost
  rw [selectRoot_eq, selectRoot_eq, offers_set]
  have offered : (offers tree)[place]? = some (offer tree place ptp) := by
    simp [offers, isPort]
  unfold offer at offered
  split at offered
  · exact foldl_better_set offered rfl lost
  · obtain ⟨inside, nothing⟩ := List.getElem?_eq_some_iff.mp offered
    rw [← nothing, List.set_getElem_self inside]
    rfl

/-! ## Ports that the selection treats alike -/

/-- The port with what the selection neither reads nor writes taken from another one. -/
def RolePort.adopt (ptp other : RolePort) : RolePort :=
  { ptp with
    portEnabled := other.portEnabled
    reselect := other.reselect
    selected := other.selected
    rcvdMsg := other.rcvdMsg
    rcvdInfoWhile := other.rcvdInfoWhile
    role := other.role
    rcvdInternal := other.rcvdInternal }

theorem selectRole_adopt (tree : RoleTree) (root : Root) (ptp other : RolePort) (place : Nat) :
    selectRole tree root (ptp.adopt other) place =
      (selectRole tree root ptp place).adopt other := by
  apply selectRole_induction (motive := fun next =>
    selectRole tree root (ptp.adopt other) place = next.adopt other)
  case ioDisabled =>
    intro infoIs
    exact selectRole_of_ioDisabled infoIs
  case boundary =>
    intro infoIs boundary
    exact selectRole_of_isBoundary infoIs boundary
  case ioAged =>
    intro infoIs inside
    exact selectRole_of_ioAged infoIs inside
  case ioMine =>
    intro infoIs inside
    exact selectRole_of_ioMine infoIs inside
  case isRoot =>
    intro infoIs inside isRoot
    exact selectRole_of_root infoIs inside isRoot
  case superior =>
    intro infoIs inside notRoot superior
    exact selectRole_of_superior infoIs inside notRoot superior
  case inferior =>
    intro infoIs inside notRoot inferior
    exact selectRole_of_inferior infoIs inside notRoot inferior

/-- The ports agree in all that the selection reads and writes. -/
structure Alike (ptp other : RolePort) : Prop where
  same : ptp.adopt other = other
  internal : ptp.infoIs = .ioReceived → other.rcvdInternal = ptp.rcvdInternal

section Alike

variable {ptp other : RolePort} {tree : RoleTree} {place : Nat}

theorem Alike.refl (ptp : RolePort) : Alike ptp ptp :=
  ⟨rfl, fun _ => rfl⟩

theorem Alike.isCandidate (alike : Alike ptp other) :
    isCandidate tree other = isCandidate tree ptp := by
  rw [← alike.same]
  rfl

theorem Alike.offer (alike : Alike ptp other) : offer tree place other = offer tree place ptp := by
  unfold Mstpd.offer
  rw [alike.isCandidate]
  split
  · rename_i candidate
    have received : ptp.infoIs = .ioReceived := by
      simp only [Mstpd.isCandidate, Bool.and_eq_true, decide_eq_true_eq] at candidate
      exact candidate.1.1
    have path : rootPathPriority tree other = rootPathPriority tree ptp := by
      unfold rootPathPriority
      rw [alike.internal received, ← alike.same]
      rfl
    rw [path, ← alike.same]
    rfl
  · rfl

/-- The selection treats the ports alike. -/
theorem Alike.chosen (alike : Alike ptp other) (settled : chosen tree place ptp = ptp) :
    chosen tree place other = other := by
  calc Mstpd.chosen tree place other
      = Mstpd.chosen tree place (ptp.adopt other) := by rw [alike.same]
    _ = (Mstpd.chosen tree place ptp).adopt other := selectRole_adopt tree (selectRoot tree)
        (setDesignated tree (selectRoot tree) ptp) other place
    _ = other := by rw [settled, alike.same]

end Alike

section Fixed

variable {tree : RoleTree}

/-- Where the root stays, the ports are all there is to look at. -/
theorem Fixed.withPorts {ports : List RolePort} (fixed : Fixed tree)
    (root : selectRoot (tree.withPorts ports) = selectRoot tree)
    (times : rootTimesOf (tree.withPorts ports) (selectRoot tree) =
      rootTimesOf tree (selectRoot tree))
    (settled : ∀ place ptp, ports[place]? = some ptp → chosen tree place ptp = ptp) :
    Fixed (tree.withPorts ports) := by
  obtain ⟨priority, portId, rootTimes, _⟩ := fixed_iff.mp fixed
  refine fixed_iff.mpr ⟨?_, ?_, ?_, ?_⟩
  · rw [root]
    exact priority
  · rw [root]
    exact portId
  · rw [root, times]
    exact rootTimes
  · intro place ptp isPort
    have same : chosen (tree.withPorts ports) place ptp = chosen tree place ptp := by
      unfold chosen Mstpd.setDesignated
      rw [root, times]
      rfl
    rw [same]
    exact settled place ptp isPort

/-- The port whose path was taken holds received information. -/
theorem infoIs_of_root {place : Nat} {ptp : RolePort}
    (isRoot : (selectRoot tree).rootPtp = some place)
    (isPort : tree.ports[place]? = some ptp) : isCandidate tree ptp = true := by
  rcases selectRoot_origin tree with own | ⟨port, index, isOther, candidate, same⟩
  · rw [own] at isRoot
    cases isRoot
  · rw [same] at isRoot
    obtain rfl : index = place := Option.some.inj isRoot
    obtain rfl : port = ptp := Option.some.inj (isOther.symm.trans isPort)
    exact candidate

theorem infoIs_of_isCandidate {ptp : RolePort} (candidate : isCandidate tree ptp = true) :
    ptp.infoIs = .ioReceived ∧ ptp.restrictedRole = false ∧
      ptp.portPriority.DesignatedBridgeID ≠ tree.BridgeIdentifier := by
  simp only [isCandidate, Bool.and_eq_true, decide_eq_true_eq, Bool.not_eq_true'] at candidate
  exact ⟨candidate.1.1, candidate.1.2, candidate.2⟩

theorem Fixed.mapIdx {change : Nat → RolePort → RolePort} (fixed : Fixed tree)
    (alike : ∀ place ptp, tree.ports[place]? = some ptp → Alike ptp (change place ptp)) :
    Fixed (tree.withPorts (tree.ports.mapIdx change)) := by
  have root : selectRoot (tree.withPorts (tree.ports.mapIdx change)) = selectRoot tree := by
    have same : offers (tree.withPorts (tree.ports.mapIdx change)) = offers tree := by
      apply List.ext_getElem?
      intro place
      simp only [offers, RoleTree.withPorts, List.getElem?_mapIdx, Option.map_map]
      cases isPort : tree.ports[place]? with
      | none => rfl
      | some ptp => exact congrArg some (alike place ptp isPort).offer
    rw [selectRoot_eq, selectRoot_eq, same]
    rfl
  refine fixed.withPorts root ?_ ?_
  · unfold rootTimesOf
    cases isRoot : (selectRoot tree).rootPtp with
    | none => rfl
    | some place =>
      simp only [Option.bind_some, RoleTree.withPorts, List.getElem?_mapIdx]
      cases isPort : tree.ports[place]? with
      | none => rfl
      | some ptp =>
        have received := (infoIs_of_isCandidate (infoIs_of_root isRoot isPort)).1
        simp only [Option.map_some]
        rw [(alike place ptp isPort).internal received, ← (alike place ptp isPort).same]
        rfl
  · intro place other isPort
    rw [List.getElem?_mapIdx, Option.map_eq_some_iff] at isPort
    obtain ⟨ptp, isPort, rfl⟩ := isPort
    exact (alike place ptp isPort).chosen ((fixed_iff.mp fixed).2.2.2 place ptp isPort)

/-! ## One more selection -/

theorem updated_withRole (ptp : RolePort) (selectedRole : Role) (cist : Bool) :
    updated (ptp.withRole selectedRole (updated ptp cist)) cist = updated ptp cist := by
  unfold updated RolePort.withRole
  by_cases agree : samePriorityAndTimers ptp.portPriority ptp.designatedPriority ptp.portTimes
    ptp.designatedTimes cist = true
  · simp only [if_pos agree]
  · simp only [if_neg agree]

theorem selectRole_selectRole (tree : RoleTree) (root : Root) (ptp : RolePort) (place : Nat) :
    selectRole tree root (selectRole tree root ptp place) place =
      selectRole tree root ptp place := by
  apply selectRole_induction (motive := fun next => selectRole tree root next place = next)
  case ioDisabled =>
    intro infoIs
    exact selectRole_of_ioDisabled infoIs
  case boundary =>
    intro infoIs boundary
    rw [selectRole_of_isBoundary, updated_withRole]
    · rfl
    · exact infoIs
    · exact boundary
  case ioAged =>
    intro infoIs inside
    exact selectRole_of_ioAged infoIs inside
  case ioMine =>
    intro infoIs inside
    rw [selectRole_of_ioMine, updated_withRole]
    · rfl
    · exact infoIs
    · exact inside
  case isRoot =>
    intro infoIs inside isRoot
    exact selectRole_of_root infoIs inside isRoot
  case superior =>
    intro infoIs inside notRoot superior
    exact selectRole_of_superior infoIs inside notRoot superior
  case inferior =>
    intro infoIs inside notRoot inferior
    exact selectRole_of_inferior infoIs inside notRoot inferior

theorem chosen_eq (tree : RoleTree) (place : Nat) (ptp : RolePort) :
    ∃ selectedRole updtInfo, chosen tree place ptp =
      (setDesignated tree (selectRoot tree) ptp).withRole selectedRole updtInfo :=
  selectRole_eq tree (selectRoot tree) (setDesignated tree (selectRoot tree) ptp) place

theorem offer_chosen (tree : RoleTree) (place : Nat) (ptp : RolePort) :
    offer tree place (chosen tree place ptp) = offer tree place ptp := by
  obtain ⟨selectedRole, updtInfo, same⟩ := chosen_eq tree place ptp
  rw [same]
  rfl

/-- To select twice is to select once. -/
theorem fixed_updtRolesTree (tree : RoleTree) : Fixed (updtRolesTree tree).tree := by
  have ports := updtRolesTree_ports tree
  have root : selectRoot (updtRolesTree tree).tree = selectRoot tree := by
    have same : offers (updtRolesTree tree).tree = offers tree := by
      apply List.ext_getElem?
      intro place
      rw [offers, offers, ports, List.getElem?_mapIdx, List.getElem?_mapIdx, List.getElem?_mapIdx]
      cases tree.ports[place]? with
      | none => rfl
      | some ptp => exact congrArg some (offer_chosen tree place ptp)
    rw [selectRoot_eq, selectRoot_eq, same]
    rfl
  have times : rootTimesOf (updtRolesTree tree).tree (selectRoot tree) =
      rootTimesOf tree (selectRoot tree) := by
    unfold rootTimesOf
    rw [ports]
    cases (selectRoot tree).rootPtp with
    | none => rfl
    | some place =>
      simp only [Option.bind_some, List.getElem?_mapIdx]
      cases tree.ports[place]? with
      | none => rfl
      | some ptp =>
        obtain ⟨selectedRole, updtInfo, same⟩ := chosen_eq tree place ptp
        simp only [Option.map_some, same]
        rfl
  refine fixed_iff.mpr ⟨?_, ?_, ?_, ?_⟩
  · rw [root]
    rfl
  · rw [root]
    rfl
  · rw [root, times]
    rfl
  · intro place other isPort
    rw [ports, List.getElem?_mapIdx, Option.map_eq_some_iff] at isPort
    obtain ⟨ptp, _, rfl⟩ := isPort
    obtain ⟨selectedRole, updtInfo, same⟩ := chosen_eq tree place ptp
    have again : setDesignated (updtRolesTree tree).tree (selectRoot tree) (chosen tree place ptp) =
        chosen tree place ptp := by
      unfold setDesignated
      rw [times, same]
      rfl
    unfold chosen at again ⊢
    rw [root, again]
    exact selectRole_selectRole tree _ _ place

/-! ## The port's own vector -/

theorem samePriorityAndTimers_self (vec : PriorityVector) (time : Times) (cist : Bool) :
    samePriorityAndTimers vec vec time time cist = true := by
  simp [samePriorityAndTimers]

theorem setDesignated_update {ptp : RolePort} {root : Root}
    (settled : setDesignated tree root ptp = ptp) :
    setDesignated tree root (pismToUpdate ptp) = pismToUpdate ptp := by
  have priority := congrArg RolePort.designatedPriority settled
  have times := congrArg RolePort.designatedTimes settled
  have hello : ptp.designatedTimes.helloTime = ptp.portTimes.helloTime := by
    rw [← settled]
    rfl
  calc setDesignated tree root (pismToUpdate ptp)
      = { pismToUpdate ptp with
          designatedPriority := (setDesignated tree root ptp).designatedPriority
          designatedTimes := { (setDesignated tree root ptp).designatedTimes with
            helloTime := ptp.designatedTimes.helloTime } } := rfl
    _ = pismToUpdate ptp := by rw [priority, times]; rfl

theorem chosen_update {ptp : RolePort} {place : Nat} (fixed : Fixed tree)
    (cist : tree.cist = true) (isPort : tree.ports[place]? = some ptp)
    (role : ptp.selectedRole = .roleDesignated) :
    chosen tree place (pismToUpdate ptp) = pismToUpdate ptp := by
  have inside : isBoundary tree (pismToUpdate ptp) = false := by
    simp [isBoundary, cist]
  rw [chosen, setDesignated_update (fixed.setDesignated isPort), selectRole_of_ioMine rfl inside]
  have agree : updated (pismToUpdate ptp) tree.cist = false :=
    if_pos (samePriorityAndTimers_self ptp.designatedPriority ptp.designatedTimes tree.cist)
  rw [agree, RolePort.withRole, ← role]
  rfl

/-- A port with `updtInfo` is Designated and not the root port. -/
theorem Placed.of_updtInfo {ptp : RolePort} {place : Nat} (placed : Placed tree place ptp)
    (isPort : tree.ports[place]? = some ptp) (enabled : ptp.infoIs ≠ .ioDisabled)
    (updtInfo : ptp.updtInfo = true) :
    ptp.selectedRole = .roleDesignated ∧ (selectRoot tree).rootPtp ≠ some place := by
  have notRoot (other : ptp.infoIs ≠ .ioReceived) : (selectRoot tree).rootPtp ≠ some place :=
    fun isRoot => other (infoIs_of_isCandidate (infoIs_of_root isRoot isPort)).1
  cases placed with
  | ioDisabled infoIs _ => exact absurd infoIs enabled
  | ioAged infoIs role _ => exact ⟨role, notRoot (by rw [infoIs]; decide)⟩
  | ioMine infoIs role _ => exact ⟨role, notRoot (by rw [infoIs]; decide)⟩
  | isRoot _ _ off _ => cases updtInfo.symm.trans off
  | superior _ _ off _ _ => cases updtInfo.symm.trans off
  | inferior _ role _ root => exact ⟨role, root⟩

/-- The port's own vector in the place of the one it held leaves the selection as it is. -/
theorem Fixed.update {ptp : RolePort} {place : Nat} (fixed : Fixed tree)
    (cist : tree.cist = true) (isPort : tree.ports[place]? = some ptp)
    (enabled : ptp.infoIs ≠ .ioDisabled) (updtInfo : ptp.updtInfo = true) :
    Fixed (tree.withPorts (tree.ports.set place (pismToUpdate ptp))) := by
  obtain ⟨role, lost⟩ := (fixed.placed cist isPort).of_updtInfo isPort enabled updtInfo
  have excluded : isCandidate tree (pismToUpdate ptp) = false := by
    simp [isCandidate, pismToUpdate]
  refine fixed.withPorts (selectRoot_set isPort excluded lost) ?_ ?_
  · unfold rootTimesOf
    cases isRoot : (selectRoot tree).rootPtp with
    | none => rfl
    | some index =>
      have other : place ≠ index := by
        rintro rfl
        exact lost isRoot
      simp only [Option.bind_some, RoleTree.withPorts, List.getElem?_set_ne other]
  · intro index other isOther
    by_cases same : place = index
    · subst same
      rw [List.getElem?_set_self (List.getElem?_eq_some_iff.mp isPort).1] at isOther
      obtain rfl : pismToUpdate ptp = other := Option.some.inj isOther
      exact chosen_update fixed cist isPort role
    · rw [List.getElem?_set_ne same] at isOther
      exact (fixed_iff.mp fixed).2.2.2 index other isOther

end Fixed

/-! ## What one transition does -/

/-- A repeated message is never told from a superior one: the port that sends it is the same. -/
theorem rcvInfo_ne_repeated (ptp : RolePort) (msg : Message) :
    rcvInfo ptp msg ≠ .repeatedDesignatedInfo := by
  unfold rcvInfo
  intro repeated
  simp only at repeated
  split at repeated
  · split at repeated
    · cases repeated
    · rename_i notSuperior
      split at repeated
      · cases repeated
      · split at repeated
        · rename_i agree
          simp only [Bool.and_eq_true] at agree
          rw [eq_of_samePriorityAndTimers agree.1] at notSuperior
          simp [samePort] at notSuperior
        · cases repeated
  · split at repeated <;> cases repeated

theorem pismToReceive_cases (ptp : RolePort) (msg : Message) :
    pismToReceive ptp msg = pismToSuperiorDesignated ptp msg ∧
        rcvInfo ptp msg = .superiorDesignatedInfo ∨
      pismToReceive ptp msg = { ptp with rcvdMsg := none } ∧
        rcvInfo ptp msg ≠ .superiorDesignatedInfo := by
  unfold pismToReceive
  cases info : rcvInfo ptp msg with
  | superiorDesignatedInfo => exact Or.inl ⟨rfl, rfl⟩
  | repeatedDesignatedInfo => exact absurd info (rcvInfo_ne_repeated ptp msg)
  | inferiorDesignatedInfo => exact Or.inr ⟨rfl, by decide⟩
  | inferiorRootAlternateInfo => exact Or.inr ⟨rfl, by decide⟩
  | otherInfo => exact Or.inr ⟨rfl, by decide⟩

/-- What no machine changes of a port. -/
def RolePort.settings (ptp : RolePort) : Nat × Bool × Bool × Nat × Nat :=
  (ptp.portId, ptp.restrictedRole, ptp.sendRSTP, ptp.InternalPortPathCost,
    ptp.ExternalPortPathCost)

/-- A transition asks for a selection, puts the port's own vector in place or drops a message. -/
inductive Moved (ptp : RolePort) : RolePort → Prop where
  | reselect {next : RolePort} (asks : next.reselect = true)
      (same : next.settings = ptp.settings) : Moved ptp next
  | update (enabled : ptp.infoIs ≠ .ioDisabled) (updtInfo : ptp.updtInfo = true) :
      Moved ptp (pismToUpdate ptp)
  | ignore : Moved ptp { ptp with rcvdMsg := none }

theorem Moved.of_receive (ptp : RolePort) (msg : Message) : Moved ptp (pismToReceive ptp msg) := by
  rcases pismToReceive_cases ptp msg with ⟨same, _⟩ | ⟨same, _⟩
  · rw [same]
    exact .reselect rfl rfl
  · rw [same]
    exact .ignore

theorem Moved.of_pismRun {ptp next : RolePort} (moved : pismRun ptp = some next) :
    Moved ptp next := by
  unfold pismRun at moved
  split at moved
  · cases moved
    exact .reselect rfl rfl
  split at moved
  case h_1 =>
    split at moved
    · cases moved
      exact .reselect rfl rfl
    · split at moved
      · cases moved
        exact .reselect rfl rfl
      · cases moved
  case h_2 infoIs =>
    split at moved
    · rename_i updates
      simp only [Bool.and_eq_true] at updates
      cases moved
      exact .update (by rw [infoIs]; decide) updates.2
    · cases moved
  case h_3 notDisabled _ =>
    split at moved
    · cases moved
      exact .of_receive ptp _
    · split at moved
      · cases moved
        exact .reselect rfl rfl
      · split at moved
        · rename_i updates
          simp only [Bool.and_eq_true] at updates
          cases moved
          exact .update notDisabled updates.2
        · cases moved

theorem Moved.settings {ptp next : RolePort} (moved : Moved ptp next) :
    next.settings = ptp.settings := by
  cases moved with
  | reselect _ same => exact same
  | update _ _ => rfl
  | ignore => rfl

/-! ## The invariant -/

/-- A port without a valid selection asks for one, and where none asks the selection is the one
that the vectors give now. -/
structure Current (tree : RoleTree) : Prop where
  flagged : ∀ ptp ∈ tree.ports, ptp.selected = true ∨ ptp.reselect = true
  upToDate : tree.prssmState = .initTree ∨ (∃ ptp ∈ tree.ports, ptp.reselect = true) ∨ Fixed tree

/-- While a port holds received information the messages it hears come from the region that
the information came from. -/
def Event.Steady (tree : RoleTree) : Event → Prop
  | .rx place msg => ∀ ptp, tree.ports[place]? = some ptp → ptp.infoIs = .ioReceived →
      msg.sameRegion = ptp.rcvdInternal
  | _ => True

instance decidableSteady (tree : RoleTree) : ∀ event : Event, Decidable (event.Steady tree)
  | .rx place msg =>
      inferInstanceAs (Decidable (∀ ptp ∈ tree.ports[place]?, ptp.infoIs = .ioReceived →
        msg.sameRegion = ptp.rcvdInternal))
  | .prssm => inferInstanceAs (Decidable True)
  | .pism _ => inferInstanceAs (Decidable True)
  | .prtsm _ => inferInstanceAs (Decidable True)
  | .tick => inferInstanceAs (Decidable True)
  | .link _ _ => inferInstanceAs (Decidable True)

section Current

variable {tree : RoleTree} {change : Nat → RolePort → RolePort}

theorem Current.mapIdx (current : Current tree)
    (flags : ∀ place ptp, tree.ports[place]? = some ptp → (change place ptp).reselect = true ∨
      (change place ptp).reselect = ptp.reselect ∧ (change place ptp).selected = ptp.selected)
    (fixed : Fixed tree →
      (∃ place ptp, tree.ports[place]? = some ptp ∧ (change place ptp).reselect = true) ∨
        Fixed (tree.withPorts (tree.ports.mapIdx change))) :
    Current (tree.withPorts (tree.ports.mapIdx change)) := by
  have member {place : Nat} {ptp : RolePort} (isPort : tree.ports[place]? = some ptp) :
      change place ptp ∈ (tree.withPorts (tree.ports.mapIdx change)).ports := by
    apply List.mem_of_getElem? (i := place)
    simp only [RoleTree.withPorts, List.getElem?_mapIdx, isPort]
    rfl
  constructor
  · intro other isOther
    obtain ⟨place, isOther⟩ := List.mem_iff_getElem?.mp isOther
    simp only [RoleTree.withPorts, List.getElem?_mapIdx, Option.map_eq_some_iff] at isOther
    obtain ⟨ptp, isPort, rfl⟩ := isOther
    rcases flags place ptp isPort with asks | ⟨reselect, selected⟩
    · exact Or.inr asks
    · rw [reselect, selected]
      exact current.flagged ptp (List.mem_of_getElem? isPort)
  · rcases current.upToDate with initial | ⟨ptp, isMember, asks⟩ | upToDate
    · exact Or.inl initial
    · obtain ⟨place, isPort⟩ := List.mem_iff_getElem?.mp isMember
      refine Or.inr (Or.inl ⟨change place ptp, member isPort, ?_⟩)
      rcases flags place ptp isPort with stillAsks | ⟨reselect, _⟩
      · exact stillAsks
      · rw [reselect, asks]
    · rcases fixed upToDate with ⟨place, ptp, isPort, asks⟩ | still
      · exact Or.inr (Or.inl ⟨change place ptp, member isPort, asks⟩)
      · exact Or.inr (Or.inr still)

theorem Current.of_alike (current : Current tree)
    (alike : ∀ place ptp, tree.ports[place]? = some ptp → Alike ptp (change place ptp) ∧
      (change place ptp).reselect = ptp.reselect ∧ (change place ptp).selected = ptp.selected) :
    Current (tree.withPorts (tree.ports.mapIdx change)) :=
  current.mapIdx (fun place ptp isPort => Or.inr (alike place ptp isPort).2)
    fun fixed => Or.inr (fixed.mapIdx fun place ptp isPort => (alike place ptp isPort).1)

theorem mapIdx_set {ports : List RolePort} {place : Nat} {ptp : RolePort}
    {change : RolePort → RolePort} (isPort : ports[place]? = some ptp) :
    ports.mapIdx (fun index other => if index = place then change other else other) =
      ports.set place (change ptp) := by
  apply List.ext_getElem?
  intro index
  rw [List.getElem?_mapIdx]
  by_cases same : place = index
  · subst same
    rw [isPort, List.getElem?_set_self (List.getElem?_eq_some_iff.mp isPort).1]
    simp
  · rw [List.getElem?_set_ne same]
    simp [Ne.symm same]

theorem Current.of_pism (current : Current tree) (cist : tree.cist = true) (place : Nat) :
    Current (tree.step (.pism place)) := by
  refine current.mapIdx ?_ ?_
  · intro index ptp _
    simp only [Event.onPort]
    split
    · cases run : pismRun ptp with
      | none => exact Or.inr ⟨rfl, rfl⟩
      | some next =>
        cases Moved.of_pismRun run with
        | reselect asks _ => exact Or.inl asks
        | update _ _ => exact Or.inr ⟨rfl, rfl⟩
        | ignore => exact Or.inr ⟨rfl, rfl⟩
    · exact Or.inr ⟨rfl, rfl⟩
  · intro fixed
    have unchanged (same : ∀ index ptp, tree.ports[index]? = some ptp →
        Alike ptp (Event.onPort (.pism place) index ptp)) :
        Fixed (tree.withPorts (tree.ports.mapIdx (Event.onPort (.pism place)))) :=
      fixed.mapIdx same
    cases isPort : tree.ports[place]? with
    | none =>
      refine Or.inr (unchanged fun index ptp isOther => ?_)
      have elsewhere : index ≠ place := by
        rintro rfl
        cases isPort.symm.trans isOther
      rw [Event.onPort, if_neg elsewhere]
      exact Alike.refl ptp
    | some ptp =>
      have here : Event.onPort (.pism place) place ptp = (pismRun ptp).getD ptp := if_pos rfl
      have onlyHere (alike : Alike ptp ((pismRun ptp).getD ptp)) :
          Fixed (tree.withPorts (tree.ports.mapIdx (Event.onPort (.pism place)))) := by
        refine unchanged fun index other isOther => ?_
        rw [Event.onPort]
        split
        · rename_i same
          subst same
          obtain rfl : ptp = other := Option.some.inj (isPort.symm.trans isOther)
          exact alike
        · exact Alike.refl other
      cases run : pismRun ptp with
      | none =>
        rw [run] at onlyHere
        exact Or.inr (onlyHere (Alike.refl ptp))
      | some next =>
        rw [run] at here onlyHere
        cases Moved.of_pismRun run with
        | reselect asks _ => exact Or.inl ⟨place, ptp, isPort, here ▸ asks⟩
        | ignore => exact Or.inr (onlyHere ⟨rfl, fun _ => rfl⟩)
        | update enabled updtInfo =>
          have set : tree.ports.mapIdx (Event.onPort (.pism place)) =
              tree.ports.set place ((pismRun ptp).getD ptp) := mapIdx_set isPort
          rw [set, run]
          exact Or.inr (fixed.update cist isPort enabled updtInfo)

theorem alike_onPort {event : Event} (steady : event.Steady tree) {index : Nat} {ptp : RolePort}
    (isPort : tree.ports[index]? = some ptp) (other : ∀ place, event ≠ .pism place) :
    Alike ptp (event.onPort index ptp) ∧ (event.onPort index ptp).reselect = ptp.reselect ∧
      (event.onPort index ptp).selected = ptp.selected := by
  have unchanged : Alike ptp ptp ∧ ptp.reselect = ptp.reselect ∧ ptp.selected = ptp.selected :=
    ⟨Alike.refl ptp, rfl, rfl⟩
  cases event with
  | prssm => exact unchanged
  | pism place => exact absurd rfl (other place)
  | prtsm place =>
    simp only [Event.onPort, prtsmRun]
    split
    · split
      · exact ⟨⟨rfl, fun _ => rfl⟩, rfl, rfl⟩
      · exact unchanged
    · exact unchanged
  | rx place msg =>
    simp only [Event.onPort, prsmToReceive]
    split
    · rename_i same
      subst same
      split
      · exact ⟨⟨rfl, fun infoIs => steady ptp isPort infoIs⟩, rfl, rfl⟩
      · exact unchanged
    · exact unchanged
  | tick => exact ⟨⟨rfl, fun _ => rfl⟩, rfl, rfl⟩
  | link place up =>
    simp only [Event.onPort]
    split
    · exact ⟨⟨rfl, fun _ => rfl⟩, rfl, rfl⟩
    · exact unchanged

theorem setSelectedTree_eq (tree : RoleTree) :
    setSelectedTree tree =
      tree.withPorts (tree.ports.mapIdx fun _ ptp => { ptp with selected := true }) := by
  have same : tree.ports.map (fun ptp => { ptp with selected := true }) =
      tree.ports.mapIdx fun _ ptp => { ptp with selected := true } := by
    apply List.ext_getElem?
    intro place
    rw [List.getElem?_map, List.getElem?_mapIdx]
  rw [setSelectedTree, same]
  rfl

/-- A selection leaves nothing to ask for. -/
theorem Current.of_roleSelection (tree : RoleTree) : Current (prssmToRoleSelection tree) := by
  constructor
  · intro ptp isPort
    simp only [prssmToRoleSelection, setSelectedTree, List.mem_map] at isPort
    obtain ⟨_, _, rfl⟩ := isPort
    exact Or.inl rfl
  · rw [prssmToRoleSelection, setSelectedTree_eq]
    exact Or.inr (Or.inr ((fixed_updtRolesTree _).mapIdx fun _ _ _ => ⟨rfl, fun _ => rfl⟩))

/-- Every event keeps the invariant. -/
theorem Current.step (current : Current tree) (cist : tree.cist = true) {event : Event}
    (steady : event.Steady tree) : Current (tree.step event) := by
  cases event with
  | prssm =>
    simp only [RoleTree.step, prssmRun]
    split
    · exact Current.of_roleSelection tree
    · exact current
  | pism place => exact current.of_pism cist place
  | prtsm place => exact current.of_alike fun _ _ isPort => alike_onPort steady isPort (by simp)
  | rx place msg => exact current.of_alike fun _ _ isPort => alike_onPort steady isPort (by simp)
  | tick => exact current.of_alike fun _ _ isPort => alike_onPort steady isPort (by simp)
  | link place up => exact current.of_alike fun _ _ isPort => alike_onPort steady isPort (by simp)

/-- Where no machine asks for anything, the selection is up to date. -/
theorem Current.fixed (current : Current tree) (idle : prssmRun tree = none) :
    Fixed tree ∧ ∀ ptp ∈ tree.ports, ptp.selected = true := by
  unfold prssmRun at idle
  split at idle
  · cases idle
  rename_i still
  simp only [Bool.or_eq_true, decide_eq_true_eq, List.any_eq_true, not_or, not_exists, not_and]
    at still
  constructor
  · rcases current.upToDate with initial | ⟨ptp, isMember, asks⟩ | fixed
    · exact absurd initial still.1
    · exact absurd asks (still.2 ptp isMember)
    · exact fixed
  · intro ptp isMember
    exact (current.flagged ptp isMember).resolve_right (still.2 ptp isMember)

end Current

end TfortisPack.Mstpd
