import Mathlib.Algebra.Ring.Nat
import Mathlib.Data.Prod.Lex
import Mathlib.Order.Lattice
import TfortisPack.Mstpd.Bridge

/-!
# Port roles (`mstp.c`)

`updtRolesTree` selects the root of a tree and a role for each of its ports from
the priority vectors that the ports hold.  Identifiers and costs stand in network
byte order, so that `memcmp` compares them as numbers.  The fields of a port and
of its record in the common tree (`cist`) that the selection reads are in one
structure with those of the record itself.
-/

namespace TfortisPack.Mstpd

/-! ## Vectors -/

structure PriorityVector where
  RRootID : Nat
  IntRootPathCost : Nat
  DesignatedBridgeID : Nat
  DesignatedPortID : Nat
  RootID : Nat
  ExtRootPathCost : Nat
  deriving DecidableEq, Repr

structure Times where
  remainingHops : Nat
  forwardDelay : Nat
  maxAge : Nat
  messageAge : Nat
  helloTime : Nat
  deriving DecidableEq, Repr

def samePriorityAndTimers (vec1 vec2 : PriorityVector) (time1 time2 : Times) (cist : Bool) : Bool :=
  (!cist || (time1.forwardDelay = time2.forwardDelay && time1.maxAge = time2.maxAge &&
      time1.messageAge = time2.messageAge && time1.helloTime = time2.helloTime &&
      vec1.RootID = vec2.RootID && vec1.ExtRootPathCost = vec2.ExtRootPathCost)) &&
    time1.remainingHops = time2.remainingHops && vec1.RRootID = vec2.RRootID &&
    vec1.IntRootPathCost = vec2.IntRootPathCost &&
    vec1.DesignatedBridgeID = vec2.DesignatedBridgeID &&
    vec1.DesignatedPortID = vec2.DesignatedPortID

/-- Worse, better, or `rest` where the components are the same. -/
def compared (first second : Nat) (rest : Bool) : Bool :=
  if second < first then false else if first < second then true else rest

def betterorsamePriority (vec1 vec2 : PriorityVector) (pId1 pId2 : Nat) (cist : Bool) : Bool :=
  let common := compared vec1.RRootID vec2.RRootID
    (compared vec1.IntRootPathCost vec2.IntRootPathCost
      (compared vec1.DesignatedBridgeID vec2.DesignatedBridgeID
        (compared vec1.DesignatedPortID vec2.DesignatedPortID (pId1 ≤ pId2))))
  if cist then
    compared vec1.RootID vec2.RootID (compared vec1.ExtRootPathCost vec2.ExtRootPathCost common)
  else common

/-! ## Ports and trees -/

inductive InfoOrigin where
  | ioDisabled
  | ioMine
  | ioAged
  | ioReceived
  deriving DecidableEq, Repr

inductive Role where
  | roleDisabled
  | roleRoot
  | roleDesignated
  | roleAlternate
  | roleBackup
  | roleMaster
  deriving DecidableEq, Repr

/-- What `rcvInfo` reads of a received BPDU: the message vector and times, whether the role
of its sender is Designated, and whether it comes from the same region. -/
structure Message where
  msgPriority : PriorityVector
  msgTimes : Times
  roleIsDesignated : Bool
  sameRegion : Bool
  deriving DecidableEq, Repr

/-- `rcvdMsg` is the message itself while it is set. -/
structure RolePort where
  portId : Nat
  portEnabled : Bool
  infoIs : InfoOrigin
  reselect : Bool
  selected : Bool
  rcvdMsg : Option Message
  rcvdInfoWhile : Nat
  portPriority : PriorityVector
  portTimes : Times
  InternalPortPathCost : Nat
  designatedPriority : PriorityVector
  designatedTimes : Times
  selectedRole : Role
  role : Role
  updtInfo : Bool
  restrictedRole : Bool
  rcvdInternal : Bool
  infoInternal : Bool
  sendRSTP : Bool
  ExternalPortPathCost : Nat
  cistInfoIs : InfoOrigin
  cistSelectedRole : Role
  deriving DecidableEq, Repr

inductive prssm where
  | initTree
  | roleSelection
  deriving DecidableEq, Repr

structure RoleTree where
  MSTID : Nat
  prssmState : prssm
  BridgeIdentifier : Nat
  BridgePriority : PriorityVector
  BridgeTimes : Times
  rootPriority : PriorityVector
  rootPortId : Nat
  rootTimes : Times
  ports : List RolePort
  deriving DecidableEq, Repr

/-! ## The root -/

section Tree

variable (tree : RoleTree)

def RoleTree.cist : Bool :=
  tree.MSTID = 0

/-- The port counts for the root path. -/
def isCandidate (ptp : RolePort) : Bool :=
  ptp.infoIs = .ioReceived && !ptp.restrictedRole &&
    ptp.portPriority.DesignatedBridgeID ≠ tree.BridgeIdentifier

def rootPathPriority (ptp : RolePort) : PriorityVector :=
  if ptp.rcvdInternal then
    { ptp.portPriority with
      IntRootPathCost := (ptp.portPriority.IntRootPathCost + ptp.InternalPortPathCost) % 2 ^ 32 }
  else if tree.cist then
    { ptp.portPriority with
      ExtRootPathCost := (ptp.portPriority.ExtRootPathCost + ptp.ExternalPortPathCost) % 2 ^ 32
      RRootID := tree.BridgeIdentifier
      IntRootPathCost := 0 }
  else ptp.portPriority

/-- The best vector so far with its port, which is known by its place in the list. -/
structure Root where
  rootPriority : PriorityVector
  rootPortId : Nat
  rootPtp : Option Nat

def betterRoot (root : Root) (ptp : RolePort × Nat) : Root :=
  if isCandidate tree ptp.1 then
    if betterorsamePriority (rootPathPriority tree ptp.1) root.rootPriority ptp.1.portId
        root.rootPortId tree.cist then
      ⟨rootPathPriority tree ptp.1, ptp.1.portId, some ptp.2⟩
    else root
  else root

def selectRoot : Root :=
  tree.ports.zipIdx.foldl (betterRoot tree) ⟨tree.BridgePriority, 0, none⟩

def rootTimesOf (root : Root) : Times :=
  match root.rootPtp.bind (tree.ports[·]?) with
  | none => tree.BridgeTimes
  | some ptp =>
      if ptp.rcvdInternal then
        { ptp.portTimes with remainingHops := ptp.portTimes.remainingHops - 1 }
      else { ptp.portTimes with messageAge := (ptp.portTimes.messageAge + 1) % 256 }

/-! ## The roles -/

/-- The designated vector and times of a port. -/
def setDesignated (root : Root) (ptp : RolePort) : RolePort :=
  { ptp with
    designatedPriority := { root.rootPriority with
      DesignatedBridgeID := tree.BridgeIdentifier
      DesignatedPortID := ptp.portId
      RRootID := if tree.cist && !ptp.sendRSTP then tree.BridgeIdentifier
        else root.rootPriority.RRootID }
    designatedTimes := { rootTimesOf tree root with helloTime := ptp.portTimes.helloTime } }

/-- `updtInfo` is set where the port does not hold its designated vector and times. -/
def updated (ptp : RolePort) (cist : Bool) : Bool :=
  if samePriorityAndTimers ptp.portPriority ptp.designatedPriority ptp.portTimes
      ptp.designatedTimes cist then ptp.updtInfo
  else true

/-- The port of an MSTI follows the common tree at the boundary of the region. -/
def isBoundary (ptp : RolePort) : Bool :=
  !tree.cist && ptp.cistInfoIs = .ioReceived && !ptp.infoInternal

/-- The role of the port at this place, and `updtInfo`. -/
def selectRole (root : Root) (ptp : RolePort) (place : Nat) : RolePort :=
  if ptp.infoIs = .ioDisabled then { ptp with selectedRole := .roleDisabled }
  else if isBoundary tree ptp then
    { ptp with
      selectedRole := if ptp.cistSelectedRole = .roleRoot then .roleMaster else ptp.cistSelectedRole
      updtInfo := updated ptp false }
  else
    match ptp.infoIs with
    | .ioAged => { ptp with selectedRole := .roleDesignated, updtInfo := true }
    | .ioMine => { ptp with selectedRole := .roleDesignated, updtInfo := updated ptp tree.cist }
    | .ioReceived =>
        if root.rootPtp = some place then
          { ptp with selectedRole := .roleRoot, updtInfo := false }
        else if betterorsamePriority ptp.portPriority ptp.designatedPriority 0 0 tree.cist then
          { ptp with
            selectedRole := if ptp.portPriority.DesignatedBridgeID ≠ tree.BridgeIdentifier
              then .roleAlternate else .roleBackup
            updtInfo := false }
        else { ptp with selectedRole := .roleDesignated, updtInfo := true }
    | .ioDisabled => ptp

/-- The tree behind the selection, whether `syncMaster` is called, and for which ports
`reselectMSTIs` is. -/
structure Selection where
  tree : RoleTree
  syncMaster : Bool
  reselectMSTIs : List Bool

def updtRolesTree : Selection :=
  let root := selectRoot tree
  let ports := tree.ports.zipIdx.map fun ptp =>
    selectRole tree root (setDesignated tree root ptp.1) ptp.2
  { tree := { tree with
      rootPriority := root.rootPriority
      rootPortId := root.rootPortId
      rootTimes := rootTimesOf tree root
      ports := ports }
    syncMaster := tree.cist && root.rootPriority.RRootID ≠ tree.rootPriority.RRootID &&
      (root.rootPriority.ExtRootPathCost ≠ 0 || tree.rootPriority.ExtRootPathCost ≠ 0)
    reselectMSTIs := ports.map fun ptp =>
      tree.cist && ptp.infoIs = .ioReceived && ptp.selectedRole ≠ ptp.role }

end Tree

/-! ## The order of the vectors -/

/-- The components in the order in which they are compared. -/
def key (cist : Bool) (vec : PriorityVector) (pId : Nat) : ℕ ×ₗ ℕ ×ₗ ℕ ×ₗ ℕ ×ₗ ℕ ×ₗ ℕ ×ₗ ℕ :=
  toLex (if cist then vec.RootID else 0, toLex (if cist then vec.ExtRootPathCost else 0,
    toLex (vec.RRootID, toLex (vec.IntRootPathCost, toLex (vec.DesignatedBridgeID,
      toLex (vec.DesignatedPortID, pId))))))

theorem compared_iff {first second : Nat} {rest : Bool} :
    compared first second rest = true ↔ first < second ∨ first = second ∧ rest = true := by
  unfold compared
  split
  · simp only [Bool.false_eq_true, false_iff]
    omega
  · split
    · simp only [true_iff]
      omega
    · have same : first = second := by omega
      simp [same]

theorem betterorsamePriority_iff {vec1 vec2 : PriorityVector} {pId1 pId2 : Nat} {cist : Bool} :
    betterorsamePriority vec1 vec2 pId1 pId2 cist = true ↔
      key cist vec1 pId1 ≤ key cist vec2 pId2 := by
  cases cist with
  | true =>
    simp only [betterorsamePriority, if_true, compared_iff, key, Prod.Lex.toLex_le_toLex,
      decide_eq_true_eq]
  | false =>
    simp only [betterorsamePriority, Bool.false_eq_true, if_false, compared_iff, key,
      Prod.Lex.toLex_le_toLex, decide_eq_true_eq, lt_irrefl, false_or, true_and]

/-! ## The best root -/

/-- A vector of the selection with its port. -/
def Root.key (root : Root) (cist : Bool) : ℕ ×ₗ ℕ ×ₗ ℕ ×ₗ ℕ ×ₗ ℕ ×ₗ ℕ ×ₗ ℕ :=
  Mstpd.key cist root.rootPriority root.rootPortId

theorem foldl_betterRoot (tree : RoleTree) (ports : List (RolePort × Nat)) (root : Root) :
    (ports.foldl (betterRoot tree) root).key tree.cist ≤ root.key tree.cist ∧
      (∀ ptp ∈ ports, isCandidate tree ptp.1 = true →
        (ports.foldl (betterRoot tree) root).key tree.cist ≤
          key tree.cist (rootPathPriority tree ptp.1) ptp.1.portId) ∧
      (ports.foldl (betterRoot tree) root = root ∨
        ∃ ptp ∈ ports, isCandidate tree ptp.1 = true ∧
          ports.foldl (betterRoot tree) root =
            ⟨rootPathPriority tree ptp.1, ptp.1.portId, some ptp.2⟩) := by
  induction ports generalizing root with
  | nil => exact ⟨le_refl _, by simp, Or.inl rfl⟩
  | cons ptp ports inductionHypothesis =>
    rw [List.foldl_cons]
    obtain ⟨below, candidates, origin⟩ := inductionHypothesis (betterRoot tree root ptp)
    have step : (betterRoot tree root ptp).key tree.cist ≤ root.key tree.cist ∧
        (isCandidate tree ptp.1 = true → (betterRoot tree root ptp).key tree.cist ≤
          key tree.cist (rootPathPriority tree ptp.1) ptp.1.portId) ∧
        (betterRoot tree root ptp = root ∨ isCandidate tree ptp.1 = true ∧
          betterRoot tree root ptp =
            ⟨rootPathPriority tree ptp.1, ptp.1.portId, some ptp.2⟩) := by
      unfold betterRoot
      split
      · rename_i candidate
        split
        · rename_i better
          exact ⟨betterorsamePriority_iff.mp better, fun _ => le_refl _, Or.inr ⟨candidate, rfl⟩⟩
        · rename_i worse
          refine ⟨le_refl _, fun _ => ?_, Or.inl rfl⟩
          exact le_of_not_ge fun better => worse (betterorsamePriority_iff.mpr better)
      · rename_i excluded
        exact ⟨le_refl _, fun candidate => absurd candidate excluded, Or.inl rfl⟩
    refine ⟨below.trans step.1, ?_, ?_⟩
    · intro other member candidate
      rcases List.mem_cons.mp member with rfl | later
      · exact below.trans (step.2.1 candidate)
      · exact candidates other later candidate
    · rcases origin with same | ⟨other, member, candidate, same⟩
      · rw [same]
        rcases step.2.2 with unchanged | ⟨candidate, new⟩
        · exact Or.inl unchanged
        · exact Or.inr ⟨ptp, List.mem_cons_self, candidate, new⟩
      · exact Or.inr ⟨other, List.mem_cons_of_mem _ member, candidate, same⟩

theorem mem_zipIdx {ports : List RolePort} {ptp : RolePort × Nat} :
    ptp ∈ ports.zipIdx ↔ ports[ptp.2]? = some ptp.1 :=
  List.mem_zipIdx_iff_getElem?

/-- No port that counts has a better path to a root. -/
theorem selectRoot_le {tree : RoleTree} {ptp : RolePort} {place : Nat}
    (isPort : tree.ports[place]? = some ptp) (candidate : isCandidate tree ptp = true) :
    (selectRoot tree).key tree.cist ≤ key tree.cist (rootPathPriority tree ptp) ptp.portId :=
  (foldl_betterRoot tree tree.ports.zipIdx _).2.1 (ptp, place) (mem_zipIdx.mpr isPort) candidate

/-- The root is the vector of the bridge itself or the root path of a port that counts. -/
theorem selectRoot_origin (tree : RoleTree) :
    selectRoot tree = ⟨tree.BridgePriority, 0, none⟩ ∨
      ∃ ptp place, tree.ports[place]? = some ptp ∧ isCandidate tree ptp = true ∧
        selectRoot tree = ⟨rootPathPriority tree ptp, ptp.portId, some place⟩ := by
  rcases (foldl_betterRoot tree tree.ports.zipIdx _).2.2 with own | ⟨ptp, member, candidate, same⟩
  · exact Or.inl own
  · exact Or.inr ⟨ptp.1, ptp.2, mem_zipIdx.mp member, candidate, same⟩

/-! ## The roles, branch by branch -/

/-- The port with another role and another `updtInfo`. -/
def RolePort.withRole (ptp : RolePort) (selectedRole : Role) (updtInfo : Bool) : RolePort :=
  { ptp with selectedRole := selectedRole, updtInfo := updtInfo }

section Branches

variable {tree : RoleTree} {root : Root} {ptp : RolePort} {place : Nat}

theorem selectRole_of_ioDisabled (infoIs : ptp.infoIs = .ioDisabled) :
    selectRole tree root ptp place = ptp.withRole .roleDisabled ptp.updtInfo :=
  if_pos infoIs

theorem selectRole_of_isBoundary (infoIs : ptp.infoIs ≠ .ioDisabled)
    (boundary : isBoundary tree ptp = true) :
    selectRole tree root ptp place = ptp.withRole
      (if ptp.cistSelectedRole = .roleRoot then .roleMaster else ptp.cistSelectedRole)
      (updated ptp false) := by
  simp [selectRole, RolePort.withRole, infoIs, boundary]

theorem selectRole_of_ioAged (infoIs : ptp.infoIs = .ioAged)
    (inside : isBoundary tree ptp = false) :
    selectRole tree root ptp place = ptp.withRole .roleDesignated true := by
  simp [selectRole, RolePort.withRole, infoIs, inside]

theorem selectRole_of_ioMine (infoIs : ptp.infoIs = .ioMine)
    (inside : isBoundary tree ptp = false) :
    selectRole tree root ptp place = ptp.withRole .roleDesignated (updated ptp tree.cist) := by
  simp [selectRole, RolePort.withRole, infoIs, inside]

theorem selectRole_of_root (infoIs : ptp.infoIs = .ioReceived)
    (inside : isBoundary tree ptp = false) (isRoot : root.rootPtp = some place) :
    selectRole tree root ptp place = ptp.withRole .roleRoot false := by
  simp [selectRole, RolePort.withRole, infoIs, inside, isRoot]

theorem selectRole_of_superior (infoIs : ptp.infoIs = .ioReceived)
    (inside : isBoundary tree ptp = false) (notRoot : root.rootPtp ≠ some place)
    (superior :
      betterorsamePriority ptp.portPriority ptp.designatedPriority 0 0 tree.cist = true) :
    selectRole tree root ptp place = ptp.withRole
      (if ptp.portPriority.DesignatedBridgeID ≠ tree.BridgeIdentifier then .roleAlternate
        else .roleBackup) false := by
  simp [selectRole, RolePort.withRole, infoIs, inside, notRoot, superior]

theorem selectRole_of_inferior (infoIs : ptp.infoIs = .ioReceived)
    (inside : isBoundary tree ptp = false) (notRoot : root.rootPtp ≠ some place)
    (inferior :
      ¬betterorsamePriority ptp.portPriority ptp.designatedPriority 0 0 tree.cist = true) :
    selectRole tree root ptp place = ptp.withRole .roleDesignated true := by
  simp [selectRole, RolePort.withRole, infoIs, inside, notRoot, inferior]

/-- The branch that a port takes says all about its new role. -/
theorem selectRole_induction {motive : RolePort → Prop}
    (ioDisabled : ptp.infoIs = .ioDisabled → motive (ptp.withRole .roleDisabled ptp.updtInfo))
    (boundary : ptp.infoIs ≠ .ioDisabled → isBoundary tree ptp = true → motive (ptp.withRole
      (if ptp.cistSelectedRole = .roleRoot then .roleMaster else ptp.cistSelectedRole)
      (updated ptp false)))
    (ioAged : ptp.infoIs = .ioAged → isBoundary tree ptp = false →
      motive (ptp.withRole .roleDesignated true))
    (ioMine : ptp.infoIs = .ioMine → isBoundary tree ptp = false →
      motive (ptp.withRole .roleDesignated (updated ptp tree.cist)))
    (isRoot : ptp.infoIs = .ioReceived → isBoundary tree ptp = false →
      root.rootPtp = some place → motive (ptp.withRole .roleRoot false))
    (superior : ptp.infoIs = .ioReceived → isBoundary tree ptp = false →
      root.rootPtp ≠ some place →
      betterorsamePriority ptp.portPriority ptp.designatedPriority 0 0 tree.cist = true →
      motive (ptp.withRole
        (if ptp.portPriority.DesignatedBridgeID ≠ tree.BridgeIdentifier then .roleAlternate
          else .roleBackup) false))
    (inferior : ptp.infoIs = .ioReceived → isBoundary tree ptp = false →
      root.rootPtp ≠ some place →
      ¬betterorsamePriority ptp.portPriority ptp.designatedPriority 0 0 tree.cist = true →
      motive (ptp.withRole .roleDesignated true)) :
    motive (selectRole tree root ptp place) := by
  by_cases disabled : ptp.infoIs = .ioDisabled
  · rw [selectRole_of_ioDisabled disabled]
    exact ioDisabled disabled
  cases inside : isBoundary tree ptp with
  | true =>
    rw [selectRole_of_isBoundary disabled inside]
    exact boundary disabled inside
  | false =>
    cases infoIs : ptp.infoIs with
    | ioDisabled => exact absurd infoIs disabled
    | ioAged =>
      rw [selectRole_of_ioAged infoIs inside]
      exact ioAged infoIs inside
    | ioMine =>
      rw [selectRole_of_ioMine infoIs inside]
      exact ioMine infoIs inside
    | ioReceived =>
      by_cases rootPtp : root.rootPtp = some place
      · rw [selectRole_of_root infoIs inside rootPtp]
        exact isRoot infoIs inside rootPtp
      by_cases better :
        betterorsamePriority ptp.portPriority ptp.designatedPriority 0 0 tree.cist = true
      · rw [selectRole_of_superior infoIs inside rootPtp better]
        exact superior infoIs inside rootPtp better
      · rw [selectRole_of_inferior infoIs inside rootPtp better]
        exact inferior infoIs inside rootPtp better

/-- Only the role and `updtInfo` change. -/
theorem selectRole_eq (tree : RoleTree) (root : Root) (ptp : RolePort) (place : Nat) :
    ∃ selectedRole updtInfo,
      selectRole tree root ptp place = ptp.withRole selectedRole updtInfo := by
  apply selectRole_induction (motive := fun next => ∃ selectedRole updtInfo,
    next = ptp.withRole selectedRole updtInfo)
  all_goals intros; exact ⟨_, _, rfl⟩

end Branches

/-- Of the common tree every component of the vectors is compared. -/
theorem eq_of_samePriorityAndTimers {vec1 vec2 : PriorityVector} {time1 time2 : Times}
    (agree : samePriorityAndTimers vec1 vec2 time1 time2 true = true) : vec1 = vec2 := by
  cases vec1
  cases vec2
  simp only [samePriorityAndTimers, Bool.not_true, Bool.false_or, Bool.and_eq_true,
    decide_eq_true_eq] at agree
  obtain ⟨⟨⟨⟨⟨⟨⟨_, root⟩, external⟩, _⟩, regional⟩, internal⟩, bridge⟩, port⟩ := agree
  subst root external regional internal bridge port
  rfl

/-! ## Selections that are up to date -/

/-- To select once more would change nothing. -/
def Fixed (tree : RoleTree) : Prop :=
  (updtRolesTree tree).tree = tree

/-- What the selection makes of a port. -/
def chosen (tree : RoleTree) (place : Nat) (ptp : RolePort) : RolePort :=
  selectRole tree (selectRoot tree) (setDesignated tree (selectRoot tree) ptp) place

theorem updtRolesTree_ports (tree : RoleTree) :
    (updtRolesTree tree).tree.ports = tree.ports.mapIdx (chosen tree) := by
  rw [List.mapIdx_eq_zipIdx_map]
  rfl

theorem fixed_iff {tree : RoleTree} :
    Fixed tree ↔ tree.rootPriority = (selectRoot tree).rootPriority ∧
      tree.rootPortId = (selectRoot tree).rootPortId ∧
      tree.rootTimes = rootTimesOf tree (selectRoot tree) ∧
      ∀ place ptp, tree.ports[place]? = some ptp → chosen tree place ptp = ptp := by
  have pointwise : tree.ports.mapIdx (chosen tree) = tree.ports ↔
      ∀ place ptp, tree.ports[place]? = some ptp → chosen tree place ptp = ptp := by
    constructor
    · intro same place ptp isPort
      have atPlace := congrArg (fun ports : List RolePort => ports[place]?) same
      simpa [isPort] using atPlace
    · intro same
      apply List.ext_getElem?
      intro place
      rw [List.getElem?_mapIdx]
      cases isPort : tree.ports[place]? with
      | none => rfl
      | some ptp => exact congrArg some (same place ptp isPort)
  rw [← pointwise, ← updtRolesTree_ports]
  constructor
  · intro fixed
    exact ⟨(congrArg RoleTree.rootPriority fixed).symm, (congrArg RoleTree.rootPortId fixed).symm,
      (congrArg RoleTree.rootTimes fixed).symm, congrArg RoleTree.ports fixed⟩
  · rintro ⟨priority, portId, times, ports⟩
    calc (updtRolesTree tree).tree
        = { tree with
            rootPriority := (selectRoot tree).rootPriority
            rootPortId := (selectRoot tree).rootPortId
            rootTimes := rootTimesOf tree (selectRoot tree)
            ports := (updtRolesTree tree).tree.ports } := rfl
      _ = tree := by rw [ports, ← priority, ← portId, ← times]

/-- Where a port stands in a selection that is up to date. -/
inductive Placed (tree : RoleTree) (place : Nat) (ptp : RolePort) : Prop where
  | ioDisabled (infoIs : ptp.infoIs = .ioDisabled) (role : ptp.selectedRole = .roleDisabled)
  | ioAged (infoIs : ptp.infoIs = .ioAged) (role : ptp.selectedRole = .roleDesignated)
      (updtInfo : ptp.updtInfo = true)
  | ioMine (infoIs : ptp.infoIs = .ioMine) (role : ptp.selectedRole = .roleDesignated)
      (updtInfo : ptp.updtInfo = updated ptp true)
  | isRoot (infoIs : ptp.infoIs = .ioReceived) (role : ptp.selectedRole = .roleRoot)
      (updtInfo : ptp.updtInfo = false) (root : (selectRoot tree).rootPtp = some place)
  | superior (infoIs : ptp.infoIs = .ioReceived)
      (role : ptp.selectedRole = .roleAlternate ∨ ptp.selectedRole = .roleBackup)
      (updtInfo : ptp.updtInfo = false) (root : (selectRoot tree).rootPtp ≠ some place)
      (better : betterorsamePriority ptp.portPriority ptp.designatedPriority 0 0 true = true)
  | inferior (infoIs : ptp.infoIs = .ioReceived) (role : ptp.selectedRole = .roleDesignated)
      (updtInfo : ptp.updtInfo = true) (root : (selectRoot tree).rootPtp ≠ some place)

section Fixed

variable {tree : RoleTree} {ptp : RolePort} {place : Nat}

theorem Fixed.setDesignated (fixed : Fixed tree) (isPort : tree.ports[place]? = some ptp) :
    setDesignated tree (selectRoot tree) ptp = ptp := by
  have same := (fixed_iff.mp fixed).2.2.2 place ptp isPort
  obtain ⟨selectedRole, updtInfo, shape⟩ := selectRole_eq tree (selectRoot tree)
    (Mstpd.setDesignated tree (selectRoot tree) ptp) place
  rw [chosen, shape] at same
  have priority := congrArg RolePort.designatedPriority same
  have times := congrArg RolePort.designatedTimes same
  simp only [RolePort.withRole] at priority times
  calc Mstpd.setDesignated tree (selectRoot tree) ptp
      = { ptp with
          designatedPriority :=
            (Mstpd.setDesignated tree (selectRoot tree) ptp).designatedPriority
          designatedTimes :=
            (Mstpd.setDesignated tree (selectRoot tree) ptp).designatedTimes } := rfl
    _ = ptp := by rw [priority, times]

theorem Fixed.selectRole (fixed : Fixed tree) (isPort : tree.ports[place]? = some ptp) :
    selectRole tree (selectRoot tree) ptp place = ptp := by
  have same := (fixed_iff.mp fixed).2.2.2 place ptp isPort
  rw [chosen, fixed.setDesignated isPort] at same
  exact same

theorem Fixed.placed (fixed : Fixed tree) (cist : tree.cist = true)
    (isPort : tree.ports[place]? = some ptp) : Placed tree place ptp := by
  have inside : isBoundary tree ptp = false := by
    simp [isBoundary, cist]
  have same := fixed.selectRole isPort
  revert same
  apply selectRole_induction (motive := fun next => next = ptp → Placed tree place ptp)
  case ioDisabled =>
    intro infoIs same
    exact .ioDisabled infoIs (congrArg RolePort.selectedRole same).symm
  case boundary =>
    intro _ boundary
    rw [inside] at boundary
    cases boundary
  case ioAged =>
    intro infoIs _ same
    exact .ioAged infoIs (congrArg RolePort.selectedRole same).symm
      (congrArg RolePort.updtInfo same).symm
  case ioMine =>
    intro infoIs _ same
    rw [cist] at same
    exact .ioMine infoIs (congrArg RolePort.selectedRole same).symm
      (congrArg RolePort.updtInfo same).symm
  case isRoot =>
    intro infoIs _ root same
    exact .isRoot infoIs (congrArg RolePort.selectedRole same).symm
      (congrArg RolePort.updtInfo same).symm root
  case superior =>
    intro infoIs _ root better same
    rw [cist] at better
    have role := (congrArg RolePort.selectedRole same).symm
    simp only [RolePort.withRole] at role
    refine .superior infoIs ?_ (congrArg RolePort.updtInfo same).symm root better
    split at role
    · exact Or.inl role
    · exact Or.inr role
  case inferior =>
    intro infoIs _ root _ same
    exact .inferior infoIs (congrArg RolePort.selectedRole same).symm
      (congrArg RolePort.updtInfo same).symm root

end Fixed

end TfortisPack.Mstpd
