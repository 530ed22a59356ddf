import TfortisPack.Mstpd.Allocation

/-!
# Commands keep a bridge consistent

Whatever commands come, in whatever order, and wherever the memory gives out:
the trees stay sorted with the common tree in front, the records stay a matrix,
each filtering database belongs to a tree that there is, and the digest is that
of the VLANs as they are.  A command that fails changes nothing.
-/

namespace TfortisPack.Mstpd

open Library

/-- What holds of a bridge between commands. -/
structure Consistent {δ : Type} (hmacMd5 : List Nat → δ) (br : Bridge δ) : Prop where
  matrix : ∃ matrix, Represents br matrix
  cist : (br.trees.map Tree.MSTID).head? = some 0
  few : br.trees.length ≤ maxImplementationMstis + 1
  identifiers : ∀ mstid ∈ br.trees.map Tree.MSTID, mstid ≤ maxMstid
  allocated : ∀ fid ≤ maxFid, br.fid2mstid fid ∈ br.trees.map Tree.MSTID
  fids : ∀ vid, 1 ≤ vid → vid ≤ maxVid → br.vid2fid vid ≤ maxFid
  digest : br.digest = hmacMd5 (vid2mstid br.vid2fid br.fid2mstid)

variable {δ : Type} {hmacMd5 : List Nat → δ} {calloc : Nat → Bool} {br : Bridge δ}

theorem mstids_treesOf (cell : Nat × Nat → PerTreePort) (ports mstids : List Nat) :
    (treesOf cell ports mstids).map Tree.MSTID = mstids := by
  simp [treesOf, Function.comp_def]

theorem mstids_of_represents {matrix : Matrix} (represents : Represents br matrix) :
    br.trees.map Tree.MSTID = matrix.mstids := by
  rw [represents.trees]
  exact mstids_treesOf ..

theorem represents_heap {matrix : Matrix} (represents : Represents br matrix) {heap : Nat}
    (grown : br.heap ≤ heap) : Represents { br with heap := heap } matrix where
  trees := represents.trees
  ports := represents.ports
  sorted := represents.sorted
  nodup := represents.nodup
  known := fun prt member => Nat.lt_of_lt_of_le (represents.known prt member) grown
  filled := filled_mono represents.filled (fun _ member => member) grown

theorem consistent_heap (consistent : Consistent hmacMd5 br) {heap : Nat}
    (grown : br.heap ≤ heap) : Consistent hmacMd5 { br with heap := heap } where
  matrix := by
    obtain ⟨matrix, represents⟩ := consistent.matrix
    exact ⟨matrix, represents_heap represents grown⟩
  cist := consistent.cist
  few := consistent.few
  identifiers := consistent.identifiers
  allocated := consistent.allocated
  fids := consistent.fids
  digest := consistent.digest

/-- What a command leaves: a consistent bridge, which is the same if the command failed. -/
def Kept (hmacMd5 : List Nat → δ) (br : Bridge δ) (result : Bool × Bridge δ) : Prop :=
  Consistent hmacMd5 result.2 ∧
    (result.1 = false → ∃ heap, result.2 = { br with heap := heap })

theorem kept_failed (consistent : Consistent hmacMd5 br) {heap : Nat} (grown : br.heap ≤ heap) :
    Kept hmacMd5 br (false, { br with heap := heap }) :=
  ⟨consistent_heap consistent grown, fun _ => ⟨heap, rfl⟩⟩

theorem kept_same (consistent : Consistent hmacMd5 br) (answer : Bool) :
    Kept hmacMd5 br (answer, br) :=
  ⟨consistent, fun _ => ⟨br.heap, rfl⟩⟩

/-- A change of the lists that leaves the trees there are. -/
theorem consistent_lists (consistent : Consistent hmacMd5 br) {trees : List Tree}
    {ports : List Port} {heap : Nat} (same : trees.map Tree.MSTID = br.trees.map Tree.MSTID)
    (matrix : ∃ matrix,
      Represents { br with trees := trees, ports := ports, heap := heap } matrix) :
    Consistent hmacMd5 { br with trees := trees, ports := ports, heap := heap } where
  matrix := matrix
  cist := by rw [← consistent.cist, ← same]
  few := by
    have few := consistent.few
    rwa [← List.length_map (f := Tree.MSTID), ← same, List.length_map] at few
  identifiers := by
    rw [same]
    exact consistent.identifiers
  allocated := by
    rw [same]
    exact consistent.allocated
  fids := consistent.fids
  digest := consistent.digest

/-! ## Ports -/

theorem kept_createIf (consistent : Consistent hmacMd5 br) (driver : Bool) :
    Kept hmacMd5 br (createIf calloc driver br) := by
  unfold createIf
  by_cases allocated : calloc br.heap = true
  · rw [if_pos allocated]
    cases driver with
    | false => exact kept_failed consistent (Nat.le_succ _)
    | true =>
      obtain ⟨matrix, represents⟩ := consistent.matrix
      have fresh : br.heap ∉ matrix.ports := fun member =>
        Nat.lt_irrefl _ (represents.known _ member)
      have filled : Filled (fun place => place.1 ∈ matrix.ports ∧ place.2 ∈ [] ++ matrix.mstids ∨
          place.1 = br.heap ∧ place.2 ∈ []) matrix.cell (br.heap + 1) := by
        refine filled_mono represents.filled ?_ (Nat.le_succ _)
        rintro place (inside | ⟨_, none⟩)
        · exact inside
        · cases none
      have outcome := @addToTrees_outcome calloc br.heap matrix.ports fresh matrix.mstids []
        matrix.cell (br.heap + 1) (represents.sorted.imp Nat.ne_of_lt) filled
      have trees : br.trees = treesOf matrix.cell matrix.ports matrix.mstids := represents.trees
      rcases outcome with ⟨cell, heap, grown, ran, same, filled⟩ | ⟨heap, grown, ran⟩
      · have result : addToTrees calloc br.heap [] br.trees [] (br.heap + 1) = _ := trees ▸ ran
        simp only [if_true, result, List.nil_append]
        refine ⟨consistent_lists consistent ?_ ⟨⟨matrix.mstids, matrix.ports ++ [br.heap], cell⟩,
          ?_⟩, by simp⟩
        · rw [mstids_treesOf, mstids_of_represents represents]
        · refine ⟨rfl, ?_, represents.sorted, ?_, ?_, filled⟩
          · have old : portsOf cell matrix.mstids matrix.ports = br.ports := by
              rw [portsOf_congr fun prt isPort mstid _ => same (prt, mstid) isPort]
              exact represents.ports.symm
            simp only [Matrix.portList, List.map_append, List.map_singleton, ← old]
            rfl
          · refine List.nodup_append.mpr ⟨represents.nodup, by simp, ?_⟩
            rintro prt member _ new rfl
            exact fresh (List.mem_singleton.mp new ▸ member)
          · intro prt member
            show prt < heap
            rcases List.mem_append.mp member with old | new
            · have known := represents.known prt old
              omega
            · obtain rfl := List.mem_singleton.mp new
              omega
      · have result : addToTrees calloc br.heap [] br.trees [] (br.heap + 1) = _ := trees ▸ ran
        simp only [if_true, result]
        exact kept_failed consistent (by omega)
  · rw [if_neg allocated]
    exact kept_failed consistent (Nat.le_succ _)

/-- The records of one port leave the lists of the trees. -/
theorem foldl_delFromTrees_port {cell : Nat × Nat → PerTreePort} {mstids ports : List Nat}
    {heap : Nat} (filled : Filled (fun place => place.1 ∈ ports ∧ place.2 ∈ mstids) cell heap)
    {prt : Nat} (isPort : prt ∈ ports) :
    ((row prt mstids).map cell).foldl delFromTrees (treesOf cell ports mstids) =
      treesOf cell (ports.filter fun other => other ≠ prt) mstids := by
  rw [foldl_delFromTrees, treesOf, List.map_map]
  refine List.map_congr_left fun mstid member => ?_
  rw [Function.comp_apply, Tree.mk.injEq]
  refine ⟨rfl, ?_⟩
  rw [without_map fun place isIn other isGone => filled.distinct place ?_ other ?_]
  · congr 1
    rw [column, column, List.filter_map]
    congr 1
    refine List.filter_congr fun other _ => ?_
    simp only [Function.comp_apply, decide_eq_decide, mem_row, not_and]
    exact ⟨fun free same => free same member, fun different same _ => different same⟩
  · obtain ⟨isOther, rfl⟩ := mem_column.mp isIn
    exact ⟨isOther, member⟩
  · obtain ⟨rfl, isTree⟩ := mem_row.mp isGone
    exact ⟨isPort, isTree⟩

theorem kept_deletePort (consistent : Consistent hmacMd5 br) (address : Nat) :
    Kept hmacMd5 br (mstpInDeletePort address br) := by
  unfold mstpInDeletePort
  cases found : br.ports.find? fun prt => prt.address = address with
  | none => exact kept_same consistent false
  | some prt =>
    obtain ⟨matrix, represents⟩ := consistent.matrix
    have isThis : prt.address = address := by simpa using List.find?_some found
    have isPort : ∃ other ∈ matrix.ports,
        ⟨other, (row other matrix.mstids).map matrix.cell⟩ = prt := by
      have member := List.mem_of_find?_eq_some found
      rw [represents.ports] at member
      exact List.mem_map.mp member
    obtain ⟨other, member, rfl⟩ := isPort
    obtain rfl : other = address := isThis
    have trees : ((row other matrix.mstids).map matrix.cell).foldl delFromTrees br.trees =
        treesOf matrix.cell (matrix.ports.filter fun prt => prt ≠ other) matrix.mstids := by
      rw [represents.trees]
      exact foldl_delFromTrees_port represents.filled member
    have ports : br.ports.filter (fun prt => prt.address ≠ other) =
        portsOf matrix.cell matrix.mstids (matrix.ports.filter fun prt => prt ≠ other) := by
      rw [represents.ports, Matrix.portList, List.filter_map]
      rfl
    refine ⟨consistent_lists consistent ?_
      ⟨⟨matrix.mstids, matrix.ports.filter fun prt => prt ≠ other,
      matrix.cell⟩, ?_⟩, by simp⟩
    · simp only [trees, mstids_treesOf, mstids_of_represents represents]
    · refine ⟨trees, ports, represents.sorted, represents.nodup.filter _, ?_, ?_⟩
      · exact fun prt isIn => represents.known prt (List.mem_of_mem_filter isIn)
      · refine filled_mono represents.filled ?_ (Nat.le_refl _)
        exact fun place inside => ⟨List.mem_of_mem_filter inside.1, inside.2⟩

/-! ## Trees -/

theorem treesOf_treeAfter {cell : Nat × Nat → PerTreePort} {ports mstids : List Nat} {mstid : Nat}
    {tree : Tree} (found : treeAfter mstid (treesOf cell ports mstids) = some tree) :
    ∃ before after behind, mstids = before ++ after :: behind ∧
      tree = ⟨after, (column after ports).map cell⟩ ∧ after < mstid ∧
      ∀ other ∈ behind, ¬other < mstid := by
  obtain ⟨smaller, isLast⟩ := List.getLast?_eq_some_iff.mp found
  rw [treesOf, List.filter_map, List.map_eq_append_iff] at isLast
  obtain ⟨first, last, split, _, isTree⟩ := isLast
  obtain ⟨after, rfl, rfl⟩ := List.map_eq_singleton_iff.mp isTree
  obtain ⟨before, rest, rfl, _, isRest⟩ := List.filter_eq_append_iff.mp split
  obtain ⟨skipped, behind, rfl, _, isSmaller, larger⟩ := List.filter_eq_cons_iff.mp isRest
  refine ⟨before ++ skipped, after, behind, by rw [List.append_assoc], rfl,
    by simpa using isSmaller, fun other member => ?_⟩
  simpa using List.filter_eq_nil_iff.mp larger other member

/-- The new identifier goes where it belongs. -/
theorem withTree_sorted {before behind : List Nat} {after mstid : Nat}
    (sorted : (before ++ after :: behind).Pairwise (· < ·)) (smaller : after < mstid)
    (larger : ∀ other ∈ behind, ¬other < mstid) (fresh : mstid ∉ before ++ after :: behind) :
    (withTree after mstid (before ++ after :: behind)).Pairwise (· < ·) := by
  obtain ⟨first, second, across⟩ := List.pairwise_append.mp sorted
  obtain ⟨afterFirst, rest⟩ := List.pairwise_cons.mp second
  have split : withTree after mstid (before ++ after :: behind) =
      before ++ after :: mstid :: behind := by
    refine listAdd_split (fun other member => ?_) (by simp) mstid
    rw [decide_eq_false_iff_not]
    exact Nat.ne_of_lt (across other member after List.mem_cons_self)
  have behindLarger : ∀ other ∈ behind, mstid < other := by
    intro other member
    have different : other ≠ mstid := by
      rintro rfl
      exact fresh (by simp [member])
    have notSmaller := larger other member
    omega
  rw [split, List.pairwise_append, List.pairwise_cons, List.pairwise_cons]
  refine ⟨first, ⟨?_, behindLarger, rest⟩, ?_⟩
  · intro other member
    rcases List.mem_cons.mp member with rfl | isBehind
    · exact smaller
    · exact afterFirst other isBehind
  · intro other member later isLater
    rcases List.mem_cons.mp isLater with rfl | isLater
    · exact across other member later List.mem_cons_self
    · rcases List.mem_cons.mp isLater with rfl | isBehind
      · exact Nat.lt_trans (across other member after List.mem_cons_self) smaller
      · exact across other member later (List.mem_cons_of_mem _ isBehind)

theorem head_withTree {after mstid : Nat} {mstids : List Nat} :
    (withTree after mstid mstids).head? = mstids.head? := by
  cases mstids with
  | nil => rfl
  | cons first mstids =>
    rw [withTree, listAdd]
    split <;> rfl

theorem length_withTree {after mstid : Nat} {mstids : List Nat} :
    (withTree after mstid mstids).length ≤ mstids.length + 1 := by
  induction mstids with
  | nil => exact Nat.zero_le _
  | cons first mstids inductionHypothesis =>
    rw [withTree, listAdd]
    split
    · simp
    · rw [List.length_cons, List.length_cons]
      exact Nat.succ_le_succ inductionHypothesis

theorem kept_createMsti (consistent : Consistent hmacMd5 br) (mstid : Nat) :
    Kept hmacMd5 br (mstpInCreateMsti calloc mstid br) := by
  unfold mstpInCreateMsti
  split
  · exact kept_same consistent false
  · rename_i inRange
    split
    · exact kept_same consistent true
    · rename_i isNew
      cases found : treeAfter mstid br.trees with
      | none => exact kept_same consistent false
      | some tree =>
        simp only
        split
        · exact kept_same consistent false
        · rename_i notFull
          by_cases allocated : calloc br.heap = true
          · rw [if_pos allocated]
            obtain ⟨matrix, represents⟩ := consistent.matrix
            have trees : br.trees = treesOf matrix.cell matrix.ports matrix.mstids :=
              represents.trees
            have ports : br.ports = portsOf matrix.cell matrix.mstids matrix.ports :=
              represents.ports
            have mstids := mstids_of_represents represents
            have fresh : mstid ∉ matrix.mstids := by
              rw [← mstids]
              simpa using isNew
            rw [trees] at found
            obtain ⟨before, after, behind, split, rfl, smaller, larger⟩ := treesOf_treeAfter found
            have isTree : after ∈ matrix.mstids := by simp [split]
            have filled : Filled (fun place => place.1 ∈ [] ++ matrix.ports ∧
                place.2 ∈ matrix.mstids ∨ place.1 ∈ [] ∧ place.2 = mstid) matrix.cell
                (br.heap + 1) := by
              refine filled_mono represents.filled ?_ (Nat.le_succ _)
              rintro place (inside | ⟨none, _⟩)
              · exact inside
              · cases none
            have outcome := @addToPorts_outcome calloc after mstid matrix.mstids isTree fresh
              matrix.ports [] matrix.cell (br.heap + 1) represents.nodup filled
            rcases outcome with ⟨cell, heap, grown, ran, same, filled'⟩ | ⟨heap, grown, ran⟩
            · have result : addToPorts calloc mstid ((column after matrix.ports).map matrix.cell)
                  br.ports [] (br.heap + 1) = _ := ports ▸ ran
              simp only [result, List.nil_append, if_true]
              have newTrees : listAdd (fun tree => tree.MSTID = after)
                  ⟨mstid, (column mstid matrix.ports).map cell⟩ br.trees =
                    treesOf cell matrix.ports (withTree after mstid matrix.mstids) := by
                have old : br.trees = treesOf cell matrix.ports matrix.mstids := by
                  rw [trees]
                  exact (treesOf_congr fun prt _ other isOld => same (prt, other) isOld).symm
                rw [old]
                exact @listAdd_map Nat Tree (fun other => other = after)
                  (fun tree => tree.MSTID = after)
                  (fun other => ⟨other, (column other matrix.ports).map cell⟩) matrix.mstids
                  (fun _ _ => rfl) mstid
              have newMstids : (treesOf cell matrix.ports
                  (withTree after mstid matrix.mstids)).map Tree.MSTID =
                    withTree after mstid matrix.mstids := mstids_treesOf ..
              have member : ∀ other, other ∈ withTree after mstid matrix.mstids ↔
                  other = mstid ∨ other ∈ br.trees.map Tree.MSTID := by
                intro other
                rw [mem_withTree isTree, mstids]
              refine ⟨⟨⟨⟨withTree after mstid matrix.mstids, matrix.ports, cell⟩, ?_⟩, ?_, ?_, ?_,
                ?_, consistent.fids, consistent.digest⟩, by simp⟩
              · refine ⟨newTrees, rfl, ?_, represents.nodup, ?_, filled'⟩
                · have sorted := represents.sorted
                  rw [split] at sorted fresh ⊢
                  exact withTree_sorted sorted smaller larger fresh
                · intro prt isPort
                  have known := represents.known prt isPort
                  show prt < heap
                  omega
              · rw [newTrees, newMstids, head_withTree, ← mstids]
                exact consistent.cist
              · rw [newTrees, ← List.length_map (f := Tree.MSTID), newMstids]
                refine Nat.le_trans length_withTree ?_
                rw [← mstids, List.length_map]
                omega
              · rw [newTrees, newMstids]
                intro other isIn
                rcases (member other).mp isIn with rfl | old
                · omega
                · exact consistent.identifiers other old
              · rw [newTrees, newMstids]
                intro fid bounded
                exact (member _).mpr (Or.inr (consistent.allocated fid bounded))
            · have result : addToPorts calloc mstid ((column after matrix.ports).map matrix.cell)
                  br.ports [] (br.heap + 1) = _ := ports ▸ ran
              simp only [result]
              exact kept_failed consistent (by omega)
          · rw [if_neg allocated]
            exact kept_failed consistent (Nat.le_succ _)

/-- The records of one tree leave the lists of the ports. -/
theorem foldl_delFromPorts_tree {cell : Nat × Nat → PerTreePort} {mstids ports : List Nat}
    {heap : Nat} (filled : Filled (fun place => place.1 ∈ ports ∧ place.2 ∈ mstids) cell heap)
    {mstid : Nat} (isTree : mstid ∈ mstids) :
    ((column mstid ports).map cell).foldl delFromPorts (portsOf cell mstids ports) =
      portsOf cell (mstids.filter fun other => other ≠ mstid) ports := by
  rw [foldl_delFromPorts, portsOf, List.map_map]
  refine List.map_congr_left fun prt member => ?_
  rw [Function.comp_apply, Port.mk.injEq]
  refine ⟨rfl, ?_⟩
  rw [without_map fun place isIn other isGone => filled.distinct place ?_ other ?_]
  · congr 1
    rw [row, row, List.filter_map]
    congr 1
    refine List.filter_congr fun other _ => ?_
    simp only [Function.comp_apply, decide_eq_decide, mem_column, not_and]
    exact ⟨fun free => free member, fun different _ => different⟩
  · obtain ⟨rfl, isOther⟩ := mem_row.mp isIn
    exact ⟨member, isOther⟩
  · obtain ⟨isPort, rfl⟩ := mem_column.mp isGone
    exact ⟨isPort, isTree⟩

theorem kept_deleteMsti (consistent : Consistent hmacMd5 br) (mstid : Nat) :
    Kept hmacMd5 br (mstpInDeleteMsti mstid br) := by
  unfold mstpInDeleteMsti
  split
  · exact kept_same consistent false
  · rename_i inRange
    split
    · exact kept_same consistent false
    · rename_i unused
      cases found : br.trees.find? fun tree => tree.MSTID = mstid with
      | none => exact kept_same consistent true
      | some tree =>
        obtain ⟨matrix, represents⟩ := consistent.matrix
        have mstids := mstids_of_represents represents
        have isThis : tree.MSTID = mstid := by simpa using List.find?_some found
        have isTree : ∃ other ∈ matrix.mstids,
            ⟨other, (column other matrix.ports).map matrix.cell⟩ = tree := by
          have member := List.mem_of_find?_eq_some found
          rw [represents.trees] at member
          exact List.mem_map.mp member
        obtain ⟨other, member, rfl⟩ := isTree
        obtain rfl : other = mstid := isThis
        have ports : ((column other matrix.ports).map matrix.cell).foldl delFromPorts br.ports =
            portsOf matrix.cell (matrix.mstids.filter fun mstid => mstid ≠ other)
              matrix.ports := by
          rw [represents.ports]
          exact foldl_delFromPorts_tree represents.filled member
        have trees : br.trees.filter (fun tree => tree.MSTID ≠ other) =
            treesOf matrix.cell matrix.ports
              (matrix.mstids.filter fun mstid => mstid ≠ other) := by
          rw [represents.trees, Matrix.trees, List.filter_map]
          rfl
        have left : (br.trees.filter fun tree => tree.MSTID ≠ other).map Tree.MSTID =
            matrix.mstids.filter fun mstid => mstid ≠ other := by
          rw [trees, mstids_treesOf]
        have kept : ∀ mstid ∈ br.trees.map Tree.MSTID, mstid ≠ other →
            mstid ∈ matrix.mstids.filter fun mstid => mstid ≠ other := by
          intro mstid isIn different
          rw [mstids] at isIn
          exact List.mem_filter.mpr ⟨isIn, by simpa using different⟩
        refine ⟨⟨⟨⟨matrix.mstids.filter fun mstid => mstid ≠ other, matrix.ports, matrix.cell⟩,
          ?_⟩, ?_, ?_, ?_, ?_, consistent.fids, consistent.digest⟩, by simp⟩
        · refine ⟨trees, ports, represents.sorted.filter _, represents.nodup, represents.known, ?_⟩
          refine filled_mono represents.filled ?_ (Nat.le_refl _)
          exact fun place inside => ⟨inside.1, List.mem_of_mem_filter inside.2⟩
        · have cist := consistent.cist
          rw [left, ← mstids]
          cases isCons : br.trees.map Tree.MSTID with
          | nil =>
            rw [isCons] at cist
            cases cist
          | cons first rest =>
            rw [isCons] at cist
            obtain rfl : first = 0 := Option.some.inj cist
            have common : 0 ≠ other := by omega
            rw [List.filter_cons_of_pos (by simpa using common)]
            rfl
        · exact Nat.le_trans (List.length_filter_le _ _) consistent.few
        · rw [left]
          intro mstid isIn
          exact consistent.identifiers mstid (mstids ▸ List.mem_of_mem_filter isIn)
        · rw [left]
          intro fid bounded
          refine kept _ (consistent.allocated fid bounded) ?_
          rintro same
          refine unused (List.any_eq_true.mpr ⟨fid, ?_, by simpa using same⟩)
          exact List.mem_range.mpr (Nat.lt_succ_of_le bounded)

/-! ## Tables -/

theorem vid2mstid_congr {first second first' second' : Nat → Nat}
    (same : ∀ vid, 1 ≤ vid → vid ≤ maxVid → second (first vid) = second' (first' vid)) :
    vid2mstid first second = vid2mstid first' second' := by
  have places : ((List.range' 1 maxVid).map fun vid => second (first vid)) =
      (List.range' 1 maxVid).map fun vid => second' (first' vid) := by
    refine List.map_congr_left fun vid member => ?_
    obtain ⟨lower, upper⟩ := List.mem_range'_1.mp member
    exact same vid lower (by omega)
  rw [vid2mstid, vid2mstid, places]

theorem not_any_vids {test : Nat → Bool} (none : ¬(List.range' 1 maxVid).any test = true)
    {vid : Nat} (lower : 1 ≤ vid) (upper : vid ≤ maxVid) : test vid = false := by
  by_contra holds
  refine none (List.any_eq_true.mpr ⟨vid, List.mem_range'_1.mpr ⟨lower, by omega⟩, ?_⟩)
  simpa using holds

/-- New tables, with a new digest where the tree of a VLAN has changed. -/
theorem consistent_tables (consistent : Consistent hmacMd5 br) {vid2fid fid2mstid : Nat → Nat}
    {changed : Prop} [Decidable changed]
    (allocated : ∀ fid ≤ maxFid, fid2mstid fid ∈ br.trees.map Tree.MSTID)
    (fids : ∀ vid, 1 ≤ vid → vid ≤ maxVid → vid2fid vid ≤ maxFid)
    (same : ¬changed → ∀ vid, 1 ≤ vid → vid ≤ maxVid →
      br.fid2mstid (br.vid2fid vid) = fid2mstid (vid2fid vid)) :
    Consistent hmacMd5
      (if changed then RecalcConfigDigest hmacMd5
        { br with vid2fid := vid2fid, fid2mstid := fid2mstid }
      else { br with vid2fid := vid2fid, fid2mstid := fid2mstid }) := by
  have lists : ∃ matrix,
      Represents { br with vid2fid := vid2fid, fid2mstid := fid2mstid } matrix := by
    obtain ⟨matrix, represents⟩ := consistent.matrix
    exact ⟨matrix, represents.trees, represents.ports, represents.sorted, represents.nodup,
      represents.known, represents.filled⟩
  split
  · obtain ⟨matrix, represents⟩ := lists
    exact ⟨⟨matrix, represents.trees, represents.ports, represents.sorted, represents.nodup,
      represents.known, represents.filled⟩, consistent.cist, consistent.few,
      consistent.identifiers, allocated, fids, rfl⟩
  · rename_i unchanged
    exact ⟨lists, consistent.cist, consistent.few, consistent.identifiers, allocated, fids,
      consistent.digest.trans (congrArg hmacMd5 (vid2mstid_congr (same unchanged)))⟩

theorem kept_setVid2fid (consistent : Consistent hmacMd5 br) (vid fid : Nat) :
    Kept hmacMd5 br (mstpInSetVid2fid hmacMd5 vid fid br) := by
  unfold mstpInSetVid2fid
  split
  · exact kept_same consistent false
  · rename_i inRange
    refine ⟨consistent_tables consistent consistent.allocated ?_ ?_, by simp⟩
    · intro other lower upper
      by_cases isThis : other = vid
      · rw [isThis, Function.update_self]
        omega
      · rw [Function.update_of_ne isThis]
        exact consistent.fids other lower upper
    · intro unchanged other _ _
      by_cases isThis : other = vid
      · rw [isThis, Function.update_self]
        exact (not_not.mp unchanged).symm
      · rw [Function.update_of_ne isThis]

theorem kept_setAllVids2fids (consistent : Consistent hmacMd5 br) (vids2fids : Nat → Nat) :
    Kept hmacMd5 br (mstpInSetAllVids2fids hmacMd5 vids2fids br) := by
  unfold mstpInSetAllVids2fids
  refine ⟨consistent_tables consistent consistent.allocated ?_ ?_, by simp⟩
  · intro vid lower upper
    rw [correctedFids]
    split
    · exact consistent.fids vid lower upper
    · omega
  · intro unchanged vid lower upper
    have test := not_any_vids unchanged lower upper
    rw [correctedFids]
    split
    · rfl
    · rename_i correct
      have bounded : vids2fids vid ≤ maxFid := by omega
      rw [decide_eq_true bounded, Bool.true_and, decide_eq_false_iff_not, not_not] at test
      exact test.symm

theorem kept_setFid2mstid (consistent : Consistent hmacMd5 br) (fid mstid : Nat) :
    Kept hmacMd5 br (mstpInSetFid2mstid hmacMd5 fid mstid br) := by
  unfold mstpInSetFid2mstid
  split
  · exact kept_same consistent false
  · split
    · rename_i isTree
      split
      · refine ⟨consistent_tables consistent ?_ consistent.fids ?_, by simp⟩
        · intro other bounded
          by_cases isThis : other = fid
          · rw [isThis, Function.update_self]
            simpa using isTree
          · rw [Function.update_of_ne isThis]
            exact consistent.allocated other bounded
        · intro unchanged vid lower upper
          have test := not_any_vids unchanged lower upper
          rw [Function.update_of_ne (by simpa using test)]
      · exact kept_same consistent true
    · exact kept_same consistent false

theorem kept_setAllFids2mstids (consistent : Consistent hmacMd5 br)
    (fids2mstids : Nat → Nat) :
    Kept hmacMd5 br (mstpInSetAllFids2mstids hmacMd5 fids2mstids br) := by
  unfold mstpInSetAllFids2mstids
  simp only
  split
  · rename_i areTrees
    refine ⟨consistent_tables consistent ?_ consistent.fids ?_, by simp⟩
    · intro fid bounded
      have isTree := List.all_eq_true.mp areTrees fid
        (List.mem_range.mpr (Nat.lt_succ_of_le bounded))
      simpa using isTree
    · intro unchanged vid lower upper
      have test := not_any_vids unchanged lower upper
      simpa using test
  · exact kept_same consistent false

/-! ## Runs -/

theorem kept_perform (consistent : Consistent hmacMd5 br) (command : Command) :
    Kept hmacMd5 br (perform hmacMd5 calloc br command) := by
  cases command with
  | createIf driver => exact kept_createIf consistent driver
  | deletePort address => exact kept_deletePort consistent address
  | createMsti mstid => exact kept_createMsti consistent mstid
  | deleteMsti mstid => exact kept_deleteMsti consistent mstid
  | setVid2fid vid fid => exact kept_setVid2fid consistent vid fid
  | setAllVids2fids vids2fids => exact kept_setAllVids2fids consistent vids2fids
  | setFid2mstid fid mstid => exact kept_setFid2mstid consistent fid mstid
  | setAllFids2mstids fids2mstids => exact kept_setAllFids2mstids consistent fids2mstids

theorem consistent_bridgeCreate {digest : δ}
    (created : mstpInBridgeCreate hmacMd5 calloc digest = (true, br)) :
    Consistent hmacMd5 br := by
  unfold mstpInBridgeCreate at created
  split at created
  · obtain ⟨-, rfl⟩ := Prod.mk.inj created
    refine ⟨⟨⟨[0], [], fun _ => ⟨0, 0, 0⟩⟩, ?_⟩, rfl, by simp [maxImplementationMstis], by simp,
      by simp [RecalcConfigDigest], by simp [RecalcConfigDigest], rfl⟩
    refine ⟨rfl, rfl, List.pairwise_singleton .., List.nodup_nil, by simp, ?_⟩
    refine ⟨fun place inside => ?_, fun place inside => ?_, fun place inside => ?_⟩
    all_goals cases inside.1
  · cases created

/-- A command that fails leaves the bridge as it was; only calls of `calloc` have been made. -/
def FailsClean (hmacMd5 : List Nat → δ) (calloc : Nat → Bool) (br : Bridge δ)
    (command : Command) : Prop :=
  (perform hmacMd5 calloc br command).1 = false →
    ∃ heap, (perform hmacMd5 calloc br command).2 = { br with heap := heap }

theorem management_consistent {digest : δ}
    (created : mstpInBridgeCreate hmacMd5 calloc digest = (true, br))
    (commands : List Command) :
    (management hmacMd5 calloc).AllStates (Consistent hmacMd5) br commands ∧
      (management hmacMd5 calloc).AllSteps (FailsClean hmacMd5 calloc) br commands := by
  have keeps : ∀ state input, Consistent hmacMd5 state → True →
      Consistent hmacMd5 ((management hmacMd5 calloc).next state input) :=
    fun _ input consistent _ => (kept_perform consistent input).1
  have initially := consistent_bridgeCreate created
  have anyCommand : (management hmacMd5 calloc).AllSteps (fun _ _ => True) br commands :=
    Machine.allSteps_of_forall (fun _ _ => trivial) br
  exact ⟨Machine.allStates_of_invariant keeps initially anyCommand,
    Machine.allSteps_of_invariant keeps
      (fun _ input consistent _ => (kept_perform consistent input).2) initially anyCommand⟩

/-- Two trees and two ports, where there is no memory for the fifth record. -/
theorem management_consistent_scarce :
    (management id (fun address => address ≠ 5)).AllStates (Consistent id)
        ⟨[⟨0, []⟩], [], fun _ => 0, fun _ => 0, vid2mstid (fun _ => 0) (fun _ => 0), 1⟩
        [.createIf true, .createMsti 5, .createIf true, .setFid2mstid 7 5] ∧
      (management id (fun address => address ≠ 5)).AllSteps
        (FailsClean id (fun address => address ≠ 5))
        ⟨[⟨0, []⟩], [], fun _ => 0, fun _ => 0, vid2mstid (fun _ => 0) (fun _ => 0), 1⟩
        [.createIf true, .createMsti 5, .createIf true, .setFid2mstid 7 5] :=
  @management_consistent _ id (fun address => address ≠ 5) _ [] rfl _

end TfortisPack.Mstpd
