import TfortisPack.Mstpd.Bridge

/-!
# The records of a bridge are a matrix

The lists of a bridge are the rows and the columns of a matrix with a port in
each row and a tree in each column.  A record stands in both lists, and no two
records share an address.
-/

namespace TfortisPack.Mstpd

open Library

/-! ## The matrix -/

/-- The identifiers of the trees, the addresses of the ports, and a record for each of both. -/
structure Matrix where
  mstids : List Nat
  ports : List Nat
  cell : Nat × Nat → PerTreePort

/-- The places of a port in these trees. -/
def row (prt : Nat) (mstids : List Nat) : List (Nat × Nat) :=
  mstids.map fun mstid => (prt, mstid)

/-- The places of a tree in these ports. -/
def column (mstid : Nat) (ports : List Nat) : List (Nat × Nat) :=
  ports.map fun prt => (prt, mstid)

namespace Matrix

variable (matrix : Matrix)

def trees : List Tree :=
  matrix.mstids.map fun mstid => ⟨mstid, (column mstid matrix.ports).map matrix.cell⟩

def portList : List Port :=
  matrix.ports.map fun prt => ⟨prt, (row prt matrix.mstids).map matrix.cell⟩

end Matrix

/-- Each record at these places says where it stands, and no two of them share an address. -/
structure Filled (places : Set (Nat × Nat)) (cell : Nat × Nat → PerTreePort) (heap : Nat) :
    Prop where
  named : ∀ place ∈ places, (cell place).port = place.1 ∧ (cell place).MSTID = place.2
  distinct : ∀ place ∈ places, ∀ other ∈ places,
    (cell place).address = (cell other).address → place = other
  old : ∀ place ∈ places, (cell place).address < heap

def Matrix.places (matrix : Matrix) : Set (Nat × Nat) :=
  fun place => place.1 ∈ matrix.ports ∧ place.2 ∈ matrix.mstids

/-- The lists of the bridge are those of the matrix. -/
structure Represents {δ : Type} (br : Bridge δ) (matrix : Matrix) : Prop where
  trees : br.trees = matrix.trees
  ports : br.ports = matrix.portList
  sorted : matrix.mstids.Pairwise (· < ·)
  nodup : matrix.ports.Nodup
  known : ∀ prt ∈ matrix.ports, prt < br.heap
  filled : Filled matrix.places matrix.cell br.heap

/-! ## New records -/

/-- The cells with a record more. -/
def fill (cell : Nat × Nat → PerTreePort) (place : Nat × Nat) (heap : Nat) :
    Nat × Nat → PerTreePort :=
  Function.update cell place ⟨heap, place.1, place.2⟩

theorem fill_of_ne {cell : Nat × Nat → PerTreePort} {place other : Nat × Nat} {heap : Nat}
    (different : other ≠ place) : fill cell place heap other = cell other :=
  Function.update_of_ne different _ _

theorem fill_self (cell : Nat × Nat → PerTreePort) (place : Nat × Nat) (heap : Nat) :
    fill cell place heap place = ⟨heap, place.1, place.2⟩ :=
  Function.update_self ..

theorem filled_mono {places fewer : Set (Nat × Nat)} {cell : Nat × Nat → PerTreePort}
    {heap later : Nat} (filled : Filled places cell heap) (inside : fewer ⊆ places)
    (grown : heap ≤ later) : Filled fewer cell later where
  named := fun place member => filled.named place (inside member)
  distinct := fun place member other otherMember =>
    filled.distinct place (inside member) other (inside otherMember)
  old := fun place member => Nat.lt_of_lt_of_le (filled.old place (inside member)) grown

theorem filled_fill {places more : Set (Nat × Nat)} {cell : Nat × Nat → PerTreePort}
    {heap : Nat} (filled : Filled places cell heap) (place : Nat × Nat)
    (added : ∀ other ∈ more, other = place ∨ other ∈ places) :
    Filled more (fill cell place heap) (heap + 1) where
  named := by
    intro other member
    by_cases same : other = place
    · subst same
      rw [fill_self]
      exact ⟨rfl, rfl⟩
    · rw [fill_of_ne same]
      exact filled.named other ((added other member).resolve_left same)
  distinct := by
    intro first firstMember second secondMember sameAddress
    have newAddress : (fill cell place heap place).address = heap := by rw [fill_self]
    by_cases isFirst : first = place
    · by_cases isSecond : second = place
      · rw [isFirst, isSecond]
      · rw [isFirst, newAddress, fill_of_ne isSecond] at sameAddress
        have older := filled.old second ((added second secondMember).resolve_left isSecond)
        exact absurd sameAddress.symm (Nat.ne_of_lt older)
    · have older := filled.old first ((added first firstMember).resolve_left isFirst)
      by_cases isSecond : second = place
      · rw [isSecond, newAddress, fill_of_ne isFirst] at sameAddress
        exact absurd sameAddress (Nat.ne_of_lt older)
      · rw [fill_of_ne isFirst, fill_of_ne isSecond] at sameAddress
        exact filled.distinct first ((added first firstMember).resolve_left isFirst) second
          ((added second secondMember).resolve_left isSecond) sameAddress
  old := by
    intro other member
    by_cases same : other = place
    · rw [same, fill_self]
      exact Nat.lt_succ_self heap
    · rw [fill_of_ne same]
      exact Nat.lt_succ_of_lt (filled.old other ((added other member).resolve_left same))

theorem map_fill_of_not_mem {cell : Nat × Nat → PerTreePort} {place : Nat × Nat} {heap : Nat}
    {places : List (Nat × Nat)} (outside : place ∉ places) :
    places.map (fill cell place heap) = places.map cell :=
  List.map_congr_left fun _ member => fill_of_ne fun same => outside (same ▸ member)

/-! ## Removed records -/

/-- What `list_del` for each of these records leaves of a list. -/
def without (gone entries : List PerTreePort) : List PerTreePort :=
  entries.filter fun ptp => ∀ other ∈ gone, ptp.address ≠ other.address

theorem without_nil (entries : List PerTreePort) : without [] entries = entries := by
  simp [without]

theorem without_cons (ptp : PerTreePort) (gone entries : List PerTreePort) :
    without gone (listDel ptp.address entries) = without (ptp :: gone) entries := by
  simp only [without, listDel, List.filter_filter]
  congr 1
  funext other
  simp [Bool.and_comm]

theorem foldl_delFromTrees (gone : List PerTreePort) (trees : List Tree) :
    gone.foldl delFromTrees trees =
      trees.map fun tree => { tree with ports := without gone tree.ports } := by
  induction gone generalizing trees with
  | nil => simp [without_nil]
  | cons ptp gone inductionHypothesis =>
    rw [List.foldl_cons, inductionHypothesis, delFromTrees, List.map_map]
    refine List.map_congr_left fun tree _ => ?_
    simp only [Function.comp_apply, without_cons]

theorem foldl_delFromPorts (gone : List PerTreePort) (ports : List Port) :
    gone.foldl delFromPorts ports =
      ports.map fun prt => { prt with trees := without gone prt.trees } := by
  induction gone generalizing ports with
  | nil => simp [without_nil]
  | cons ptp gone inductionHypothesis =>
    rw [List.foldl_cons, inductionHypothesis, delFromPorts, List.map_map]
    refine List.map_congr_left fun prt _ => ?_
    simp only [Function.comp_apply, without_cons]

/-- Records with an address of their own are removed at their places only. -/
theorem without_map {cell : Nat × Nat → PerTreePort} {gone places : List (Nat × Nat)}
    (distinct : ∀ place ∈ places, ∀ other ∈ gone,
      (cell place).address = (cell other).address → place = other) :
    without (gone.map cell) (places.map cell) =
      (places.filter fun place => place ∉ gone).map cell := by
  rw [without, List.filter_map]
  congr 1
  refine List.filter_congr fun place member => ?_
  simp only [Function.comp_apply, List.forall_mem_map, decide_eq_decide]
  constructor
  · intro free isGone
    exact free place isGone rfl
  · intro outside other isGone sameAddress
    exact outside (distinct place member other isGone sameAddress ▸ isGone)

/-! ## Lists with an entry more -/

theorem listAdd_map {α β : Type} {isPlace : α → Bool} {isPlace' : β → Bool} {change : α → β}
    {entries : List α} (same : ∀ entry ∈ entries, isPlace' (change entry) = isPlace entry)
    (new : α) :
    listAdd isPlace' (change new) (entries.map change) =
      (listAdd isPlace new entries).map change := by
  induction entries with
  | nil => rfl
  | cons entry entries inductionHypothesis =>
    obtain ⟨first, others⟩ := List.forall_mem_cons.mp same
    rw [List.map_cons, listAdd, listAdd, first]
    split
    · rfl
    · rw [inductionHypothesis others, List.map_cons]

theorem listAdd_of_none {α : Type} {isPlace : α → Bool} {entries : List α}
    (none : ∀ entry ∈ entries, isPlace entry = false) (new : α) :
    listAdd isPlace new entries = entries := by
  induction entries with
  | nil => rfl
  | cons entry entries inductionHypothesis =>
    obtain ⟨first, others⟩ := List.forall_mem_cons.mp none
    rw [listAdd, first, inductionHypothesis others]
    rfl

/-- The new entry stands behind the first place. -/
theorem listAdd_split {α : Type} {isPlace : α → Bool} {before behind : List α} {place : α}
    (none : ∀ entry ∈ before, isPlace entry = false) (here : isPlace place = true) (new : α) :
    listAdd isPlace new (before ++ place :: behind) = before ++ place :: new :: behind := by
  induction before with
  | nil => rw [List.nil_append, listAdd, if_pos here, List.nil_append]
  | cons entry before inductionHypothesis =>
    obtain ⟨first, others⟩ := List.forall_mem_cons.mp none
    rw [List.cons_append, listAdd, first, inductionHypothesis others]
    rfl

end TfortisPack.Mstpd
