import Mathlib.Algebra.Ring.Nat

/-!
# Packed fields

A record without padding is its fields one after another, each a number of a
fixed width with the most significant byte first.  A reader finds a field by its
offset, whatever follows the record.
-/

namespace TfortisPack.Library

namespace Packed

/-- The bytes of a number. -/
def bytes : Nat → Nat → List UInt8
  | 0, _ => []
  | width + 1, n => bytes width (n / 256) ++ [UInt8.ofNat n]

/-- The number that bytes stand for. -/
def number (field : List UInt8) : Nat :=
  field.foldl (fun n byte => 256 * n + byte.toNat) 0

theorem length_bytes (width n : Nat) : (bytes width n).length = width := by
  induction width generalizing n with
  | zero => rfl
  | succ width inductionHypothesis =>
    rw [bytes, List.length_append, inductionHypothesis]
    rfl

theorem number_bytes {width n : Nat} (fits : n < 256 ^ width) : number (bytes width n) = n := by
  induction width generalizing n with
  | zero =>
    rw [Nat.pow_zero] at fits
    exact (Nat.lt_one_iff.mp fits).symm
  | succ width inductionHypothesis =>
    have smaller : n / 256 < 256 ^ width := by
      rw [Nat.pow_succ] at fits
      exact Nat.div_lt_of_lt_mul (by rwa [Nat.mul_comm])
    have high := inductionHypothesis smaller
    rw [number] at high
    rw [number, bytes, List.foldl_append, high]
    change 256 * (n / 256) + n % 256 = n
    exact Nat.div_add_mod n 256

/-- The number in a window of a packet. -/
def read (packet : List UInt8) (offset width : Nat) : Nat :=
  number ((packet.drop offset).take width)

/-- A record, the widths of its fields beside their values. -/
def layout (fields : List (Nat × Nat)) : List UInt8 :=
  fields.flatMap fun field => bytes field.1 field.2

/-- Where a field begins that stands behind fields of these widths. -/
def offset : List Nat → Nat
  | [] => 0
  | width :: widths => width + offset widths

theorem length_layout (fields : List (Nat × Nat)) :
    (layout fields).length = offset (fields.map Prod.fst) := by
  induction fields with
  | nil => rfl
  | cons field fields inductionHypothesis =>
    rw [layout, List.flatMap_cons, List.length_append, length_bytes]
    exact congrArg (field.1 + ·) inductionHypothesis

/-- A field is read as it was written, wherever the record ends. -/
theorem read_layout {fields : List (Nat × Nat)} {k width value at_offset : Nat}
    (isField : fields[k]? = some (width, value)) (fits : value < 256 ^ width)
    (begins : offset ((fields.map Prod.fst).take k) = at_offset) (rest : List UInt8) :
    read (layout fields ++ rest) at_offset width = value := by
  obtain ⟨inside, same⟩ := List.getElem?_eq_some_iff.mp isField
  have split : layout fields =
      layout (fields.take k) ++ (bytes width value ++ layout (fields.drop (k + 1))) := by
    have parts : fields = fields.take k ++ (width, value) :: fields.drop (k + 1) := by
      rw [← same, List.getElem_cons_drop inside, List.take_append_drop]
    calc layout fields = layout (fields.take k ++ (width, value) :: fields.drop (k + 1)) := by
          rw [← parts]
      _ = _ := by simp only [layout, List.flatMap_append, List.flatMap_cons]
  subst begins
  rw [read, split, ← List.map_take, ← length_layout, List.append_assoc, List.drop_left, List.append_assoc,
    List.take_left' (length_bytes width value), number_bytes fits]

theorem length_flatMap {α : Type*} {record : α → List UInt8} {size : Nat}
    (lengths : ∀ item, (record item).length = size) (items : List α) :
    (items.flatMap record).length = items.length * size := by
  induction items with
  | nil => exact (Nat.zero_mul size).symm
  | cons first items inductionHypothesis =>
    rw [List.flatMap_cons, List.length_append, inductionHypothesis, lengths, List.length_cons,
      Nat.succ_mul, Nat.add_comm]

/-- A record in a row of records of one length. -/
theorem exists_drop_flatMap {α : Type*} {record : α → List UInt8} {size : Nat}
    (lengths : ∀ item, (record item).length = size) {items : List α} {i : Nat} {item : α}
    (isItem : items[i]? = some item) (rest : List UInt8) :
    ∃ behind, (items.flatMap record ++ rest).drop (size * i) = record item ++ behind := by
  induction items generalizing i with
  | nil => cases isItem
  | cons first items inductionHypothesis =>
    rw [List.flatMap_cons, List.append_assoc]
    cases i with
    | zero =>
      obtain rfl : first = item := Option.some.inj isItem
      exact ⟨items.flatMap record ++ rest, rfl⟩
    | succ i =>
      obtain ⟨behind, same⟩ := inductionHypothesis isItem
      refine ⟨behind, ?_⟩
      rw [Nat.mul_succ, Nat.add_comm, ← lengths first, ← List.drop_drop, List.drop_left,
        lengths first, same]

/-- What is read depends on the window only. -/
theorem read_congr {packet other : List UInt8} {size at_offset width : Nat}
    (agree : packet.take size = other.take size) (inside : at_offset + width ≤ size) :
    read packet at_offset width = read other at_offset width := by
  have window (packet : List UInt8) :
      (packet.drop at_offset).take width = ((packet.take size).drop at_offset).take width := by
    rw [List.drop_take, List.take_take, Nat.min_eq_left (Nat.le_sub_of_add_le' inside)]
  rw [read, read, window packet, window other, agree]

end Packed

end TfortisPack.Library
