import TfortisPack.Autorestart.ClientInterface
import TfortisPack.Autorestart.Ping
import TfortisPack.Library.OnesComplement

/-!
# The checksum of an echo request

`prepare_icmp_pkt` fills a packet and stores the `checksum` of it in the field
that was zero so far.  The words are read and stored in the byte order of the
host, so the sum is right on either kind of machine.
-/

namespace TfortisPack.Autorestart

open TfortisPack.Library ClientInterface

namespace Icmp

/-! ## The packet -/

/-- Two bytes read as an `ushort`. -/
def word (order : ByteOrder) (first second : UInt8) : UInt16 :=
  match order with
  | .littleEndian => UInt16.ofNat (first.toNat + 256 * second.toNat)
  | .bigEndian => UInt16.ofNat (second.toNat + 256 * first.toNat)

/-- An `ushort` in memory. -/
def wordBytes (order : ByteOrder) (value : UInt16) : List UInt8 :=
  match order with
  | .littleEndian => [UInt8.ofNat (value.toNat % 256), UInt8.ofNat (value.toNat / 256)]
  | .bigEndian => [UInt8.ofNat (value.toNat / 256), UInt8.ofNat (value.toNat % 256)]

/-- The words that `checksum` adds; the last byte of an odd length is one of them. -/
def words (order : ByteOrder) : List UInt8 → List UInt16
  | first :: second :: rest => word order first second :: words order rest
  | [last] => [last.toUInt16]
  | [] => []

/-- A packet around a checksum field that is aligned to the words. -/
structure Packet where
  before : List UInt8
  after : List UInt8
  aligned : before.length % 2 = 0
  bounded : before.length + 2 + after.length ≤ 131072

/-- The packet with a value in the field. -/
def Packet.bytes (packet : Packet) (order : ByteOrder) (field : UInt16) : List UInt8 :=
  packet.before ++ wordBytes order field ++ packet.after

/-! ## `checksum` -/

/-- The loop over the words and the last odd byte. -/
def accumulate (order : ByteOrder) : UInt32 → List UInt8 → UInt32
  | sum, first :: second :: rest => accumulate order (sum + (word order first second).toUInt32) rest
  | sum, [last] => sum + last.toUInt32
  | sum, [] => sum

/-- The two folding steps. -/
def fold (sum : UInt32) : UInt32 :=
  let sum := (sum >>> 16) + (sum &&& 0xFFFF)
  sum + (sum >>> 16)

def checksum (order : ByteOrder) (bytes : List UInt8) : UInt16 :=
  (~~~fold (accumulate order 0 bytes)).toUInt16

/-- `ping_pkt->data` after the loop that fills it. -/
def pktData : List UInt8 :=
  (List.range 63).map (fun i => UInt8.ofNat (i + 97)) ++ [0]

/-- `ping_pkt_t` without the checksum: an echo request of the given `icd_id` and of the
sequence number 0. -/
def echoRequest (replyId : ReplyId) : Packet where
  before := [8, 0]
  after := [replyId.1, replyId.2, 0, 0] ++ List.replicate 20 0 ++ pktData
  aligned := rfl
  bounded := by
    simp [pktData]

def prepareIcmpPkt (order : ByteOrder) (replyId : ReplyId) : List UInt8 :=
  let packet := echoRequest replyId
  packet.bytes order (checksum order (packet.bytes order 0))

/-! ## Words -/

theorem words_append (order : ByteOrder) {left : List UInt8} (even : left.length % 2 = 0)
    (right : List UInt8) : words order (left ++ right) = words order left ++ words order right := by
  induction left using words.induct with
  | case1 first second rest inductionHypothesis =>
    rw [List.length_cons, List.length_cons] at even
    rw [List.cons_append, List.cons_append, words, words, inductionHypothesis (by omega),
      List.cons_append]
  | case2 last => cases even
  | case3 => rfl

theorem words_wordBytes (order : ByteOrder) (value : UInt16) :
    words order (wordBytes order value) = [value] := by
  have bounded := value.toNat_lt
  cases order with
  | littleEndian =>
    rw [wordBytes, words, words, word]
    congr 1
    apply UInt16.toNat_inj.mp
    simp only [UInt8.toNat_ofNat', UInt16.toNat_ofNat']
    omega
  | bigEndian =>
    rw [wordBytes, words, words, word]
    congr 1
    apply UInt16.toNat_inj.mp
    simp only [UInt8.toNat_ofNat', UInt16.toNat_ofNat']
    omega

theorem length_wordBytes (order : ByteOrder) (value : UInt16) :
    (wordBytes order value).length = 2 := by
  cases order <;> rfl

theorem length_words_le (order : ByteOrder) (bytes : List UInt8) :
    (words order bytes).length ≤ (bytes.length + 1) / 2 := by
  induction bytes using words.induct with
  | case1 first second rest inductionHypothesis =>
    rw [words, List.length_cons, List.length_cons, List.length_cons]
    omega
  | case2 last =>
    rw [words, List.length_singleton, List.length_singleton]
  | case3 => exact Nat.zero_le _

/-- The words as numbers. -/
def wordValues (order : ByteOrder) (bytes : List UInt8) : List Nat :=
  (words order bytes).map UInt16.toNat

theorem lt_of_mem_wordValues {order : ByteOrder} {bytes : List UInt8} :
    ∀ value ∈ wordValues order bytes, value < 65536 := by
  intro value member
  obtain ⟨word, _, rfl⟩ := List.mem_map.mp member
  exact word.toNat_lt

theorem total_wordValues_le (order : ByteOrder) (bytes : List UInt8) :
    OnesComplement.total (wordValues order bytes) ≤ 65535 * ((bytes.length + 1) / 2) := by
  have small : ∀ value ∈ wordValues order bytes, value ≤ 65535 := fun value member =>
    Nat.le_of_lt_succ (lt_of_mem_wordValues value member)
  have sum := OnesComplement.total_le small
  rw [wordValues, List.length_map] at sum
  exact sum.trans (Nat.mul_le_mul_left _ (length_words_le order bytes))

theorem Packet.wordValues_bytes (packet : Packet) (order : ByteOrder) (field : UInt16) :
    wordValues order (packet.bytes order field) =
      wordValues order packet.before ++ field.toNat :: wordValues order packet.after := by
  have even : (packet.before ++ wordBytes order field).length % 2 = 0 := by
    rw [List.length_append, length_wordBytes]
    have aligned := packet.aligned
    omega
  rw [wordValues, Packet.bytes, words_append order even, words_append order packet.aligned,
    words_wordBytes, List.append_assoc, List.map_append, List.map_append]
  rfl

theorem Packet.length_bytes_le (packet : Packet) (order : ByteOrder) (field : UInt16) :
    (packet.bytes order field).length ≤ 131072 := by
  have bounded := packet.bounded
  rw [Packet.bytes, List.length_append, List.length_append, length_wordBytes]
  exact bounded

/-! ## The accumulator -/

/-- The accumulator holds the exact sum as long as that fits. -/
theorem toNat_accumulate {order : ByteOrder} {sum : UInt32} {bytes : List UInt8}
    (fits : sum.toNat + OnesComplement.total (wordValues order bytes) < 4294967296) :
    (accumulate order sum bytes).toNat =
      sum.toNat + OnesComplement.total (wordValues order bytes) := by
  induction bytes using words.induct generalizing sum with
  | case1 first second rest inductionHypothesis =>
    rw [wordValues, words, List.map_cons, OnesComplement.total_cons] at fits ⊢
    have added : (sum + (word order first second).toUInt32).toNat =
        sum.toNat + (word order first second).toNat := by
      rw [UInt32.toNat_add, UInt16.toNat_toUInt32]
      exact Nat.mod_eq_of_lt (by omega)
    rw [accumulate, inductionHypothesis, added, Nat.add_assoc]
    · rfl
    · rw [added, Nat.add_assoc]
      exact fits
  | case2 last =>
    have value : OnesComplement.total (wordValues order [last]) = last.toNat := by
      simp [wordValues, words]
    rw [value] at fits ⊢
    rw [accumulate, UInt32.toNat_add, UInt8.toNat_toUInt32]
    exact Nat.mod_eq_of_lt fits
  | case3 => rfl

/-- A packet of at most 131072 bytes does not overflow the accumulator. -/
theorem toNat_accumulate_of_length_le {order : ByteOrder} {bytes : List UInt8}
    (bounded : bytes.length ≤ 131072) :
    (accumulate order 0 bytes).toNat = OnesComplement.total (wordValues order bytes) := by
  have total := total_wordValues_le order bytes
  have zero : (0 : UInt32).toNat = 0 := rfl
  rw [toNat_accumulate (by omega), zero, Nat.zero_add]

/-! ## Folding -/

theorem toNat_high (sum : UInt32) : (sum >>> 16).toNat = sum.toNat / 65536 := by
  rw [UInt32.toNat_shiftRight]
  exact Nat.shiftRight_eq_div_pow _ 16

theorem toNat_low (sum : UInt32) : (sum &&& 0xFFFF).toNat = sum.toNat % 65536 := by
  rw [UInt32.toNat_and]
  exact Nat.and_two_pow_sub_one_eq_mod _ 16

theorem toNat_fold (sum : UInt32) :
    (fold sum).toNat =
      sum.toNat / 65536 + sum.toNat % 65536 +
        (sum.toNat / 65536 + sum.toNat % 65536) / 65536 := by
  have bounded := sum.toNat_lt
  have first : ((sum >>> 16) + (sum &&& 0xFFFF)).toNat =
      sum.toNat / 65536 + sum.toNat % 65536 := by
    rw [UInt32.toNat_add, toNat_high, toNat_low]
    omega
  rw [fold, UInt32.toNat_add, toNat_high, first]
  omega

/-- Two folds and the truncation give the fully folded sum, whatever the accumulator holds. -/
theorem toNat_toUInt16_fold (sum : UInt32) :
    (fold sum).toUInt16.toNat = OnesComplement.folded 65536 sum.toNat := by
  rw [OnesComplement.folded_eq_twice (by omega) sum.toNat_lt, UInt32.toNat_toUInt16, toNat_fold]

theorem toNat_checksum (order : ByteOrder) (bytes : List UInt8) :
    (checksum order bytes).toNat =
      65535 - OnesComplement.folded 65536 (accumulate order 0 bytes).toNat := by
  rw [checksum, UInt32.toNat_toUInt16, UInt32.toNat_not, ← toNat_toUInt16_fold,
    UInt32.toNat_toUInt16]
  have bounded := (fold (accumulate order 0 bytes)).toNat_lt
  have size : UInt32.size = 4294967296 := rfl
  omega

/-! ## The stored checksum -/

theorem Packet.total_wordValues (packet : Packet) (order : ByteOrder) (field : UInt16) :
    OnesComplement.total (wordValues order (packet.bytes order field)) =
      OnesComplement.total (wordValues order (packet.bytes order 0)) + field.toNat := by
  have zero : (0 : UInt16).toNat = 0 := rfl
  rw [packet.wordValues_bytes, packet.wordValues_bytes, OnesComplement.total_append,
    OnesComplement.total_append, OnesComplement.total_cons, OnesComplement.total_cons, zero]
  omega

theorem Packet.sum_stored (packet : Packet) (order : ByteOrder) :
    OnesComplement.sum 65536
      (wordValues order (packet.bytes order (checksum order (packet.bytes order 0)))) = 0xFFFF := by
  rw [OnesComplement.sum_eq_folded (by omega) lt_of_mem_wordValues, packet.total_wordValues,
    toNat_checksum, toNat_accumulate_of_length_le (packet.length_bytes_le order 0)]
  exact OnesComplement.folded_add_complement (by omega) _

/-- Up to any word the accumulator is the exact sum of the words so far, two folds are enough
for every sum, and the packet with its checksum sums up to all ones. -/
theorem icmp_checksum_is_correct (packet : Packet) (order : ByteOrder) :
    let cleared := packet.bytes order 0
    (∀ count,
      (accumulate order 0 (cleared.take count)).toNat =
        OnesComplement.total (wordValues order (cleared.take count))) ∧
    (∀ sum : UInt32, (fold sum).toUInt16.toNat = OnesComplement.folded 65536 sum.toNat) ∧
    OnesComplement.sum 65536 (wordValues order (packet.bytes order (checksum order cleared))) =
      0xFFFF := by
  refine ⟨fun count => ?_, toNat_toUInt16_fold, packet.sum_stored order⟩
  have shorter := List.length_take_le' count (packet.bytes order 0)
  exact toNat_accumulate_of_length_le (shorter.trans (packet.length_bytes_le order 0))

/-- Every request that is sent carries a correct checksum. -/
theorem sum_prepareIcmpPkt (order : ByteOrder) (replyId : ReplyId) :
    OnesComplement.sum 65536 (wordValues order (prepareIcmpPkt order replyId)) = 0xFFFF :=
  (echoRequest replyId).sum_stored order

end Icmp

end TfortisPack.Autorestart
