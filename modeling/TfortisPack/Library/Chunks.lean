import Mathlib.Data.List.Induction
import TfortisPack.Library.Runs

/-!
# Reading blocks from a chunked stream

A stream of items arrives in chunks and is read in blocks of a fixed size.
The reader here takes at most one block for each chunk, so it falls behind as
soon as a chunk completes more than one block.  The module says exactly for
which cuttings it has read every complete block at the end.
-/

namespace TfortisPack.Library

universe u

variable {α : Type u} {size : Nat}

/-! ## Blocks -/

/-- The block with number `i`. -/
def block (size : Nat) (items : List α) (i : Nat) : List α :=
  (items.drop (i * size)).take size

/-- The complete blocks of a stream. -/
def blocks (size : Nat) (items : List α) : List (List α) :=
  (List.range (items.length / size)).map (block size items)

theorem length_blocks (items : List α) : (blocks size items).length = items.length / size := by
  simp [blocks]

theorem mul_le_of_le_div {count total : Nat} (within : count ≤ total / size) :
    count * size ≤ total :=
  Nat.le_trans (Nat.mul_le_mul_right size within) (Nat.div_mul_le_self total size)

/-- What follows a stream does not change its complete blocks. -/
theorem block_append {items : List α} {i : Nat} (complete : i < items.length / size)
    (more : List α) : block size (items ++ more) i = block size items i := by
  have fits := mul_le_of_le_div (Nat.succ_le_of_lt complete)
  rw [Nat.succ_mul] at fits
  rw [block, block, List.drop_append_of_le_length (by omega),
    List.take_append_of_le_length (by rw [List.length_drop]; omega)]

theorem blocks_cons (positive : 0 < size) {part : List α} (whole : part.length = size)
    (rest : List α) : blocks size (part ++ rest) = part :: blocks size rest := by
  have count : (part ++ rest).length / size = rest.length / size + 1 := by
    rw [List.length_append, whole, Nat.add_comm, Nat.add_div_right _ positive]
  rw [blocks, count, List.range_succ_eq_map, List.map_cons, List.map_map]
  congr 1
  · simp [block, ← whole]
  · apply List.map_congr_left
    intro i _
    simp only [Function.comp_apply, block, Nat.succ_mul, Nat.succ_eq_add_one]
    rw [Nat.add_comm, ← List.drop_drop, ← whole, List.drop_left]

/-- The blocks of a stream that is put together from blocks. -/
theorem blocks_flatten (positive : 0 < size) {parts : List (List α)}
    (whole : ∀ part ∈ parts, part.length = size) : blocks size parts.flatten = parts := by
  induction parts with
  | nil =>
      simp [blocks]
  | cons part parts inductionHypothesis =>
      rw [List.flatten_cons, blocks_cons positive (whole part List.mem_cons_self),
        inductionHypothesis fun other member => whole other (List.mem_cons_of_mem part member)]

/-! ## The reader -/

/-- A reader that takes one block from its buffer for each chunk. -/
def blockReader (size : Nat) : Machine (List α) (List α) (List α) where
  step buffer chunk :=
    if (buffer ++ chunk).length < size then (buffer ++ chunk, [])
    else ((buffer ++ chunk).drop size, [(buffer ++ chunk).take size])

/-- The first `count` blocks of the stream have been read and the rest of it
waits. -/
structure ReadUpTo (size : Nat) (items : List α) (count : Nat) (buffer : List α)
    (read : List (List α)) : Prop where
  complete : count ≤ items.length / size
  waits : buffer = items.drop (count * size)
  blocks : read = (List.range count).map (block size items)

theorem ReadUpTo.step (positive : 0 < size) {items buffer : List α} {count : Nat}
    {read : List (List α)} (upTo : ReadUpTo size items count buffer read) (chunk : List α) :
    ReadUpTo size (items ++ chunk) (min (count + 1) ((items ++ chunk).length / size))
      ((blockReader size).next buffer chunk) (read ++ (blockReader size).emit buffer chunk) := by
  obtain ⟨complete, rfl, rfl⟩ := upTo
  have fits := mul_le_of_le_div complete
  have grown : items.length / size ≤ (items ++ chunk).length / size :=
    Nat.div_le_div_right (by simp)
  have filled : items.drop (count * size) ++ chunk = (items ++ chunk).drop (count * size) :=
    (List.drop_append_of_le_length fits).symm
  have earlier : (List.range count).map (block size items) =
      (List.range count).map (block size (items ++ chunk)) := by
    apply List.map_congr_left
    intro i member
    exact (block_append (Nat.lt_of_lt_of_le (List.mem_range.mp member) complete) chunk).symm
  have short : (items.drop (count * size) ++ chunk).length < size ↔
      (items ++ chunk).length / size < count + 1 := by
    rw [filled, List.length_drop, Nat.div_lt_iff_lt_mul positive, Nat.succ_mul]
    omega
  simp only [Machine.next, Machine.emit, blockReader]
  by_cases isShort : (items.drop (count * size) ++ chunk).length < size
  · have all : min (count + 1) ((items ++ chunk).length / size) = count := by
      have := short.mp isShort
      omega
    rw [if_pos isShort, all, List.append_nil]
    exact ⟨Nat.le_trans complete grown, filled, earlier⟩
  · have more : min (count + 1) ((items ++ chunk).length / size) = count + 1 := by
      have := mt short.mpr isShort
      omega
    rw [if_neg isShort, more]
    refine ⟨?_, ?_, ?_⟩
    · have := mt short.mpr isShort
      omega
    · rw [filled, List.drop_drop, Nat.succ_mul]
    · rw [List.range_succ, List.map_append, earlier, filled]
      rfl

/-- No tail of the cutting completes more blocks than it has chunks. -/
def Paced (size : Nat) (chunks : List (List α)) : Prop :=
  ∀ early late, chunks = early ++ late →
    chunks.flatten.length / size ≤ early.flatten.length / size + late.length

/-- The number of blocks read reaches a target exactly if no tail of the cutting
lies more than its length behind it. -/
theorem exists_readUpTo (positive : 0 < size) (chunks : List (List α)) :
    ∃ count, ReadUpTo size chunks.flatten count ((blockReader size).final [] chunks)
        ((blockReader size).outputs [] chunks) ∧
      ∀ target more, target ≤ count + more ↔ ∀ early late, chunks = early ++ late →
        target ≤ early.flatten.length / size + late.length + more := by
  induction chunks using List.reverseRecOn with
  | nil =>
      refine ⟨0, ⟨Nat.zero_le _, by simp [Machine.final], rfl⟩, fun target more => ?_⟩
      constructor
      · intro reached early late _
        exact Nat.le_trans reached (Nat.add_le_add_right (Nat.zero_le _) more)
      · intro bounded
        simpa using bounded [] [] rfl
  | append_singleton chunks chunk inductionHypothesis =>
      obtain ⟨count, upTo, reaches⟩ := inductionHypothesis
      have together : (chunks ++ [chunk]).flatten = chunks.flatten ++ chunk := by
        simp
      refine ⟨min (count + 1) ((chunks ++ [chunk]).flatten.length / size), ?_, ?_⟩
      · rw [Machine.final_append, Machine.outputs_append, together]
        have step := upTo.step positive chunk
        simpa [Machine.final, Machine.outputs] using step
      · intro target more
        have split : target ≤ min (count + 1) ((chunks ++ [chunk]).flatten.length / size) + more ↔
            target ≤ count + (1 + more) ∧
              target ≤ (chunks ++ [chunk]).flatten.length / size + more := by
          omega
        rw [split, reaches]
        constructor
        · rintro ⟨before, whole⟩ early late isSplit
          rcases List.eq_nil_or_concat' late with rfl | ⟨rest, last, rfl⟩
          · rw [List.append_nil] at isSplit
            rw [← isSplit]
            simpa using whole
          · rw [← List.append_assoc] at isSplit
            obtain ⟨sameChunks, -⟩ := List.append_inj' isSplit rfl
            have bound := before early rest sameChunks
            rw [List.length_append, List.length_singleton]
            omega
        · intro bounded
          refine ⟨fun early late isSplit => ?_, ?_⟩
          · have bound := bounded early (late ++ [chunk]) (by rw [isSplit, List.append_assoc])
            rw [List.length_append, List.length_singleton] at bound
            omega
          · simpa using bounded (chunks ++ [chunk]) [] (List.append_nil _).symm

/-- Every complete block has been read at the end exactly if the cutting is
paced. -/
theorem outputs_blockReader_iff (positive : 0 < size) (chunks : List (List α)) :
    (blockReader size).outputs [] chunks = blocks size chunks.flatten ↔ Paced size chunks := by
  obtain ⟨count, upTo, reaches⟩ := exists_readUpTo positive chunks
  have reachesAll := reaches (chunks.flatten.length / size) 0
  simp only [Nat.add_zero] at reachesAll
  rw [Paced, ← reachesAll]
  constructor
  · intro same
    have lengths := congrArg List.length same
    rw [upTo.blocks, List.length_map, List.length_range, length_blocks] at lengths
    exact Nat.le_of_eq lengths.symm
  · intro all
    rw [upTo.blocks, Nat.le_antisymm upTo.complete all]
    rfl

end TfortisPack.Library
