import TfortisPack.Library.Chunks
import TfortisPack.RealtekPoe.Daemon

/-!
# Frames out of the serial line

`poe_stream_msg_cb` is called for each chunk that has been read, and takes one
frame from the buffer.  A chunk that completes two frames leaves the second
one waiting for the next chunk.
-/

namespace TfortisPack.RealtekPoe

open TfortisPack.Library

/-- The length of a frame. -/
def frameSize : Nat := 12

/-- `poe_stream_msg_cb` as `ustream` calls it, with the buffer that
`ustream_get_read_buf` returns.  The machine emits the frames that are passed to
`poe_reply_consume`. -/
def uart (map : DialectMap) : Machine (Poe × List UInt8) (List UInt8) Frame where
  step state chunk :=
    let buffer := state.2 ++ chunk
    if short : buffer.length < frameSize then ((state.1, buffer), [])
    else
      let reply : Frame := ⟨(buffer.take frameSize).toArray, by
        rw [List.size_toArray, List.length_take]
        simp only [frameSize] at short ⊢
        omega⟩
      (((poeStreamMsgCb map state.1 reply).1, buffer.drop frameSize), [reply])

variable {map : DialectMap}

theorem uart_short {poe : Poe} {buffer chunk : List UInt8}
    (short : (buffer ++ chunk).length < frameSize) :
    (uart map).step (poe, buffer) chunk = ((poe, buffer ++ chunk), []) := by
  simp only [uart, dif_pos short]

theorem uart_frame (map : DialectMap) (poe : Poe) {buffer chunk : List UInt8}
    (enough : ¬(buffer ++ chunk).length < frameSize) :
    ∃ reply : Frame, reply.toList = (buffer ++ chunk).take frameSize ∧
      (uart map).step (poe, buffer) chunk =
        (((poeStreamMsgCb map poe reply).1, (buffer ++ chunk).drop frameSize), [reply]) := by
  simp only [uart, dif_neg enough]
  exact ⟨_, by simp [Vector.toList], rfl⟩

/-- The frames are the blocks that the reader of one block per chunk takes. -/
theorem outputs_uart (map : DialectMap) (poe : Poe) (buffer : List UInt8)
    (chunks : List (List UInt8)) :
    ((uart map).outputs (poe, buffer) chunks).map Vector.toList =
      (blockReader frameSize).outputs buffer chunks := by
  induction chunks generalizing poe buffer with
  | nil =>
      rfl
  | cons chunk chunks inductionHypothesis =>
      simp only [Machine.outputs, Machine.next, Machine.emit, List.map_append]
      by_cases short : (buffer ++ chunk).length < frameSize
      · rw [uart_short short, inductionHypothesis]
        simp only [blockReader, if_pos short]
        rfl
      · obtain ⟨reply, bytes, stepped⟩ := uart_frame map poe short
        rw [stepped, inductionHypothesis]
        simp only [blockReader, if_neg short, List.map_cons, List.map_nil, bytes]

/-- The daemon handles each emitted frame. -/
theorem final_uart (poe : Poe) (buffer : List UInt8) (chunks : List (List UInt8)) :
    ((uart map).final (poe, buffer) chunks).1 =
      (daemon map).final poe (((uart map).outputs (poe, buffer) chunks).map .frame) := by
  induction chunks generalizing poe buffer with
  | nil =>
      rfl
  | cons chunk chunks inductionHypothesis =>
      simp only [Machine.final, Machine.outputs, Machine.next, Machine.emit, List.map_append]
      by_cases short : (buffer ++ chunk).length < frameSize
      · rw [uart_short short, inductionHypothesis]
        rfl
      · obtain ⟨reply, -, stepped⟩ := uart_frame map poe short
        rw [stepped, inductionHypothesis]
        rfl

/-- For a stream of frames and every way to cut it: all frames have been passed
on after the last chunk, in order, exactly if no tail of the cutting completes
more frames than it has chunks. -/
theorem frames_passed_iff (map : DialectMap) (poe : Poe) (frames : List Frame)
    (chunks : List (List UInt8)) (stream : chunks.flatten = frames.flatMap Vector.toList) :
    (uart map).outputs (poe, []) chunks = frames ↔ Paced frameSize chunks := by
  have whole : ∀ part ∈ frames.map Vector.toList, part.length = frameSize := by
    intro part member
    obtain ⟨frame, _, rfl⟩ := List.mem_map.mp member
    simp [frameSize]
  have split : blocks frameSize chunks.flatten = frames.map Vector.toList := by
    rw [stream, List.flatMap_def]
    exact blocks_flatten (by decide) whole
  rw [← outputs_blockReader_iff (by decide), split, ← outputs_uart map poe]
  constructor
  · intro same
    rw [same]
  · intro same
    exact List.map_injective_iff.mpr (fun _ _ equal => Vector.toList_inj.mp equal) same

/-- The answer to a status command, with its checksum. -/
def statusReply (seq : UInt8) : Frame :=
  withChecksum <| Vector.ofFn fun i => if i.val = 0 then 0x40 else if i.val = 1 then seq else 0

/-- A frame cut into five and seven bytes. -/
theorem frame_in_two_chunks :
    [(statusReply 1).toList.take 5, (statusReply 1).toList.drop 5].flatten =
        [statusReply 1].flatMap Vector.toList ∧
      (uart fun _ => 0).outputs (initial, [])
        [(statusReply 1).toList.take 5, (statusReply 1).toList.drop 5] = [statusReply 1] := by
  have stream : [(statusReply 1).toList.take 5, (statusReply 1).toList.drop 5].flatten =
      [statusReply 1].flatMap Vector.toList := by
    simp
  refine ⟨stream, (frames_passed_iff _ _ _ _ stream).mpr ?_⟩
  intro early late isSplit
  cases late with
  | nil =>
      rw [List.append_nil] at isSplit
      rw [isSplit]
      exact Nat.le_add_right _ _
  | cons chunk rest =>
      have one : [(statusReply 1).toList.take 5, (statusReply 1).toList.drop 5].flatten.length /
          frameSize = 1 := by
        rw [stream]
        simp [frameSize]
      rw [one, List.length_cons]
      exact Nat.le_trans (Nat.succ_le_succ (Nat.zero_le rest.length)) (Nat.le_add_left _ _)

/-- Two frames in one chunk: the second one waits. -/
theorem two_frames_in_one_chunk :
    ¬∀ (map : DialectMap) (poe : Poe) (frames : List Frame) (chunks : List (List UInt8)),
      chunks.flatten = frames.flatMap Vector.toList →
        (uart map).outputs (poe, []) chunks = frames := by
  intro always
  have passed := always (fun _ => 0) initial [statusReply 1, statusReply 2]
    [[statusReply 1, statusReply 2].flatMap Vector.toList] (by simp)
  have counted := congrArg (fun passed => (passed.map Vector.toList).length) passed
  simp only [outputs_uart] at counted
  revert counted
  decide

end TfortisPack.RealtekPoe
