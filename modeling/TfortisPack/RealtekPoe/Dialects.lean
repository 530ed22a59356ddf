import TfortisPack.Library.PairedTables
import TfortisPack.RealtekPoe.Daemon

/-!
# The two dialects

`bcm_to_rtl_map` names for a Broadcom command its Realtek command, 0 where the
two agree.  `close_map` writes the way back into the same array while it walks
through it, and from then on one lookup serves both directions.
-/

namespace TfortisPack.RealtekPoe

open TfortisPack.Library

/-! ## `close_map` -/

/-- The body of the loop. -/
def closeEntry (map : DialectMap) (i : Nat) : DialectMap :=
  let cmd := map (UInt8.ofNat i)
  if cmd ≠ 0 then Function.update map cmd (UInt8.ofNat i) else map

def closeMap (map : DialectMap) : DialectMap :=
  (List.range 256).foldl closeEntry map

/-- The shipped `bcm_to_rtl_map`; every entry of it is commented out. -/
def bcmToRtlMap : DialectMap := fun _ => 0

/-- A map of which the comment at `close_map` holds: the Realtek dialect does not reuse the ids
of the commands it renames. -/
structure DisjointDialects where
  map : DialectMap
  zero : map 0 = 0
  distinct : ∀ left right, map left ≠ 0 → map left = map right → left = right
  fresh : ∀ cmd, map cmd ≠ 0 → map (map cmd) = 0

def shippedDialects : DisjointDialects where
  map := bcmToRtlMap
  zero := rfl
  distinct := fun _ _ renamed => absurd rfl renamed
  fresh := fun _ _ => rfl

/-! ## The closed map -/

/-- The indices of the loop. -/
def indices : List UInt8 :=
  (List.range 256).map UInt8.ofNat

theorem mem_indices (cmd : UInt8) : cmd ∈ indices :=
  List.mem_map.mpr ⟨cmd.toNat, List.mem_range.mpr cmd.toNat_lt, UInt8.ofNat_toNat⟩

theorem closeMap_eq (map : DialectMap) : closeMap map = PairedTables.close 0 map indices := by
  rw [PairedTables.close, indices, List.foldl_map]
  rfl

namespace DisjointDialects

theorem admissible (dialects : DisjointDialects) : PairedTables.Admissible 0 dialects.map where
  unset_unset := dialects.zero
  distinct := dialects.distinct
  fresh := dialects.fresh

theorem closing (dialects : DisjointDialects) :
    PairedTables.Closing 0 dialects.map indices (closeMap dialects.map) := by
  rw [closeMap_eq]
  exact PairedTables.closing_close dialects.admissible indices

theorem bcmToRtlCmdId_twice (dialects : DisjointDialects) (cmd : UInt8) :
    bcmToRtlCmdId (closeMap dialects.map) (bcmToRtlCmdId (closeMap dialects.map) cmd) = cmd :=
  dialects.closing.translate_translate dialects.admissible (fun key _ => mem_indices key) cmd

theorem bcmToRtlCmdId_of_renamed (dialects : DisjointDialects) {cmd : UInt8}
    (renamed : dialects.map cmd ≠ 0) :
    bcmToRtlCmdId (closeMap dialects.map) cmd = dialects.map cmd :=
  dialects.closing.translate_of_ne_unset renamed

end DisjointDialects

/-! ## Frames -/

theorem replyId_buildFrame (map : DialectMap) (seq : UInt8) (request : Request) :
    replyId map (buildFrame map seq request) =
      bcmToRtlCmdId map (bcmToRtlCmdId map (request.val.getD 0 0xff)) := by
  simp [replyId, buildFrame]

/-- The closed map is its own inverse and goes where the original map goes, so the id of a
frame that is sent, or of a reply that echoes it, is read back as the id that was asked for. -/
theorem close_map_is_an_involution (dialects : DisjointDialects) :
    (∀ cmd,
      bcmToRtlCmdId (closeMap dialects.map) (bcmToRtlCmdId (closeMap dialects.map) cmd) = cmd) ∧
    (∀ cmd, dialects.map cmd ≠ 0 →
      bcmToRtlCmdId (closeMap dialects.map) cmd = dialects.map cmd) ∧
    ∀ seq request,
      replyId (closeMap dialects.map) (buildFrame (closeMap dialects.map) seq request) =
        request.val.getD 0 0xff := by
  refine ⟨dialects.bcmToRtlCmdId_twice, fun _ => dialects.bcmToRtlCmdId_of_renamed,
    fun seq request => ?_⟩
  rw [replyId_buildFrame, dialects.bcmToRtlCmdId_twice]

/-- An answer is dispatched by the id of the request, whatever the map renames. -/
theorem dispatchReply_of_answers (dialects : DisjointDialects) {seq : UInt8} {request : Request}
    {cmd : Cmd} {reply : Frame} (telemetry : Telemetry)
    (sent : cmd.cmd = buildFrame (closeMap dialects.map) seq request)
    (answers : Answers (closeMap dialects.map) reply cmd)
    (known : (request.val.getD 0 0xff).toNat ≤ replyHandlerSize) :
    dispatchReply (closeMap dialects.map) cmd reply telemetry =
      match replyHandler (request.val.getD 0 0xff) with
      | none => (telemetry, [.handlerIndexed (request.val.getD 0 0xff).toNat])
      | some handler =>
          ((handler reply telemetry).1,
            .handlerIndexed (request.val.getD 0 0xff).toNat :: (handler reply telemetry).2) := by
  have requested : replyId (closeMap dialects.map) cmd.cmd = request.val.getD 0 0xff := by
    rw [sent, replyId_buildFrame, dialects.bcmToRtlCmdId_twice]
  have answered : replyId (closeMap dialects.map) reply = request.val.getD 0 0xff :=
    answers.1.trans requested
  have matching : ¬(request.val.getD 0 0xff ≠ request.val.getD 0 0xff ∨
      (request.val.getD 0 0xff).toNat > replyHandlerSize) := by
    simpa using known
  rw [replyId] at requested answered
  rw [dispatchReply, answered, requested]
  exact (if_neg matching).trans (if_neg (not_not_intro answers.2))

end TfortisPack.RealtekPoe
