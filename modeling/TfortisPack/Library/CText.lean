import Mathlib.Data.List.Basic

/-!
# Byte arrays and lines of C programs

Two idioms: a byte string stored with its terminating NUL into an array that
keeps its other bytes, and a stream that is read line by line through a buffer
of limited size, so that a long line arrives in pieces.
-/

namespace TfortisPack.Library

namespace CText

/-- `bytes` and a NUL at the start of the array.  What does not fit lies behind
the array and is not kept. -/
def store {size : Nat} (array : Vector UInt8 size) (bytes : List UInt8) : Vector UInt8 size :=
  Vector.ofFn fun index =>
    if within : index.val < bytes.length then
      bytes[index.val]
    else if index.val = bytes.length then
      0
    else
      array[index.val]

section Store

variable {size : Nat}

/-- The array after a store: the string, its NUL, and the bytes that were there. -/
theorem toList_store (array : Vector UInt8 size) (bytes : List UInt8) :
    (store array bytes).toList =
      (bytes ++ 0 :: array.toList.drop (bytes.length + 1)).take size := by
  apply List.ext_getElem
  · simp only [Vector.length_toList, List.length_take, List.length_append, List.length_cons,
      List.length_drop]
    omega
  · intro position inArray inText
    rw [Vector.length_toList] at inArray
    rw [Vector.getElem_toList, List.getElem_take]
    simp only [store, Vector.getElem_ofFn]
    rcases Nat.lt_trichotomy position bytes.length with stored | rfl | behind
    · rw [dif_pos stored, List.getElem_append_left stored]
    · rw [dif_neg (Nat.lt_irrefl _), if_pos rfl, List.getElem_append_right (Nat.le_refl _)]
      simp
    · have notStored : ¬position < bytes.length := by omega
      have notEnd : position ≠ bytes.length := by omega
      rw [dif_neg notStored, if_neg notEnd, List.getElem_append_right (by omega)]
      obtain ⟨offset, rfl⟩ := Nat.exists_eq_add_of_lt behind
      have shifted : bytes.length + offset + 1 - bytes.length = offset + 1 := by omega
      simp only [shifted, List.getElem_cons_succ, List.getElem_drop, Vector.getElem_toList]
      congr 1
      omega

/-- A string that fills the array is all that is left of it. -/
theorem toList_store_of_le {array : Vector UInt8 size} {bytes : List UInt8}
    (fills : size ≤ bytes.length) : (store array bytes).toList = bytes.take size := by
  rw [toList_store, List.take_append_of_le_length fills]

theorem zero_mem_store {array : Vector UInt8 size} {bytes : List UInt8}
    (short : bytes.length < size) : 0 ∈ (store array bytes).toList := by
  have atEnd : (store array bytes).toList[bytes.length]? = some 0 := by
    rw [toList_store, List.getElem?_take_of_lt short, List.getElem?_append_right (Nat.le_refl _)]
    simp
  exact List.mem_of_getElem? atEnd

end Store

def newline : UInt8 := 10

/-- The successive results of `fgets` with a buffer of `limit + 1` bytes. -/
def piecesFrom (limit : Nat) : List UInt8 → List UInt8 → List (List UInt8)
  | pending, [] => if pending = [] then [] else [pending]
  | pending, byte :: rest =>
      if byte = newline ∨ limit ≤ pending.length + 1 then
        (pending ++ [byte]) :: piecesFrom limit [] rest
      else
        piecesFrom limit (pending ++ [byte]) rest

def pieces (limit : Nat) (text : List UInt8) : List (List UInt8) :=
  piecesFrom limit [] text

/-- A text of whole lines. -/
def unlines (lines : List (List UInt8)) : List UInt8 :=
  lines.flatMap (· ++ [newline])

/-- A piece starts its line, or stands behind a full buffer of it. -/
def PieceOf (limit : Nat) (line piece : List UInt8) : Prop :=
  ∃ before behind, line ++ [newline] = before ++ (piece ++ behind) ∧
    (before = [] ∨ limit ≤ before.length)

section Pieces

variable {limit : Nat}

theorem piecesFrom_line {line before pending rest more : List UInt8} {piece : List UInt8}
    (noNewline : newline ∉ rest) (whole : line = before ++ (pending ++ rest))
    (position : before = [] ∨ limit ≤ before.length)
    (member : piece ∈ piecesFrom limit pending (rest ++ newline :: more)) :
    PieceOf limit line piece ∨ piece ∈ pieces limit more := by
  induction rest generalizing before pending with
  | nil =>
      rw [List.nil_append, piecesFrom, if_pos (Or.inl rfl)] at member
      rcases List.mem_cons.mp member with rfl | later
      · refine Or.inl ⟨before, [], ?_, position⟩
        rw [whole]
        simp
      · exact Or.inr later
  | cons byte rest inductionHypothesis =>
      have laterLines : newline ∉ rest := fun later =>
        noNewline (List.mem_cons_of_mem byte later)
      have notNewline : byte ≠ newline := fun same => noNewline (same ▸ List.mem_cons_self)
      rw [List.cons_append, piecesFrom] at member
      split at member
      · rename_i full
        have fullBuffer : limit ≤ pending.length + 1 := full.resolve_left notNewline
        rcases List.mem_cons.mp member with rfl | later
        · refine Or.inl ⟨before, rest ++ [newline], ?_, position⟩
          rw [whole]
          simp
        · -- the next piece starts behind the full buffer
          have resumed : line = before ++ (pending ++ [byte]) ++ ([] ++ rest) := by
            rw [whole]
            simp
          have behindBuffer : limit ≤ (before ++ (pending ++ [byte])).length := by
            simp only [List.length_append, List.length_singleton]
            omega
          exact inductionHypothesis laterLines resumed (Or.inr behindBuffer) later
      · refine inductionHypothesis laterLines ?_ position member
        rw [whole]
        simp

/-- Every piece of a text of whole lines is a piece of one of them. -/
theorem pieces_unlines {lines : List (List UInt8)} {piece : List UInt8}
    (noNewline : ∀ line ∈ lines, newline ∉ line)
    (member : piece ∈ pieces limit (unlines lines)) :
    ∃ line ∈ lines, PieceOf limit line piece := by
  induction lines with
  | nil =>
      simp [unlines, pieces, piecesFrom] at member
  | cons line lines inductionHypothesis =>
      have unfolded : unlines (line :: lines) = line ++ newline :: unlines lines := by
        simp [unlines]
      rw [unfolded, pieces] at member
      have inLine : newline ∉ line := noNewline line List.mem_cons_self
      have fresh : line = [] ++ ([] ++ line) := rfl
      rcases piecesFrom_line inLine fresh (Or.inl rfl) member with here | later
      · exact ⟨line, List.mem_cons_self, here⟩
      · obtain ⟨other, inRest, isPiece⟩ := inductionHypothesis
          (fun other inRest => noNewline other (List.mem_cons_of_mem line inRest)) later
        exact ⟨other, List.mem_cons_of_mem line inRest, isPiece⟩

end Pieces

end CText

end TfortisPack.Library
