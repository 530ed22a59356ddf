import TfortisPack.RealtekPoe.Numerals
import TfortisPack.RealtekPoe.PortSetup
import TfortisPack.Library.Words

/-!
# The strings of `sendframe`

The loop of `ubus_poe_sendframe_cb` converts one number after the other until
the end of the string is reached or nine values are stored.
-/

namespace TfortisPack.RealtekPoe

open TfortisPack.Library

/-! ## Strings of byte values -/

/-- The digits of a word; `marked` tells whether `0x` may stand in front of them. -/
def wordDigits (marked : Bool) (word : List Char) : List Char :=
  match word with
  | '0' :: x :: digits => if marked = true ∧ (x = 'x' ∨ x = 'X') then digits else word
  | _ => word

/-- The frame of a list of values; the sequence number takes the place of the second one. -/
structure Carries (map : DialectMap) (seq : UInt8) (values : List UInt8) (frame : Frame) :
    Prop where
  first : frame.toList.getD 0 0 = bcmToRtlCmdId map (values.getD 0 0xff)
  sequence : frame.toList.getD 1 0 = seq
  remaining : ∀ i, 2 ≤ i → i < 11 → frame.toList.getD i 0xff = values.getD i 0xff
  checksum : ChecksumOk frame

/-- A number that the loop stores. -/
structure Numeral.IsByte (numeral : Numeral) : Prop where
  converted : hexValue numeral.digits < 4294967296
  small : numeral.value ≤ 0xff

/-- A number as it stands in a string of byte values. -/
structure Numeral.Plain (marked : Bool) (numeral : Numeral) : Prop where
  unsigned : numeral.sign = []
  unmarked : marked = false → numeral.mark = []

/-- The text is the given numbers, each a byte, and `rest`. -/
def Spells : List Numeral → (rest text : List Char) → Prop
  | [], rest, text => text = rest
  | numeral :: later, rest, text =>
      ∃ behind, text = numeral.text ++ behind ∧ numeral.Ends behind ∧ numeral.IsByte ∧
        Spells later rest behind

def Numeral.byte (numeral : Numeral) : UInt8 :=
  UInt8.ofNat numeral.value

variable {map : DialectMap} {poe : Poe} {marked : Bool} {text rest : List Char}
  {room : Nat} {bytes : List UInt8} {numeral : Numeral} {numerals : List Numeral}

theorem isHex_mark_free {digits : List Char} (allHex : ∀ letter ∈ digits, isHex letter = true) :
    wordDigits marked digits = digits := by
  unfold wordDigits
  split
  · rename_i x more
    rw [if_neg]
    rintro ⟨-, isMark⟩
    have hex : isHex x = true := allHex x (by simp)
    rcases isMark with rfl | rfl
    · exact absurd hex (by decide)
    · exact absurd hex (by decide)
  · rfl

theorem Numeral.Plain.wordDigits (plain : numeral.Plain marked) :
    wordDigits marked (numeral.mark ++ numeral.digits) = numeral.digits := by
  have isMarked : numeral.mark ≠ [] → marked = true := by
    intro nonempty
    by_contra unmarked
    exact nonempty (plain.unmarked (Bool.eq_false_iff.mpr unmarked))
  rcases numeral.marks with mark | mark | mark
  · rw [mark, List.nil_append]
    exact isHex_mark_free numeral.allHex
  · rw [mark]
    exact if_pos ⟨isMarked (by simp [mark]), Or.inl rfl⟩
  · rw [mark]
    exact if_pos ⟨isMarked (by simp [mark]), Or.inr rfl⟩

theorem Numeral.Plain.value (plain : numeral.Plain marked) :
    numeral.value = hexValue numeral.digits := by
  rw [Numeral.value, plain.unsigned]
  rfl

theorem Numeral.mark_solid (numeral : Numeral) :
    ∀ letter ∈ numeral.mark, isSpace letter = false := by
  rcases numeral.marks with mark | mark | mark
  · rw [mark]
    exact fun _ member => absurd member List.not_mem_nil
  · rw [mark]
    exact List.forall_mem_cons.mpr ⟨rfl, List.forall_mem_singleton.mpr rfl⟩
  · rw [mark]
    exact List.forall_mem_cons.mpr ⟨rfl, List.forall_mem_singleton.mpr rfl⟩

theorem Numeral.Plain.words (plain : numeral.Plain marked)
    (separated : BlankFirst isSpace rest) :
    words isSpace (numeral.text ++ rest) =
      (numeral.mark ++ numeral.digits) :: words isSpace rest := by
  have shape : numeral.text ++ rest =
      numeral.blanks ++ ((numeral.mark ++ numeral.digits) ++ rest) := by
    rw [Numeral.text, plain.unsigned, List.nil_append, List.append_assoc]
  rw [shape, words_append_of_blank numeral.allBlank]
  apply words_append _ _ separated
  · simp [numeral.nonempty]
  · intro letter member
    rcases List.mem_append.mp member with inMark | inDigits
    · exact numeral.mark_solid letter inMark
    · exact isSpace_of_isHex (numeral.allHex letter inDigits)

end TfortisPack.RealtekPoe
