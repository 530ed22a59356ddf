import TfortisPack.DeviceMonitor.SettingsText
import TfortisPack.Library.Words

/-!
# `split_line`

`parsing.c`.  The tokens of a line go into an array from `malloc` that is
enlarged by `DM_TOK_BUFSIZE` whenever the index reaches its end.  The index is
the field `splitLineMax`, an `uint8_t`: it is counted up for each token and down
once at the end.

Memory is taken to be available.  A result `none` stands for a store behind the
end of the array.
-/

namespace TfortisPack.DeviceMonitor

open TfortisPack.Library

/-! ## The code -/

/-- `DM_TOK_BUFSIZE`. -/
def dmTokBufsize : Nat := 64

/-- The variables of `split_line`; `tokens` is what the memory behind the pointer
holds. -/
structure Splitting where
  tokens : Nat → Option (List UInt8)
  bufsize : Nat
  splitLineMax : UInt8

/-- The assignment to `tokens[splitLineMax]`. -/
def Splitting.store (state : Splitting) (token : Option (List UInt8)) : Option Splitting :=
  if state.splitLineMax.toNat < state.bufsize then
    some { state with tokens := Function.update state.tokens state.splitLineMax.toNat token }
  else none

/-- The body of the loop; `realloc` keeps what the array holds. -/
def Splitting.push (state : Splitting) (token : List UInt8) : Option Splitting :=
  (state.store (some token)).map fun stored =>
    let splitLineMax := stored.splitLineMax + 1
    { stored with
      splitLineMax := splitLineMax
      bufsize :=
        if splitLineMax.toNat ≥ stored.bufsize then stored.bufsize + dmTokBufsize
        else stored.bufsize }

/-- `strtok` on what is left of the line: the token and what is left behind it. -/
def strtok (delim rest : List UInt8) : Option (List UInt8 × List UInt8) :=
  let found := rest.dropWhile (· ∈ delim)
  if found = [] then none
  else some (found.takeWhile (· ∉ delim), (found.dropWhile (· ∉ delim)).tail)

theorem strtok_shortens {delim rest token behind : List UInt8}
    (found : strtok delim rest = some (token, behind)) : behind.length < rest.length := by
  simp only [strtok] at found
  split at found
  · cases found
  · rename_i nonempty
    cases found
    have positive := List.length_pos_iff.mpr nonempty
    have fewer := (rest.dropWhile_sublist (· ∈ delim)).length_le
    have least := ((rest.dropWhile (· ∈ delim)).dropWhile_sublist (· ∉ delim)).length_le
    rw [List.length_tail]
    omega

/-- The loop of `split_line`. -/
def splitLoop (delim rest : List UInt8) (state : Splitting) : Option Splitting :=
  match found : strtok delim rest with
  | none => some state
  | some (token, behind) =>
      have _shorter := strtok_shortens found
      (state.push token).bind (splitLoop delim behind)
  termination_by rest.length

/-- `split_line`; `heap` is what the memory of the array held before. -/
def splitLineStores (heap : Nat → Option (List UInt8)) (delim line : List UInt8) :
    Option Splitting :=
  (splitLoop delim line ⟨heap, dmTokBufsize, 0⟩).bind fun filled =>
    (filled.store none).map fun ended => { ended with splitLineMax := ended.splitLineMax - 1 }

/-! ## The contract -/

/-- The maximal nonempty pieces of a line without a delimiter. -/
def pieces (delim line : List UInt8) : List (List UInt8) :=
  words (fun byte => decide (byte ∈ delim)) line

/-- The tokens in order, the null pointer behind them, their number, and what a loop over the
indices 0 to `splitLineMax` visits. -/
structure Contract (delim line : List UInt8) (result : Splitting) : Prop where
  tokens : ∀ index < (pieces delim line).length,
    result.tokens index = (pieces delim line)[index]?
  terminated : result.tokens (pieces delim line).length = none
  counted : result.splitLineMax.toNat + 1 = (pieces delim line).length
  visited : (List.range (result.splitLineMax.toNat + 1)).map result.tokens =
    (pieces delim line).map some

/-! ## `strtok` -/

theorem pieces_of_strtok_none {delim rest : List UInt8} (ends : strtok delim rest = none) :
    pieces delim rest = [] := by
  simp only [strtok] at ends
  split at ends
  · rename_i blank
    rw [pieces, words_eq_nil_iff]
    exact List.dropWhile_eq_nil_iff.mp blank
  · cases ends

theorem pieces_of_strtok_some {delim rest token behind : List UInt8}
    (found : strtok delim rest = some (token, behind)) :
    pieces delim rest = token :: pieces delim behind := by
  have notIn : (fun byte => decide (byte ∉ delim)) =
      fun byte => !decide (byte ∈ delim) := by
    funext byte
    exact decide_not
  simp only [strtok, notIn] at found
  split at found
  · cases found
  · rename_i nonempty
    cases found
    exact words_eq_cons_of_dropWhile nonempty

/-! ## The loop -/

/-- A store at an index inside the array. -/
def Splitting.Inside (state : Splitting) : Prop :=
  state.splitLineMax.toNat < state.bufsize

/-- What a store and the increment leave where the array has room. -/
def Splitting.next (state : Splitting) (token : List UInt8) : Splitting where
  tokens := Function.update state.tokens state.splitLineMax.toNat (some token)
  splitLineMax := state.splitLineMax + 1
  bufsize :=
    if (state.splitLineMax + 1).toNat ≥ state.bufsize then state.bufsize + dmTokBufsize
    else state.bufsize

theorem Splitting.store_eq {state : Splitting} (inside : state.Inside)
    (token : Option (List UInt8)) :
    state.store token =
      some { state with
        tokens := Function.update state.tokens state.splitLineMax.toNat token } :=
  if_pos inside

theorem Splitting.push_eq {state : Splitting} (inside : state.Inside) (token : List UInt8) :
    state.push token = some (state.next token) := by
  rw [Splitting.push, state.store_eq inside]
  rfl

theorem toNat_succ_le (index : UInt8) : (index + 1).toNat ≤ index.toNat + 1 := by
  rw [UInt8.toNat_add, UInt8.toNat_one]
  exact Nat.mod_le _ _

/-- The array is enlarged before the next store, and an index that wraps is inside anyway. -/
theorem Splitting.Inside.next {state : Splitting} (inside : state.Inside)
    (token : List UInt8) : (state.next token).Inside := by
  have step := toNat_succ_le state.splitLineMax
  rw [Splitting.Inside] at inside ⊢
  simp only [Splitting.next, dmTokBufsize]
  split <;> omega

theorem splitLoop_eq (delim rest : List UInt8) {state : Splitting} (inside : state.Inside) :
    splitLoop delim rest state = some ((pieces delim rest).foldl Splitting.next state) := by
  fun_induction splitLoop delim rest state with
  | case1 rest state ends =>
      rw [pieces_of_strtok_none ends]
      rfl
  | case2 rest state token behind found _ inductionHypothesis =>
      rw [state.push_eq inside, Option.bind_some, pieces_of_strtok_some found]
      exact inductionHypothesis _ (inside.next token)

theorem Splitting.Inside.foldl {state : Splitting} (inside : state.Inside)
    (tokens : List (List UInt8)) : (tokens.foldl Splitting.next state).Inside := by
  induction tokens generalizing state with
  | nil =>
      exact inside
  | cons token rest inductionHypothesis =>
      exact inductionHypothesis (inside.next token)

/-! ## The array as `splitLine` has it -/

/-- The array as far as an index reaches. -/
def Splitting.line (state : Splitting) : SplitedLine where
  tokens index := state.tokens index.toNat
  splitLineMax := state.splitLineMax

theorem update_toNat (tokens : Nat → Option (List UInt8)) (place : UInt8)
    (token : Option (List UInt8)) :
    (fun index : UInt8 => Function.update tokens place.toNat token index.toNat) =
      Function.update (fun index : UInt8 => tokens index.toNat) place token := by
  funext index
  by_cases same : index = place
  · rw [same, Function.update_self, Function.update_self]
  · have other : index.toNat ≠ place.toNat := fun numbers => same (UInt8.toNat_inj.mp numbers)
    rw [Function.update_of_ne other, Function.update_of_ne same]

theorem Splitting.line_next (state : Splitting) (token : List UInt8) :
    (state.next token).line = state.line.push token := by
  simp only [Splitting.line, Splitting.next, SplitedLine.push, update_toNat]

theorem Splitting.line_foldl (state : Splitting) (tokens : List (List UInt8)) :
    (tokens.foldl Splitting.next state).line = tokens.foldl SplitedLine.push state.line := by
  induction tokens generalizing state with
  | nil =>
      rfl
  | cons token rest inductionHypothesis =>
      rw [List.foldl_cons, List.foldl_cons, inductionHypothesis, state.line_next]

/-- What the loop leaves. -/
def filled (heap : Nat → Option (List UInt8)) (delim line : List UInt8) : Splitting :=
  (pieces delim line).foldl Splitting.next ⟨heap, dmTokBufsize, 0⟩

theorem inside_start (heap : Nat → Option (List UInt8)) :
    Splitting.Inside ⟨heap, dmTokBufsize, 0⟩ :=
  Nat.succ_pos 63

/-- Every store is inside the array, and at the end the null pointer is stored and the index
counted down. -/
theorem splitLineStores_eq (heap : Nat → Option (List UInt8)) (delim line : List UInt8) :
    splitLineStores heap delim line =
      some { filled heap delim line with
        tokens := Function.update (filled heap delim line).tokens
          (filled heap delim line).splitLineMax.toNat none
        splitLineMax := (filled heap delim line).splitLineMax - 1 } := by
  have inside := (inside_start heap).foldl (pieces delim line)
  rw [splitLineStores, splitLoop_eq delim line (inside_start heap), Option.bind_some,
    Splitting.store_eq inside]
  rfl

theorem pieces_singleton (delim : UInt8) (line : List UInt8) :
    pieces [delim] line = Texts.tokens delim line := by
  have same : (fun byte => decide (byte ∈ [delim])) = (· == delim) := by
    funext byte
    simp only [List.mem_singleton]
    rfl
  have kept : (fun piece : List UInt8 => !piece.isEmpty) = fun piece => decide (piece ≠ []) := by
    funext piece
    cases piece <;> rfl
  rw [pieces, words, same, kept]
  rfl

/-- For a single delimiter the array is the one of `splitLine`. -/
theorem line_splitLineStores (delim : UInt8) (line : List UInt8) :
    (splitLineStores (fun _ => none) [delim] line).map Splitting.line =
      some (splitLine delim line) := by
  have loop := Splitting.line_foldl ⟨fun _ => none, dmTokBufsize, 0⟩ (pieces [delim] line)
  have tokens := congrArg SplitedLine.tokens loop
  have count := congrArg SplitedLine.splitLineMax loop
  rw [splitLineStores_eq, Option.map_some, splitLine, ← pieces_singleton]
  simp only [Splitting.line, update_toNat] at tokens count ⊢
  rw [filled, tokens, count]

/-! ## What the callers read -/

theorem splitLineMax_filled (heap : Nat → Option (List UInt8)) (delim line : List UInt8) :
    (filled heap delim line).splitLineMax = UInt8.ofNat (pieces delim line).length := by
  have loop := Splitting.line_foldl ⟨heap, dmTokBufsize, 0⟩ (pieces delim line)
  have stored := (foldl_push (fun index => heap index.toNat) (pieces delim line)).1
  exact (congrArg SplitedLine.splitLineMax loop).trans stored

theorem tokens_filled (heap : Nat → Option (List UInt8)) {delim line : List UInt8}
    (few : (pieces delim line).length < 256) {index : Nat}
    (before : index < (pieces delim line).length) :
    (filled heap delim line).tokens index = (pieces delim line)[index]? := by
  have loop := Splitting.line_foldl ⟨heap, dmTokBufsize, 0⟩ (pieces delim line)
  have small : (pieces delim line).length % 256 = (pieces delim line).length :=
    Nat.mod_eq_of_lt few
  have stored := (foldl_push (fun index => heap index.toNat) (pieces delim line)).2 index
    (by rw [small]; exact before)
  have byte : (UInt8.ofNat index).toNat = index := by
    rw [UInt8.toNat_ofNat']
    omega
  have read := congrFun (congrArg SplitedLine.tokens loop) (UInt8.ofNat index)
  rw [small, Nat.sub_self, Nat.zero_add] at stored
  simp only [Splitting.line, byte] at read
  exact read.trans stored

theorem visited_of_tokens {delim line : List UInt8} {result : Splitting}
    (tokens : ∀ index < (pieces delim line).length,
      result.tokens index = (pieces delim line)[index]?)
    (counted : result.splitLineMax.toNat + 1 = (pieces delim line).length) :
    (List.range (result.splitLineMax.toNat + 1)).map result.tokens =
      (pieces delim line).map some := by
  rw [counted]
  apply List.ext_getElem
  · rw [List.length_map, List.length_range, List.length_map]
  · intro index inRange inPieces
    rw [List.length_map] at inPieces
    rw [List.getElem_map, List.getElem_range, tokens index inPieces, List.getElem_map,
      List.getElem?_eq_getElem inPieces]

theorem contract_of_count (heap : Nat → Option (List UInt8)) {delim line : List UInt8}
    (present : 1 ≤ (pieces delim line).length) (few : (pieces delim line).length ≤ 255)
    {result : Splitting} (returned : splitLineStores heap delim line = some result) :
    Contract delim line result := by
  have stored : (filled heap delim line).splitLineMax.toNat = (pieces delim line).length := by
    rw [splitLineMax_filled, UInt8.toNat_ofNat']
    omega
  rw [splitLineStores_eq, stored] at returned
  cases returned
  have tokens : ∀ index < (pieces delim line).length,
      Function.update (filled heap delim line).tokens (pieces delim line).length none index =
        (pieces delim line)[index]? := by
    intro index before
    rw [Function.update_of_ne before.ne]
    exact tokens_filled heap (by omega) before
  have counted : ((filled heap delim line).splitLineMax - 1).toNat + 1 =
      (pieces delim line).length := by
    have least : (1 : UInt8) ≤ (filled heap delim line).splitLineMax := by
      rw [UInt8.le_iff_toNat_le, stored]
      exact present
    rw [UInt8.toNat_sub_of_le _ _ least, stored]
    exact Nat.sub_add_cancel present
  refine ⟨tokens, ?_, counted, visited_of_tokens tokens counted⟩
  exact Function.update_self _ _ _

theorem count_of_contract (heap : Nat → Option (List UInt8)) {delim line : List UInt8}
    {result : Splitting} (returned : splitLineStores heap delim line = some result)
    (contract : Contract delim line result) :
    1 ≤ (pieces delim line).length ∧ (pieces delim line).length ≤ 255 := by
  have small := result.splitLineMax.toNat_lt
  have counted := contract.counted
  refine ⟨by omega, ?_⟩
  by_contra many
  -- the index of the null pointer has wrapped to the first token
  have full : (pieces delim line).length = 256 := by omega
  have wrapped : (filled heap delim line).splitLineMax.toNat = 0 := by
    rw [splitLineMax_filled, full]
    rfl
  have first := contract.tokens 0 (by omega)
  have overwritten : result.tokens 0 = none := by
    rw [splitLineStores_eq, wrapped] at returned
    cases returned
    show Function.update (filled heap delim line).tokens 0 none 0 = none
    rw [Function.update_self]
  rw [overwritten] at first
  have missing := List.getElem?_eq_none_iff.mp first.symm
  omega

/-- `split_line` stores inside its array for every line, and it keeps its contract exactly for
the lines of 1 to 255 tokens. -/
theorem split_line_contract_iff (heap : Nat → Option (List UInt8)) (delim line : List UInt8) :
    (splitLineStores heap delim line).isSome = true ∧
      ((∃ result, splitLineStores heap delim line = some result ∧
          Contract delim line result) ↔
        1 ≤ (pieces delim line).length ∧ (pieces delim line).length ≤ 255) := by
  constructor
  · rw [splitLineStores_eq]
    rfl
  · constructor
    · rintro ⟨result, returned, contract⟩
      exact count_of_contract heap returned contract
    · rintro ⟨present, few⟩
      exact ⟨_, splitLineStores_eq heap delim line,
        contract_of_count heap present few (splitLineStores_eq heap delim line)⟩

/-- For an empty line the loops of the callers visit 256 entries. -/
theorem split_line_empty_line :
    ¬∀ heap delim line, ∃ result, splitLineStores heap delim line = some result ∧
      Contract delim line result := by
  intro keeps
  obtain ⟨result, returned, contract⟩ := keeps (fun _ => none) [hash] []
  exact absurd (count_of_contract _ returned contract).1 (by decide)

end TfortisPack.DeviceMonitor
