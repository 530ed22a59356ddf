import Mathlib.Data.List.Infix

/-!
# Texts and tables of Lua

What a Lua script relies on: matching a text against a pattern of single
characters and repeated classes, decimal numerals, and walking through a table
with `pairs`, whose order is not specified.
-/

namespace TfortisPack.Library

namespace Lua

/-! ## Patterns -/

section Patterns

variable {α : Type}

/-- An item of a pattern: one character of a class, or a class with `+`. -/
inductive Item (α : Type) where
  | one (inClass : α → Bool)
  | many (inClass : α → Bool)

/-- The longest repetition is tried first and gives characters back, one at a
time, until the rest of the pattern matches. -/
def maxExpand (text : List α) (next : List α → Option (List (List α))) :
    Nat → Option (List (List α))
  | 0 => none
  | count + 1 =>
      match next (text.drop (count + 1)) with
      | some pieces => some (text.take (count + 1) :: pieces)
      | none => maxExpand text next count

/-- The pieces of a text that the items match from its beginning on. -/
def matchItems : List (Item α) → List α → Option (List (List α))
  | [], _ => some []
  | .one _ :: _, [] => none
  | .one inClass :: items, letter :: rest =>
      if inClass letter then (matchItems items rest).map ([letter] :: ·) else none
  | .many inClass :: items, text =>
      maxExpand text (matchItems items) (text.takeWhile inClass).length

def findMatch (items : List (Item α)) (text : List α) : Option (List (List α)) :=
  text.tails.findSome? (matchItems items)

theorem findMatch_of_matchItems {items : List (Item α)} {text : List α} {pieces : List (List α)}
    (matched : matchItems items text = some pieces) : findMatch items text = some pieces := by
  cases text with
  | nil =>
      simp [findMatch, matched]
  | cons letter rest =>
      simp [findMatch, matched]

theorem takeWhile_run {inClass : α → Bool} {run rest : List α}
    (inside : ∀ letter ∈ run, inClass letter = true)
    (stops : ∀ letter ∈ rest.head?, inClass letter = false) :
    (run ++ rest).takeWhile inClass = run := by
  rw [List.takeWhile_append_of_pos inside]
  cases rest with
  | nil =>
      simp
  | cons letter rest =>
      have stopped := stops letter rfl
      simp [stopped]

theorem maxExpand_of_match {text : List α} {next : List α → Option (List (List α))} {count : Nat}
    {pieces : List (List α)} (matched : next (text.drop (count + 1)) = some pieces) :
    maxExpand text next (count + 1) = some (text.take (count + 1) :: pieces) := by
  simp [maxExpand, matched]

theorem maxExpand_of_none {text : List α} {next : List α → Option (List (List α))} {count : Nat}
    (failed : next (text.drop (count + 1)) = none) :
    maxExpand text next (count + 1) = maxExpand text next count := by
  simp [maxExpand, failed]

theorem matchItems_one {inClass : α → Bool} {items : List (Item α)} {letter : α} {rest : List α}
    {pieces : List (List α)} (inside : inClass letter = true)
    (matched : matchItems items rest = some pieces) :
    matchItems (.one inClass :: items) (letter :: rest) = some ([letter] :: pieces) := by
  rw [matchItems, if_pos inside, matched]
  rfl

/-- A repetition that takes its whole run. -/
theorem matchItems_many {inClass : α → Bool} {items : List (Item α)} {run rest : List α}
    {pieces : List (List α)} (nonempty : run ≠ [])
    (inside : ∀ letter ∈ run, inClass letter = true)
    (stops : ∀ letter ∈ rest.head?, inClass letter = false)
    (matched : matchItems items rest = some pieces) :
    matchItems (.many inClass :: items) (run ++ rest) = some (run :: pieces) := by
  rw [matchItems, takeWhile_run inside stops]
  obtain ⟨count, length⟩ := Nat.exists_eq_succ_of_ne_zero (List.length_pos_iff.mpr nonempty).ne'
  have taken : (run ++ rest).take (count + 1) = run := by
    rw [← Nat.succ_eq_add_one, ← length, List.take_left]
  have left : (run ++ rest).drop (count + 1) = rest := by
    rw [← Nat.succ_eq_add_one, ← length, List.drop_left]
  rw [length, maxExpand_of_match (left ▸ matched), taken]

/-- A repetition that has to give its last character back to the items behind
it. -/
theorem matchItems_many_gives_back {inClass : α → Bool} {items : List (Item α)}
    {run rest : List α} {last : α} {pieces : List (List α)} (nonempty : run ≠ [])
    (inside : ∀ letter ∈ run ++ [last], inClass letter = true)
    (stops : ∀ letter ∈ rest.head?, inClass letter = false)
    (failed : matchItems items rest = none)
    (matched : matchItems items (last :: rest) = some pieces) :
    matchItems (.many inClass :: items) (run ++ last :: rest) = some (run :: pieces) := by
  have split : run ++ last :: rest = (run ++ [last]) ++ rest := by
    simp
  rw [matchItems, split, takeWhile_run inside stops, List.length_append, List.length_singleton]
  have whole : ((run ++ [last]) ++ rest).drop (run.length + 1) = rest := by
    rw [← List.length_singleton (a := last), ← List.length_append, List.drop_left]
  have exhausted : matchItems items (((run ++ [last]) ++ rest).drop (run.length + 1)) = none := by
    rw [whole]
    exact failed
  rw [maxExpand_of_none exhausted, ← split]
  obtain ⟨count, length⟩ := Nat.exists_eq_succ_of_ne_zero (List.length_pos_iff.mpr nonempty).ne'
  have taken : (run ++ last :: rest).take (count + 1) = run := by
    rw [← Nat.succ_eq_add_one, ← length, List.take_left]
  have left : (run ++ last :: rest).drop (count + 1) = last :: rest := by
    rw [← Nat.succ_eq_add_one, ← length, List.drop_left]
  rw [length, maxExpand_of_match (left ▸ matched), taken]

end Patterns

/-! ## Numerals -/

def tostring (number : Nat) : List Char :=
  Nat.toDigits 10 number

/-- `tonumber` of a text of decimal digits. -/
def tonumber (text : List Char) : Option Nat :=
  if text ≠ [] ∧ text.all Char.isDigit = true then
    some (Nat.ofDigitChars 10 text 0)
  else
    none

theorem tostring_ne_nil (number : Nat) : tostring number ≠ [] :=
  Nat.toDigits_ne_nil

theorem isDigit_of_mem_tostring {number : Nat} {letter : Char}
    (member : letter ∈ tostring number) : letter.isDigit = true :=
  Nat.isDigit_of_mem_toDigits (by decide) (by decide) member

theorem tonumber_tostring (number : Nat) : tonumber (tostring number) = some number := by
  have digits : (tostring number).all Char.isDigit = true :=
    List.all_eq_true.mpr fun _ member => isDigit_of_mem_tostring member
  rw [tonumber, if_pos ⟨tostring_ne_nil number, digits⟩, tostring, Nat.ofDigitChars_ten_toDigits]

theorem tostring_injective {first second : Nat} (same : tostring first = tostring second) :
    first = second := by
  have numbers : some first = some second := by
    rw [← tonumber_tostring first, ← tonumber_tostring second, same]
  exact Option.some.inj numbers

theorem exists_tostring_eq_append (number : Nat) :
    ∃ front, tostring number = front ++ [Nat.digitChar (number % 10)] := by
  rw [tostring]
  by_cases small : number < 10
  · rw [Nat.toDigits_of_lt_base small, Nat.mod_eq_of_lt small]
    exact ⟨[], rfl⟩
  · rw [Nat.toDigits_of_base_le (by decide) (Nat.le_of_not_lt small)]
    exact ⟨_, rfl⟩

theorem tonumber_digitChar (number : Nat) :
    tonumber [Nat.digitChar (number % 10)] = some (number % 10) := by
  have small : number % 10 < 10 := Nat.mod_lt number (by decide)
  rw [← Nat.toDigits_of_lt_base small]
  exact tonumber_tostring (number % 10)

/-! ## Tables -/

/-- The order in which `pairs` visits the entries of a table. -/
structure Pairs where
  order : {α : Type} → List α → List α
  perm : ∀ {α : Type} (entries : List α), (order entries).Perm entries

namespace Pairs

/-- The entries as they are stored. -/
def stored : Pairs where
  order := fun entries => entries
  perm := fun entries => List.Perm.refl entries

open Classical in
/-- An order in which the chosen entries of one type come first. -/
noncomputable def prefer {β : Type} (chosen : β → Bool) : Pairs where
  order := fun {α} entries =>
    if same : α = β then
      entries.filter (fun entry => chosen (cast same entry)) ++
        entries.filter fun entry => !chosen (cast same entry)
    else
      entries
  perm := by
    intro α entries
    split
    · exact List.filter_append_perm _ entries
    · exact List.Perm.refl entries

theorem order_prefer {β : Type} (chosen : β → Bool) (entries : List β) :
    (prefer chosen).order entries =
      entries.filter chosen ++ entries.filter fun entry => !chosen entry := by
  simp [prefer]

theorem mem_order (pairs : Pairs) {α : Type} {entries : List α} {entry : α} :
    entry ∈ pairs.order entries ↔ entry ∈ entries :=
  (pairs.perm entries).mem_iff

end Pairs

/-! ## Loops that an error stops -/

section Loops

variable {ε σ α β : Type}

theorem bind_eq_ok {first : Except ε σ} {second : σ → Except ε β} {result : β}
    (ran : (first >>= second) = .ok result) :
    ∃ middle, first = .ok middle ∧ second middle = .ok result := by
  cases first with
  | error failure =>
      cases ran
  | ok middle =>
      exact ⟨middle, rfl, ran⟩

/-- An invariant of the state and of the items that the loop has been through. -/
theorem foldlM_invariant (invariant : List α → σ → Prop) {body : σ → α → Except ε σ}
    {items : List α}
    (step : ∀ done state item next, item ∈ items → invariant done state →
      body state item = .ok next → invariant (done ++ [item]) next)
    {start final : σ} (initially : invariant [] start)
    (ran : items.foldlM body start = .ok final) : invariant items final := by
  have generalized : ∀ rest done state, (∀ item ∈ rest, item ∈ items) → invariant done state →
      rest.foldlM body state = .ok final → invariant (done ++ rest) final := by
    intro rest
    induction rest with
    | nil =>
        intro done state _ holds ended
        rw [List.foldlM_nil] at ended
        cases ended
        rwa [List.append_nil]
    | cons item rest inductionHypothesis =>
        intro done state part holds ran
        rw [List.foldlM_cons] at ran
        obtain ⟨next, stepped, later⟩ := bind_eq_ok ran
        have continues := inductionHypothesis (done ++ [item]) next
          (fun item member => part item (List.mem_cons_of_mem _ member))
          (step done state item next (part item List.mem_cons_self) holds stepped) later
        rwa [List.append_assoc, List.singleton_append] at continues
  exact generalized items [] start (fun _ member => member) initially ran

/-- A loop whose body never stops ends. -/
theorem foldlM_ends (invariant : σ → Prop) {body : σ → α → Except ε σ} {items : List α}
    (step : ∀ state, ∀ item ∈ items, invariant state →
      ∃ next, body state item = .ok next ∧ invariant next)
    {start : σ} (initially : invariant start) :
    ∃ final, items.foldlM body start = .ok final ∧ invariant final := by
  induction items generalizing start with
  | nil =>
      exact ⟨start, rfl, initially⟩
  | cons item rest inductionHypothesis =>
      obtain ⟨next, stepped, holds⟩ := step start item List.mem_cons_self initially
      have later := inductionHypothesis
        (fun state item member => step state item (List.mem_cons_of_mem _ member)) holds
      rw [List.foldlM_cons, stepped]
      exact later

/-- An error comes from the first item that fails. -/
theorem exists_of_foldlM_error {body : σ → α → Except ε σ} {items : List α} {start : σ}
    {failure : ε} (failed : items.foldlM body start = .error failure) :
    ∃ before item behind state, items = before ++ item :: behind ∧
      before.foldlM body start = .ok state ∧ body state item = .error failure := by
  induction items generalizing start with
  | nil =>
      cases failed
  | cons item items inductionHypothesis =>
      rw [List.foldlM_cons] at failed
      cases stepped : body start item with
      | error other =>
          rw [stepped] at failed
          cases failed
          exact ⟨[], item, items, start, rfl, rfl, stepped⟩
      | ok next =>
          rw [stepped] at failed
          obtain ⟨before, later, behind, state, rfl, ran, ended⟩ := inductionHypothesis failed
          refine ⟨item :: before, later, behind, state, rfl, ?_, ended⟩
          rw [List.foldlM_cons, stepped]
          exact ran

end Loops

end Lua

end TfortisPack.Library
