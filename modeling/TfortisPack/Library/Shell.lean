import Mathlib.Data.List.Basic
import Mathlib.Data.List.Induction

/-!
# Quoting in a shell command

How a POSIX shell cuts a command line into words and removes the quotes.  Only a
single simple command of literal words has a result: an operator, a line end, an
expansion or an open quote gives none.  A pattern character stands for itself,
as it does where no file name matches.
-/

namespace TfortisPack.Library.Shell

/-! ## Scanning -/

/-- What the next character is read as. -/
inductive Mode where
  | plain
  | escaped
  | single
  | double
  | doubleEscaped
  | comment
  deriving DecidableEq, Repr

/-- The words read so far; `current` is the word that is being read. -/
structure State where
  mode : Mode
  current : Option (List UInt8)
  finished : List (List UInt8)
  deriving DecidableEq, Repr

def State.start : State :=
  ⟨.plain, none, []⟩

/-- The current word, empty if none has begun. -/
def State.word (state : State) : List UInt8 :=
  state.current.getD []

def State.append (state : State) (mode : Mode) (letters : List UInt8) : State :=
  { state with mode := mode, current := some (state.word ++ letters) }

/-- A blank ends the current word. -/
def State.close (state : State) : State where
  mode := .plain
  current := none
  finished := state.finished ++ state.current.toList

/-- A line end, `$`, `&`, `(`, `)`, `;`, `<`, `>`, a back quote or `|`. -/
def refused : List UInt8 :=
  [10, 36, 38, 40, 41, 59, 60, 62, 96, 124]

/-- A character outside quotes. -/
def stepPlain (state : State) (letter : UInt8) : Option State :=
  if letter = 39 then some (state.append .single [])
  else if letter = 34 then some (state.append .double [])
  else if letter = 92 then some { state with mode := .escaped }
  else if letter = 32 ∨ letter = 9 then some state.close
  else if letter ∈ refused then none
  -- `#` and the tilde count at the start of a word only
  else if state.current = none ∧ letter = 35 then some { state with mode := .comment }
  else if state.current = none ∧ letter = 126 then none
  else some (state.append .plain [letter])

def step (state : State) (letter : UInt8) : Option State :=
  match state.mode with
  | .plain => stepPlain state letter
  | .escaped =>
      if letter = 10 then some { state with mode := .plain }
      else some (state.append .plain [letter])
  | .single =>
      if letter = 39 then some { state with mode := .plain }
      else some (state.append .single [letter])
  | .double =>
      if letter = 34 then some { state with mode := .plain }
      else if letter = 92 then some { state with mode := .doubleEscaped }
      else if letter = 36 ∨ letter = 96 then none
      else some (state.append .double [letter])
  | .doubleEscaped =>
      if letter = 10 then some { state with mode := .double }
      else if letter ∈ ([34, 36, 92, 96] : List UInt8) then some (state.append .double [letter])
      else some (state.append .double [92, letter])
  | .comment => if letter = 10 then none else some state

/-- The words of a command that ends here. -/
def finish (state : State) : Option (List (List UInt8)) :=
  match state.mode with
  | .plain | .comment => some (state.finished ++ state.current.toList)
  | _ => none

/-- A whole text from a state on. -/
def run (state : State) (text : List UInt8) : Option State :=
  text.foldlM step state

/-- The words of a single simple command. -/
def shellWords (command : List UInt8) : Option (List (List UInt8)) :=
  (run .start command).bind finish

theorem run_append (state : State) (front back : List UInt8) :
    run state (front ++ back) = (run state front).bind fun middle => run middle back :=
  List.foldlM_append

theorem run_cons (state : State) (letter : UInt8) (rest : List UInt8) :
    run state (letter :: rest) = (step state letter).bind fun next => run next rest :=
  List.foldlM_cons

theorem run_nil (state : State) : run state [] = some state :=
  rfl

/-! ## Single quotes -/

theorem step_single {state : State} (single : state.mode = .single) {letter : UInt8}
    (inside : letter ≠ 39) : step state letter = some (state.append .single [letter]) := by
  rw [step, single]
  exact if_neg inside

/-- Between single quotes every character stands for itself. -/
theorem run_single (text : List UInt8) (inside : 39 ∉ text) (word : List UInt8)
    (finished : List (List UInt8)) :
    run ⟨.single, some word, finished⟩ text = some ⟨.single, some (word ++ text), finished⟩ := by
  induction text generalizing word with
  | nil =>
      rw [List.append_nil, run_nil]
  | cons letter rest inductionHypothesis =>
      rw [List.mem_cons, not_or] at inside
      rw [run_cons, step_single rfl (Ne.symm inside.1), Option.bind_some]
      have later := inductionHypothesis inside.2 (word ++ [letter])
      rw [List.append_assoc, List.singleton_append] at later
      exact later

/-- A quoted text is appended to the word before it. -/
theorem run_quoted (text : List UInt8) (inside : 39 ∉ text) (word : List UInt8)
    (finished : List (List UInt8)) :
    run ⟨.plain, some word, finished⟩ (39 :: (text ++ [39])) =
      some ⟨.plain, some (word ++ text), finished⟩ := by
  have opens : step ⟨.plain, some word, finished⟩ 39 = some ⟨.single, some word, finished⟩ := by
    simp [step, stepPlain, State.append, State.word]
  have closes : step ⟨.single, some (word ++ text), finished⟩ 39 =
      some ⟨.plain, some (word ++ text), finished⟩ := rfl
  rw [run_cons, opens, Option.bind_some, run_append, run_single text inside, Option.bind_some,
    run_cons, closes]
  rfl

/-! ## What a step reads -/

/-- The letters of all words read so far. -/
def State.letters (state : State) : List UInt8 :=
  state.finished.flatten ++ state.word

theorem State.letters_append (state : State) (mode : Mode) (added : List UInt8) :
    (state.append mode added).letters = state.letters ++ added := by
  simp [State.letters, State.append, State.word]

theorem State.letters_close (state : State) : state.close.letters = state.letters := by
  simp only [State.letters, State.close, State.word, List.flatten_append]
  cases state.current <;> simp

/-- A character outside quotes is dropped or taken, and whoever leaves that mode drops it. -/
theorem stepPlain_cases {state next : State} {letter : UInt8}
    (stepped : stepPlain state letter = some next) :
    next.mode ≠ .doubleEscaped ∧
      (next.letters = state.letters ∨
        letter ≠ 39 ∧ next.mode = .plain ∧ next.letters = state.letters ++ [letter]) := by
  rw [stepPlain] at stepped
  split at stepped
  · cases stepped
    exact ⟨by simp [State.append], Or.inl (by rw [State.letters_append, List.append_nil])⟩
  rename_i notQuote
  split at stepped
  · cases stepped
    exact ⟨by simp [State.append], Or.inl (by rw [State.letters_append, List.append_nil])⟩
  split at stepped
  · cases stepped
    exact ⟨by simp, Or.inl rfl⟩
  split at stepped
  · cases stepped
    exact ⟨by simp [State.close], Or.inl state.letters_close⟩
  split at stepped
  · cases stepped
  split at stepped
  · cases stepped
    exact ⟨by simp, Or.inl rfl⟩
  split at stepped
  · cases stepped
  · cases stepped
    exact ⟨by simp [State.append], Or.inr ⟨notQuote, rfl, State.letters_append _ _ _⟩⟩

/-- A step drops its character, takes it, or takes it with the backslash before it. -/
theorem step_cases {state next : State} {letter : UInt8} (stepped : step state letter = some next) :
    (next.letters = state.letters ∧ (next.mode = .doubleEscaped → letter = 92)) ∨
      (next.letters = state.letters ++ [letter] ∧ next.mode ≠ .doubleEscaped) ∨
      (state.mode = .doubleEscaped ∧ next.letters = state.letters ++ [92, letter] ∧
        next.mode ≠ .doubleEscaped) := by
  obtain ⟨mode, current, finished⟩ := state
  cases mode with
  | plain =>
      obtain ⟨outside, letters⟩ := stepPlain_cases stepped
      rcases letters with dropped | ⟨_, _, taken⟩
      · exact Or.inl ⟨dropped, fun escaped => absurd escaped outside⟩
      · exact Or.inr (Or.inl ⟨taken, outside⟩)
  | escaped =>
      simp only [step] at stepped
      split at stepped
      · cases stepped
        exact Or.inl ⟨rfl, by simp⟩
      · cases stepped
        exact Or.inr (Or.inl ⟨State.letters_append _ _ _, by simp [State.append]⟩)
  | single =>
      simp only [step] at stepped
      split at stepped
      · cases stepped
        exact Or.inl ⟨rfl, by simp⟩
      · cases stepped
        exact Or.inr (Or.inl ⟨State.letters_append _ _ _, by simp [State.append]⟩)
  | double =>
      simp only [step] at stepped
      split at stepped
      · cases stepped
        exact Or.inl ⟨rfl, by simp⟩
      split at stepped
      · rename_i backslash
        cases stepped
        exact Or.inl ⟨rfl, fun _ => backslash⟩
      split at stepped
      · cases stepped
      · cases stepped
        exact Or.inr (Or.inl ⟨State.letters_append _ _ _, by simp [State.append]⟩)
  | doubleEscaped =>
      simp only [step] at stepped
      split at stepped
      · cases stepped
        exact Or.inl ⟨rfl, by simp⟩
      split at stepped
      · cases stepped
        exact Or.inr (Or.inl ⟨State.letters_append _ _ _, by simp [State.append]⟩)
      · cases stepped
        exact Or.inr (Or.inr ⟨rfl, State.letters_append _ _ _, by simp [State.append]⟩)
  | comment =>
      simp only [step] at stepped
      split at stepped
      · cases stepped
      · cases stepped
        exact Or.inl ⟨rfl, by simp⟩

/-! ## What a run reads -/

section Weights

variable (weight : UInt8 → Nat)

/-- The weight of a text. -/
def weigh : List UInt8 → Nat
  | [] => 0
  | letter :: rest => weight letter + weigh rest

/-- The weight of what has been read; a backslash between double quotes may still be taken. -/
def State.weigh (state : State) : Nat :=
  Shell.weigh weight state.letters + if state.mode = .doubleEscaped then weight 92 else 0

theorem weigh_cons (letter : UInt8) (rest : List UInt8) :
    weigh weight (letter :: rest) = weight letter + weigh weight rest :=
  rfl

theorem weigh_append (front back : List UInt8) :
    weigh weight (front ++ back) = weigh weight front + weigh weight back := by
  induction front with
  | nil =>
      rw [List.nil_append, weigh, Nat.zero_add]
  | cons letter rest inductionHypothesis =>
      rw [List.cons_append, weigh_cons, weigh_cons, inductionHypothesis, Nat.add_assoc]

theorem State.weigh_of_outside {state : State} (outside : state.mode ≠ .doubleEscaped) :
    state.weigh weight = Shell.weigh weight state.letters := by
  rw [State.weigh, if_neg outside, Nat.add_zero]

/-- A step adds no more than its character. -/
theorem weigh_step {state next : State} {letter : UInt8}
    (stepped : step state letter = some next) :
    next.weigh weight ≤ state.weigh weight + weight letter := by
  rcases step_cases stepped with
    ⟨dropped, escapes⟩ | ⟨taken, outside⟩ | ⟨escaped, taken, outside⟩
  · rw [State.weigh, dropped, State.weigh]
    by_cases escaped : next.mode = .doubleEscaped
    · rw [if_pos escaped, escapes escaped]
      omega
    · rw [if_neg escaped]
      omega
  · rw [State.weigh_of_outside weight outside, taken, weigh_append, State.weigh, weigh_cons]
    have nothing : Shell.weigh weight [] = 0 := rfl
    omega
  · rw [State.weigh_of_outside weight outside, taken, weigh_append, weigh_cons, weigh_cons,
      State.weigh, if_pos escaped]
    have nothing : Shell.weigh weight [] = 0 := rfl
    omega

theorem weigh_run {state final : State} {text : List UInt8} (ran : run state text = some final) :
    final.weigh weight ≤ state.weigh weight + weigh weight text := by
  induction text generalizing state with
  | nil =>
      cases ran
      exact Nat.le_add_right _ _
  | cons letter rest inductionHypothesis =>
      rw [run_cons] at ran
      obtain ⟨next, stepped, later⟩ := Option.bind_eq_some_iff.mp ran
      have first := weigh_step weight stepped
      have others := inductionHypothesis later
      rw [weigh_cons]
      omega

end Weights

/-! ## What quotes cost -/

/-- The number of letters read. -/
def State.size (state : State) : Nat :=
  state.weigh fun _ => 1

theorem weigh_one (text : List UInt8) : weigh (fun _ => 1) text = text.length := by
  induction text with
  | nil =>
      rfl
  | cons letter rest inductionHypothesis =>
      rw [weigh_cons, inductionHypothesis, List.length_cons, Nat.add_comm]

theorem size_step {state next : State} {letter : UInt8}
    (stepped : step state letter = some next) : next.size ≤ state.size + 1 :=
  weigh_step (fun _ => 1) stepped

theorem size_run {state final : State} {text : List UInt8} (ran : run state text = some final) :
    final.size ≤ state.size + text.length := by
  have bound := weigh_run (fun _ => 1) ran
  rw [weigh_one] at bound
  exact bound

/-- Whoever leaves the plain mode, or reads a quote in it, drops the character. -/
theorem size_stepPlain {state next : State} {letter : UInt8} (plain : state.mode = .plain)
    (stepped : step state letter = some next) (leaves : next.mode ≠ .plain ∨ letter = 39) :
    next.size = state.size := by
  rw [step, plain] at stepped
  obtain ⟨outside, letters⟩ := stepPlain_cases stepped
  have stateOutside : state.mode ≠ .doubleEscaped := by
    rw [plain]
    decide
  rcases letters with dropped | ⟨notQuote, stays, _⟩
  · rw [State.size, State.weigh_of_outside _ outside, dropped, State.size,
      State.weigh_of_outside _ stateOutside]
  · rcases leaves with changed | quote
    · exact absurd stays changed
    · exact absurd quote notQuote

/-- A run that has left the plain mode has dropped a character. -/
theorem size_run_of_left {state final : State} {text : List UInt8} (plain : state.mode = .plain)
    (ran : run state text = some final) (left : final.mode ≠ .plain) :
    final.size + 1 ≤ state.size + text.length := by
  induction text using List.reverseRecOn generalizing final with
  | nil =>
      cases ran
      exact absurd plain left
  | append_singleton front letter inductionHypothesis =>
      rw [run_append] at ran
      obtain ⟨middle, before, last⟩ := Option.bind_eq_some_iff.mp ran
      rw [run_cons] at last
      obtain ⟨next, stepped, ended⟩ := Option.bind_eq_some_iff.mp last
      cases ended
      rw [List.length_append, List.length_singleton]
      by_cases middlePlain : middle.mode = .plain
      · have same := size_stepPlain middlePlain stepped (Or.inl left)
        have bound := size_run before
        omega
      · have bound := inductionHypothesis before middlePlain
        have one := size_step stepped
        omega

/-- A run that ends with a quote has dropped a character. -/
theorem size_run_of_quote {state final : State} {front : List UInt8}
    (plain : state.mode = .plain) (ran : run state (front ++ [39]) = some final) :
    final.size ≤ state.size + front.length := by
  rw [run_append] at ran
  obtain ⟨middle, before, last⟩ := Option.bind_eq_some_iff.mp ran
  rw [run_cons] at last
  obtain ⟨next, stepped, ended⟩ := Option.bind_eq_some_iff.mp last
  cases ended
  by_cases middlePlain : middle.mode = .plain
  · rw [size_stepPlain middlePlain stepped (Or.inr rfl)]
    exact size_run before
  · have bound := size_run_of_left plain before middlePlain
    have one := size_step stepped
    omega

/-- A command that ends outside quotes has all its letters in its words. -/
theorem finish_letters {state : State} {words : List (List UInt8)}
    (ended : finish state = some words) :
    state.mode ≠ .doubleEscaped ∧ words.flatten = state.letters := by
  obtain ⟨mode, current, finished⟩ := state
  cases mode with
  | plain =>
      cases ended
      exact ⟨by simp, by cases current <;> simp [State.letters, State.word]⟩
  | comment =>
      cases ended
      exact ⟨by simp, by cases current <;> simp [State.letters, State.word]⟩
  | _ =>
      cases ended

section Quoted

variable {word body text : List UInt8} (finished : List (List UInt8))

/-- The weight of what is read behind a word in progress. -/
theorem weigh_read (weight : UInt8 → Nat)
    (read : (run ⟨.plain, some word, finished⟩ body).bind finish =
      some (finished ++ [word ++ text])) :
    weigh weight text ≤ weigh weight body := by
  obtain ⟨final, ran, ended⟩ := Option.bind_eq_some_iff.mp read
  obtain ⟨outside, letters⟩ := finish_letters ended
  have started : (⟨.plain, some word, finished⟩ : State).mode ≠ .doubleEscaped := by simp
  have bound := weigh_run weight ran
  rw [State.weigh_of_outside weight outside, ← letters, State.weigh_of_outside weight started]
    at bound
  simp only [State.letters, State.word, Option.getD_some, List.flatten_append,
    List.flatten_singleton, weigh_append] at bound
  omega

/-- Quoting brings no letter in. -/
theorem not_mem_of_read {letter : UInt8}
    (read : (run ⟨.plain, some word, finished⟩ body).bind finish =
      some (finished ++ [word ++ text]))
    (free : letter ∉ body) : letter ∉ text := by
  have counts : ∀ letters : List UInt8,
      weigh (fun other => if other = letter then 1 else 0) letters = letters.count letter := by
    intro letters
    induction letters with
    | nil =>
        rfl
    | cons other rest inductionHypothesis =>
        rw [weigh_cons, inductionHypothesis, List.count_cons, Nat.add_comm]
        simp only [beq_iff_eq]
  have bound := weigh_read finished (fun other => if other = letter then 1 else 0) read
  rw [counts, counts, List.count_eq_zero.mpr free] at bound
  exact List.count_eq_zero.mp (Nat.le_zero.mp bound)

/-- A text behind an opening quote that is read as a text as long as itself, less a closing
quote, is that text, and the quotes enclose it. -/
theorem eq_quoted_of_read
    (read : (run ⟨.plain, some word, finished⟩ (39 :: body)).bind finish =
      some (finished ++ [word ++ text]))
    (bound : body.length ≤ text.length + 1)
    (closes : body.length = text.length + 1 → ∃ front, body = front ++ [39]) :
    39 ∉ text ∧ body = text ++ [39] := by
  have opens : step ⟨.plain, some word, finished⟩ 39 = some ⟨.single, some word, finished⟩ := by
    simp [step, stepPlain, State.append, State.word]
  rw [run_cons, opens, Option.bind_some] at read
  by_cases closed : 39 ∈ body
  · obtain ⟨lead, tail, rfl, free⟩ := List.eq_append_cons_of_mem closed
    have close : step ⟨.single, some (word ++ lead), finished⟩ 39 =
        some ⟨.plain, some (word ++ lead), finished⟩ := rfl
    rw [run_append, run_single lead free, Option.bind_some, run_cons, close,
      Option.bind_some] at read
    by_cases empty : tail = []
    · subst empty
      have words : finished ++ [word ++ lead] = finished ++ [word ++ text] :=
        Option.some.inj read
      have same : lead = text :=
        List.append_cancel_left (List.singleton_inj.mp (List.append_cancel_left words))
      rw [← same]
      exact ⟨free, rfl⟩
    · exfalso
      obtain ⟨final, ran, ended⟩ := Option.bind_eq_some_iff.mp read
      obtain ⟨outside, letters⟩ := finish_letters ended
      have started : (⟨.plain, some (word ++ lead), finished⟩ : State).mode ≠ .doubleEscaped := by
        simp
      have finalSize : final.size = finished.flatten.length + (word.length + text.length) := by
        rw [State.size, State.weigh_of_outside _ outside, weigh_one, ← letters]
        simp
      have startSize : (⟨.plain, some (word ++ lead), finished⟩ : State).size =
          finished.flatten.length + (word.length + lead.length) := by
        rw [State.size, State.weigh_of_outside _ started, weigh_one]
        simp [State.letters, State.word]
      have total := size_run ran
      rw [List.length_append, List.length_cons] at bound closes
      obtain ⟨front, ending⟩ := closes (by omega)
      have last : ∃ start, tail = start ++ [39] := by
        obtain ⟨start, letter, split⟩ := (List.eq_nil_or_concat' tail).resolve_left empty
        have whole : (lead ++ 39 :: start) ++ [letter] = front ++ [39] := by
          rw [← ending, split, List.append_assoc, List.cons_append]
        have ends := (List.append_inj' whole rfl).2
        exact ⟨start, split.trans (congrArg (start ++ ·) ends)⟩
      obtain ⟨start, rfl⟩ := last
      have less := size_run_of_quote rfl ran
      rw [List.length_append, List.length_singleton] at bound
      omega
  · rw [run_single body closed] at read
    cases read

end Quoted

end TfortisPack.Library.Shell
