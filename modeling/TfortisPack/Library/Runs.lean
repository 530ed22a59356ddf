import Mathlib.Data.List.Basic

/-!
# Runs of a state machine

A machine consumes one input per step, moves to a new state and emits a
finite list of observable actions.  A run is a list of inputs.  The module
gives the states visited by a run, the actions it emits, the two ways of
restricting it (a predicate on every state, a guard on every step) and the
rules that carry an invariant along it.

A `Monitor` reads the emitted actions from left to right and says which
action is allowed next; `Machine.monitored` is the simulation rule that
relates its state to the machine's own.
-/

namespace TfortisPack.Library

universe u v w x y z

/-- A deterministic machine with inputs `ι` and observable actions `ω`. -/
structure Machine (σ : Type u) (ι : Type v) (ω : Type w) where
  step : σ → ι → σ × List ω

namespace Machine

variable {σ : Type u} {ι : Type v} {ω : Type w}
variable (machine : Machine σ ι ω)

/-- The state after one input. -/
def next (state : σ) (input : ι) : σ :=
  (machine.step state input).1

/-- The actions emitted on one input. -/
def emit (state : σ) (input : ι) : List ω :=
  (machine.step state input).2

/-- The state after a list of inputs. -/
def final : σ → List ι → σ
  | state, [] => state
  | state, input :: rest => final (machine.next state input) rest

/-- The actions emitted along a list of inputs. -/
def outputs : σ → List ι → List ω
  | _, [] => []
  | state, input :: rest =>
      machine.emit state input ++ outputs (machine.next state input) rest

/-- Every state of the run, the first and the last included, satisfies `good`. -/
def AllStates (good : σ → Prop) : σ → List ι → Prop
  | state, [] => good state
  | state, input :: rest =>
      good state ∧ AllStates good (machine.next state input) rest

/-- Every step of the run is taken from a state and on an input that satisfy
the guard. -/
def AllSteps (guard : σ → ι → Prop) : σ → List ι → Prop
  | _, [] => True
  | state, input :: rest =>
      guard state input ∧ AllSteps guard (machine.next state input) rest

instance decidableAllStates (good : σ → Prop) [DecidablePred good] :
    ∀ (state : σ) (inputs : List ι), Decidable (machine.AllStates good state inputs)
  | state, [] => inferInstanceAs (Decidable (good state))
  | state, input :: rest =>
      haveI := decidableAllStates good (machine.next state input) rest
      inferInstanceAs (Decidable (good state ∧ _))

instance decidableAllSteps (guard : σ → ι → Prop)
    [∀ state input, Decidable (guard state input)] :
    ∀ (state : σ) (inputs : List ι), Decidable (machine.AllSteps guard state inputs)
  | _, [] => inferInstanceAs (Decidable True)
  | state, input :: rest =>
      haveI := decidableAllSteps guard (machine.next state input) rest
      inferInstanceAs (Decidable (guard state input ∧ _))

/-- The machine together with everything it has emitted. -/
def recording : Machine (σ × List ω) ι ω where
  step memory input :=
    ((machine.next memory.1 input, memory.2 ++ machine.emit memory.1 input),
      machine.emit memory.1 input)

variable {machine}

theorem final_append (state : σ) (first second : List ι) :
    machine.final state (first ++ second) = machine.final (machine.final state first) second := by
  induction first generalizing state with
  | nil =>
      rfl
  | cons input rest inductionHypothesis =>
      exact inductionHypothesis (machine.next state input)

theorem outputs_append (state : σ) (first second : List ι) :
    machine.outputs state (first ++ second) =
      machine.outputs state first ++ machine.outputs (machine.final state first) second := by
  induction first generalizing state with
  | nil =>
      rfl
  | cons input rest inductionHypothesis =>
      simp only [List.cons_append, outputs, final]
      rw [inductionHypothesis, List.append_assoc]

theorem allSteps_append (guard : σ → ι → Prop)
    (state : σ) (first second : List ι) :
    machine.AllSteps guard state (first ++ second) ↔
      machine.AllSteps guard state first ∧
        machine.AllSteps guard (machine.final state first) second := by
  induction first generalizing state with
  | nil =>
      simp [AllSteps, final]
  | cons input rest inductionHypothesis =>
      simp only [List.cons_append, AllSteps, final]
      rw [inductionHypothesis, and_assoc]

theorem allSteps_of_forall {guard : ι → Prop} {inputs : List ι}
    (all : ∀ input ∈ inputs, guard input) (state : σ) :
    machine.AllSteps (fun _ input => guard input) state inputs := by
  induction inputs generalizing state with
  | nil =>
      trivial
  | cons input rest inductionHypothesis =>
      rw [List.forall_mem_cons] at all
      exact ⟨all.1, inductionHypothesis all.2 _⟩

theorem AllSteps.and {first second : σ → ι → Prop}
    {state : σ} {inputs : List ι}
    (left : machine.AllSteps first state inputs)
    (right : machine.AllSteps second state inputs) :
    machine.AllSteps (fun state input => first state input ∧ second state input)
      state inputs := by
  induction inputs generalizing state with
  | nil =>
      trivial
  | cons input rest inductionHypothesis =>
      exact ⟨⟨left.1, right.1⟩, inductionHypothesis left.2 right.2⟩

/-- A guarded invariant holds in every state of a guarded run. -/
theorem allStates_of_invariant {invariant : σ → Prop} {guard : σ → ι → Prop}
    (preserved :
      ∀ state input, invariant state → guard state input →
        invariant (machine.next state input))
    {state : σ} {inputs : List ι} (initially : invariant state)
    (steps : machine.AllSteps guard state inputs) :
    machine.AllStates invariant state inputs := by
  induction inputs generalizing state with
  | nil =>
      exact initially
  | cons input rest inductionHypothesis =>
      exact ⟨initially,
        inductionHypothesis (preserved state input initially steps.1) steps.2⟩

theorem AllStates.imp {first second : σ → Prop} (implies : ∀ state, first state → second state)
    {state : σ} {inputs : List ι} (all : machine.AllStates first state inputs) :
    machine.AllStates second state inputs := by
  induction inputs generalizing state with
  | nil =>
      exact implies state all
  | cons input rest inductionHypothesis =>
      exact ⟨implies state all.1, inductionHypothesis all.2⟩

/-- An invariant that every step keeps holds at the end of every run. -/
theorem final_of_invariant {invariant : σ → Prop}
    (preserved : ∀ state input, invariant state → invariant (machine.next state input))
    {state : σ} (initially : invariant state) (inputs : List ι) :
    invariant (machine.final state inputs) := by
  induction inputs generalizing state with
  | nil =>
      exact initially
  | cons input rest inductionHypothesis =>
      exact inductionHypothesis (preserved state input initially)

/-- What an invariant says about single steps holds of every step of a guarded
run. -/
theorem allSteps_of_invariant {invariant : σ → Prop} {guard property : σ → ι → Prop}
    (preserved :
      ∀ state input, invariant state → guard state input →
        invariant (machine.next state input))
    (implies :
      ∀ state input, invariant state → guard state input → property state input)
    {state : σ} {inputs : List ι} (initially : invariant state)
    (steps : machine.AllSteps guard state inputs) :
    machine.AllSteps property state inputs := by
  induction inputs generalizing state with
  | nil =>
      trivial
  | cons input rest inductionHypothesis =>
      exact ⟨implies state input initially steps.1,
        inductionHypothesis (preserved state input initially steps.1) steps.2⟩

theorem AllStates.final {good : σ → Prop} {state : σ} {inputs : List ι}
    (states : machine.AllStates good state inputs) :
    good (machine.final state inputs) := by
  induction inputs generalizing state with
  | nil =>
      exact states
  | cons input rest inductionHypothesis =>
      exact inductionHypothesis states.2

/-- A property that an allowed step keeps exactly when a guard holds is kept by a
run of allowed steps exactly when every step meets the guard.  `invariant` is
a fact about the visited states that the step argument may use. -/
theorem allStates_iff_allSteps_of_allowed
    {invariant good : σ → Prop} {allowed guard : σ → ι → Prop}
    (stays :
      ∀ state input, invariant state → allowed state input →
        invariant (machine.next state input))
    (exact :
      ∀ state input, invariant state → allowed state input → good state →
        (good (machine.next state input) ↔ guard state input))
    {state : σ} {inputs : List ι}
    (initially : invariant state) (starts : good state)
    (steps : machine.AllSteps allowed state inputs) :
    machine.AllStates good state inputs ↔
      machine.AllSteps guard state inputs := by
  induction inputs generalizing state with
  | nil =>
      exact ⟨fun _ => trivial, fun _ => starts⟩
  | cons input rest inductionHypothesis =>
      have stepExact := exact state input initially steps.1 starts
      have restExact :=
        fun continues =>
          inductionHypothesis (stays state input initially steps.1) continues steps.2
      constructor
      · intro all
        have continues : good (machine.next state input) := by
          cases rest with
          | nil => exact all.2
          | cons _ _ => exact all.2.1
        exact ⟨stepExact.mp continues, (restExact continues).mp all.2⟩
      · intro guarded
        have continues := stepExact.mpr guarded.1
        exact ⟨starts, (restExact continues).mpr guarded.2⟩

/-- A property that one step keeps exactly when a guard holds is kept by a run
exactly when every step meets the guard.  `invariant` is an unconditional
fact about the visited states that the step argument may use. -/
theorem allStates_iff_allSteps
    {invariant good : σ → Prop} {guard : σ → ι → Prop}
    (stays :
      ∀ state input, invariant state → invariant (machine.next state input))
    (exact :
      ∀ state input, invariant state → good state →
        (good (machine.next state input) ↔ guard state input))
    {state : σ} {inputs : List ι}
    (initially : invariant state) (starts : good state) :
    machine.AllStates good state inputs ↔
      machine.AllSteps guard state inputs :=
  allStates_iff_allSteps_of_allowed (fun state input kept _ => stays state input kept)
    (fun state input kept _ => exact state input kept) initially starts
    (allSteps_of_forall (fun _ _ => trivial) state)

/-- A property of steps that a guard decides in states of the invariant holds of every step of a
run exactly if every step meets the guard, where the property keeps the invariant. -/
theorem allSteps_iff_of_invariant {invariant : σ → Prop} {property guard : σ → ι → Prop}
    (exact : ∀ state input, invariant state → (property state input ↔ guard state input))
    (stays : ∀ state input, invariant state → property state input →
      invariant (machine.next state input))
    {state : σ} {inputs : List ι} (initially : invariant state) :
    machine.AllSteps property state inputs ↔ machine.AllSteps guard state inputs := by
  induction inputs generalizing state with
  | nil =>
      exact Iff.rfl
  | cons input rest inductionHypothesis =>
      simp only [AllSteps]
      rw [← exact state input initially]
      refine and_congr_right fun holds => ?_
      exact inductionHypothesis (stays state input initially holds)

/-- A property that a guarded step keeps and that a trigger brings about holds at
the end of a guarded run exactly if it held before or some step is a trigger. -/
theorem latched_iff {good : σ → Prop} {guard trigger : σ → ι → Prop}
    (exact :
      ∀ state input, guard state input →
        (good (machine.next state input) ↔ good state ∨ trigger state input))
    {state : σ} {inputs : List ι} (steps : machine.AllSteps guard state inputs) :
    good (machine.final state inputs) ↔
      good state ∨
        ¬machine.AllSteps (fun state input => ¬trigger state input) state inputs := by
  induction inputs generalizing state with
  | nil =>
      simp [final, AllSteps]
  | cons input rest inductionHypothesis =>
      simp only [final, AllSteps]
      rw [inductionHypothesis steps.2, exact state input steps.1, not_and_or, not_not, or_assoc]

/-- All actions of a run are good exactly if every step meets the guard that
decides it in states of the invariant. -/
theorem forall_outputs_iff_of_invariant {good : ω → Prop} {guard : σ → ι → Prop}
    {invariant : σ → Prop} {allowed : ι → Prop}
    (exact : ∀ state input, invariant state → allowed input →
      ((∀ action ∈ machine.emit state input, good action) ↔ guard state input))
    (stays : ∀ state input, invariant state → allowed input → guard state input →
      invariant (machine.next state input))
    {state : σ} {inputs : List ι} (initially : invariant state)
    (inputsAllowed : ∀ input ∈ inputs, allowed input) :
    (∀ action ∈ machine.outputs state inputs, good action) ↔
      machine.AllSteps guard state inputs := by
  induction inputs generalizing state with
  | nil =>
      simp [outputs, AllSteps]
  | cons input rest inductionHypothesis =>
      rw [List.forall_mem_cons] at inputsAllowed
      simp only [outputs, AllSteps, List.forall_mem_append]
      rw [exact state input initially inputsAllowed.1]
      refine and_congr_right fun meets => ?_
      exact inductionHypothesis (stays state input initially inputsAllowed.1 meets)
        inputsAllowed.2

/-- All actions of a run are good exactly if those of every step are. -/
theorem forall_outputs_iff {good : ω → Prop} {guard : σ → ι → Prop}
    (exact : ∀ state input, (∀ action ∈ machine.emit state input, good action) ↔
      guard state input)
    (state : σ) (inputs : List ι) :
    (∀ action ∈ machine.outputs state inputs, good action) ↔
      machine.AllSteps guard state inputs :=
  have always : ∀ state input, True → True →
      ((∀ action ∈ machine.emit state input, good action) ↔ guard state input) :=
    fun state input _ _ => exact state input
  forall_outputs_iff_of_invariant always (fun _ _ _ _ _ => trivial) trivial
    (fun _ _ => trivial)

end Machine

/-- A reader of emitted actions: what it remembers and what it allows next. -/
structure Monitor (μ : Type x) (ω : Type w) where
  track : μ → ω → μ
  allow : μ → ω → Prop

namespace Monitor

variable {μ : Type x} {ω : Type w} (monitor : Monitor μ ω)

/-- The monitor's memory after a list of actions. -/
def after : μ → List ω → μ
  | memory, [] => memory
  | memory, action :: rest => after (monitor.track memory action) rest

/-- Every action is allowed at its position. -/
def Accepts : μ → List ω → Prop
  | _, [] => True
  | memory, action :: rest =>
      monitor.allow memory action ∧ Accepts (monitor.track memory action) rest

variable {monitor}

theorem after_append (memory : μ) (first second : List ω) :
    monitor.after memory (first ++ second) =
      monitor.after (monitor.after memory first) second := by
  induction first generalizing memory with
  | nil =>
      rfl
  | cons action rest inductionHypothesis =>
      exact inductionHypothesis (monitor.track memory action)

theorem accepts_append (memory : μ) (first second : List ω) :
    monitor.Accepts memory (first ++ second) ↔
      monitor.Accepts memory first ∧
        monitor.Accepts (monitor.after memory first) second := by
  induction first generalizing memory with
  | nil =>
      simp [Accepts, after]
  | cons action rest inductionHypothesis =>
      simp only [List.cons_append, Accepts, after]
      rw [inductionHypothesis, and_assoc]

/-- In an accepted list, the action at any position is allowed by the memory
of what precedes it. -/
theorem Accepts.allowed {memory : μ} {before later : List ω} {action : ω}
    (accepted : monitor.Accepts memory (before ++ action :: later)) :
    monitor.allow (monitor.after memory before) action :=
  ((accepts_append memory before (action :: later)).mp accepted).2.1

end Monitor

namespace Machine

variable {σ : Type u} {ι : Type v} {ω : Type w} {μ : Type x} {α : Type z}
variable {machine : Machine σ ι ω}

/-- The simulation rule for a machine that reads a clock: a relation between
the clock, the monitor's memory and the machine's state that each guarded
step keeps, while the part of its actions that `view` selects is allowed.
The clock readings along the run are in order. -/
theorem monitored_timed {χ : Type y} [LE χ] {monitor : Monitor μ α}
    {view : ω → Option α} {reading : ι → Option χ}
    {related : χ → μ → σ → Prop} {guard : σ → ι → Prop}
    (simulates :
      ∀ clock memory state input, related clock memory state → guard state input →
        (∀ time ∈ reading input, clock ≤ time) →
        monitor.Accepts memory ((machine.emit state input).filterMap view) ∧
          related ((reading input).getD clock)
            (monitor.after memory ((machine.emit state input).filterMap view))
            (machine.next state input))
    {clock : χ} {memory : μ} {state : σ} {inputs : List ι}
    (initially : related clock memory state)
    (ordered : (inputs.filterMap reading).Pairwise (· ≤ ·))
    (later : ∀ time ∈ inputs.filterMap reading, clock ≤ time)
    (steps : machine.AllSteps guard state inputs) :
    monitor.Accepts memory ((machine.outputs state inputs).filterMap view) := by
  induction inputs generalizing clock memory state with
  | nil =>
      trivial
  | cons input rest inductionHypothesis =>
      have advances : ∀ time ∈ reading input, clock ≤ time := by
        intro time read
        apply later
        rw [List.mem_filterMap]
        exact ⟨input, List.mem_cons_self, read⟩
      obtain ⟨accepted, kept⟩ := simulates clock memory state input initially steps.1 advances
      simp only [outputs, List.filterMap_append, Monitor.accepts_append]
      refine ⟨accepted, inductionHypothesis kept ?_ ?_ steps.2⟩
      · cases read : reading input with
        | none =>
            simpa [List.filterMap_cons, read] using ordered
        | some time =>
            simp only [List.filterMap_cons, read, List.pairwise_cons] at ordered
            exact ordered.2
      · cases read : reading input with
        | none =>
            simpa [List.filterMap_cons, read] using later
        | some time =>
            simp only [List.filterMap_cons, read, List.pairwise_cons] at ordered
            exact ordered.1

/-- The simulation rule without a clock. -/
theorem monitored {monitor : Monitor μ α} {view : ω → Option α}
    {related : μ → σ → Prop} {guard : σ → ι → Prop}
    (simulates :
      ∀ memory state input, related memory state → guard state input →
        monitor.Accepts memory ((machine.emit state input).filterMap view) ∧
          related (monitor.after memory ((machine.emit state input).filterMap view))
            (machine.next state input))
    {memory : μ} {state : σ} {inputs : List ι}
    (initially : related memory state)
    (steps : machine.AllSteps guard state inputs) :
    monitor.Accepts memory ((machine.outputs state inputs).filterMap view) := by
  have ordered : (inputs.filterMap (fun _ => (none : Option Nat))).Pairwise (· ≤ ·) := by
    simp
  have later : ∀ time ∈ inputs.filterMap (fun _ => (none : Option Nat)), 0 ≤ time :=
    fun time _ => Nat.zero_le time
  exact monitored_timed (fun _ memory state input relation allowed _ =>
    simulates memory state input relation allowed) initially ordered later steps

end Machine

end TfortisPack.Library
