import TfortisPack.Autorestart.Alarms

/-!
# The reload after a manual power cycle

`rebootHandler` reads the configuration again in `REBOOT_STATE_POE_UP` if
`MANUAL_RESTART` is set.  The handler that starts a manual cycle has cleared
that bit, and so does every command that finds the port in `REBOOT_STATE`;
it comes back only by a command that finds the port parked outside.
-/

namespace TfortisPack.Autorestart

open TfortisPack.Library

namespace ManualReload

/-- What there is to know about the cycle under way. -/
structure CycleMemory where
  /-- The handler that started it. -/
  kind : Option ResetKind
  /-- A later request was accepted and not withdrawn. -/
  again : Bool
  deriving DecidableEq, Repr

def startedKind : CycleAction → Option ResetKind
  | .started kind => some kind
  | _ => none

/-- The last start among some actions. -/
def lastStart (actions : List CycleAction) : Option ResetKind :=
  (actions.filterMap startedKind).getLast?

/-- The memory after a step, from the client commands and the starts alone. -/
def remember (memory : CycleMemory) (control : Control) (input : Input)
    (actions : List CycleAction) : CycleMemory :=
  match input with
  | .command =>
      if control.state = .reboot then { memory with again := false }
      else if control.powered then { memory with again := true }
      else memory
  | _ =>
      match lastStart actions with
      | some kind => { kind := some kind, again := false }
      | none => memory

/-- The daemon and the memory of its cycle. -/
def following (env : Environment) : Machine (Daemon × CycleMemory) Input Action where
  step memory input :=
    (((daemon env).next memory.1 input,
        remember memory.2 memory.1.port.control input
          (((daemon env).emit memory.1 input).filterMap Action.cycle)),
      (daemon env).emit memory.1 input)

/-- A tick that handles a manual cycle in `REBOOT_STATE_POE_UP`. -/
def EndsManualCycle (memory : Daemon × CycleMemory) : Input → Prop
  | .tick _ =>
      memory.1.port.portResetInfo.state = .reboot ∧
        memory.1.port.portRebootInfo.rebootState = .poeUp ∧ memory.2.kind = some .manual
  | _ => False

instance (memory : Daemon × CycleMemory) : DecidablePred (EndsManualCycle memory)
  | .tick _ => inferInstanceAs (Decidable (_ ∧ _))
  | .command | .readState _ _ | .testDisable | .testLink _ | .testPing _ | .testSpeed _ _ =>
      inferInstanceAs (Decidable False)

/-- A manual cycle that ends here is followed by a reload in the same tick. -/
def Reloads (env : Environment) (memory : Daemon × CycleMemory) (input : Input) : Prop :=
  EndsManualCycle memory input → .portReloaded ∈ (daemon env).emit memory.1 input

instance (env : Environment) (memory : Daemon × CycleMemory) (input : Input) :
    Decidable (Reloads env memory input) :=
  inferInstanceAs (Decidable (_ → _))

/-- A manual cycle that ends here was requested once more while it ran. -/
def RequestedAgain (memory : Daemon × CycleMemory) (input : Input) : Prop :=
  EndsManualCycle memory input → memory.2.again = true

instance (memory : Daemon × CycleMemory) (input : Input) :
    Decidable (RequestedAgain memory input) :=
  inferInstanceAs (Decidable (_ → _))

/-- During a manual cycle the bit `MANUAL_RESTART` is what the memory says. -/
def Remembered (memory : CycleMemory) (control : Control) : Prop :=
  memory.kind = some .manual → control.rebootInfo.rebootState ≠ .idle →
    control.manual = memory.again

section Steps

variable {maxReset : Nat} {memory : CycleMemory} {before after : Control}

theorem remembered_between (between : after.rebootInfo.rebootState = .idle) :
    Remembered memory after :=
  fun _ started => absurd between started

theorem Remembered.congr (remembered : Remembered memory before)
    (manual : after.manual = before.manual)
    (started : after.rebootInfo.rebootState ≠ .idle →
      before.rebootInfo.rebootState ≠ .idle) :
    Remembered memory after := by
  intro kind runs
  rw [manual]
  exact remembered kind (started runs)

theorem remembered_served {middle : Control} {first second : List CycleAction}
    {tick : TickInput} (between : before.rebootInfo.rebootState = .idle)
    (auto : AutoStart maxReset before middle first)
    (manual : ManualStart middle after second) :
    Remembered (remember memory before (.tick tick) (first ++ second)) after := by
  cases manual with
  | started requested powered =>
      cases auto <;> exact fun _ _ => rfl
  | absent quiet =>
      cases auto with
      | absent quiet =>
          exact remembered_between between
      | exhausted test requested spent checked =>
          exact remembered_between rfl
      | started requested left =>
          intro isManual
          simp [remember, lastStart, startedKind] at isManual

theorem remembered_of_controlStep {input : Input} {actions : List CycleAction}
    (step : ControlStep maxReset before input after actions)
    (remembered : Remembered memory before) :
    Remembered (remember memory before input actions) after := by
  cases step with
  | tested test =>
      have same : remember memory before input [] = memory := by
        cases input <;> first | rfl | simp [Input.testCall] at test
      rw [same]
      exact remembered
  | requested free powered =>
      intro _ _
      simp only [remember, if_neg free, if_pos powered]
  | refused free unpowered =>
      simp only [remember, if_neg free, if_neg unpowered]
      exact remembered
  | withdrawn busy =>
      intro _ _
      simp only [remember, if_pos busy]
  | read portEnabled poeEnabled =>
      exact remembered.congr rfl id
  | rested idle =>
      exact remembered
  | resumed idle =>
      exact remembered.congr rfl id
  | watched count regular forgets =>
      exact remembered.congr rfl id
  | raised count regular forgets =>
      exact remembered.congr rfl id
  | served busy between auto manual =>
      exact remembered_served between auto manual
  | armed busy fresh =>
      exact remembered.congr rfl fun _ => by simp [fresh]
  | poweredOff busy down due =>
      exact remembered.congr rfl fun _ => by simp [down]
  | waited busy down done =>
      exact remembered.congr rfl fun _ => by simp [down]
  | poweredOn busy up plain =>
      exact remembered_between rfl
  | reloaded test busy up requested =>
      exact remembered_between rfl

end Steps

/-- At the end of a cycle the bit alone decides about the reload. -/
theorem portReloaded_iff (env : Environment) {state : Daemon} {tick : TickInput}
    (busy : state.port.portResetInfo.state = .reboot)
    (up : state.port.portRebootInfo.rebootState = .poeUp) :
    .portReloaded ∈ (daemon env).emit state (.tick tick) ↔
      state.port.hasEvent manualRestart = true := by
  have handled : stateHandler env.config env.clock tick state.port =
      rebootHandler env.config env.clock tick state.port := by
    simp only [stateHandler, busy]
  have poweredUp : .portReloaded ∉ (powerUp tick.now state.port).2 := by
    rcases Alarms.powerUp_actions tick.now state.port with actions | actions <;> simp [actions]
  have kept : (powerUp tick.now state.port).1.hasEvent manualRestart =
      state.port.hasEvent manualRestart :=
    congrArg Control.manual (control_powerUp tick.now state.port)
  have reloaded : .portReloaded ∈ (rebootHandler env.config env.clock tick state.port).2 ↔
      state.port.hasEvent manualRestart = true := by
    simp only [rebootHandler, up, List.mem_append, poweredUp, false_or, reloadAfterManual, kept]
    split
    · rename_i requested
      exact iff_of_true (List.mem_singleton.mpr rfl) requested
    · rename_i plain
      exact iff_of_false List.not_mem_nil plain
  simp only [daemon_emit, portStep, eventsHandler, handled]
  split
  · rw [List.mem_append, reloaded]
    exact or_iff_left (Alarms.portReloaded_not_mem_alarmHandler env.clock tick.now _)
  · exact reloaded

theorem reloads_iff_requestedAgain (env : Environment) (memory : Daemon × CycleMemory)
    (input : Input) (remembered : Remembered memory.2 memory.1.port.control) :
    Reloads env memory input ↔ RequestedAgain memory input := by
  cases input with
  | tick tick =>
      refine forall_congr' fun ends => ?_
      obtain ⟨busy, up, manual⟩ := ends
      have started : memory.1.port.control.rebootInfo.rebootState ≠ .idle := by
        simp [up]
      rw [portReloaded_iff env busy up, ← remembered manual started]
      rfl
  | command | readState _ _ | testDisable | testLink _ | testPing _ | testSpeed _ _ =>
      simp [Reloads, RequestedAgain, EndsManualCycle]

/-- In every run, in any order of commands, reads, tests and ticks, each manual
power cycle that reaches `REBOOT_STATE_POE_UP` is followed by a reload in
that tick exactly if each of them was requested once more while it ran. -/
theorem manual_cycle_reloads_iff (env : Environment) (index : Fin numPorts)
    (input : BootInput) (inputs : List Input) :
    (following env).AllSteps (Reloads env) (boot env index input, ⟨none, false⟩) inputs ↔
      (following env).AllSteps RequestedAgain (boot env index input, ⟨none, false⟩) inputs := by
  have preserved : ∀ (memory : Daemon × CycleMemory) (step : Input),
      Remembered memory.2 memory.1.port.control →
        Remembered ((following env).next memory step).2
          ((following env).next memory step).1.port.control :=
    fun memory step remembered =>
      remembered_of_controlStep (daemon_controlStep env memory.1 step) remembered
  have fresh : Remembered ⟨none, false⟩ (boot env index input).port.control := by
    intro isManual
    simp at isManual
  constructor
  · exact Machine.allSteps_of_invariant
      (fun memory step remembered _ => preserved memory step remembered)
      (fun memory step remembered reloads =>
        (reloads_iff_requestedAgain env memory step remembered).mp reloads) fresh
  · exact Machine.allSteps_of_invariant
      (fun memory step remembered _ => preserved memory step remembered)
      (fun memory step remembered again =>
        (reloads_iff_requestedAgain env memory step remembered).mpr again) fresh

/-- A manual cycle that no further command disturbs ends without a reload. -/
theorem plain_cycle_does_not_reload :
    ¬(following sampleEnvironment).AllSteps (Reloads sampleEnvironment)
      (boot sampleEnvironment firstPort (sampleBoot "link" 1700000000), ⟨none, false⟩)
      sampleManualCycle := by
  decide

/-- A cycle that a disabled port interrupts and a second command resumes. -/
example :
    .portReloaded ∈ (daemon sampleEnvironment).outputs
      (boot sampleEnvironment firstPort (sampleBoot "link" 1700000000))
      ([.readState true true, .command, sampleTick 1700000000, .readState false true,
        .readState true true, .command] ++
        [sampleTick 1700000001, sampleTick 1700000002, sampleTick 1700000017,
          sampleTick 1700000018]) := by
  decide

end ManualReload

end TfortisPack.Autorestart
