import TfortisPack.Autorestart.Control

/-!
# Power cycles

A power cycle is the passage of the nested state from `REBOOT_STATE_INIT`
back to `REBOOT_STATE_IDLE`.  Only a tick in `REBOOT_STATE` advances it, so
a cycle is finished only if the outer state stays `REBOOT_STATE` meanwhile.
Two steps break this: a configuration read in the middle of a cycle that
finds the port or its PoE disabled, and a tick that shuts the port down and
starts the manual request that was pending beside the automatic one.
-/

namespace TfortisPack.Autorestart

open TfortisPack.Library

namespace PowerCycle

/-- A cycle in progress belongs to a port in `REBOOT_STATE`. -/
def Attached (control : Control) : Prop :=
  control.rebootInfo.rebootState ≠ .idle → control.state = .reboot

instance : DecidablePred Attached :=
  fun _ => inferInstanceAs (Decidable (_ → _))

/-- A step that enters `REBOOT_STATE` finds no cycle in progress. -/
def EntersFresh (before after : Control) : Prop :=
  before.state ≠ .reboot → after.state = .reboot → after.rebootInfo.rebootState = .idle

/-- The tick would shut the port down and start its manual request at once. -/
def ShutdownWithManual (maxReset : Nat) (control : Control) : Prop :=
  control.state = .reboot ∧ control.rebootInfo.rebootState = .idle ∧
    control.auto = true ∧ control.manual = true ∧ control.powered ∧
    maxReset ≤ control.resetCount

instance (maxReset : Nat) : DecidablePred (ShutdownWithManual maxReset) :=
  fun _ => inferInstanceAs (Decidable (_ ∧ _))

/-- The tick would end a cycle of a port whose power is disabled by
configuration, so without switching it on. -/
def EndsUnpowered (control : Control) : Prop :=
  control.state = .reboot ∧ control.rebootInfo.rebootState = .poeUp ∧ ¬control.powered

instance : DecidablePred EndsUnpowered :=
  fun _ => inferInstanceAs (Decidable (_ ∧ _))

/-- A step that leaves a cycle in progress to its ticks. -/
def KeepsCycle (maxReset : Nat) (control : Control) : Input → Prop
  | .readState portEnabled poeEnabled =>
      control.rebootInfo.rebootState = .idle ∨ portEnabled = true ∧ poeEnabled = true
  | .tick _ => ¬ShutdownWithManual maxReset control ∧ ¬EndsUnpowered control
  | _ => True

instance (maxReset : Nat) (control : Control) :
    ∀ input, Decidable (KeepsCycle maxReset control input)
  | .readState _ _ => inferInstanceAs (Decidable (_ ∨ _))
  | .tick _ => inferInstanceAs (Decidable (_ ∧ _))
  | .command | .testDisable | .testLink _ | .testPing _ | .testSpeed _ _ =>
      inferInstanceAs (Decidable True)

section Steps

variable {maxReset : Nat} {before after : Control} {input : Input}
variable {actions : List CycleAction}

/-- A tick that serves requests leaves a cycle attached unless it shuts the
port down as well. -/
theorem attached_served {middle : Control} {first second : List CycleAction}
    (busy : before.state = .reboot) (between : before.rebootInfo.rebootState = .idle)
    (auto : AutoStart maxReset before middle first)
    (manual : ManualStart middle after second)
    (apart : ¬ShutdownWithManual maxReset before) :
    Attached after := by
  intro started
  cases manual with
  | absent quiet =>
      cases auto with
      | absent quiet =>
          exact busy
      | exhausted test requested spent checked =>
          simp at started
      | started requested left =>
          exact busy
  | started requested powered =>
      cases auto with
      | absent quiet =>
          exact busy
      | exhausted test requestedAuto spent checked =>
          exact absurd ⟨busy, between, requestedAuto, requested, powered, spent⟩ apart
      | started requestedAuto left =>
          exact busy

theorem attached_of_controlStep
    (step : ControlStep maxReset before input after actions)
    (keeps : KeepsCycle maxReset before input) (attached : Attached before) :
    Attached after := by
  cases step with
  | tested test =>
      exact attached
  | requested free powered =>
      exact fun _ => rfl
  | refused free unpowered =>
      exact attached
  | withdrawn busy =>
      exact fun _ => busy
  | read portEnabled poeEnabled =>
      intro started
      rcases keeps with between | ⟨rfl, rfl⟩
      · exact absurd between started
      · exact attached started
  | rested idle =>
      exact attached
  | resumed idle =>
      intro started
      exact absurd (attached started) (by simp [idle])
  | watched count regular forgets =>
      exact attached
  | raised count regular forgets =>
      exact fun _ => rfl
  | served busy between auto manual =>
      exact attached_served busy between auto manual keeps.1
  | armed busy fresh =>
      exact fun _ => busy
  | poweredOff busy down due =>
      exact fun _ => busy
  | waited busy down done =>
      exact fun _ => busy
  | poweredOn busy up plain =>
      intro started
      exact absurd rfl started
  | reloaded test busy up requested =>
      intro started
      exact absurd rfl started

/-- One step that enters `REBOOT_STATE` from an attached state enters it
between cycles. -/
theorem entersFresh_of_controlStep
    (step : ControlStep maxReset before input after actions)
    (attached : Attached before) :
    EntersFresh before after := by
  intro outside inside
  have between : before.rebootInfo.rebootState = .idle := by
    by_contra started
    exact outside (attached started)
  cases step with
  | tested test =>
      exact between
  | requested free powered =>
      exact between
  | refused free unpowered =>
      exact between
  | withdrawn busy =>
      exact between
  | read portEnabled poeEnabled =>
      exact between
  | rested idle =>
      exact between
  | resumed idle =>
      exact between
  | watched count regular forgets =>
      exact between
  | raised count regular forgets =>
      exact between
  | served busy _ auto manual =>
      exact absurd busy outside
  | armed busy fresh =>
      exact absurd busy outside
  | poweredOff busy down due =>
      exact absurd busy outside
  | waited busy down done =>
      exact absurd busy outside
  | poweredOn busy up plain =>
      exact absurd busy outside
  | reloaded test busy up requested =>
      exact absurd busy outside

/-! ## The order of power-off and power-on -/

/-- `rebootHandler` has switched the port off and not yet on again. -/
def SwitchedOff (control : Control) : Prop :=
  control.state = .reboot ∧
    (control.rebootInfo.rebootState = .poeUp ∨
      control.rebootInfo.rebootState = .poeDown ∧
        BitFlags.has control.rebootInfo.rebootEvent rebootEventStart = false)

/-- After a power-off the next action of a cycle is the power-on. -/
def upAfterDown : Monitor Bool CycleAction where
  track _ action :=
    match action with
    | .down _ => true
    | _ => false
  allow isOff action := isOff = true → ∃ time, action = .up time

theorem SwitchedOff.checkDeadline {info : PortRebootInfo}
    (busy : before.state = .reboot) (down : info.rebootState = .poeDown)
    (done : BitFlags.has info.rebootEvent rebootEventStart = false) (now : Nat) :
    SwitchedOff { before with rebootInfo := info.checkDeadline now } := by
  refine ⟨busy, ?_⟩
  rcases info.checkDeadline_rebootState now with finished | same
  · exact Or.inl finished
  · refine Or.inr ⟨same.trans down, ?_⟩
    rw [PortRebootInfo.checkDeadline_start]
    exact done

theorem started_of_served {middle : Control} {first second : List CycleAction}
    (auto : AutoStart maxReset before middle first)
    (manual : ManualStart middle after second) :
    ∀ action ∈ first ++ second, ∃ kind, action = .started kind := by
  intro action member
  rcases List.mem_append.mp member with inFirst | inSecond
  · cases auto with
    | absent quiet =>
        simp at inFirst
    | exhausted test requested spent checked =>
        simp at inFirst
    | started requested left =>
        exact ⟨.auto, by simpa using inFirst⟩
  · cases manual with
    | absent quiet =>
        simp at inSecond
    | started requested powered =>
        exact ⟨.manual, by simpa using inSecond⟩

theorem upAfterDown_starts {starts : List CycleAction}
    (onlyStarts : ∀ action ∈ starts, ∃ kind, action = .started kind) :
    upAfterDown.Accepts false starts ∧ upAfterDown.after false starts = false := by
  induction starts with
  | nil =>
      exact ⟨trivial, rfl⟩
  | cons action rest inductionHypothesis =>
      obtain ⟨kind, rfl⟩ := onlyStarts action List.mem_cons_self
      obtain ⟨accepted, off⟩ :=
        inductionHypothesis fun other member =>
          onlyStarts other (List.mem_cons_of_mem _ member)
      exact ⟨⟨fun impossible => absurd impossible Bool.false_ne_true, accepted⟩, off⟩

/-- One step emits allowed actions only, and the monitor knows whether the
port is switched off. -/
theorem upAfterDown_of_controlStep
    (step : ControlStep maxReset before input after actions)
    (keeps : KeepsCycle maxReset before input)
    {isOff : Bool} (known : isOff = true → SwitchedOff before) :
    upAfterDown.Accepts isOff actions ∧
      (upAfterDown.after isOff actions = true → SwitchedOff after) := by
  -- where the port cannot be switched off, neither does the monitor think so
  have isOn (other : ¬SwitchedOff before) : isOff = false := by
    by_contra off
    exact other (known (by simpa using off))
  cases step with
  | tested test =>
      exact ⟨trivial, known⟩
  | requested free powered =>
      rw [isOn fun off => free off.1]
      exact ⟨trivial, fun impossible => absurd impossible Bool.false_ne_true⟩
  | refused free unpowered =>
      exact ⟨trivial, known⟩
  | withdrawn busy =>
      exact ⟨trivial, known⟩
  | read portEnabled poeEnabled =>
      rcases keeps with between | ⟨rfl, rfl⟩
      · rw [isOn fun off => by simp [SwitchedOff, between] at off]
        exact ⟨trivial, fun impossible => absurd impossible Bool.false_ne_true⟩
      · exact ⟨trivial, known⟩
  | rested idle =>
      exact ⟨trivial, known⟩
  | resumed idle =>
      rw [isOn fun off => by simp [SwitchedOff, idle] at off]
      exact ⟨trivial, fun impossible => absurd impossible Bool.false_ne_true⟩
  | watched count regular forgets =>
      exact ⟨trivial, known⟩
  | raised count regular forgets =>
      rw [isOn fun off => by simp [SwitchedOff, regular] at off]
      exact ⟨⟨fun impossible => absurd impossible Bool.false_ne_true, trivial⟩,
        fun impossible => absurd impossible Bool.false_ne_true⟩
  | served busy between auto manual =>
      rw [isOn fun off => by simp [SwitchedOff, between] at off]
      obtain ⟨accepted, off⟩ := upAfterDown_starts (started_of_served auto manual)
      exact ⟨accepted, fun isOff => by simp [off] at isOff⟩
  | armed busy fresh =>
      rw [isOn fun off => by simp [SwitchedOff, fresh] at off]
      exact ⟨trivial, fun impossible => absurd impossible Bool.false_ne_true⟩
  | poweredOff busy down due =>
      rw [isOn fun off => by simp [SwitchedOff, down, due] at off]
      refine ⟨⟨fun impossible => absurd impossible Bool.false_ne_true, trivial⟩, fun _ => ?_⟩
      refine SwitchedOff.checkDeadline busy ?_ ?_ _
      · exact down
      · exact BitFlags.has_clear_self _ _
  | waited busy down done =>
      exact ⟨trivial, fun _ => SwitchedOff.checkDeadline busy down done _⟩
  | poweredOn busy up plain =>
      have powered : before.powered := by
        by_contra unpowered
        exact keeps.2 ⟨busy, up, unpowered⟩
      rw [if_pos powered]
      exact ⟨⟨fun _ => ⟨_, rfl⟩, trivial⟩, fun impossible => absurd impossible Bool.false_ne_true⟩
  | reloaded test busy up requested =>
      have powered : before.powered := by
        by_contra unpowered
        exact keeps.2 ⟨busy, up, unpowered⟩
      rw [if_pos powered]
      exact ⟨⟨fun _ => ⟨_, rfl⟩, trivial⟩, fun impossible => absurd impossible Bool.false_ne_true⟩

end Steps

/-- In every run, in any order of commands, reads, tests and ticks, whose steps
all leave a cycle in progress to its ticks: a cycle in progress belongs to a
port in `REBOOT_STATE`; `REBOOT_STATE` is entered between cycles only; and
the next thing that happens in a cycle after `rebootHandler` switched the
port off is that it switches it on. -/
theorem started_cycle_is_finished (env : Environment) (index : Fin numPorts)
    (input : BootInput) (inputs : List Input)
    (keeps :
      (daemon env).AllSteps
        (fun state step => KeepsCycle env.config.maxReset state.port.control step)
        (boot env index input) inputs) :
    (daemon env).AllStates (fun state => Attached state.port.control)
        (boot env index input) inputs ∧
      (daemon env).AllSteps
        (fun state step =>
          EntersFresh state.port.control ((daemon env).next state step).port.control)
        (boot env index input) inputs ∧
      ∀ before off next later,
        ((daemon env).outputs (boot env index input) inputs).filterMap Action.cycle =
            before ++ .down off :: next :: later →
          ∃ on, next = .up on := by
  have starts : Attached (boot env index input).port.control := by
    rw [boot_control]
    exact fun started => absurd rfl started
  have preserved : ∀ state step, Attached state.port.control →
      KeepsCycle env.config.maxReset state.port.control step →
        Attached ((daemon env).next state step).port.control :=
    fun state step attached allowed =>
      attached_of_controlStep (daemon_controlStep env state step) allowed attached
  refine ⟨Machine.allStates_of_invariant preserved starts keeps, ?_, ?_⟩
  · exact Machine.allSteps_of_invariant preserved
      (fun state step attached _ =>
        entersFresh_of_controlStep (daemon_controlStep env state step) attached)
      starts keeps
  · intro before off next later shape
    have accepted :
        upAfterDown.Accepts false
          (((daemon env).outputs (boot env index input) inputs).filterMap Action.cycle) := by
      refine Machine.monitored (fun isOff state step known allowed =>
        upAfterDown_of_controlStep (daemon_controlStep env state step) allowed known) ?_ keeps
      exact fun impossible => absurd impossible Bool.false_ne_true
    have split : before ++ .down off :: next :: later =
        (before ++ [.down off]) ++ next :: later := by
      simp
    rw [shape, split] at accepted
    apply accepted.allowed
    rw [Monitor.after_append]
    rfl

theorem started_cycle_is_finished_manual :
    (daemon sampleEnvironment).AllSteps
        (fun state step =>
          KeepsCycle sampleEnvironment.config.maxReset state.port.control step)
        (boot sampleEnvironment 0 (sampleBoot "link" 1700000000)) sampleManualCycle ∧
      (daemon sampleEnvironment).AllStates (fun state => Attached state.port.control)
        (boot sampleEnvironment 0 (sampleBoot "link" 1700000000)) sampleManualCycle :=
  ⟨by decide, (started_cycle_is_finished _ _ _ _ (by decide)).1⟩

/-- A read that finds the port disabled in the middle of a cycle leaves the
nested state behind. -/
theorem disabled_read_abandons_cycle :
    ¬(daemon sampleEnvironment).AllStates (fun state => Attached state.port.control)
      (boot sampleEnvironment 0 (sampleBoot "link" 1700000000))
      [.readState true true, .testLink true, .command, sampleTick 1700000000,
        .readState false true] := by
  decide

end PowerCycle

end TfortisPack.Autorestart
