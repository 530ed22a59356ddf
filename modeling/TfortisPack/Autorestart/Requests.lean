import TfortisPack.Autorestart.Control

/-!
# Requests and the outer state

A port in `REBOOT_STATE` whose nested state is `REBOOT_STATE_IDLE` waits for
a tick to serve a request.  It is driven when a request is there to be
served; otherwise no tick changes it any more.

The second-request branch of `cmd_rebootHandler` takes a manual request
back.  The port stays driven along a run exactly when no command does so
before the request was served and without an automatic request beside it.
-/

namespace TfortisPack.Autorestart

open TfortisPack.Library

/-- A port that waits between cycles has a request to serve. -/
def Driven (state : Daemon) : Prop :=
  state.port.portResetInfo.state = .reboot →
    state.port.portRebootInfo.rebootState = .idle →
      state.port.hasEvent autoRestart = true ∨ state.port.hasEvent manualRestart = true

instance : DecidablePred Driven :=
  fun _ => inferInstanceAs (Decidable (_ → _ → _))

/-- A command that arrives before the tick which would serve the request, and
finds no automatic request beside it. -/
def TakesLastRequest (state : Daemon) (input : Input) : Prop :=
  input = .command ∧ state.port.portResetInfo.state = .reboot ∧
    state.port.portRebootInfo.rebootState = .idle ∧
    state.port.hasEvent autoRestart = false

/-- The same property of the control part. -/
private def DrivenControl (control : Control) : Prop :=
  control.state = .reboot → control.rebootInfo.rebootState = .idle →
    control.auto = true ∨ control.manual = true

private theorem driven_served
    {maxReset : Nat} {before middle after : Control} {first second : List CycleAction}
    (busy : before.state = .reboot) (between : before.rebootInfo.rebootState = .idle)
    (auto : AutoStart maxReset before middle first)
    (manual : ManualStart middle after second)
    (driven : DrivenControl before) :
    DrivenControl after := by
  intro stillBusy stillBetween
  cases manual with
  | started requested powered =>
      simp at stillBetween
  | absent =>
      cases auto with
      | absent quiet =>
          exact driven busy between
      | exhausted test requested spent checked =>
          simp at stillBusy
      | started requested left =>
          simp at stillBetween

private theorem checkDeadline_not_idle
    {now : Nat} {info : PortRebootInfo} (started : info.rebootState = .poeDown) :
    (info.checkDeadline now).rebootState ≠ .idle := by
  rcases info.checkDeadline_rebootState now with finished | same
  · simp [finished]
  · simp [same, started]

private theorem driven_iff_of_controlStep
    {maxReset : Nat} {before after : Control} {input : Input} {actions : List CycleAction}
    (step : ControlStep maxReset before input after actions)
    (driven : DrivenControl before) :
    DrivenControl after ↔
      ¬(input = .command ∧ before.state = .reboot ∧
        before.rebootInfo.rebootState = .idle ∧ before.auto = false) := by
  cases step with
  | tested test =>
      have notCommand : input ≠ .command := by
        rintro rfl
        simp [Input.testCall] at test
      simpa [notCommand] using driven
  | requested free powered =>
      simp [DrivenControl, free]
  | refused free unpowered =>
      simpa [free] using driven
  | withdrawn busy =>
      simp only [DrivenControl, busy, true_and, true_imp_iff, Bool.false_eq_true, or_false]
      rw [not_and, Bool.not_eq_false]
  | read portEnabled poeEnabled =>
      have parked :
          DrivenControl
            { before with
              state := if portEnabled && poeEnabled then before.state else .idle } := by
        intro stillBusy stillBetween
        refine driven ?_ stillBetween
        revert stillBusy
        simp only
        split
        · exact id
        · simp
      simpa [DrivenControl] using parked
  | rested idle =>
      simpa using driven
  | resumed idle =>
      simp [DrivenControl]
  | watched count regular forgets =>
      simp [DrivenControl, regular]
  | raised count regular forgets =>
      simp [DrivenControl]
  | served busy between auto manual =>
      simpa using driven_served busy between auto manual driven
  | armed busy fresh =>
      simp [DrivenControl]
  | poweredOff busy down due =>
      simp [DrivenControl, checkDeadline_not_idle, down]
  | waited busy down done =>
      simp [DrivenControl, checkDeadline_not_idle, down]
  | poweredOn busy up plain =>
      simp [DrivenControl]
  | reloaded test busy up requested =>
      simp [DrivenControl]

/-- Along every run, in any order of commands, reads, tests and ticks, the port
stays driven exactly when no command takes the last request back. -/
theorem allStates_driven_iff (env : Environment) (index : Fin numPorts)
    (input : BootInput) (inputs : List Input) :
    (daemon env).AllStates Driven (boot env index input) inputs ↔
      (daemon env).AllSteps (fun state step => ¬TakesLastRequest state step)
        (boot env index input) inputs := by
  have starts : Driven (boot env index input) := by
    intro busy _
    have regular := congrArg Control.state (boot_control env index input)
    change (boot env index input).port.portResetInfo.state = .regular at regular
    rw [regular] at busy
    exact absurd busy (by decide)
  have exactStep : ∀ state step, True → Driven state →
      (Driven ((daemon env).next state step) ↔ ¬TakesLastRequest state step) := by
    intro state step _ driven
    exact driven_iff_of_controlStep (daemon_controlStep env state step) driven
  exact Machine.allStates_iff_allSteps (fun _ _ _ => trivial) exactStep trivial starts

/-- Two commands in a row, before any tick, leave the port in `REBOOT_STATE`
with no request. -/
theorem second_command_wedges :
    ¬(daemon sampleEnvironment).AllStates Driven
      (boot sampleEnvironment 0 (sampleBoot "link" 1700000000))
      [.readState true true, .command, .command] := by
  decide

end TfortisPack.Autorestart
