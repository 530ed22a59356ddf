import TfortisPack.Autorestart.Errors
import TfortisPack.Autorestart.PowerCycle

/-!
# The shape of a power cycle

While every configuration read finds the port and its PoE enabled, the PoE
calls of `rebootHandler` alternate between off and on, and every power-on
keeps a distance of `rebootDelay` to the power-off before it.  The deadline
is a `uint32_t`; it is the right one as long as the sum of the time of the
power-off and the delay fits.
-/

namespace TfortisPack.Autorestart

open TfortisPack.Library

namespace CycleShape

/-- A PoE call of `rebootHandler` with its time. -/
def call : CycleAction → Option (PoeControl × Nat)
  | .down time => some (.down, time)
  | .up time => some (.up, time)
  | _ => none

/-- The PoE call of `rebootHandler` behind an action of the daemon. -/
def rebootCall : Action → Option (PoeControl × Nat)
  | .poeControl .rebootHandler control time => some (control, time)
  | _ => none

theorem rebootCall_eq_bind (action : Action) :
    rebootCall action = action.cycle.bind call := by
  cases action with
  | poeControl caller control time =>
      cases caller <;> cases control <;> rfl
  | _ =>
      rfl

/-- A prefix of off, on, off, on, ... in which every on is at least `delay`
after the off before it. -/
def Alternates (delay : Nat) : List (PoeControl × Nat) → Prop
  | [] => True
  | [(.down, _)] => True
  | (.down, off) :: (.up, on) :: rest => off + delay ≤ on ∧ Alternates delay rest
  | _ => False

instance decidableAlternates (delay : Nat) : ∀ calls, Decidable (Alternates delay calls)
  | [] => .isTrue trivial
  | [(.down, _)] => .isTrue trivial
  | (.down, off) :: (.up, on) :: rest =>
      haveI := decidableAlternates delay rest
      inferInstanceAs (Decidable (off + delay ≤ on ∧ Alternates delay rest))
  | (.down, _) :: (.down, _) :: _ => .isFalse id
  | (.up, _) :: _ => .isFalse id

/-- Every configuration read finds the port and its PoE enabled. -/
def ReadsEnabled : Input → Prop
  | .readState portEnabled poeEnabled => portEnabled = true ∧ poeEnabled = true
  | _ => True

instance : DecidablePred ReadsEnabled
  | .readState _ _ => inferInstanceAs (Decidable (_ ∧ _))
  | .command | .testDisable | .testLink _ | .testPing _ | .testSpeed _ _ | .tick _ =>
      inferInstanceAs (Decidable True)

/-- A tick that switches the port off does so at a time whose deadline fits
in a `uint32_t`. -/
def DeadlineFits (control : Control) : Input → Prop
  | .tick input =>
      control.state = .reboot → control.rebootInfo.rebootState = .poeDown →
        BitFlags.has control.rebootInfo.rebootEvent rebootEventStart = true →
          input.now + 15 < 4294967296
  | _ => True

instance (control : Control) : DecidablePred (DeadlineFits control)
  | .tick _ => inferInstanceAs (Decidable (_ → _ → _ → _))
  | .command | .readState _ _ | .testDisable | .testLink _ | .testPing _ | .testSpeed _ _ =>
      inferInstanceAs (Decidable True)

/-- The clock reading of a tick. -/
def tickTime : Input → Option Nat
  | .tick input => some input.now
  | _ => none

/-! ## A port before its first read -/

/-- Until the first read the port is not powered by configuration, has not been
tested and is not in `REBOOT_STATE`. -/
def UntestedUntilRead (state : Daemon) : Prop :=
  state.port.control.powered ∨
    state.pending = [] ∧ state.port.control.state ≠ .reboot ∧
      testFailed state.port = false

theorem untestedUntilRead_boot (env : Environment) (index : Fin numPorts)
    (input : BootInput) : UntestedUntilRead (boot env index input) := by
  refine Or.inr ⟨rfl, ?_, testFailed_boot env index input⟩
  rw [boot_control]
  simp

/-- A read of enabled values powers the port; no other step changes it. -/
theorem powered_of_controlStep {maxReset : Nat} {before after : Control} {input : Input}
    {actions : List CycleAction} (step : ControlStep maxReset before input after actions)
    (enabled : ReadsEnabled input) (powered : before.powered) : after.powered := by
  cases step with
  | read portEnabled poeEnabled =>
      obtain ⟨rfl, rfl⟩ := enabled
      exact ⟨rfl, rfl⟩
  | served busy between auto manual =>
      cases auto <;> cases manual <;> exact powered
  | _ =>
      exact powered

/-- A tick enters `REBOOT_STATE` only by raising a request. -/
theorem free_of_quiet_tick {maxReset : Nat} {before after : Control}
    {input : TickInput} {actions : List CycleAction}
    (step : ControlStep maxReset before (.tick input) after actions)
    (free : before.state ≠ .reboot) (quiet : actions = []) : after.state ≠ .reboot := by
  cases step with
  | tested test =>
      exact free
  | rested idle =>
      exact free
  | resumed idle =>
      simp
  | watched count regular forgets =>
      exact free
  | raised count regular forgets =>
      simp at quiet
  | served busy between auto manual =>
      exact absurd busy free
  | armed busy fresh =>
      exact absurd busy free
  | poweredOff busy down due =>
      exact absurd busy free
  | waited busy down done =>
      exact absurd busy free
  | poweredOn busy up plain =>
      simp
  | reloaded test busy up requested =>
      simp

theorem untestedUntilRead_next (env : Environment) (state : Daemon) (input : Input)
    (enabled : ReadsEnabled input) (ordered : InThreadOrder state input)
    (untested : UntestedUntilRead state) :
    UntestedUntilRead ((daemon env).next state input) := by
  have step := daemon_controlStep env state input
  rcases untested with powered | ⟨atRest, free, passed⟩
  · exact Or.inl (powered_of_controlStep step enabled powered)
  · cases input with
    | command =>
        by_cases powered : state.port.poweredByConfig
        · exact Or.inl (powered_of_controlStep step enabled powered)
        · have refused : (cmdRebootHandler state.port).1 = state.port := by
            have freeState : state.port.portResetInfo.state ≠ .reboot := free
            simp [cmdRebootHandler, freeState, powered]
          refine Or.inr ⟨atRest, ?_, ?_⟩
          · simpa [portStep, refused] using free
          · simpa [portStep, refused] using passed
    | readState portEnabled poeEnabled =>
        obtain ⟨rfl, rfl⟩ := enabled
        exact Or.inl ⟨rfl, rfl⟩
    | testDisable =>
        simp [InThreadOrder, atRest, Input.testCall] at ordered
    | testLink up =>
        simp [InThreadOrder, atRest, Input.testCall] at ordered
    | testPing reply =>
        simp [InThreadOrder, atRest, Input.testCall] at ordered
    | testSpeed rxBytes now =>
        simp [InThreadOrder, atRest, Input.testCall] at ordered
    | tick tickInput =>
        have quiet :
            (stateHandler env.config env.clock tickInput state.port).2 = [] := by
          by_contra raised
          have failed := (raised_of_stateHandler free raised).2
          rw [passed] at failed
          exact Bool.false_ne_true failed
        refine Or.inr ⟨atRest, ?_, ?_⟩
        · apply free_of_quiet_tick step free
          rw [daemon_emit]
          simp only [portStep, filterMap_cycle_eventsHandler, quiet, List.filterMap_nil]
        · exact (testFailed_eventsHandler env.config env.clock tickInput state.port free).trans passed

/-! ## The order and the distance of the calls -/

/-- Remembers the time of a power-off until the power-on. -/
def alternation : Monitor (Option Nat) CycleAction where
  track memory action :=
    match action with
    | .down off => some off
    | .up _ => none
    | _ => memory
  allow memory action :=
    match action with
    | .down _ => memory = none
    | .up on => ∃ off, memory = some off ∧ off + 15 ≤ on
    | _ => True

/-- Accepted actions contain calls of the right shape. -/
theorem alternates_of_accepts {actions : List CycleAction} :
    (alternation.Accepts none actions → Alternates 15 (actions.filterMap call)) ∧
      ∀ off, alternation.Accepts (some off) actions →
        actions.filterMap call = [] ∨
          ∃ on rest, actions.filterMap call = (.up, on) :: rest ∧ off + 15 ≤ on ∧
            Alternates 15 rest := by
  induction actions with
  | nil =>
      exact ⟨fun _ => trivial, fun _ _ => Or.inl rfl⟩
  | cons action rest inductionHypothesis =>
      obtain ⟨whileOn, whileOff⟩ := inductionHypothesis
      cases action with
      | raised =>
          exact ⟨fun accepted => whileOn accepted.2,
            fun off accepted => whileOff off accepted.2⟩
      | started kind =>
          exact ⟨fun accepted => whileOn accepted.2,
            fun off accepted => whileOff off accepted.2⟩
      | down time =>
          refine ⟨fun accepted => ?_, fun off accepted => absurd accepted.1 (by simp [alternation])⟩
          rw [show (CycleAction.down time :: rest).filterMap call =
            (.down, time) :: rest.filterMap call from rfl]
          rcases whileOff time accepted.2 with done | ⟨on, later, calls, distance, alternates⟩
          · rw [done]
            trivial
          · rw [calls]
            exact ⟨distance, alternates⟩
      | up time =>
          refine ⟨fun accepted => ?_, fun off accepted => Or.inr ?_⟩
          · obtain ⟨off, impossible, _⟩ := accepted.1
            exact absurd impossible (by simp)
          · obtain ⟨known, same, distance⟩ := accepted.1
            obtain rfl : off = known := by simpa using same
            exact ⟨time, rest.filterMap call, rfl, distance, whileOn accepted.2⟩

/-- What the memory says about the nested state machine. -/
structure Timed (clock : Nat) (memory : Option Nat) (control : Control) : Prop where
  delay : control.rebootInfo.rebootDelay = 15
  timer :
    BitFlags.has control.rebootInfo.rebootEvent rebootEventTimerStop = true →
      control.rebootInfo.rebootState = .poeUp
  switchedOn :
    memory = none →
      control.rebootInfo.rebootState = .idle ∨ control.rebootInfo.rebootState = .init ∨
        control.rebootInfo.rebootState = .poeDown ∧
          BitFlags.has control.rebootInfo.rebootEvent rebootEventStart = true
  switchedOff :
    ∀ off, memory = some off →
      control.state = .reboot ∧
        (control.rebootInfo.rebootState = .poeDown ∧
            BitFlags.has control.rebootInfo.rebootEvent rebootEventStart = false ∧
            control.rebootInfo.rebootTimeStart = off + 15 ∨
          control.rebootInfo.rebootState = .poeUp ∧ off + 15 ≤ clock)

section Steps

variable {clock : Nat} {memory : Option Nat} {before after : Control}

theorem Timed.later {next : Nat} (timed : Timed clock memory before) (advances : clock ≤ next) :
    Timed next memory before where
  delay := timed.delay
  timer := timed.timer
  switchedOn := timed.switchedOn
  switchedOff off known := by
    obtain ⟨busy, waiting | ⟨up, reached⟩⟩ := timed.switchedOff off known
    · exact ⟨busy, Or.inl waiting⟩
    · exact ⟨busy, Or.inr ⟨up, reached.trans advances⟩⟩

/-- A change of other fields is irrelevant; the outer state matters only while
the port is switched off. -/
theorem Timed.congr (timed : Timed clock memory before)
    (info : after.rebootInfo = before.rebootInfo)
    (busy : before.state = .reboot → after.state = .reboot) :
    Timed clock memory after where
  delay := by rw [info]; exact timed.delay
  timer := by rw [info]; exact timed.timer
  switchedOn := by rw [info]; exact timed.switchedOn
  switchedOff off known := by
    rw [info]
    obtain ⟨inside, nested⟩ := timed.switchedOff off known
    exact ⟨busy inside, nested⟩

/-- The port is on whenever the nested state or the outer one says so. -/
theorem Timed.memory_eq_none (timed : Timed clock memory before)
    (on :
      before.state ≠ .reboot ∨ before.rebootInfo.rebootState = .idle ∨
        before.rebootInfo.rebootState = .init ∨
        before.rebootInfo.rebootState = .poeDown ∧
          BitFlags.has before.rebootInfo.rebootEvent rebootEventStart = true) :
    memory = none := by
  cases memory with
  | none =>
      rfl
  | some off =>
      obtain ⟨busy, nested⟩ := timed.switchedOff off rfl
      rcases on with free | idle | init | ⟨down, due⟩
      · exact absurd busy free
      · simp [idle] at nested
      · simp [init] at nested
      · simp [down, due] at nested

/-- Between the power-off and the power-on the time of the power-off is known. -/
theorem Timed.exists_off (timed : Timed clock memory before)
    (off :
      before.rebootInfo.rebootState = .poeUp ∨
        before.rebootInfo.rebootState = .poeDown ∧
          BitFlags.has before.rebootInfo.rebootEvent rebootEventStart = false) :
    ∃ time, memory = some time := by
  cases memory with
  | none =>
      have impossible := timed.switchedOn rfl
      rcases off with up | ⟨down, done⟩
      · simp [up] at impossible
      · simp [down, done] at impossible
  | some time =>
      exact ⟨time, rfl⟩

/-- The timer can only have stopped in `REBOOT_STATE_POE_UP`. -/
theorem Timed.running (timed : Timed clock memory before)
    (elsewhere : before.rebootInfo.rebootState ≠ .poeUp) :
    BitFlags.has before.rebootInfo.rebootEvent rebootEventTimerStop = false := by
  by_contra stopped
  exact elsewhere (timed.timer (by simpa using stopped))

theorem Timed.on (delay : after.rebootInfo.rebootDelay = 15)
    (running : BitFlags.has after.rebootInfo.rebootEvent rebootEventTimerStop = false)
    (nested :
      after.rebootInfo.rebootState = .idle ∨ after.rebootInfo.rebootState = .init ∨
        after.rebootInfo.rebootState = .poeDown ∧
          BitFlags.has after.rebootInfo.rebootEvent rebootEventStart = true) :
    Timed clock none after where
  delay := delay
  timer stopped := absurd (running.symm.trans stopped) Bool.false_ne_true
  switchedOn _ := nested
  switchedOff _ impossible := by simp at impossible

theorem alternation_starts {starts : List CycleAction}
    (onlyStarts : ∀ action ∈ starts, ∃ kind, action = .started kind) (memory : Option Nat) :
    alternation.Accepts memory starts ∧ alternation.after memory starts = memory := by
  induction starts with
  | nil =>
      exact ⟨trivial, rfl⟩
  | cons action rest inductionHypothesis =>
      obtain ⟨kind, rfl⟩ := onlyStarts action List.mem_cons_self
      obtain ⟨accepted, same⟩ :=
        inductionHypothesis fun other member =>
          onlyStarts other (List.mem_cons_of_mem _ member)
      exact ⟨⟨trivial, accepted⟩, same⟩

theorem Timed.checkDeadline {info : PortRebootInfo} {now off : Nat}
    (delay : info.rebootDelay = 15) (busy : before.state = .reboot)
    (down : info.rebootState = .poeDown)
    (done : BitFlags.has info.rebootEvent rebootEventStart = false)
    (running : BitFlags.has info.rebootEvent rebootEventTimerStop = false)
    (deadline : info.rebootTimeStart = off + 15) :
    Timed now (some off) { before with rebootInfo := info.checkDeadline now } where
  delay := delay
  timer stopped := by
    rcases info.checkDeadline_cases now running with ⟨_, up⟩ | ⟨_, _, still⟩
    · exact up
    · exact absurd (still.symm.trans stopped) Bool.false_ne_true
  switchedOn impossible := by simp at impossible
  switchedOff known same := by
    obtain rfl : off = known := by simpa using same
    refine ⟨busy, ?_⟩
    rcases info.checkDeadline_cases now running with ⟨reached, up⟩ | ⟨_, stays, _⟩
    · exact Or.inr ⟨up, deadline ▸ reached⟩
    · refine Or.inl ⟨stays.trans down, ?_, deadline⟩
      rw [PortRebootInfo.checkDeadline_start]
      exact done

theorem Timed.poweredOn {now resetCount : Nat} {test : TestType} {auto manual : Bool}
    (timed : Timed clock memory before) (advances : clock ≤ now)
    (up : before.rebootInfo.rebootState = .poeUp) :
    alternation.Accepts memory [.up now] ∧
      Timed now (alternation.after memory [.up now])
        { before with
          state := .regular
          rebootInfo.rebootState := .idle
          rebootInfo.rebootEvent :=
            BitFlags.raise
              (BitFlags.clear before.rebootInfo.rebootEvent rebootEventTimerStop)
              rebootEventIdle
          resetCount := resetCount
          auto := auto
          manual := manual
          test := test } := by
  obtain ⟨off, known⟩ := timed.exists_off (Or.inl up)
  have reached : off + 15 ≤ clock := by
    obtain ⟨_, ⟨down, _⟩ | ⟨_, reached⟩⟩ := timed.switchedOff off known
    · simp [up] at down
    · exact reached
  refine ⟨⟨⟨off, known, reached.trans advances⟩, trivial⟩, ?_⟩
  exact Timed.on timed.delay (by simp +decide) (Or.inl rfl)

theorem Timed.served {maxReset now : Nat} {middle : Control} {first second : List CycleAction}
    (timed : Timed clock memory before) (between : before.rebootInfo.rebootState = .idle)
    (auto : AutoStart maxReset before middle first)
    (manual : ManualStart middle after second) :
    alternation.Accepts memory (first ++ second) ∧
      Timed now (alternation.after memory (first ++ second)) after := by
  obtain ⟨accepted, same⟩ :=
    alternation_starts (PowerCycle.started_of_served auto manual) memory
  have on : memory = none := timed.memory_eq_none (Or.inr (Or.inl between))
  have running := timed.running (by simp [between])
  refine ⟨accepted, ?_⟩
  rw [same, on]
  rcases rebootInfo_of_served between auto manual with info | info
  · refine Timed.on ?_ ?_ (Or.inl ?_) <;> rw [info]
    · exact timed.delay
    · exact running
  · refine Timed.on ?_ ?_ (Or.inr (Or.inl ?_)) <;> rw [info]
    · exact timed.delay
    · exact running

/-- A tick between the power-off and the power-on. -/
theorem Timed.waited {now : Nat} (timed : Timed clock memory before)
    (busy : before.state = .reboot) (down : before.rebootInfo.rebootState = .poeDown)
    (done : BitFlags.has before.rebootInfo.rebootEvent rebootEventStart = false) :
    Timed now memory { before with rebootInfo := before.rebootInfo.checkDeadline now } := by
  obtain ⟨off, known⟩ := timed.exists_off (Or.inr ⟨down, done⟩)
  have deadline : before.rebootInfo.rebootTimeStart = off + 15 := by
    obtain ⟨_, ⟨_, _, deadline⟩ | ⟨up, _⟩⟩ := timed.switchedOff off known
    · exact deadline
    · simp [down] at up
  rw [known]
  exact Timed.checkDeadline timed.delay busy down done (timed.running (by simp [down])) deadline

theorem timed_of_controlStep {maxReset : Nat} {input : Input} {actions : List CycleAction}
    (step : ControlStep maxReset before input after actions)
    (enabled : ReadsEnabled input) (fits : DeadlineFits before input)
    (busyPowered : before.state = .reboot → before.powered)
    (advances : ∀ time ∈ tickTime input, clock ≤ time)
    (timed : Timed clock memory before) :
    alternation.Accepts memory actions ∧
      Timed ((tickTime input).getD clock) (alternation.after memory actions) after := by
  have aged : Timed ((tickTime input).getD clock) memory before := by
    cases read : tickTime input with
    | none =>
        exact timed
    | some time =>
        exact timed.later (advances time read)
  cases step with
  | tested test =>
      exact ⟨trivial, aged⟩
  | requested free powered =>
      exact ⟨trivial, aged.congr rfl fun _ => rfl⟩
  | refused free unpowered =>
      exact ⟨trivial, aged⟩
  | withdrawn busy =>
      exact ⟨trivial, aged.congr rfl fun _ => busy⟩
  | read portEnabled poeEnabled =>
      obtain ⟨rfl, rfl⟩ := enabled
      exact ⟨trivial, aged.congr rfl fun busy => busy⟩
  | rested idle =>
      exact ⟨trivial, aged⟩
  | resumed idle =>
      exact ⟨trivial, aged.congr rfl fun busy => by simp [idle] at busy⟩
  | watched count regular forgets =>
      exact ⟨trivial, aged.congr rfl fun busy => busy⟩
  | raised count regular forgets =>
      exact ⟨⟨trivial, trivial⟩, aged.congr rfl fun _ => rfl⟩
  | served busy between auto manual =>
      exact timed.served between auto manual
  | armed busy fresh =>
      have on : memory = none := timed.memory_eq_none (Or.inr (Or.inr (Or.inl fresh)))
      have running := timed.running (by simp [fresh])
      refine ⟨trivial, ?_⟩
      rw [on]
      exact Timed.on timed.delay (by simpa +decide using running)
        (Or.inr (Or.inr ⟨rfl, by simp +decide⟩))
  | poweredOff busy down due =>
      have on : memory = none := timed.memory_eq_none (Or.inr (Or.inr (Or.inr ⟨down, due⟩)))
      have running := timed.running (by simp [down])
      have inRange := fits busy down due
      refine ⟨⟨on, trivial⟩, ?_⟩
      refine Timed.checkDeadline ?_ busy ?_ ?_ ?_ ?_
      · exact timed.delay
      · exact down
      · exact BitFlags.has_clear_self _ _
      · simpa +decide using running
      · simp only [timed.delay, u32]
        omega
  | waited busy down done =>
      exact ⟨trivial, timed.waited busy down done⟩
  | poweredOn busy up plain =>
      rw [if_pos (busyPowered busy)]
      exact timed.poweredOn (advances _ rfl) up
  | reloaded test busy up requested =>
      rw [if_pos (busyPowered busy)]
      exact timed.poweredOn (advances _ rfl) up

end Steps

/-- In every run whose reads find the port enabled and whose clock does not go
back, whatever requests arrive, the PoE calls of `rebootHandler` alternate
and every power-on comes at least 15 s after its power-off, provided that no
power-off happens within 15 s of the end of the `uint32_t` clock. -/
theorem reboot_calls_alternate (env : Environment) (index : Fin numPorts)
    (input : BootInput) (inputs : List Input)
    (order : (daemon env).AllSteps InThreadOrder (boot env index input) inputs)
    (enabled :
      (daemon env).AllSteps (fun _ step => ReadsEnabled step) (boot env index input) inputs)
    (clock : (inputs.filterMap tickTime).Pairwise (· ≤ ·))
    (fits :
      (daemon env).AllSteps (fun state step => DeadlineFits state.port.control step)
        (boot env index input) inputs) :
    Alternates 15
      (((daemon env).outputs (boot env index input) inputs).filterMap rebootCall) := by
  have view : rebootCall = fun action => (Action.cycle action).bind call :=
    funext rebootCall_eq_bind
  rw [view, ← List.filterMap_filterMap]
  apply alternates_of_accepts.1
  have simulates : ∀ clock memory state step,
      (UntestedUntilRead state ∧ Timed clock memory state.port.control) →
      (InThreadOrder state step ∧ ReadsEnabled step ∧ DeadlineFits state.port.control step) →
      (∀ time ∈ tickTime step, clock ≤ time) →
      alternation.Accepts memory (((daemon env).emit state step).filterMap Action.cycle) ∧
        UntestedUntilRead ((daemon env).next state step) ∧
        Timed ((tickTime step).getD clock)
          (alternation.after memory (((daemon env).emit state step).filterMap Action.cycle))
          ((daemon env).next state step).port.control := by
    rintro clock memory state step ⟨untested, timed⟩ ⟨ordered, enabled, fits⟩ advances
    have busyPowered : state.port.control.state = .reboot → state.port.control.powered := by
      intro busy
      rcases untested with powered | ⟨_, free, _⟩
      · exact powered
      · exact absurd busy free
    obtain ⟨accepted, kept⟩ :=
      timed_of_controlStep (daemon_controlStep env state step) enabled fits busyPowered
        advances timed
    exact ⟨accepted, untestedUntilRead_next env state step enabled ordered untested, kept⟩
  have starts : Timed 0 none (boot env index input).port.control := by
    rw [boot_control]
    exact Timed.on rfl (by simp [rebootEventIdle]) (Or.inl rfl)
  exact Machine.monitored_timed simulates
    ⟨untestedUntilRead_boot env index input, starts⟩ clock (fun time _ => Nat.zero_le time)
    (order.and (enabled.and fits))

theorem reboot_calls_alternate_manual :
    ((daemon sampleEnvironment).outputs
        (boot sampleEnvironment 0 (sampleBoot "link" 1700000000))
        sampleManualCycle).filterMap rebootCall =
          [(.down, 1700000002), (.up, 1700000018)] ∧
      Alternates 15
        (((daemon sampleEnvironment).outputs
          (boot sampleEnvironment 0 (sampleBoot "link" 1700000000))
          sampleManualCycle).filterMap rebootCall) :=
  ⟨by decide,
    reboot_calls_alternate _ _ _ _ (by decide) (by decide) (by decide) (by decide)⟩

/-- A command served at the end of the `uint32_t` clock. -/
def lateManualCycle : List Input :=
  [.readState true true, .command, sampleTick 4294967288, sampleTick 4294967289,
    sampleTick 4294967290, sampleTick 4294967291]

/-- Six seconds before the `uint32_t` clock ends, the deadline wraps around and
the port is switched on one second after it was switched off. -/
theorem wrapped_deadline_shortens_cycle :
    (daemon sampleEnvironment).AllSteps InThreadOrder
        (boot sampleEnvironment 0 (sampleBoot "link" 4294967000)) lateManualCycle ∧
      (daemon sampleEnvironment).AllSteps (fun _ step => ReadsEnabled step)
        (boot sampleEnvironment 0 (sampleBoot "link" 4294967000)) lateManualCycle ∧
      (lateManualCycle.filterMap tickTime).Pairwise (· ≤ ·) ∧
      ¬Alternates 15
        (((daemon sampleEnvironment).outputs
          (boot sampleEnvironment 0 (sampleBoot "link" 4294967000))
          lateManualCycle).filterMap rebootCall) := by
  decide

end CycleShape

end TfortisPack.Autorestart
