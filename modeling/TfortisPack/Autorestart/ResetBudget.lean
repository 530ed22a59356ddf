import TfortisPack.Autorestart.CycleShape

/-!
# The budget of automatic resets

`autoResetHandler` counts the automatic resets of a port in `resetCount` and
shuts the port down when `max_reset` of them have not helped.  The counter
must survive until a test succeeds.  A ping test is two updates of the error
word, the link result and the ping result; a tick between them finds the
`ERR_OK` of the link test and may zero the counter.

Every due or issued power-off of a period without successful pings is
covered by the counter as long as no tick falls into that gap.
-/

namespace TfortisPack.Autorestart

open TfortisPack.Library

namespace ResetBudget

/-- A reset has started and the port is yet to be switched off. -/
def PowerOffDue (control : Control) : Prop :=
  control.rebootInfo.rebootState = .init ∨
    control.rebootInfo.rebootState = .poeDown ∧
      BitFlags.has control.rebootInfo.rebootEvent rebootEventStart = true

instance : DecidablePred PowerOffDue :=
  fun _ => inferInstanceAs (Decidable (_ ∨ _))

/-- The number of power-offs that are due: none or one. -/
def due (control : Control) : Nat :=
  if PowerOffDue control then 1 else 0

def isDown : CycleAction → Bool
  | .down _ => true
  | _ => false

/-- The number of times `rebootHandler` switches the port off. -/
def powerOffs (actions : List Action) : Nat :=
  (actions.filterMap Action.cycle).countP isDown

/-- The test of the port is a ping test, and so is the one that is running. -/
def PingPort (state : Daemon) : Prop :=
  state.port.portConfigInfo.test = .ping ∧ state.pending <:+ runTest .ping

instance : DecidablePred PingPort :=
  fun _ => inferInstanceAs (Decidable (_ ∧ _))

/-- A step without success, command or disabled configuration. -/
def QuietStep (state : Daemon) (input : Input) : Prop :=
  input ≠ .command ∧ CycleShape.ReadsEnabled input ∧ ¬PingSucceeds state input

instance (state : Daemon) (input : Input) : Decidable (QuietStep state input) :=
  inferInstanceAs (Decidable (_ ∧ _))

/-- No manual request is pending, and a power-off that is due belongs to an
automatic reset whose failure is still on record. -/
def NothingOwed (state : Daemon) : Prop :=
  state.port.hasEvent manualRestart = false ∧
    (PowerOffDue state.port.control →
      0 < state.port.portResetInfo.resetCount ∧
        (state.pending = [.ping] ∨ state.port.hasError errOk = false))

instance : DecidablePred NothingOwed :=
  fun _ => inferInstanceAs (Decidable (_ ∧ (_ → _)))

/-- A tick that takes the link result of a running ping test for a success and
zeroes the counter. -/
def TrustsLinkResult (state : Daemon) : Input → Prop
  | .tick _ =>
      state.pending = [.ping] ∧ state.port.portResetInfo.state = .regular ∧
        state.port.hasError errOk = true ∧ state.port.portResetInfo.errorTestCount ≤ 1 ∧
        0 < state.port.portResetInfo.resetCount
  | _ => False

instance (state : Daemon) : DecidablePred (TrustsLinkResult state)
  | .tick _ => inferInstanceAs (Decidable (_ ∧ _))
  | .command | .readState _ _ | .testDisable | .testLink _ | .testPing _ | .testSpeed _ _ =>
      inferInstanceAs (Decidable False)

/-! ## What a step spends -/

theorem due_eq_zero {control : Control} (none : ¬PowerOffDue control) : due control = 0 :=
  if_neg none

theorem due_eq_one {control : Control} (present : PowerOffDue control) : due control = 1 :=
  if_pos present

theorem due_congr {before after : Control} (info : after.rebootInfo = before.rebootInfo) :
    due after = due before := by
  have same : PowerOffDue after ↔ PowerOffDue before := by
    simp only [PowerOffDue, info]
  exact if_congr same rfl rfl

theorem due_le_one (control : Control) : due control ≤ 1 := by
  unfold due
  split <;> decide

theorem due_of_switchedOff {control : Control} (off : PowerCycle.SwitchedOff control) :
    due control = 0 := by
  apply due_eq_zero
  obtain ⟨_, up | ⟨down, done⟩⟩ := off
  · simp [PowerOffDue, up]
  · simp [PowerOffDue, down, done]

/-- How a step changes the counter and the power-offs, while no manual request
is around: an automatic start is paid for in advance, and every other step
moves a due power-off at most. -/
structure Spends (maxReset : Nat) (before : Control) (input : Input) (after : Control)
    (actions : List CycleAction) : Prop where
  plain : after.manual = false
  test : after.test = before.test ∨ after.test = .disable
  count :
    .started .auto ∈ actions ∧ before.state = .reboot ∧ before.resetCount < maxReset ∧
        after.resetCount = before.resetCount + 1 ∧
        actions.countP isDown + due after ≤ due before + 1 ∨
      (after.resetCount = before.resetCount ∨
        before.state = .regular ∧ after.resetCount = 0 ∧ ∃ tick, input = .tick tick) ∧
        actions.countP isDown + due after ≤ due before

section Steps

variable {maxReset : Nat} {before after : Control} {input : Input}
variable {actions : List CycleAction}

theorem Spends.outside (plain : after.manual = false) (test : after.test = before.test)
    (info : after.rebootInfo = before.rebootInfo) (silent : actions.countP isDown = 0)
    (count :
      after.resetCount = before.resetCount ∨
        before.state = .regular ∧ after.resetCount = 0 ∧ ∃ tick, input = .tick tick) :
    Spends maxReset before input after actions where
  plain := plain
  test := Or.inl test
  count := Or.inr ⟨count, by rw [silent, due_congr info, Nat.zero_add]⟩

theorem spends_served {middle : Control} {first second : List CycleAction}
    (within : maxReset ≤ 60) (busy : before.state = .reboot)
    (between : before.rebootInfo.rebootState = .idle)
    (plain : before.manual = false) (auto : AutoStart maxReset before middle first)
    (manual : ManualStart middle after second) :
    Spends maxReset before input after (first ++ second) := by
  have noneBefore : due before = 0 := due_eq_zero (by simp [PowerOffDue, between])
  cases manual with
  | started requested powered =>
      cases auto <;> exact absurd (plain.symm.trans requested) Bool.false_ne_true
  | absent quiet =>
      cases auto with
      | absent quiet =>
          exact .outside plain rfl rfl rfl (Or.inl rfl)
      | exhausted test requested spent checked =>
          refine ⟨plain, checked, Or.inr ⟨Or.inl rfl, ?_⟩⟩
          rw [due_eq_zero (by simp [PowerOffDue])]
          exact Nat.zero_le _
      | started requested left =>
          refine ⟨plain, Or.inl rfl, Or.inl ⟨by simp, busy, left, ?_, ?_⟩⟩
          · simp only [u8]
            omega
          · rw [due_eq_one (Or.inl rfl), noneBefore]
            rfl

theorem spends_of_controlStep (within : maxReset ≤ 60)
    (step : ControlStep maxReset before input after actions)
    (notCommand : input ≠ .command) (plain : before.manual = false) :
    Spends maxReset before input after actions := by
  cases step with
  | tested test =>
      exact .outside plain rfl rfl rfl (Or.inl rfl)
  | requested free powered =>
      exact absurd rfl notCommand
  | refused free unpowered =>
      exact absurd rfl notCommand
  | withdrawn busy =>
      exact absurd rfl notCommand
  | read portEnabled poeEnabled =>
      exact .outside plain rfl rfl rfl (Or.inl rfl)
  | rested idle =>
      exact .outside plain rfl rfl rfl (Or.inl rfl)
  | resumed idle =>
      exact .outside plain rfl rfl rfl (Or.inl rfl)
  | watched count regular forgets =>
      exact .outside plain rfl rfl rfl
        (forgets.imp_right fun zero => ⟨regular, zero, _, rfl⟩)
  | raised count regular forgets =>
      exact .outside plain rfl rfl rfl
        (forgets.imp_right fun zero => ⟨regular, zero, _, rfl⟩)
  | served busy between auto manual =>
      exact spends_served within busy between plain auto manual
  | armed busy fresh =>
      refine ⟨plain, Or.inl rfl, Or.inr ⟨Or.inl rfl, ?_⟩⟩
      have paid : due before = 1 := due_eq_one (Or.inl fresh)
      rw [paid]
      exact (Nat.zero_add _).trans_le (due_le_one _)
  | poweredOff busy down requested =>
      refine ⟨plain, Or.inl rfl, Or.inr ⟨Or.inl rfl, ?_⟩⟩
      have paid : due before = 1 := due_eq_one (Or.inr ⟨down, requested⟩)
      rw [paid, due_of_switchedOff]
      · exact Nat.le_refl 1
      · refine PowerCycle.SwitchedOff.checkDeadline busy ?_ ?_ _
        · exact down
        · exact BitFlags.has_clear_self _ _
  | waited busy down done =>
      refine ⟨plain, Or.inl rfl, Or.inr ⟨Or.inl rfl, ?_⟩⟩
      rw [due_of_switchedOff (PowerCycle.SwitchedOff.checkDeadline busy down done _)]
      exact Nat.zero_le _
  | poweredOn busy up _ =>
      refine ⟨plain, Or.inl rfl, Or.inr ⟨Or.inl rfl, ?_⟩⟩
      rw [due_eq_zero (by simp [PowerOffDue])]
      split <;> exact Nat.zero_le _
  | reloaded test busy up requested =>
      exact absurd (plain.symm.trans requested) Bool.false_ne_true

end Steps

/-! ## The invariant of a period -/

/-- The counter covers the power-offs of the period, and once there is one, a
success is on record only inside a running ping test. -/
structure Covered (maxReset spent : Nat) (state : Daemon) : Prop where
  budget : spent + due state.port.control ≤ state.port.control.resetCount
  bounded : state.port.control.resetCount ≤ maxReset
  plain : state.port.control.manual = false
  failing :
    0 < spent + due state.port.control →
      state.pending = [.ping] ∨ state.port.hasError errOk = false
  test : state.port.control.test = .ping ∨ state.port.control.test = .disable
  pending : state.pending <:+ runTest .ping ∨ state.pending <:+ runTest .disable

variable {env : Environment} {state : Daemon} {spent : Nat}

theorem Covered.pending_cases {maxReset : Nat} (covered : Covered maxReset spent state) :
    state.pending = [.link, .ping] ∨ state.pending = [.ping] ∨
      state.pending = [.disable] ∨ state.pending = [] := by
  rcases covered.pending with ping | disable
  · simp only [runTest, List.suffix_cons_iff, List.suffix_nil] at ping
    rcases ping with atLink | atPing | atRest
    · exact Or.inl atLink
    · exact Or.inr (Or.inl atPing)
    · exact Or.inr (Or.inr (Or.inr atRest))
  · simp only [runTest, List.suffix_cons_iff, List.suffix_nil] at disable
    exact Or.inr (Or.inr disable)

/-- A ping test that does not succeed takes `ERR_OK` away. -/
theorem hasError_ok_portRunTestPing {reply : Option Nat}
    (failed : ¬PingSucceeds state (.testPing reply)) :
    (portRunTestPing state.port reply).hasError errOk = false := by
  simp only [portRunTestPing, pingResult_of_failed failed]
  simp +decide

/-- A tick that leaves `ERR_OK` set found it set and started no reset. -/
theorem hasError_ok_eventsHandler {input : TickInput}
    (plain : state.port.hasEvent manualRestart = false)
    (ok : (eventsHandler env.config env.clock input state.port).1.hasError errOk = true) :
    state.port.hasError errOk = true ∧
      (state.port.portResetInfo.state = .reboot →
        .started .auto ∉
          (eventsHandler env.config env.clock input state.port).2.filterMap Action.cycle) := by
  by_cases busy : state.port.portResetInfo.state = .reboot
  · have handled : (rebootHandler env.config env.clock input state.port).1.hasError errOk =
        true := by
      rw [hasError_eventsHandler_eq env.config env.clock input state.port (by decide)] at ok
      simpa only [stateHandler, busy] using ok
    obtain ⟨before, noStart⟩ := hasError_ok_rebootHandler plain handled
    refine ⟨before, fun _ started => ?_⟩
    rw [filterMap_cycle_eventsHandler] at started
    simp only [stateHandler, busy] at started
    obtain ⟨action, member, view⟩ := List.mem_filterMap.mp started
    rw [Action.eq_of_cycle_started view] at member
    exact noStart member
  · rw [hasError_eventsHandler env.config env.clock input state.port busy (by decide)
      (by decide)] at ok
    exact ⟨ok, fun inside => absurd inside busy⟩

theorem Covered.pending_next {input : Input}
    (covered : Covered env.config.maxReset spent state)
    (spends :
      Spends env.config.maxReset state.port.control input
        ((daemon env).next state input).port.control
        (((daemon env).emit state input).filterMap Action.cycle)) :
    (((daemon env).next state input).port.control.test = .ping ∨
        ((daemon env).next state input).port.control.test = .disable) ∧
      (((daemon env).next state input).pending <:+ runTest .ping ∨
        ((daemon env).next state input).pending <:+ runTest .disable) := by
  have test : ((daemon env).next state input).port.control.test = .ping ∨
      ((daemon env).next state input).port.control.test = .disable := by
    rcases spends.test with same | disabled
    · rw [same]
      exact covered.test
    · exact Or.inr disabled
  have shorter : state.pending.tail <:+ runTest .ping ∨ state.pending.tail <:+ runTest .disable :=
    covered.pending.imp (List.tail_suffix _).trans (List.tail_suffix _).trans
  refine ⟨test, ?_⟩
  cases input with
  | command =>
      exact covered.pending
  | readState portEnabled poeEnabled =>
      change runTest ((daemon env).next state (.readState portEnabled poeEnabled)).port.control.test
          <:+ _ ∨ runTest ((daemon env).next state
            (.readState portEnabled poeEnabled)).port.control.test <:+ _
      rcases test with ping | disable
      · rw [ping]
        exact Or.inl (List.suffix_refl _)
      · rw [disable]
        exact Or.inr (List.suffix_refl _)
  | tick tickInput =>
      exact covered.pending
  | testDisable =>
      exact shorter
  | testLink up =>
      exact shorter
  | testPing reply =>
      exact shorter
  | testSpeed rxBytes now =>
      exact shorter

/-- Outside the gap of a ping test, a tick does not zero a counter that covers
power-offs. -/
theorem Covered.count_kept {input : TickInput}
    (covered : Covered env.config.maxReset spent state)
    (careful : ¬TrustsLinkResult state (.tick input))
    (regular : state.port.control.state = .regular)
    (owed : 0 < spent + due state.port.control) :
    ((daemon env).next state (.tick input)).port.control.resetCount =
      state.port.control.resetCount := by
  rcases resetCount_eventsHandler env.config env.clock input state.port regular with
    same | ⟨ok, last⟩
  · exact same
  · exfalso
    have positive : 0 < state.port.portResetInfo.resetCount := owed.trans_le covered.budget
    rcases covered.failing owed with inGap | failed
    · exact careful ⟨inGap, regular, ok, last, positive⟩
    · exact Bool.false_ne_true (failed.symm.trans ok)

theorem Covered.budget_next {input : Input}
    (covered : Covered env.config.maxReset spent state)
    (careful : ¬TrustsLinkResult state input)
    (spends :
      Spends env.config.maxReset state.port.control input
        ((daemon env).next state input).port.control
        (((daemon env).emit state input).filterMap Action.cycle)) :
    spent + powerOffs ((daemon env).emit state input) +
          due ((daemon env).next state input).port.control ≤
        ((daemon env).next state input).port.control.resetCount ∧
      ((daemon env).next state input).port.control.resetCount ≤ env.config.maxReset := by
  have budget := covered.budget
  have bounded := covered.bounded
  unfold powerOffs
  rcases spends.count with ⟨_, _, left, counted, paid⟩ | ⟨kept, moved⟩
  · omega
  · rcases kept with same | ⟨regular, zero, tick, rfl⟩
    · omega
    · by_cases owed : 0 < spent + due state.port.control
      · have same := covered.count_kept careful regular owed
        omega
      · omega

theorem Covered.failing_next {input : Input}
    (covered : Covered env.config.maxReset spent state)
    (order : InThreadOrder state input) (quiet : QuietStep state input)
    (spends :
      Spends env.config.maxReset state.port.control input
        ((daemon env).next state input).port.control
        (((daemon env).emit state input).filterMap Action.cycle))
    (owed :
      0 < spent + powerOffs ((daemon env).emit state input) +
        due ((daemon env).next state input).port.control) :
    ((daemon env).next state input).pending = [.ping] ∨
      ((daemon env).next state input).port.hasError errOk = false := by
  cases input with
  | command =>
      exact absurd rfl quiet.1
  | readState portEnabled poeEnabled =>
      obtain ⟨rfl, rfl⟩ : portEnabled = true ∧ poeEnabled = true := quiet.2.1
      have between : state.pending = [] := order
      have owedBefore : 0 < spent + due state.port.control := owed
      rcases covered.failing owedBefore with inGap | failed
      · simp [between] at inGap
      · exact Or.inr failed
  | testDisable =>
      right
      simp +decide [portStep, portRunTestDisable]
  | testLink up =>
      left
      have first : state.pending.head? = some .link := order
      rcases covered.pending_cases with atLink | atPing | atDisable | atRest
      · simp [daemon, Machine.next, pendingAfter, atLink]
      · simp [atPing] at first
      · simp [atDisable] at first
      · simp [atRest] at first
  | testPing reply =>
      exact Or.inr (hasError_ok_portRunTestPing quiet.2.2)
  | testSpeed rxBytes now =>
      have first : state.pending.head? = some .speed := order
      rcases covered.pending_cases with atLink | atPing | atDisable | atRest
      · simp [atLink] at first
      · simp [atPing] at first
      · simp [atDisable] at first
      · simp [atRest] at first
  | tick tickInput =>
      by_contra neither
      obtain ⟨outsideGap, okAfter⟩ := not_or.mp neither
      obtain ⟨okBefore, noStart⟩ :=
        hasError_ok_eventsHandler covered.plain (Bool.eq_true_of_not_eq_false okAfter)
      have owedBefore : 0 < spent + due state.port.control := by
        rcases spends.count with ⟨started, busy, _⟩ | ⟨_, moved⟩
        · exact absurd started (noStart busy)
        · unfold powerOffs at owed
          omega
      rcases covered.failing owedBefore with inGap | failed
      · exact outsideGap inGap
      · exact Bool.false_ne_true (failed.symm.trans okBefore)

theorem Covered.next {input : Input} (covered : Covered env.config.maxReset spent state)
    (order : InThreadOrder state input) (quiet : QuietStep state input)
    (careful : ¬TrustsLinkResult state input) :
    Covered env.config.maxReset (spent + powerOffs ((daemon env).emit state input))
      ((daemon env).next state input) := by
  have spends :=
    spends_of_controlStep env.config.maxReset_le (daemon_controlStep env state input) quiet.1
      covered.plain
  obtain ⟨budget, bounded⟩ := covered.budget_next careful spends
  obtain ⟨test, pending⟩ := covered.pending_next spends
  exact
    { budget := budget
      bounded := bounded
      plain := spends.plain
      failing := covered.failing_next order quiet spends
      test := test
      pending := pending }

/-- A whole period spends no more than the counter can hold. -/
theorem Covered.powerOffs_le {period : List Input}
    (covered : Covered env.config.maxReset spent state)
    (order : (daemon env).AllSteps InThreadOrder state period)
    (quiet : (daemon env).AllSteps QuietStep state period)
    (careful :
      (daemon env).AllSteps (fun state step => ¬TrustsLinkResult state step) state period) :
    spent + powerOffs ((daemon env).outputs state period) ≤ env.config.maxReset := by
  induction period generalizing state spent with
  | nil =>
      have budget := covered.budget
      have bounded := covered.bounded
      simp only [Machine.outputs, powerOffs, List.filterMap_nil, List.countP_nil]
      omega
  | cons input rest inductionHypothesis =>
      have covers := inductionHypothesis (covered.next order.1 quiet.1 careful.1) order.2 quiet.2
        careful.2
      simp only [powerOffs] at covers ⊢
      simp only [Machine.outputs, List.filterMap_append, List.countP_append]
      omega

theorem resetCount_le_of_controlStep {maxReset : Nat} {before after : Control} {input : Input}
    {actions : List CycleAction} (within : maxReset ≤ 60)
    (step : ControlStep maxReset before input after actions)
    (bounded : before.resetCount ≤ maxReset) : after.resetCount ≤ maxReset := by
  cases step with
  | watched count regular forgets =>
      rcases forgets with rfl | rfl
      · exact bounded
      · exact Nat.zero_le _
  | raised count regular forgets =>
      rcases forgets with rfl | rfl
      · exact bounded
      · exact Nat.zero_le _
  | served busy between auto manual =>
      cases manual with
      | started requested powered =>
          exact Nat.zero_le _
      | absent quiet =>
          cases auto with
          | started requested left =>
              simp only [u8]
              omega
          | _ =>
              exact bounded
  | reloaded test busy up requested =>
      exact Nat.zero_le _
  | _ =>
      exact bounded

/-- In every run of a port whose test is ping, a period without a successful
ping, a command or a disabled configuration contains at most `max_reset`
power-offs, provided that no manual reset is left over from before and no
tick falls between a link result and its ping result and zeroes the counter. -/
theorem power_offs_within_budget (env : Environment) (index : Fin numPorts)
    (input : BootInput) (before period : List Input)
    (order :
      (daemon env).AllSteps InThreadOrder (boot env index input) (before ++ period))
    (ping : PingPort ((daemon env).final (boot env index input) before))
    (quiet :
      (daemon env).AllSteps QuietStep ((daemon env).final (boot env index input) before)
        period)
    (nothingOwed : NothingOwed ((daemon env).final (boot env index input) before))
    (careful :
      (daemon env).AllSteps (fun state step => ¬TrustsLinkResult state step)
        ((daemon env).final (boot env index input) before) period) :
    powerOffs
        ((daemon env).outputs ((daemon env).final (boot env index input) before) period) ≤
      env.config.maxReset := by
  obtain ⟨orderBefore, orderPeriod⟩ := (Machine.allSteps_append _ _ _ _).mp order
  have bounded :
      ((daemon env).final (boot env index input) before).port.control.resetCount ≤
        env.config.maxReset := by
    have preserved : ∀ state step, state.port.control.resetCount ≤ env.config.maxReset →
        InThreadOrder state step →
          ((daemon env).next state step).port.control.resetCount ≤ env.config.maxReset :=
      fun state step small _ =>
        resetCount_le_of_controlStep env.config.maxReset_le (daemon_controlStep env state step)
          small
    have starts : (boot env index input).port.control.resetCount ≤ env.config.maxReset := by
      rw [boot_control]
      exact Nat.zero_le _
    exact (Machine.allStates_of_invariant preserved starts orderBefore).final
  generalize (daemon env).final (boot env index input) before = start at *
  have budget : 0 + due start.port.control ≤ start.port.control.resetCount := by
    unfold due
    split
    · exact (nothingOwed.2 ‹_›).1
    · exact Nat.zero_le _
  have failing : 0 < 0 + due start.port.control →
      start.pending = [.ping] ∨ start.port.hasError errOk = false := by
    unfold due
    split
    · exact fun _ => (nothingOwed.2 ‹_›).2
    · intro impossible
      omega
  have covered : Covered env.config.maxReset 0 start :=
    { budget := budget
      bounded := bounded
      plain := nothingOwed.1
      failing := failing
      test := Or.inl ping.1
      pending := Or.inl ping.2 }
  have total := covered.powerOffs_le orderPeriod quiet careful
  omega

def pingBoot : Daemon :=
  boot eagerEnvironment 0 (sampleBoot "ping" 1700000000)

/-- The link is up and the host does not answer. -/
def failedPing : List Input :=
  [.readState true true, .testLink true, .testPing none]

/-- A tick raises the request, and the next five serve it. -/
def servedRequest (now : Nat) : List Input :=
  [sampleTick now, sampleTick (now + 1), sampleTick (now + 2), sampleTick (now + 3),
    sampleTick (now + 18), sampleTick (now + 19)]

/-- The port is reset once; the second request finds the budget spent. -/
def spentBudget : List Input :=
  failedPing ++ servedRequest 1700000000 ++ failedPing ++ servedRequest 1700000020

theorem power_offs_within_budget_of_one :
    powerOffs ((daemon eagerEnvironment).outputs pingBoot spentBudget) = 1 ∧
      powerOffs ((daemon eagerEnvironment).outputs pingBoot spentBudget) ≤
        eagerEnvironment.config.maxReset :=
  ⟨by decide,
    power_offs_within_budget eagerEnvironment 0 (sampleBoot "ping" 1700000000) [] spentBudget
      (by decide) (by decide) (by decide) (by decide) (by decide)⟩

/-- The second tick sequence begins between the link result and the ping
result. -/
def tickInGap : List Input :=
  failedPing ++ servedRequest 1700000000 ++
    [.readState true true, .testLink true, sampleTick 1700000020, .testPing none] ++
    servedRequest 1700000021

/-- One tick in the gap of a ping test and the port is switched off twice with
a budget of one. -/
theorem tick_in_gap_exceeds_budget :
    (daemon eagerEnvironment).AllSteps InThreadOrder pingBoot tickInGap ∧
      PingPort pingBoot ∧ (daemon eagerEnvironment).AllSteps QuietStep pingBoot tickInGap ∧
      NothingOwed pingBoot ∧
      ¬powerOffs ((daemon eagerEnvironment).outputs pingBoot tickInGap) ≤
        eagerEnvironment.config.maxReset := by
  decide

end ResetBudget

end TfortisPack.Autorestart
