import TfortisPack.Hwsys.DumpSafety

/-!
# The supervision of the I/O controller

`mainHandler` of `main_app.c` counts the calls of `read_i2c` that return
`EXIT_FAILURE` and resets the controller when more than `MAX_I2C_ERROR` of them
have come one after the other.  A call reads one of the two dumps if its timer
has expired; otherwise it writes a register for a client, or sleeps, and
reports success.
-/

namespace TfortisPack.Hwsys

open TfortisPack.Library

/-! ## The loop -/

/-- `struct timer`; `clock_time_t` has 32 bits. -/
structure Timer where
  start : UInt32
  interval : UInt32
  deriving DecidableEq, Repr

/-- `timer_set`; `now` is what `time` returns. -/
def timerSet (interval now : UInt32) : Timer :=
  ⟨now, interval⟩

def timerExpired (timer : Timer) (now : UInt32) : Bool :=
  now - timer.start ≥ timer.interval

/-- `MAX_I2C_ERROR`. -/
def maxI2cError : Nat := 5

/-- The state of the thread that runs `mainHandler`. -/
structure MainLoop where
  hiPrioTimer : Timer
  lowPrioTimer : Timer
  errorCount : UInt8
  deriving DecidableEq, Repr

/-- What an iteration finds: the time at each check of a timer and when the timer
is set again, what `readDump` would report, and the flag of the client's
request. -/
structure Iteration where
  hiNow : UInt32
  lowNow : UInt32
  setNow : UInt32
  dump : ExitCode
  writeFlag : Bool
  deriving DecidableEq, Repr

inductive LoopAction where
  /-- A dump has been read, or its reading has failed. -/
  | polled (errorCode : ExitCode)
  /-- `write_buffer`. -/
  | wrote
  /-- `sleep(1)`. -/
  | slept
  /-- `gpio_resetIoMcu`. -/
  | resetIoMcu
  deriving DecidableEq, Repr

/-- The control flow of `read_i2c`; `readI2c` and `readDump` are its effects on the
register table. -/
def readI2cControl (loop : MainLoop) (iteration : Iteration) :
    MainLoop × ExitCode × LoopAction :=
  if timerExpired loop.hiPrioTimer iteration.hiNow then
    ({ loop with hiPrioTimer := timerSet 3 iteration.setNow }, iteration.dump,
      .polled iteration.dump)
  else if timerExpired loop.lowPrioTimer iteration.lowNow then
    ({ loop with lowPrioTimer := timerSet 30 iteration.setNow }, iteration.dump,
      .polled iteration.dump)
  else if iteration.writeFlag then (loop, .success, .wrote)
  else (loop, .success, .slept)

def mainHandler (loop : MainLoop) (iteration : Iteration) : MainLoop × List LoopAction :=
  let read := readI2cControl loop iteration
  let errorCount := if read.2.1 = .failure then loop.errorCount + 1 else 0
  if errorCount.toNat > maxI2cError then
    ({ read.1 with errorCount := 0 }, [read.2.2, .resetIoMcu])
  else ({ read.1 with errorCount := errorCount }, [read.2.2])

/-- The loop after `open_i2c`. -/
def opened (hiNow lowNow : UInt32) : MainLoop where
  hiPrioTimer := timerSet 3 hiNow
  lowPrioTimer := timerSet 0 lowNow
  errorCount := 0

/-- An iteration writes for a client exactly if the daemon does. -/
theorem readI2cControl_wrote_iff (loop : MainLoop) (iteration : Iteration) (daemon : Daemon)
    (dumped : Registers) (idle : daemon.writing = false)
    (flag : daemon.writeFlag = iteration.writeFlag) :
    (readI2cControl loop iteration).2.2 = .wrote ↔
      (readI2c daemon (timerExpired loop.hiPrioTimer iteration.hiNow)
        (timerExpired loop.lowPrioTimer iteration.lowNow) dumped).2 ≠ [] := by
  simp only [readI2cControl, readI2c, idle, flag]
  cases timerExpired loop.hiPrioTimer iteration.hiNow with
  | true => simp
  | false =>
      cases timerExpired loop.lowPrioTimer iteration.lowNow with
      | true => simp
      | false => cases iteration.writeFlag <;> simp

/-! ## Failures in a row -/

/-- The polls that have failed since the last successful one or the last reset, and whether
an iteration without a poll has come after the first of them. -/
structure Failures where
  failed : Nat
  interrupted : Bool
  deriving DecidableEq, Repr

def Failures.none : Failures :=
  ⟨0, false⟩

def Failures.track (failures : Failures) : LoopAction → Failures
  | .polled .failure => { failures with failed := failures.failed + 1 }
  | .polled .success => .none
  | .resetIoMcu => .none
  | .wrote | .slept => if failures.failed = 0 then failures else ⟨failures.failed, true⟩

/-- The loop beside the count of its failed polls. -/
def supervised : Machine (MainLoop × Failures) Iteration LoopAction where
  step state iteration :=
    let handled := mainHandler state.1 iteration
    ((handled.1, handled.2.foldl Failures.track state.2), handled.2)

/-- The iteration polls and fails. -/
def FailsToPoll (loop : MainLoop) (iteration : Iteration) : Prop :=
  (timerExpired loop.hiPrioTimer iteration.hiNow = true ∨
      timerExpired loop.lowPrioTimer iteration.lowNow = true) ∧
    iteration.dump = .failure

/-- The three kinds of iterations. -/
theorem readI2cControl_cases (loop : MainLoop) (iteration : Iteration) :
    (readI2cControl loop iteration).1.errorCount = loop.errorCount ∧
      (FailsToPoll loop iteration ∧
          (readI2cControl loop iteration).2 = (.failure, .polled .failure) ∨
        ¬FailsToPoll loop iteration ∧
          ((readI2cControl loop iteration).2 = (.success, .polled .success) ∨
            (readI2cControl loop iteration).2 = (.success, .wrote) ∨
            (readI2cControl loop iteration).2 = (.success, .slept))) := by
  simp only [readI2cControl, FailsToPoll]
  cases timerExpired loop.hiPrioTimer iteration.hiNow with
  | true => cases iteration.dump <;> simp
  | false =>
      cases timerExpired loop.lowPrioTimer iteration.lowNow with
      | true => cases iteration.dump <;> simp
      | false => cases iteration.writeFlag <;> simp

/-- `errorCount` counts the failed polls as long as nothing comes between them. -/
structure Counts (state : MainLoop × Failures) : Prop where
  bounded : state.1.errorCount.toNat ≤ maxI2cError
  unbroken : state.2.interrupted = false → state.1.errorCount.toNat = state.2.failed
  broken : state.2.interrupted = true → state.1.errorCount.toNat < state.2.failed

section Step

variable {state : MainLoop × Failures} {iteration : Iteration}

theorem next_of_fails_last (fails : FailsToPoll state.1 iteration)
    (last : state.1.errorCount.toNat = maxI2cError) :
    (supervised.next state iteration).1.errorCount = 0 ∧
      (supervised.next state iteration).2 = .none := by
  obtain ⟨-, ⟨-, read⟩ | ⟨never, -⟩⟩ := readI2cControl_cases state.1 iteration
  · have beyond : (state.1.errorCount + 1).toNat > maxI2cError := by
      simp only [maxI2cError] at last ⊢
      rw [UInt8.toNat_add, last]
      decide
    simp only [Machine.next, supervised, mainHandler, read, if_true, beyond]
    exact ⟨trivial, rfl⟩
  · exact absurd fails never

theorem next_of_fails (fails : FailsToPoll state.1 iteration)
    (more : state.1.errorCount.toNat < maxI2cError) :
    (supervised.next state iteration).1.errorCount.toNat = state.1.errorCount.toNat + 1 ∧
      (supervised.next state iteration).2 = ⟨state.2.failed + 1, state.2.interrupted⟩ := by
  obtain ⟨-, ⟨-, read⟩ | ⟨never, -⟩⟩ := readI2cControl_cases state.1 iteration
  · simp only [maxI2cError] at more
    have counted : (state.1.errorCount + 1).toNat = state.1.errorCount.toNat + 1 := by
      have one : (1 : UInt8).toNat = 1 := rfl
      rw [UInt8.toNat_add, one]
      omega
    have within : ¬(state.1.errorCount + 1).toNat > maxI2cError := by
      rw [counted]
      simp only [maxI2cError]
      omega
    simp only [Machine.next, supervised, mainHandler, read, if_true, within, if_false]
    exact ⟨counted, rfl⟩
  · exact absurd fails never

/-- Every other iteration clears `errorCount`, and only a successful poll clears the
failures. -/
theorem next_of_not_fails (other : ¬FailsToPoll state.1 iteration) :
    (supervised.next state iteration).1.errorCount = 0 ∧
      ((supervised.next state iteration).2 = .none ∨
        (supervised.next state iteration).2 =
          if state.2.failed = 0 then state.2 else ⟨state.2.failed, true⟩) := by
  have zero : ¬(0 : UInt8).toNat > maxI2cError := by decide
  have success : ¬ExitCode.success = ExitCode.failure := by decide
  obtain ⟨-, ⟨fails, -⟩ | ⟨-, read | read | read⟩⟩ := readI2cControl_cases state.1 iteration
  · exact absurd fails other
  · simp only [Machine.next, supervised, mainHandler, read, success, if_false, zero]
    exact ⟨trivial, Or.inl rfl⟩
  · simp only [Machine.next, supervised, mainHandler, read, success, if_false, zero]
    exact ⟨trivial, Or.inr rfl⟩
  · simp only [Machine.next, supervised, mainHandler, read, success, if_false, zero]
    exact ⟨trivial, Or.inr rfl⟩

theorem Counts.next (counts : Counts state) :
    Counts (supervised.next state iteration) := by
  obtain ⟨bounded, unbroken, broken⟩ := counts
  by_cases fails : FailsToPoll state.1 iteration
  · by_cases last : state.1.errorCount.toNat = maxI2cError
    · obtain ⟨cleared, none⟩ := next_of_fails_last fails last
      constructor
      · rw [cleared]
        decide
      · rw [cleared, none]
        exact fun _ => rfl
      · rw [none]
        exact fun interrupted => absurd interrupted (by decide)
    · have more := Nat.lt_of_le_of_ne bounded last
      obtain ⟨counted, failures⟩ := next_of_fails fails more
      constructor
      · rw [counted]
        exact more
      · rw [counted, failures]
        exact fun notYet => congrArg Nat.succ (unbroken notYet)
      · rw [counted, failures]
        exact fun already => Nat.succ_lt_succ (broken already)
  · obtain ⟨cleared, failures⟩ := next_of_not_fails fails
    constructor
    · rw [cleared]
      decide
    · rw [cleared]
      rcases failures with none | kept
      · rw [none]
        exact fun _ => rfl
      · rw [kept]
        split
        · rename_i zero
          exact fun _ => zero.symm
        · exact fun notYet => (Bool.false_ne_true notYet.symm).elim
    · rw [cleared]
      rcases failures with none | kept
      · rw [none]
        exact fun interrupted => absurd interrupted (by decide)
      · rw [kept]
        split
        · rename_i zero
          intro already
          have fewer := broken already
          omega
        · rename_i some
          exact fun _ => Nat.pos_of_ne_zero some

end Step

/-! ## The reset -/

/-- Whenever more than `MAX_I2C_ERROR` polls have failed since the last success, the
controller has been reset. -/
def ResetInTime (state : MainLoop × Failures) : Prop :=
  state.2.failed ≤ maxI2cError

instance : DecidablePred ResetInTime :=
  fun _ => inferInstanceAs (Decidable (_ ≤ _))

/-- The iteration is not a failing poll that has `MAX_I2C_ERROR` failures before it and,
among them, an iteration without a poll. -/
def Uninterrupted (state : MainLoop × Failures) (iteration : Iteration) : Prop :=
  ¬(FailsToPoll state.1 iteration ∧ state.2.failed = maxI2cError ∧ state.2.interrupted = true)

/-- In every run from the start of the thread: the controller is reset in time exactly if
no iteration without a poll lies between the first and the last of six failed
polls. -/
theorem reset_in_time_iff (hiNow lowNow : UInt32) (iterations : List Iteration) :
    supervised.AllStates ResetInTime (opened hiNow lowNow, .none) iterations ↔
      supervised.AllSteps Uninterrupted (opened hiNow lowNow, .none) iterations := by
  have initially : Counts (opened hiNow lowNow, Failures.none) :=
    ⟨Nat.zero_le _, fun _ => rfl, fun interrupted => (Bool.false_ne_true interrupted).elim⟩
  refine Machine.allStates_iff_allSteps (fun _ _ counts => counts.next) ?_ initially
    (Nat.zero_le _)
  intro state iteration counts within
  rw [ResetInTime] at within
  by_cases fails : FailsToPoll state.1 iteration
  · by_cases last : state.1.errorCount.toNat = maxI2cError
    · have fresh : (supervised.next state iteration).2 = .none :=
        (next_of_fails_last fails last).2
      refine ⟨?_, fun _ => ?_⟩
      · rintro - ⟨-, -, interrupted⟩
        have fewer := counts.broken interrupted
        omega
      · rw [ResetInTime, fresh]
        exact Nat.zero_le _
    · have more := Nat.lt_of_le_of_ne counts.bounded last
      have failures := (next_of_fails fails more).2
      rw [ResetInTime, failures]
      constructor
      · rintro counted ⟨-, full, -⟩
        have beyond : state.2.failed + 1 ≤ maxI2cError := counted
        omega
      · intro uninterrupted
        by_contra beyond
        have full : state.2.failed = maxI2cError := by
          have above : ¬state.2.failed + 1 ≤ maxI2cError := beyond
          omega
        cases interrupted : state.2.interrupted with
        | true => exact uninterrupted ⟨fails, full, interrupted⟩
        | false =>
            have same := counts.unbroken interrupted
            omega
  · refine ⟨fun _ broken => fails broken.1, fun _ => ?_⟩
    rcases (next_of_not_fails fails).2 with none | kept
    · rw [ResetInTime, none]
      exact Nat.zero_le _
    · rw [ResetInTime, kept]
      split <;> exact within

/-- An iteration at which the clock shows the same time throughout. -/
def iterationAt (now : UInt32) (dump : ExitCode) : Iteration :=
  ⟨now, now, now, dump, false⟩

/-- A controller that never answers: one poll every three seconds, and the loop sleeps for
a second after each. -/
def silentController : List Iteration :=
  [iterationAt 0 .failure, iterationAt 1 .failure, iterationAt 3 .failure,
    iterationAt 4 .failure, iterationAt 6 .failure, iterationAt 7 .failure,
    iterationAt 9 .failure, iterationAt 10 .failure, iterationAt 12 .failure,
    iterationAt 13 .failure, iterationAt 15 .failure]

/-- Six polls in a row fail and there is no reset. -/
theorem silent_controller_not_reset :
    LoopAction.resetIoMcu ∉ supervised.outputs (opened 0 0, .none) silentController ∧
      (supervised.final (opened 0 0, .none) silentController).2.failed = 6 ∧
      ¬∀ (hiNow lowNow : UInt32) (iterations : List Iteration),
        supervised.AllStates ResetInTime (opened hiNow lowNow, .none) iterations := by
  refine ⟨by decide, by decide, fun always => ?_⟩
  have last := (always 0 0 silentController).final
  exact absurd last (by decide)

end TfortisPack.Hwsys
