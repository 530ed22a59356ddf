import TfortisPack.Autorestart.Alarms

/-!
# The arithmetic of the speed test

`port_runTestSpeed` compares the traffic between two readings of a kernel
counter with the limits of the port.  The counter passes through `strtol`
with a 32-bit `long`, the difference is multiplied by 8 in a `uint32_t`, the
times are stored in `uint32_t`, and a reload between the readings zeroes the
stored counter but not the stored time.
-/

namespace TfortisPack.Autorestart

open TfortisPack.Library

namespace SpeedTest

/-- What a reading leaves for the next one. -/
structure Reading where
  rxBytePrev : Nat
  timePrev : Nat
  deriving DecidableEq, Repr

def readingOf (port : PortInfo) : Reading where
  rxBytePrev := port.portConfigInfo.rxBytePrev
  timePrev := port.portConfigInfo.timePrev

def LinkUp (state : Daemon) : Prop :=
  state.port.hasError errTestLink = false

instance : DecidablePred LinkUp :=
  fun _ => inferInstanceAs (Decidable (_ = _))

/-- The step reads the kernel counter. -/
def ReadsCounter (state : Daemon) : Input → Prop
  | .testSpeed _ _ => LinkUp state
  | _ => False

instance (state : Daemon) : DecidablePred (ReadsCounter state)
  | .testSpeed _ _ => inferInstanceAs (Decidable (LinkUp _))
  | .command | .readState _ _ | .testDisable | .testLink _ | .testPing _ | .tick _ =>
      inferInstanceAs (Decidable False)

/-- A speed that the limits of the port do not admit. -/
def Outside (port : PortInfo) (speed : Nat) : Prop :=
  speed < port.portConfigInfo.minSpeed ∨ speed > port.portConfigInfo.maxSpeed

instance (port : PortInfo) : DecidablePred (Outside port) :=
  fun _ => inferInstanceAs (Decidable (_ ∨ _))

/-- The speed in Kbit/s between two readings of the counter. -/
def speedBetween (first second firstTime secondTime : Nat) : Nat :=
  (second - first) * 8 / (secondTime - firstTime) / 1000

/-- The speed is stored and judged as it is. -/
def Measured (port : PortInfo) (speed : Nat) : Prop :=
  port.portConfigInfo.rxSpeedKbit = speed ∧
    (port.hasError errTestSpeed = true ↔ Outside port speed) ∧
    (port.hasError errOk = false ↔ Outside port speed)

instance (port : PortInfo) : DecidablePred (Measured port) :=
  fun _ => inferInstanceAs (Decidable (_ ∧ _))

/-- A counter as `strtol` with a 32-bit `long` delivers it. -/
def saturated (counter : Nat) : Nat := min counter 2147483647

/-- The bits the code counts from `base` to a counter. -/
def countedBits (base counter : Nat) : Nat := u32 ((saturated counter - base) * 8)

/-- The counted bits make the same speed as the real ones; `base` is the counter
left from the first reading. -/
def CountsRight (base first second firstTime secondTime : Nat) (port : PortInfo) : Prop :=
  let seconds := (secondTime - firstTime) % 4294967296
  if seconds = 0 then
    countedBits base second = speedBetween first second firstTime secondTime ∧
      Outside port (countedBits base second)
  else
    countedBits base second / (1000 * seconds) =
      (second - first) * 8 / (1000 * (secondTime - firstTime))

instance (base first second firstTime secondTime : Nat) (port : PortInfo) :
    Decidable (CountsRight base first second firstTime secondTime port) :=
  inferInstanceAs (Decidable (ite _ _ _))

/-! ## One reading -/

section OneReading

variable {port : PortInfo}

theorem subU32_of_le {left right : Nat} (ordered : right ≤ left) (fits : left < 4294967296) :
    subU32 left right = left - right := by
  simp only [subU32, u32]
  omega

theorem subU32_u32 {left right : Nat} (ordered : right ≤ left) :
    subU32 (u32 left) (u32 right) = (left - right) % 4294967296 := by
  simp only [subU32, u32]
  omega

theorem u32_saturated (counter : Nat) : u32 (saturated counter) = saturated counter := by
  simp only [u32, saturated]
  omega

/-- A reading leaves the saturated counter and its time. -/
theorem readingOf_portRunTestSpeed {rxBytes now : Nat} (up : port.hasError errTestLink = false) :
    readingOf (portRunTestSpeed port rxBytes now) =
      { rxBytePrev := saturated rxBytes, timePrev := u32 now } := by
  rw [← u32_saturated]
  simp only [portRunTestSpeed, up, Bool.false_eq_true, if_false, readRxBytes, saturated]
  repeat' split
  all_goals rfl

theorem limits_portRunTestSpeed (port : PortInfo) (rxBytes now : Nat) :
    (portRunTestSpeed port rxBytes now).portConfigInfo.minSpeed =
        port.portConfigInfo.minSpeed ∧
      (portRunTestSpeed port rxBytes now).portConfigInfo.maxSpeed =
        port.portConfigInfo.maxSpeed := by
  simp only [portRunTestSpeed, readRxBytes]
  repeat' split
  all_goals exact ⟨rfl, rfl⟩

/-- Two readings in the same stored second, or whole multiples of 2^32 seconds
apart: the speed counts as failed. -/
theorem portRunTestSpeed_sameSecond (rxBytes : Nat) {now : Nat}
    (up : port.hasError errTestLink = false)
    (same : subU32 (u32 now) port.portConfigInfo.timePrev = 0) :
    (portRunTestSpeed port rxBytes now).portConfigInfo.rxSpeedKbit =
        u32 (subU32 (u32 (saturated rxBytes)) port.portConfigInfo.rxBytePrev * 8) ∧
      (portRunTestSpeed port rxBytes now).hasError errTestSpeed = true ∧
      (portRunTestSpeed port rxBytes now).hasError errOk = false := by
  have stopped : (readRxBytes port rxBytes now).2.1 = 0 := same
  simp only [portRunTestSpeed, up, Bool.false_eq_true, if_false, stopped, if_true]
  refine ⟨rfl, ?_, ?_⟩ <;> simp +decide

/-- Otherwise the speed is computed and judged by the limits. -/
theorem portRunTestSpeed_later (rxBytes : Nat) {now : Nat}
    (up : port.hasError errTestLink = false)
    (later : subU32 (u32 now) port.portConfigInfo.timePrev ≠ 0) :
    Measured (portRunTestSpeed port rxBytes now)
      (u32 (subU32 (u32 (saturated rxBytes)) port.portConfigInfo.rxBytePrev * 8) /
        subU32 (u32 now) port.portConfigInfo.timePrev / 1000) := by
  have runs : (readRxBytes port rxBytes now).2.1 ≠ 0 := later
  obtain ⟨minSpeed, maxSpeed⟩ := limits_portRunTestSpeed port rxBytes now
  have fresh : (readRxBytes port rxBytes now).1.hasError errTestSpeed = false ∧
      (readRxBytes port rxBytes now).1.hasError errOk = true := by
    constructor <;> simp +decide [readRxBytes]
  generalize computed :
    u32 (subU32 (u32 (saturated rxBytes)) port.portConfigInfo.rxBytePrev * 8) /
      subU32 (u32 now) port.portConfigInfo.timePrev / 1000 = speed
  have stored : (readRxBytes port rxBytes now).2.2 / (readRxBytes port rxBytes now).2.1 / 1000 =
      speed := computed
  simp only [Measured, Outside, minSpeed, maxSpeed]
  simp only [portRunTestSpeed, up, Bool.false_eq_true, if_false, runs, stored, true_and]
  by_cases outside : speed < port.portConfigInfo.minSpeed ∨ speed > port.portConfigInfo.maxSpeed
  · have judged : speed < (readRxBytes port rxBytes now).1.portConfigInfo.minSpeed ∨
        speed > (readRxBytes port rxBytes now).1.portConfigInfo.maxSpeed := outside
    rw [if_pos judged]
    refine ⟨iff_of_true ?_ outside, iff_of_true ?_ outside⟩ <;> simp +decide
  · have judged : ¬(speed < (readRxBytes port rxBytes now).1.portConfigInfo.minSpeed ∨
        speed > (readRxBytes port rxBytes now).1.portConfigInfo.maxSpeed) := outside
    obtain ⟨passed, ok⟩ := fresh
    rw [PortInfo.hasError] at passed ok
    rw [if_neg judged]
    split
    · simp only [PortInfo.hasError, PortInfo.raiseEvent, passed, ok]
      exact ⟨iff_of_false (by decide) outside, iff_of_false (by decide) outside⟩
    · simp only [PortInfo.hasError, passed, ok]
      exact ⟨iff_of_false (by decide) outside, iff_of_false (by decide) outside⟩

end OneReading

/-! ## Between two readings -/

section Between

/-- A reload zeroes the stored counter, and nothing else but a reading writes it
or its time. -/
def Kept (before after : PortInfo) (actions : List Action) : Prop :=
  readingOf after =
    if .portReloaded ∈ actions then { readingOf before with rxBytePrev := 0 }
    else readingOf before

theorem kept_silent {before after : PortInfo} {actions : List Action}
    (same : readingOf after = readingOf before) (none : .portReloaded ∉ actions) :
    Kept before after actions := by
  rw [Kept, if_neg none, same]

theorem Kept.append {before middle after : PortInfo} {first second : List Action}
    (kept : Kept before middle first) (later : Kept middle after second) :
    Kept before after (first ++ second) := by
  rw [Kept, later, kept]
  simp only [List.mem_append]
  by_cases inFirst : .portReloaded ∈ first
  · by_cases inSecond : .portReloaded ∈ second
    · simp [inFirst, inSecond]
    · simp [inFirst, inSecond]
  · by_cases inSecond : .portReloaded ∈ second
    · simp [inFirst, inSecond]
    · simp [inFirst, inSecond]

theorem readingOf_of_keptPart {before after : PortInfo}
    (same : Alarms.keptPart after.portConfigInfo = Alarms.keptPart before.portConfigInfo) :
    readingOf after = readingOf before := by
  have rxBytePrev := congrArg PortConfigInfo.rxBytePrev same
  have timePrev := congrArg PortConfigInfo.timePrev same
  exact congrArg₂ Reading.mk rxBytePrev timePrev

theorem readingOf_getPortParam (clock : LocalClock) (now : Nat) (uninit : ErrorCode)
    (options : PortSection) (portNum : PortNum) (isReboot : Bool) (port : PortInfo) :
    readingOf (getPortParam clock now uninit options portNum isReboot port) =
      { readingOf port with rxBytePrev := 0 } := by
  have errors (port : PortInfo) : readingOf (setErrorHandler port) = readingOf port :=
    readingOf_of_keptPart (Alarms.keptPart_setErrorHandler port)
  have test (port : PortInfo) : readingOf (setTest uninit options port) = readingOf port :=
    readingOf_of_keptPart (Alarms.keptPart_setTest uninit options port)
  have alarm (port : PortInfo) : readingOf (setAlarm clock now options port) = readingOf port := by
    obtain ⟨timeUp, timeDown, enabled, stored⟩ := Alarms.setAlarm_eq clock now options port
    rw [stored]
    rfl
  simp only [getPortParam]
  rw [errors, alarm, test]
  cases isReboot <;> rfl

theorem kept_stateHandler (config : DaemonConfig) (clock : LocalClock) (input : TickInput)
    (port : PortInfo) :
    Kept port (stateHandler config clock input port).1
      (stateHandler config clock input port).2 := by
  obtain ⟨same, none⟩ | ⟨loading, same, reloaded, mem⟩ :=
    Alarms.keptPart_stateHandler config clock input port
  · exact kept_silent (readingOf_of_keptPart same) none
  · rw [Kept, if_pos mem, reloaded, readingOf_getPortParam, readingOf_of_keptPart same]

theorem readingOf_alarmHandler (clock : LocalClock) (now : Nat) (port : PortInfo) :
    readingOf (alarmHandler clock now port).1 = readingOf port := by
  have same := congrArg readingOf (besideAlarm_alarmHandler clock now port)
  exact same

theorem kept_portStep (env : Environment) (state : Daemon) (input : Input)
    (other : ¬ReadsCounter state input) :
    Kept state.port ((daemon env).next state input).port ((daemon env).emit state input) := by
  cases input with
  | tick input =>
      have handled := kept_stateHandler env.config env.clock input state.port
      simp only [daemon_next_port, daemon_emit, portStep, eventsHandler]
      split
      · exact handled.append
          (kept_silent (readingOf_alarmHandler env.clock input.now _)
            (Alarms.portReloaded_not_mem_alarmHandler env.clock input.now _))
      · exact handled
  | testSpeed rxBytes now =>
      have down : state.port.hasError errTestLink = true := by
        simpa [ReadsCounter, LinkUp] using other
      refine kept_silent ?_ List.not_mem_nil
      simp only [daemon_next_port, portStep, portRunTestSpeed, down, if_true]
      rfl
  | command =>
      refine kept_silent ?_ (by simp [portStep, cmdRebootHandler])
      simp only [daemon_next_port, portStep, cmdRebootHandler]
      repeat' split
      all_goals rfl
  | readState portEnabled poeEnabled =>
      refine kept_silent ?_ List.not_mem_nil
      cases portEnabled <;> cases poeEnabled <;> rfl
  | testDisable =>
      exact kept_silent rfl List.not_mem_nil
  | testLink up =>
      refine kept_silent ?_ List.not_mem_nil
      simp only [daemon_next_port, portStep, portRunTestLink]
      repeat' split
      all_goals rfl
  | testPing reply =>
      refine kept_silent ?_ List.not_mem_nil
      simp only [daemon_next_port, portStep, portRunTestPing]
      repeat' split
      all_goals rfl

/-- The reading that a run without further readings leaves. -/
theorem kept_run (env : Environment) (state : Daemon) (between : List Input)
    (others :
      (daemon env).AllSteps (fun state input => ¬ReadsCounter state input) state between) :
    Kept state.port ((daemon env).final state between).port
      ((daemon env).outputs state between) := by
  induction between generalizing state with
  | nil =>
      exact kept_silent rfl List.not_mem_nil
  | cons input rest inductionHypothesis =>
      exact (kept_portStep env state input others.1).append
        (inductionHypothesis _ others.2)

end Between

/-! ## Two readings -/

/-- The counter that the second of two readings is compared with. -/
def baseCounter (first : Nat) (between : List Action) : Nat :=
  if .portReloaded ∈ between then 0 else saturated first

theorem outside_portRunTestSpeed (port : PortInfo) (rxBytes now speed : Nat) :
    Outside (portRunTestSpeed port rxBytes now) speed ↔ Outside port speed := by
  obtain ⟨minSpeed, maxSpeed⟩ := limits_portRunTestSpeed port rxBytes now
  rw [Outside, Outside, minSpeed, maxSpeed]

theorem measured_iff_countsRight {port : PortInfo} {base first second firstTime secondTime : Nat}
    (up : port.hasError errTestLink = false)
    (left : readingOf port = { rxBytePrev := base, timePrev := u32 firstTime })
    (small : base ≤ saturated second) (later : firstTime < secondTime) :
    Measured (portRunTestSpeed port second secondTime)
        (speedBetween first second firstTime secondTime) ↔
      CountsRight base first second firstTime secondTime port := by
  have rxBytePrev : port.portConfigInfo.rxBytePrev = base := congrArg Reading.rxBytePrev left
  have timePrev : port.portConfigInfo.timePrev = u32 firstTime := congrArg Reading.timePrev left
  have bits : u32 (subU32 (u32 (saturated second)) port.portConfigInfo.rxBytePrev * 8) =
      countedBits base second := by
    have fits : saturated second < 4294967296 := by
      simp only [saturated]
      omega
    rw [u32_saturated, rxBytePrev, subU32_of_le small fits]
    rfl
  have seconds : subU32 (u32 secondTime) port.portConfigInfo.timePrev =
      (secondTime - firstTime) % 4294967296 := by
    rw [timePrev, subU32_u32 later.le]
  simp only [CountsRight]
  by_cases same : (secondTime - firstTime) % 4294967296 = 0
  · obtain ⟨stored, failed, notOk⟩ :=
      portRunTestSpeed_sameSecond second up (seconds.trans same)
    rw [if_pos same, Measured, stored, bits, failed, notOk, outside_portRunTestSpeed]
    simp only [true_iff, and_self]
    refine and_congr_right fun equal => ?_
    rw [equal]
  · have measured := portRunTestSpeed_later second up
      (fun zero => same (seconds.symm.trans zero))
    rw [bits, seconds] at measured
    rw [if_neg same]
    have joined : countedBits base second / ((secondTime - firstTime) % 4294967296) / 1000 =
        countedBits base second / (1000 * ((secondTime - firstTime) % 4294967296)) := by
      rw [Nat.div_div_eq_div_mul, Nat.mul_comm]
    have realJoined : speedBetween first second firstTime secondTime =
        (second - first) * 8 / (1000 * (secondTime - firstTime)) := by
      rw [speedBetween, Nat.div_div_eq_div_mul, Nat.mul_comm 1000]
    constructor
    · intro right
      rw [← joined, ← realJoined, ← measured.1, right.1]
    · intro equal
      rw [realJoined, ← equal, ← joined]
      exact measured

/-- Nothing is lost while the counter stays below 2^31, grows by less than
512 MiB and the configuration is not reloaded. -/
theorem countsRight_of_small {port : PortInfo} {first second firstTime secondTime : Nat}
    (fits : second ≤ 2147483647) (slow : second - first < 536870912)
    (grows : first ≤ second) (later : firstTime < secondTime)
    (soon : secondTime - firstTime < 4294967296) :
    CountsRight (saturated first) first second firstTime secondTime port := by
  have seconds : (secondTime - firstTime) % 4294967296 = secondTime - firstTime :=
    Nat.mod_eq_of_lt soon
  have bits : countedBits (saturated first) second = (second - first) * 8 := by
    simp only [countedBits, saturated, u32]
    omega
  have positive : secondTime - firstTime ≠ 0 := by omega
  simp only [CountsRight, seconds, bits, if_neg positive]

/-- Two successive readings of the kernel counter while the link is up, with any
commands, reads, ticks, link tests and readings of a dead link between them:
the speed is stored and judged as it is exactly if the bits that the code
counts make the same number of Kbit/s as the real ones. -/
theorem speed_measured_iff (env : Environment) (state : Daemon)
    (first second firstTime secondTime : Nat) (between : List Input)
    (grows : first ≤ second) (later : firstTime < secondTime) (firstUp : LinkUp state)
    (successive :
      (daemon env).AllSteps (fun state input => ¬ReadsCounter state input)
        ((daemon env).next state (.testSpeed first firstTime)) between)
    (secondUp :
      LinkUp
        ((daemon env).final ((daemon env).next state (.testSpeed first firstTime)) between)) :
    Measured
        ((daemon env).final state
          (.testSpeed first firstTime :: between ++ [.testSpeed second secondTime])).port
        (speedBetween first second firstTime secondTime) ↔
      CountsRight
        (baseCounter first
          ((daemon env).outputs ((daemon env).next state (.testSpeed first firstTime)) between))
        first second firstTime secondTime
        ((daemon env).final ((daemon env).next state (.testSpeed first firstTime))
          between).port := by
  have kept := kept_run env ((daemon env).next state (.testSpeed first firstTime)) between
    successive
  have start : readingOf ((daemon env).next state (.testSpeed first firstTime)).port =
      { rxBytePrev := saturated first, timePrev := u32 firstTime } :=
    readingOf_portRunTestSpeed firstUp
  have left : readingOf
        ((daemon env).final ((daemon env).next state (.testSpeed first firstTime))
          between).port =
      { rxBytePrev :=
          baseCounter first
            ((daemon env).outputs ((daemon env).next state (.testSpeed first firstTime)) between)
        timePrev := u32 firstTime } := by
    rw [kept, start, baseCounter]
    split <;> rfl
  have small : ∀ actions, baseCounter first actions ≤ saturated second := by
    intro actions
    simp only [baseCounter, saturated]
    split <;> omega
  rw [List.cons_append, Machine.final, Machine.final_append]
  exact measured_iff_countsRight secondUp left (small _) later

def speedBoot : Daemon :=
  boot sampleEnvironment firstPort (sampleBoot "speed" 1700000000)

theorem speed_measured_slow :
    Measured
      ((daemon sampleEnvironment).final speedBoot
        (.testSpeed 1000 1700000000 :: [.testLink true] ++ [.testSpeed 126000 1700000004])).port
      250 :=
  (speed_measured_iff sampleEnvironment speedBoot 1000 126000 1700000000 1700000004
    [.testLink true] (by decide) (by decide) (by decide) (by decide) (by decide)).mpr (by decide)

/-- At 3 GB the counter saturates, and 10000 Kbit/s are stored as none. -/
theorem saturated_counter_stops_speed :
    LinkUp speedBoot ∧
      speedBetween 3000000000 3001250000 1700000000 1700000001 = 10000 ∧
      ¬Measured
        ((daemon sampleEnvironment).final speedBoot
          (.testSpeed 3000000000 1700000000 :: [] ++
            [.testSpeed 3001250000 1700000001])).port
        (speedBetween 3000000000 3001250000 1700000000 1700000001) := by
  decide

end SpeedTest

end TfortisPack.Autorestart
