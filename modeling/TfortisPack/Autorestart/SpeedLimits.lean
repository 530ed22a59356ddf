import TfortisPack.Autorestart.Daemon
import TfortisPack.Autorestart.Decimals

/-!
# The speed limits of a port

`setSpeed` reads the two limits into `uint16_t` variables, although a limit
may be as large as 1000000, and looks at an error variable that no one has
assigned when both options are present.  `port_setSpeedParam` stores the
upper limit before it has checked the lower one.
-/

namespace TfortisPack.Autorestart

namespace SpeedLimits

/-- `MIN_SPEED`, `MAX_SPEED` and the order of the limits. -/
def Admitted (maxSpeed minSpeed : Int) : Prop :=
  10 ≤ minSpeed ∧ minSpeed ≤ maxSpeed ∧ maxSpeed ≤ 1000000

instance (maxSpeed minSpeed : Int) : Decidable (Admitted maxSpeed minSpeed) :=
  inferInstanceAs (Decidable (_ ∧ _))

/-- The section of a port with the given limits. -/
def withLimits (options : PortSection) (maxSpeed minSpeed : Option DecimalText) :
    PortSection :=
  { options with
    maxSpeed := maxSpeed.map DecimalText.text, minSpeed := minSpeed.map DecimalText.text }

/-- The limits are refused and the port keeps its own. -/
def Refused (config : PortConfigInfo) (result : PortConfigInfo × ErrorCode) : Prop :=
  result.2 = errSpeedValue ∧ result.1.maxSpeed = config.maxSpeed ∧
    result.1.minSpeed = config.minSpeed

/-- Both limits are stored as they were given. -/
def Stored (maxSpeed minSpeed : Int) (result : PortConfigInfo × ErrorCode) : Prop :=
  result.2 = errOk ∧ (result.1.maxSpeed : Int) = maxSpeed ∧
    (result.1.minSpeed : Int) = minSpeed

/-- Admitted limits are stored, all others and missing ones are refused. -/
def Specified (config : PortConfigInfo) (maxSpeed minSpeed : Option DecimalText)
    (result : PortConfigInfo × ErrorCode) : Prop :=
  match maxSpeed, minSpeed with
  | some maxSpeed, some minSpeed =>
      if Admitted maxSpeed.number minSpeed.number then
        Stored maxSpeed.number minSpeed.number result
      else Refused config result
  | _, _ => Refused config result

instance (config : PortConfigInfo) : DecidablePred (Refused config) :=
  fun _ => inferInstanceAs (Decidable (_ ∧ _))

instance (maxSpeed minSpeed : Int) : DecidablePred (Stored maxSpeed minSpeed) :=
  fun _ => inferInstanceAs (Decidable (_ ∧ _))

instance (config : PortConfigInfo) :
    ∀ maxSpeed minSpeed, DecidablePred (Specified config maxSpeed minSpeed)
  | some _, some _ => fun _ => inferInstanceAs (Decidable (ite _ _ _))
  | none, _ => inferInstanceAs (DecidablePred (Refused config))
  | some _, none => inferInstanceAs (DecidablePred (Refused config))

/-- A number as it arrives in a `uint16_t`. -/
def low16 (number : Int) : Nat :=
  u16OfInt (DecimalText.saturated number)

/-- The error variable is not `ERR_SPEED_VALUE` by chance and the upper limit
fits 16 bits; limits that are not admitted are still refused when only their
low 16 bits are left. -/
def LimitsFit (uninit : ErrorCode) (config : PortConfigInfo)
    (maxSpeed minSpeed : Option DecimalText) : Prop :=
  match maxSpeed, minSpeed with
  | some maxSpeed, some minSpeed =>
      if Admitted maxSpeed.number minSpeed.number then
        uninit ≠ errSpeedValue ∧ maxSpeed.number < 65536
      else
        uninit = errSpeedValue ∨ low16 maxSpeed.number < low16 minSpeed.number ∨
          low16 maxSpeed.number < 10 ∨
          low16 minSpeed.number < 10 ∧ config.maxSpeed = low16 maxSpeed.number
  | _, _ => True

theorem low16_lt (number : Int) : low16 number < 65536 := by
  simp only [low16, u16OfInt]
  omega

theorem low16_eq_iff (number : Int) (positive : 0 ≤ number) (small : number ≤ 1000000) :
    (low16 number : Int) = number ↔ number < 65536 := by
  simp only [low16, u16OfInt, DecimalText.saturated]
  omega

variable {config : PortConfigInfo}

/-! ## The setter -/

theorem portSetSpeedParam_stored {max min : Nat} (ordered : min ≤ max) (low : 10 ≤ min)
    (high : max ≤ 1000000) :
    portSetSpeedParam config max min =
      ({ config with maxSpeed := max, minSpeed := min }, errOk) := by
  simp only [portSetSpeedParam]
  rw [if_neg (by omega), if_neg, if_neg]
  · simp only [Bool.or_eq_true, decide_eq_true_eq]
    omega
  · simp only [Bool.or_eq_true, decide_eq_true_eq]
    omega

theorem portSetSpeedParam_refused {max min : Nat}
    (refused : max < min ∨ max < 10 ∨ 1000000 < max) :
    portSetSpeedParam config max min = (config, errSpeedValue) := by
  simp only [portSetSpeedParam]
  split
  · rfl
  · rw [if_pos]
    simp only [Bool.or_eq_true, decide_eq_true_eq]
    omega

/-- The upper limit stays stored when the lower one is refused. -/
theorem portSetSpeedParam_half {max min : Nat} (low : min < 10) (within : 10 ≤ max)
    (high : max ≤ 1000000) :
    portSetSpeedParam config max min = ({ config with maxSpeed := max }, errSpeedValue) := by
  simp only [portSetSpeedParam]
  rw [if_neg (by omega), if_neg, if_pos]
  · simp only [Bool.or_eq_true, decide_eq_true_eq]
    omega
  · simp only [Bool.or_eq_true, decide_eq_true_eq]
    omega

theorem errOk_ne_errSpeedValue : errOk ≠ errSpeedValue := by
  decide

theorem stored_portSetSpeedParam_iff {maxSpeed minSpeed : Int}
    (admitted : Admitted maxSpeed minSpeed) :
    Stored maxSpeed minSpeed (portSetSpeedParam config (low16 maxSpeed) (low16 minSpeed)) ↔
      maxSpeed < 65536 := by
  obtain ⟨low, ordered, high⟩ := admitted
  have maxExact := low16_eq_iff maxSpeed (by omega) high
  have minExact := low16_eq_iff minSpeed (by omega) (by omega)
  constructor
  · intro stored
    by_contra large
    obtain ⟨ok, kept, _⟩ := stored
    have short := low16_lt maxSpeed
    by_cases refused : low16 maxSpeed < low16 minSpeed ∨ low16 maxSpeed < 10 ∨
        1000000 < low16 maxSpeed
    · rw [portSetSpeedParam_refused refused] at ok
      exact errOk_ne_errSpeedValue ok.symm
    · by_cases lowMin : low16 minSpeed < 10
      · rw [portSetSpeedParam_half lowMin (by omega) (by omega)] at ok
        exact errOk_ne_errSpeedValue ok.symm
      · rw [portSetSpeedParam_stored (by omega) (by omega) (by omega)] at kept
        exact large (maxExact.mp kept)
  · intro small
    have maxKept := maxExact.mpr small
    have minKept := minExact.mpr (by omega)
    rw [portSetSpeedParam_stored (by omega) (by omega) (by omega)]
    exact ⟨rfl, maxKept, minKept⟩

theorem refused_portSetSpeedParam_iff {max min : Nat} (small : max < 65536) :
    Refused config (portSetSpeedParam config max min) ↔
      max < min ∨ max < 10 ∨ min < 10 ∧ config.maxSpeed = max := by
  by_cases refused : max < min ∨ max < 10 ∨ 1000000 < max
  · rw [portSetSpeedParam_refused refused]
    refine iff_of_true ⟨rfl, rfl, rfl⟩ ?_
    omega
  · by_cases low : min < 10
    · rw [portSetSpeedParam_half low (by omega) (by omega)]
      simp only [Refused, true_and, and_true]
      omega
    · rw [portSetSpeedParam_stored (by omega) (by omega) (by omega)]
      refine iff_of_false ?_ (by omega)
      exact fun stored => errOk_ne_errSpeedValue stored.1

/-- For all decimal limits, present or not, and every value the error variable
starts with: `setSpeed` does what it is to do exactly if the limits survive
the narrowing. -/
theorem setSpeed_specified_iff (uninit : ErrorCode) (config : PortConfigInfo)
    (options : PortSection) (maxSpeed minSpeed : Option DecimalText) :
    Specified config maxSpeed minSpeed
        (setSpeed uninit config (withLimits options maxSpeed minSpeed)) ↔
      LimitsFit uninit config maxSpeed minSpeed := by
  have missing (absent : maxSpeed = none ∨ minSpeed = none) :
      Refused config (setSpeed uninit config (withLimits options maxSpeed minSpeed)) := by
    rw [setSpeed_missing]
    · exact ⟨rfl, rfl, rfl⟩
    · exact absent.imp (fun none => by simp [withLimits, none])
        (fun none => by simp [withLimits, none])
  cases maxSpeed with
  | none =>
      exact iff_of_true (missing (Or.inl rfl)) trivial
  | some max =>
      cases minSpeed with
      | none =>
          exact iff_of_true (missing (Or.inr rfl)) trivial
      | some min =>
          have present :
              setSpeed uninit config (withLimits options (some max) (some min)) =
                if uninit ≠ errSpeedValue then
                  portSetSpeedParam config (low16 max.number) (low16 min.number)
                else (config, uninit) := by
            rw [setSpeed_present uninit config rfl rfl, DecimalText.strtol_text,
              DecimalText.strtol_text]
            rfl
          simp only [Specified, LimitsFit, present]
          by_cases chance : uninit = errSpeedValue
          · rw [if_neg (not_not.mpr chance)]
            by_cases admitted : Admitted max.number min.number
            · simp only [if_pos admitted]
              refine iff_of_false ?_ (fun fit => fit.1 chance)
              exact fun stored => errOk_ne_errSpeedValue (stored.1.symm.trans chance)
            · simp only [if_neg admitted]
              exact iff_of_true ⟨chance, rfl, rfl⟩ (Or.inl chance)
          · rw [if_pos chance]
            by_cases admitted : Admitted max.number min.number
            · simp only [if_pos admitted, ne_eq, chance, not_false_eq_true, true_and]
              exact stored_portSetSpeedParam_iff admitted
            · simp only [if_neg admitted, chance, false_or]
              exact refused_portSetSpeedParam_iff (low16_lt max.number)

def hundredThousand : DecimalText :=
  ⟨false, ['1', '0', '0', '0', '0', '0'], List.cons_ne_nil _ _, List.all_eq_true.mp rfl⟩

def ten : DecimalText :=
  ⟨false, ['1', '0'], List.cons_ne_nil _ _, List.all_eq_true.mp rfl⟩

/-- A limit of 100 Mbit/s is stored as 34464 Kbit/s. -/
theorem large_limit_is_truncated :
    Admitted hundredThousand.number ten.number ∧
      (setSpeed 0 (zeroPort (portNumOf firstPort)).portConfigInfo
          (withLimits (sampleBoot "speed" 0).options (some hundredThousand)
            (some ten))).1.maxSpeed = 34464 ∧
      ¬Specified (zeroPort (portNumOf firstPort)).portConfigInfo (some hundredThousand) (some ten)
        (setSpeed 0 (zeroPort (portNumOf firstPort)).portConfigInfo
          (withLimits (sampleBoot "speed" 0).options (some hundredThousand) (some ten))) := by
  decide

end SpeedLimits

end TfortisPack.Autorestart
