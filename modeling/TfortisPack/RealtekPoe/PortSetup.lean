import TfortisPack.RealtekPoe.Polling
import TfortisPack.RealtekPoe.UbusMethods

/-!
# Commands for four ports

`poet_setup` sends the settings of the enabled ports in commands of four slots.
An inner loop fills the slots and leaves the index at the fourth enabled port;
the condition of the outer loop goes on behind it.  Slots that stay empty are
overwritten with `0xff`.
-/

namespace TfortisPack.RealtekPoe

open TfortisPack.Library

/-! ## Settings -/

/-- `struct port_config` with the members that `manage` does not read. -/
structure ConfiguredPort extends PortConfig where
  valid : Bool
  priority : UInt8
  powerUpMode : UInt8
  powerBudget : UInt8
  deriving DecidableEq

/-- The entries of the five arrays at one index. -/
structure Slot where
  portId : UInt8
  priority : UInt8
  powerupMode : UInt8
  enableAll : UInt8
  limitType : UInt8
  deriving DecidableEq

/-- The arrays of `poet_setup`; the indexes in use are 0 to 3. -/
abbrev Slots := Nat → Slot

def emptySlot : Slot :=
  ⟨0xff, 0xff, 0xff, 0xff, 0xff⟩

/-- What the inner loop stores for a port; it does not write to `enable_all`. -/
def fillSlot (slot : Slot) (i : Nat) (port : ConfiguredPort) : Slot where
  portId := UInt8.ofNat i
  priority := port.priority
  powerupMode := port.powerUpMode
  enableAll := slot.enableAll
  limitType := if port.powerBudget ≠ 0 then 2 else 1

/-- The outcome of the inner loop. -/
structure Filled where
  i : Nat
  numOkay : Nat
  slots : Slots

/-- The inner loop; the first argument are the ports from index `i` on. -/
def fillLoop : List ConfiguredPort → (i numOkay : Nat) → Slots → Filled
  | [], i, numOkay, slots => ⟨i, numOkay, slots⟩
  | port :: rest, i, numOkay, slots =>
      if !port.enable then fillLoop rest (i + 1) numOkay slots
      else
        let slots := Function.update slots numOkay (fillSlot (slots numOkay) i port)
        if numOkay + 1 = 4 then ⟨i, numOkay + 1, slots⟩
        else fillLoop rest (i + 1) (numOkay + 1) slots

/-- The calls of `memset`. -/
def clearFrom (numOkay : Nat) (slots : Slots) : Slots :=
  fun k => if k < numOkay then slots k else emptySlot

def poetCmd4Port (cmdId : UInt8) (slots : Slots) (data : Slot → UInt8) : Request :=
  ⟨[cmdId, 0x00, (slots 0).portId, data (slots 0), (slots 1).portId, data (slots 1),
    (slots 2).portId, data (slots 2), (slots 3).portId, data (slots 3)], by simp⟩

def poeSetPortPriority (slots : Slots) : Request :=
  poetCmd4Port 0x15 slots Slot.priority

def poeCmdPortClassification (slots : Slots) : Request :=
  poetCmd4Port 0x11 slots Slot.enableAll

def poeCmdPortPowerLimitType (slots : Slots) : Request :=
  poetCmd4Port 0x12 slots Slot.limitType

theorem le_fillLoop (rest : List ConfiguredPort) (i numOkay : Nat) (slots : Slots) :
    i ≤ (fillLoop rest i numOkay slots).i := by
  induction rest generalizing i numOkay slots with
  | nil =>
      exact Nat.le_refl i
  | cons port rest inductionHypothesis =>
      rw [fillLoop]
      split
      · exact Nat.le_of_succ_le (inductionHypothesis _ _ _)
      · simp only
        split
        · exact Nat.le_refl i
        · exact Nat.le_of_succ_le (inductionHypothesis _ _ _)

/-- The outer loop from index `i` on; the commands it queues.  Each round starts behind
the index that the round before has reached. -/
def poetLoop (ports : List ConfiguredPort) (i : Nat) (slots : Slots) : List Request :=
  let filled := fillLoop (ports.drop i) i 0 slots
  let cleared := clearFrom filled.numOkay filled.slots
  let commands :=
    [poeSetPortPriority cleared, poeCmdPortClassification cleared,
      poeCmdPortPowerLimitType cleared]
  if filled.i + 1 < ports.length then commands ++ poetLoop ports (filled.i + 1) cleared
  else commands
termination_by ports.length - i
decreasing_by
  have reached : i ≤ filled.i := le_fillLoop (ports.drop i) i 0 slots
  show ports.length - (filled.i + 1) < ports.length - i
  omega

/-- The arrays at the start: only `enable_all` is initialised. -/
def initialSlots (stack : Slots) : Slots :=
  fun k => { stack k with enableAll := 1 }

/-- The commands of `poet_setup`; `stack` is what its arrays hold before. -/
def poetSetupRequests (ports : List ConfiguredPort) (stack : Slots) : List Request :=
  poetLoop ports 0 (initialSlots stack)

def poetSetup (map : DialectMap) (poe : Poe) (ports : List ConfiguredPort) (stack : Slots) :
    Poe × List Action :=
  queueAll map poe (poetSetupRequests ports stack)

/-! ## Rounds -/

/-- The enabled ports of a list whose first index is `i`, with their indexes. -/
def enabledFrom (i : Nat) (ports : List ConfiguredPort) : List (ConfiguredPort × Nat) :=
  (ports.zipIdx i).filter fun entry => entry.1.enable

/-- The slot of an enabled port. -/
def usedSlot (entry : ConfiguredPort × Nat) : Slot where
  portId := UInt8.ofNat entry.2
  priority := entry.1.priority
  powerupMode := entry.1.powerUpMode
  enableAll := 1
  limitType := if entry.1.powerBudget ≠ 0 then 2 else 1

theorem enabledFrom_cons (i : Nat) (port : ConfiguredPort) (rest : List ConfiguredPort) :
    enabledFrom i (port :: rest) =
      if port.enable then (port, i) :: enabledFrom (i + 1) rest else enabledFrom (i + 1) rest := by
  rw [enabledFrom, List.zipIdx_cons, List.filter_cons]
  rfl

/-- What a round of the inner loop achieves: it appends the slots of the next enabled
ports, and the ones it leaves are those behind the index it has reached.  It
stops early only with four slots in use. -/
structure FillsRound (rest : List ConfiguredPort) (i numOkay : Nat) (slots : Slots)
    (filled : Filled) (batch : List (ConfiguredPort × Nat)) : Prop where
  count : filled.numOkay = numOkay + batch.length
  atMostFour : filled.numOkay ≤ 4
  stored : (List.range filled.numOkay).map filled.slots =
    (List.range numOkay).map slots ++ batch.map usedSlot
  left : enabledFrom i rest = batch ++ enabledFrom (filled.i + 1) (rest.drop (filled.i + 1 - i))
  full : filled.i < i + rest.length → filled.numOkay = 4
  enableAll : ∀ k < 4, (filled.slots k).enableAll = 1

/-- The port that is stored leaves the others and `enable_all` alone. -/
theorem enableAll_stored {numOkay : Nat} {slots : Slots} (room : numOkay < 4)
    (initially : ∀ k < 4, (slots k).enableAll = 1) (i : Nat) (port : ConfiguredPort) :
    ∀ k < 4,
      (Function.update slots numOkay (fillSlot (slots numOkay) i port) k).enableAll = 1 := by
  intro k inside
  by_cases here : k = numOkay
  · rw [here, Function.update_self, fillSlot]
    exact initially numOkay room
  · rw [Function.update_of_ne here]
    exact initially k inside

theorem range_stored {numOkay : Nat} {slots : Slots} (room : numOkay < 4)
    (initially : ∀ k < 4, (slots k).enableAll = 1) (i : Nat) (port : ConfiguredPort) :
    (List.range (numOkay + 1)).map
        (Function.update slots numOkay (fillSlot (slots numOkay) i port)) =
      (List.range numOkay).map slots ++ [usedSlot (port, i)] := by
  rw [List.range_succ, List.map_append, List.map_singleton]
  congr 1
  · apply List.map_congr_left
    intro k below
    have other : k ≠ numOkay := Nat.ne_of_lt (List.mem_range.mp below)
    exact Function.update_of_ne other _ _
  · simp only [Function.update_self, fillSlot, usedSlot, initially numOkay room]

/-- A port that is not enabled is passed over. -/
theorem FillsRound.skip {port : ConfiguredPort} {rest : List ConfiguredPort} {i numOkay : Nat}
    {slots : Slots} {filled : Filled} {batch : List (ConfiguredPort × Nat)}
    (disabled : port.enable = false) (reached : i + 1 ≤ filled.i)
    (round : FillsRound rest (i + 1) numOkay slots filled batch) :
    FillsRound (port :: rest) i numOkay slots filled batch := by
  refine ⟨round.count, round.atMostFour, round.stored, ?_, ?_, round.enableAll⟩
  · have behind : filled.i + 1 - i = (filled.i + 1 - (i + 1)) + 1 := by omega
    rw [enabledFrom_cons, disabled, if_neg Bool.false_ne_true, behind, List.drop_succ_cons]
    exact round.left
  · intro early
    apply round.full
    rw [List.length_cons] at early
    omega

/-- An enabled port comes first in what the rest of the round stores. -/
theorem FillsRound.take {port : ConfiguredPort} {rest : List ConfiguredPort} {i numOkay : Nat}
    {slots stored : Slots} {filled : Filled} {batch : List (ConfiguredPort × Nat)}
    (enabled : port.enable = true) (reached : i + 1 ≤ filled.i)
    (storedMap : (List.range (numOkay + 1)).map stored =
      (List.range numOkay).map slots ++ [usedSlot (port, i)])
    (round : FillsRound rest (i + 1) (numOkay + 1) stored filled batch) :
    FillsRound (port :: rest) i numOkay slots filled ((port, i) :: batch) := by
  refine ⟨?_, round.atMostFour, ?_, ?_, ?_, round.enableAll⟩
  · rw [round.count, List.length_cons]
    omega
  · rw [round.stored, storedMap, List.append_assoc]
    rfl
  · have behind : filled.i + 1 - i = (filled.i + 1 - (i + 1)) + 1 := by omega
    rw [enabledFrom_cons, enabled, if_pos rfl, behind, List.drop_succ_cons, round.left]
    rfl
  · intro early
    apply round.full
    rw [List.length_cons] at early
    omega

theorem fillLoop_fills (rest : List ConfiguredPort) (i numOkay : Nat) (slots : Slots)
    (room : numOkay < 4) (initially : ∀ k < 4, (slots k).enableAll = 1) :
    ∃ batch, FillsRound rest i numOkay slots (fillLoop rest i numOkay slots) batch := by
  induction rest generalizing i numOkay slots with
  | nil =>
      refine ⟨[], ?_, ?_, ?_, ?_, ?_, ?_⟩
      · rfl
      · exact Nat.le_of_lt room
      · simp [fillLoop]
      · simp [fillLoop, enabledFrom]
      · intro early
        exact absurd early (Nat.lt_irrefl i)
      · exact initially
  | cons port rest inductionHypothesis =>
      rw [fillLoop]
      cases enabled : port.enable with
      | false =>
          obtain ⟨batch, round⟩ := inductionHypothesis (i + 1) numOkay slots room initially
          rw [if_pos (by rfl)]
          exact ⟨batch, round.skip enabled (le_fillLoop rest (i + 1) numOkay slots)⟩
      | true =>
          rw [if_neg (by simp)]
          let stored := Function.update slots numOkay (fillSlot (slots numOkay) i port)
          have storedEnable : ∀ k < 4, (stored k).enableAll = 1 :=
            enableAll_stored room initially i port
          have storedMap : (List.range (numOkay + 1)).map stored =
              (List.range numOkay).map slots ++ [usedSlot (port, i)] :=
            range_stored room initially i port
          by_cases last : numOkay + 1 = 4
          · simp only [last, if_true]
            refine ⟨[(port, i)], ?_, ?_, ?_, ?_, ?_, storedEnable⟩
            · exact last.symm
            · exact Nat.le_refl 4
            · rw [← last]
              exact storedMap
            · have next : i + 1 - i = 1 := by omega
              rw [enabledFrom_cons, enabled, if_pos rfl, next]
              rfl
            · exact fun _ => rfl
          · simp only [last, if_false]
            obtain ⟨batch, round⟩ :=
              inductionHypothesis (i + 1) (numOkay + 1) stored (by omega) storedEnable
            exact ⟨(port, i) :: batch,
              round.take enabled (le_fillLoop rest (i + 1) (numOkay + 1) stored) storedMap⟩

/-! ## The slots of a kind of command -/

/-- The three kinds of commands. -/
inductive Setting where
  | priority
  | classification
  | powerLimitType
  deriving DecidableEq, Repr

def Setting.cmdId : Setting → UInt8
  | priority => 0x15
  | classification => 0x11
  | powerLimitType => 0x12

/-- The array with the values of a kind. -/
def Setting.data : Setting → Slot → UInt8
  | priority => Slot.priority
  | classification => Slot.enableAll
  | powerLimitType => Slot.limitType

/-- The value that a port is to get. -/
def Setting.value (setting : Setting) (port : ConfiguredPort) : UInt8 :=
  match setting with
  | priority => port.priority
  | classification => 1
  | powerLimitType => if port.powerBudget ≠ 0 then 2 else 1

/-- The four pairs of a port and a value. -/
def requestSlots (request : Request) : List (UInt8 × UInt8) :=
  (List.range 4).map fun k => (request.val.getD (2 * k + 2) 0xff, request.val.getD (2 * k + 3) 0xff)

/-- The slots of all commands of a kind, one command after the other. -/
def commandSlots (setting : Setting) (requests : List Request) : List (UInt8 × UInt8) :=
  (requests.filter fun request => request.val.head? == some setting.cmdId).flatMap requestSlots

def emptyPair : UInt8 × UInt8 :=
  (0xff, 0xff)

/-- The pair of an enabled port. -/
def usedPair (setting : Setting) (entry : ConfiguredPort × Nat) : UInt8 × UInt8 :=
  (UInt8.ofNat entry.2, setting.value entry.1)

theorem usedSlot_pair (setting : Setting) (entry : ConfiguredPort × Nat) :
    ((usedSlot entry).portId, setting.data (usedSlot entry)) = usedPair setting entry := by
  cases setting <;> rfl

/-- A round queues one command of each kind. -/
theorem commandSlots_round (setting : Setting) (slots : Slots) (later : List Request) :
    commandSlots setting
        ([poeSetPortPriority slots, poeCmdPortClassification slots,
          poeCmdPortPowerLimitType slots] ++ later) =
      (List.range 4).map (fun k => ((slots k).portId, setting.data (slots k))) ++
        commandSlots setting later := by
  cases setting <;> rfl

/-- The four slots of a command are the ones in use and then empty ones. -/
theorem range_clearFrom (setting : Setting) {count : Nat} (slots : Slots) (atMostFour : count ≤ 4) :
    (List.range 4).map (fun k =>
        ((clearFrom count slots k).portId, setting.data (clearFrom count slots k))) =
      ((List.range count).map slots).map (fun slot => (slot.portId, setting.data slot)) ++
        List.replicate (4 - count) emptyPair := by
  have split : List.range 4 = List.range count ++ (List.range (4 - count)).map (count + ·) := by
    rw [← List.range_add, Nat.add_sub_cancel' atMostFour]
  rw [split, List.map_append, List.map_map, List.map_map]
  congr 1
  · apply List.map_congr_left
    intro k below
    simp only [clearFrom, List.mem_range.mp below, if_true, Function.comp_apply]
  · rw [List.eq_replicate_iff]
    refine ⟨by simp, ?_⟩
    intro pair member
    obtain ⟨k, -, rfl⟩ := List.mem_map.mp member
    have behind : ¬count + k < count := by omega
    simp only [Function.comp_apply, clearFrom, behind, if_false]
    cases setting <;> rfl

theorem clearFrom_four (slots : Slots) (k : Nat) (inside : k < 4) :
    clearFrom 4 slots k = slots k :=
  if_pos inside

/-- The slots of a kind are the pairs of the enabled ports, and then empty ones. -/
theorem poetLoop_slots (setting : Setting) (ports : List ConfiguredPort) (i : Nat)
    (slots : Slots) (initially : ∀ k < 4, (slots k).enableAll = 1) :
    ∃ unused, commandSlots setting (poetLoop ports i slots) =
      (enabledFrom i (ports.drop i)).map (usedPair setting) ++
        List.replicate unused emptyPair := by
  -- each round starts closer to the end of the array
  induction remaining : ports.length - i using Nat.strong_induction_on generalizing i slots with
  | h remaining inductionHypothesis =>
      obtain ⟨batch, round⟩ := fillLoop_fills (ports.drop i) i 0 slots (by decide) initially
      have reached := le_fillLoop (ports.drop i) i 0 slots
      rw [poetLoop]
      generalize fillLoop (ports.drop i) i 0 slots = filled at round reached ⊢
      have stored : (List.range filled.numOkay).map filled.slots = batch.map usedSlot :=
        round.stored
      have pairs : ((List.range filled.numOkay).map filled.slots).map
          (fun slot => (slot.portId, setting.data slot)) = batch.map (usedPair setting) := by
        rw [stored, List.map_map]
        exact List.map_congr_left fun entry _ => usedSlot_pair setting entry
      have behind : (ports.drop i).drop (filled.i + 1 - i) = ports.drop (filled.i + 1) := by
        rw [List.drop_drop]
        congr 1
        omega
      have left := round.left
      rw [behind] at left
      by_cases more : filled.i + 1 < ports.length
      · have full : filled.numOkay = 4 := by
          apply round.full
          rw [List.length_drop]
          omega
        have kept : ∀ k < 4, (clearFrom filled.numOkay filled.slots k).enableAll = 1 := by
          intro k inside
          rw [full, clearFrom_four filled.slots k inside]
          exact round.enableAll k inside
        obtain ⟨unused, later⟩ := inductionHypothesis _ (by omega) (filled.i + 1) _ kept rfl
        refine ⟨unused, ?_⟩
        simp only [more, if_true]
        rw [commandSlots_round, range_clearFrom setting _ round.atMostFour, pairs, later, full,
          left, List.map_append]
        simp only [Nat.sub_self, List.replicate_zero, List.append_nil, List.append_assoc]
      · refine ⟨4 - filled.numOkay, ?_⟩
        simp only [more, if_false]
        have atEnd : ports.drop (filled.i + 1) = [] :=
          List.drop_eq_nil_of_le (Nat.not_lt.mp more)
        have only := commandSlots_round setting (clearFrom filled.numOkay filled.slots) []
        rw [List.append_nil] at only
        rw [only, range_clearFrom setting _ round.atMostFour, pairs, left, atEnd]
        simp [commandSlots, enabledFrom]

/-! ## The queue -/

/-- The frames of consecutive calls of `poe_cmd_queue`. -/
def framesOf (map : DialectMap) : UInt8 → List Request → List Frame
  | _, [] => []
  | cmdSeq, request :: rest =>
      buildFrame map (cmdSeq + 1) request :: framesOf map (cmdSeq + 1) rest

theorem queueAll_frames (map : DialectMap) (poe : Poe) (requests : List Request) :
    (queueAll map poe requests).1.cmdPending.map Cmd.cmd =
      poe.cmdPending.map Cmd.cmd ++ framesOf map poe.cmdSeq requests := by
  induction requests generalizing poe with
  | nil =>
      simp [queueAll, framesOf]
  | cons request rest inductionHypothesis =>
      have pending : (poeCmdQueue map poe request).1.cmdPending.map Cmd.cmd =
          poe.cmdPending.map Cmd.cmd ++ [buildFrame map (poe.cmdSeq + 1) request] := by
        simp only [poeCmdQueue]
        split <;> simp
      have seq : (poeCmdQueue map poe request).1.cmdSeq = poe.cmdSeq + 1 := by
        simp only [poeCmdQueue]
        split <;> rfl
      simp only [queueAll, framesOf]
      rw [inductionHypothesis, pending, seq, List.append_assoc]
      rfl

/-- The four pairs of a port and a value in a frame. -/
def frameSlots (frame : Frame) : List (UInt8 × UInt8) :=
  (List.range 4).map fun k =>
    (frame.toList.getD (2 * k + 2) 0xff, frame.toList.getD (2 * k + 3) 0xff)

/-- Bytes 2 to 10 of a frame are those of the request. -/
theorem buildFrame_getElem (map : DialectMap) (seq : UInt8) (request : Request) {i : Nat}
    (behind : 2 ≤ i) (inside : i < 11) :
    (buildFrame map seq request).toList.getD i 0xff = request.val.getD i 0xff := by
  have small : i < 12 := by omega
  have atI : (buildFrame map seq request)[i] = request.val.getD i 0xff := by
    simp only [buildFrame]
    rw [Vector.getElem_set_ne _ _ (by omega), Vector.getElem_set_ne _ _ (by omega),
      Vector.getElem_set_ne _ _ (by omega), Vector.getElem_ofFn]
  rw [← atI, List.getD_eq_getElem?_getD, List.getElem?_eq_getElem (by simpa using small),
    Option.getD_some, Vector.getElem_toList]

theorem frameSlots_buildFrame (map : DialectMap) (seq : UInt8) (request : Request) :
    frameSlots (buildFrame map seq request) = requestSlots request := by
  apply List.map_congr_left
  intro k inside
  have below := List.mem_range.mp inside
  rw [buildFrame_getElem map seq request (by omega) (by omega),
    buildFrame_getElem map seq request (by omega) (by omega)]

theorem framesOf_slots (map : DialectMap) (cmdSeq : UInt8) (requests : List Request) :
    (framesOf map cmdSeq requests).map frameSlots = requests.map requestSlots := by
  induction requests generalizing cmdSeq with
  | nil =>
      rfl
  | cons request rest inductionHypothesis =>
      rw [framesOf, List.map_cons, List.map_cons, frameSlots_buildFrame, inductionHypothesis]

/-! ## Batches -/

/-- An array of port configurations. -/
abbrev PortArray := { ports : List ConfiguredPort // ports.length ≤ maxPort }

/-- The used slots of a kind are the enabled ports in increasing order, each once, with its
value; an unused slot has no value, and no used slot behind it. -/
structure Batched (setting : Setting) (ports : List ConfiguredPort)
    (slots : List (UInt8 × UInt8)) : Prop where
  used : slots.filter (fun slot => slot.1 != 0xff) =
    ((ports.zipIdx).filter fun entry => entry.1.enable).map (usedPair setting)
  unused : ∀ slot ∈ slots, slot.1 = 0xff → slot.2 = 0xff
  behind : ∀ before slot after, slots = before ++ slot :: after → slot.1 = 0xff →
    ∀ later ∈ after, later.1 = 0xff

theorem usedPair_ne (setting : Setting) {ports : List ConfiguredPort}
    (small : ports.length ≤ maxPort) {entry : ConfiguredPort × Nat}
    (member : entry ∈ enabledFrom 0 ports) : (usedPair setting entry).1 ≠ 0xff := by
  have inside := List.mem_of_mem_filter member
  have below := (List.mem_zipIdx (x := entry.1) (i := entry.2) inside).2.1
  intro same
  have number := congrArg UInt8.toNat same
  simp only [usedPair, UInt8.toNat_ofNat', UInt8.reduceToNat] at number
  simp only [maxPort] at small
  omega

theorem batched_of_slots {setting : Setting} {ports : List ConfiguredPort}
    (small : ports.length ≤ maxPort) {slots : List (UInt8 × UInt8)} {unused : Nat}
    (shape : slots = (enabledFrom 0 ports).map (usedPair setting) ++
      List.replicate unused emptyPair) : Batched setting ports slots := by
  have numbered : ∀ slot ∈ (enabledFrom 0 ports).map (usedPair setting), slot.1 ≠ 0xff := by
    intro slot member
    obtain ⟨entry, isEnabled, rfl⟩ := List.mem_map.mp member
    exact usedPair_ne setting small isEnabled
  rw [shape]
  refine ⟨?_, ?_, ?_⟩
  · rw [List.filter_append, List.filter_eq_self.mpr, List.filter_eq_nil_iff.mpr,
      List.append_nil]
    · rfl
    · intro slot member
      rw [List.eq_of_mem_replicate member]
      decide
    · intro slot member
      exact bne_iff_ne.mpr (numbered slot member)
  · intro slot member none
    rcases List.mem_append.mp member with used | unused
    · exact absurd none (numbered slot used)
    · rw [List.eq_of_mem_replicate unused]
      rfl
  · intro before slot after split none later member
    -- the unused slot lies in the part behind the used ones
    rcases List.append_eq_append_iff.mp split with ⟨more, -, rest⟩ | ⟨more, used, rest⟩
    · have tail : later ∈ List.replicate unused emptyPair := by
        rw [rest]
        exact List.mem_append_right _ (List.mem_cons_of_mem _ member)
      rw [List.eq_of_mem_replicate tail]
      rfl
    · cases more with
      | nil =>
          have tail : later ∈ List.replicate unused emptyPair := by
            rw [List.nil_append] at rest
            rw [← rest]
            exact List.mem_cons_of_mem _ member
          rw [List.eq_of_mem_replicate tail]
          rfl
      | cons first more =>
          injection rest with isSlot
          refine absurd none (numbered slot ?_)
          rw [used, isSlot]
          exact List.mem_append_right _ List.mem_cons_self

/-- For every array of ports: `poet_setup` queues the frames of its requests, whose slots are
batched for each of the three kinds.  It is a total function, so it ends. -/
theorem poet_setup_batched (map : DialectMap) (poe : Poe) (ports : PortArray) (stack : Slots) :
    (poetSetup map poe ports.val stack).1.cmdPending.map Cmd.cmd =
        poe.cmdPending.map Cmd.cmd ++
          framesOf map poe.cmdSeq (poetSetupRequests ports.val stack) ∧
      (framesOf map poe.cmdSeq (poetSetupRequests ports.val stack)).map frameSlots =
        (poetSetupRequests ports.val stack).map requestSlots ∧
      ∀ setting : Setting,
        Batched setting ports.val
          (commandSlots setting (poetSetupRequests ports.val stack)) := by
  refine ⟨queueAll_frames map poe _, framesOf_slots map _ _, fun setting => ?_⟩
  obtain ⟨unused, shape⟩ :=
    poetLoop_slots setting ports.val 0 (initialSlots stack) fun _ _ => rfl
  rw [List.drop_zero] at shape
  exact batched_of_slots ports.property shape

end TfortisPack.RealtekPoe
