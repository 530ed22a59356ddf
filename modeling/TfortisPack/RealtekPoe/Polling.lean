import TfortisPack.RealtekPoe.Daemon

/-!
# The periodic poll

`state_timeout_cb` runs every two seconds and asks the controller for
everything the daemon reports.  It queues its commands whatever is still
pending; only `poe_stream_msg_cb` takes commands off the queue.  The module
gives the length of the queue after each of the three callbacks that drive
the daemon when no client calls it.
-/

namespace TfortisPack.RealtekPoe

open TfortisPack.Library

/-! ## Commands of a poll -/

/-- `poe_cmd_power_stats`. -/
def poeCmdPowerStats : Request :=
  ⟨[0x41], by simp⟩

/-- The commands whose only argument is a port or a group of ports. -/
def portRequest (cmdId : UInt8) (number : Nat) : Request :=
  ⟨[cmdId, 0x00, UInt8.ofNat number], by simp⟩

def poeCmd4PortStatus (group : Nat) : Request :=
  portRequest 0x43 group

def poeCmdPortPowerStats (port : Nat) : Request :=
  portRequest 0x44 port

def poeCmdPortConfig (port : Nat) : Request :=
  portRequest 0x48 port

def poeCmdPortExtConfig (port : Nat) : Request :=
  portRequest 0x49 port

/-- Consecutive calls of `poe_cmd_queue`. -/
def queueAll (map : DialectMap) : Poe → List Request → Poe × List Action
  | poe, [] => (poe, [])
  | poe, request :: rest =>
      let queued := poeCmdQueue map poe request
      let later := queueAll map queued.1 rest
      (later.1, queued.2.2 ++ later.2)

/-! ## The callback -/

/-- `config.port_count`; `load_port_config` turns larger numbers away. -/
abbrev PortCount := { count : Nat // count ≤ maxPort }

/-- The daemon with `state.ports[i].status_old`. -/
structure Poller where
  poe : Poe
  statusOld : Vector UInt8 maxPort

inductive PollAction where
  | queue (action : Action)
  /-- The line `realtek-poe: port %d changed: %s`. -/
  | portChanged (number : Nat) (statusStr : Option String)
  deriving DecidableEq

/-- The iteration of the last loop in `state_timeout_cb` for one port. -/
def pollPort (map : DialectMap) (poller : Poller) (port : Fin maxPort) :
    Poller × List PollAction :=
  let queued := queueAll map poller.poe
    [poeCmdPortConfig port, poeCmdPortExtConfig port, poeCmdPortPowerStats port]
  let poller := { poller with poe := queued.1 }
  let actions := queued.2.map .queue
  match poller.poe.telemetry.ports[port.val]? with
  | none => (poller, actions)
  | some entry =>
      if entry.status ≠ poller.statusOld.get port then
        ({ poller with statusOld := poller.statusOld.set port entry.status },
          actions ++ [.portChanged (port + 1) entry.statusStr])
      else (poller, actions)

/-- The iterations of that loop for a list of ports. -/
def pollPorts (map : DialectMap) : Poller → List (Fin maxPort) → Poller × List PollAction
  | poller, [] => (poller, [])
  | poller, port :: rest =>
      let polled := pollPort map poller port
      let later := pollPorts map polled.1 rest
      (later.1, polled.2 ++ later.2)

/-- The groups of four ports, `i / 4` for the multiples `i` of four below
`port_count`. -/
def portGroups (portCount : PortCount) : List Nat :=
  ((List.range portCount).filter (· % 4 = 0)).map (· / 4)

def stateTimeoutCb (map : DialectMap) (portCount : PortCount) (poller : Poller) :
    Poller × List PollAction :=
  let queued := queueAll map poller.poe
    (poeCmdPowerStats :: (portGroups portCount).map poeCmd4PortStatus)
  let polled := pollPorts map { poller with poe := queued.1 }
    (List.ofFn (Fin.castLE portCount.property))
  (polled.1, queued.2.map .queue ++ polled.2)

/-- What drives the daemon while no client calls it.  A reply that is lost is a
frame that does not arrive. -/
inductive PollInput where
  /-- `state_timeout` expires. -/
  | stateTimeout
  | frame (reply : Frame)
  /-- `mcu_error_timeout` expires. -/
  | mcuTimeout

/-- The daemon on its own. -/
def pollDaemon (map : DialectMap) (portCount : PortCount) :
    Machine Poller PollInput PollAction where
  step state input :=
    match input with
    | .stateTimeout => stateTimeoutCb map portCount state
    | .frame reply =>
        let consumed := poeStreamMsgCb map state.poe reply
        ({ state with poe := consumed.1 }, consumed.2.map .queue)
    | .mcuTimeout =>
        let cleared := mcuClearTimeout state.poe
        ({ state with poe := cleared.1 }, cleared.2.map .queue)

/-- The zero-initialised static state. -/
def initialPoller : Poller where
  poe := initial
  statusOld := Vector.replicate maxPort 0

/-! ## Length of the queue -/

/-- The number of commands waiting. -/
def Poller.pending (state : Poller) : Nat :=
  state.poe.cmdPending.length

/-- The number of commands of one poll. -/
def pollLength (portCount : PortCount) : Nat :=
  1 + (portCount + 3) / 4 + 3 * portCount

section Length

variable (map : DialectMap)

theorem poeCmdQueue_length (poe : Poe) (request : Request) :
    (poeCmdQueue map poe request).1.cmdPending.length = poe.cmdPending.length + 1 := by
  simp only [poeCmdQueue]
  split <;> simp

theorem queueAll_length (poe : Poe) (requests : List Request) :
    (queueAll map poe requests).1.cmdPending.length =
      poe.cmdPending.length + requests.length := by
  induction requests generalizing poe with
  | nil =>
      rfl
  | cons request rest inductionHypothesis =>
      simp only [queueAll, List.length_cons]
      rw [inductionHypothesis, poeCmdQueue_length]
      omega

theorem pollPort_pending (state : Poller) (port : Fin maxPort) :
    (pollPort map state port).1.pending = state.pending + 3 := by
  have queued := queueAll_length map state.poe
    [poeCmdPortConfig port, poeCmdPortExtConfig port, poeCmdPortPowerStats port]
  simp only [pollPort]
  split
  · exact queued
  · split <;> exact queued

theorem pollPorts_pending (state : Poller) (ports : List (Fin maxPort)) :
    (pollPorts map state ports).1.pending = state.pending + 3 * ports.length := by
  induction ports generalizing state with
  | nil =>
      rfl
  | cons port rest inductionHypothesis =>
      simp only [pollPorts, List.length_cons]
      rw [inductionHypothesis, pollPort_pending]
      omega

theorem portGroups_length (portCount : PortCount) :
    (portGroups portCount).length = (portCount + 3) / 4 := by
  obtain ⟨count, _⟩ := portCount
  simp only [portGroups, List.length_map]
  clear * -
  induction count with
  | zero =>
      rfl
  | succ count inductionHypothesis =>
      rw [List.range_succ, List.filter_append, List.length_append, inductionHypothesis]
      by_cases multiple : count % 4 = 0
      · simp only [List.filter_cons, multiple, decide_true, if_true, List.filter_nil,
          List.length_singleton]
        omega
      · simp only [List.filter_cons, multiple, decide_false, Bool.false_eq_true, if_false,
          List.filter_nil, List.length_nil]
        omega

/-- A poll adds its commands to whatever is pending. -/
theorem stateTimeoutCb_pending (portCount : PortCount) (state : Poller) :
    (stateTimeoutCb map portCount state).1.pending = state.pending + pollLength portCount := by
  have queued := queueAll_length map state.poe
    (poeCmdPowerStats :: (portGroups portCount).map poeCmd4PortStatus)
  simp only [List.length_cons, List.length_map, portGroups_length] at queued
  simp only [stateTimeoutCb, pollLength]
  rw [pollPorts_pending, List.length_ofFn]
  simp only [Poller.pending, queued]
  omega

theorem poeStreamMsgCb_length (poe : Poe) (reply : Frame) :
    (poeStreamMsgCb map poe reply).1.cmdPending.length ≤ poe.cmdPending.length := by
  have outcome := poeReplyConsume_cases map poe reply
  simp only [poeStreamMsgCb]
  generalize poeReplyConsume map poe reply = result at outcome ⊢
  cases outcome with
  | unsolicited empty =>
      exact Nat.le_refl _
  | dropped queue only accepted =>
      rw [queue]
      exact Nat.le_succ _
  | held queue intact rejected waiting =>
      exact Nat.le_refl _
  | retried queue intact rejected free left =>
      rw [queue]
      exact Nat.le_refl _

theorem mcuClearTimeout_cmdPending (poe : Poe) :
    (mcuClearTimeout poe).1.cmdPending = poe.cmdPending := by
  simp only [mcuClearTimeout]
  split <;> rfl

end Length

/-! ## The backlog -/

/-- An expiry of the poll timer finds at most `kept` commands pending. -/
def PollsInTime (kept : Nat) (state : Poller) (input : PollInput) : Prop :=
  input = .stateTimeout → state.pending ≤ kept

/-- Whatever is still pending when the poll timer expires stays ahead of a whole
poll: the queue keeps within the commands of one poll and `kept` more exactly
in the runs in which no expiry finds more than `kept` commands pending. -/
theorem backlog_bounded_iff (map : DialectMap) (portCount : PortCount) (kept : Nat)
    (state : Poller) (short : state.pending ≤ kept + pollLength portCount)
    (inputs : List PollInput) :
    (pollDaemon map portCount).AllStates
        (fun state => state.pending ≤ kept + pollLength portCount) state inputs ↔
      (pollDaemon map portCount).AllSteps (PollsInTime kept) state inputs := by
  refine Machine.allStates_iff_allSteps (fun _ _ (_ : True) => trivial) ?_ trivial short
  intro state input _ within
  cases input with
  | stateTimeout =>
      have grows := stateTimeoutCb_pending map portCount state
      have next : ((pollDaemon map portCount).next state .stateTimeout).pending =
          state.pending + pollLength portCount := grows
      rw [next]
      constructor
      · intro bounded _
        omega
      · intro inTime
        have few := inTime rfl
        omega
  | frame reply =>
      have shrinks := poeStreamMsgCb_length map state.poe reply
      refine ⟨fun _ => (nomatch ·), fun _ => ?_⟩
      exact Nat.le_trans shrinks within
  | mcuTimeout =>
      have same := mcuClearTimeout_cmdPending state.poe
      refine ⟨fun _ => (nomatch ·), fun _ => ?_⟩
      exact Nat.le_trans (Nat.le_of_eq (congrArg List.length same)) within

/-- The first poll of a switch with one port. -/
theorem backlog_bounded_first_poll :
    initialPoller.pending ≤ 0 + pollLength ⟨1, by decide⟩ ∧
      (pollDaemon id ⟨1, by decide⟩).AllStates
        (fun state => state.pending ≤ 0 + pollLength ⟨1, by decide⟩)
        initialPoller [.stateTimeout, .mcuTimeout] := by
  have short : initialPoller.pending ≤ 0 + pollLength ⟨1, by decide⟩ := Nat.zero_le _
  refine ⟨short, (backlog_bounded_iff id ⟨1, by decide⟩ 0 initialPoller short _).mpr ?_⟩
  exact ⟨fun _ => Nat.le_refl 0, (nomatch ·), trivial⟩

/-- A run of polls none of which is answered. -/
theorem unanswered_pending (map : DialectMap) (portCount : PortCount) (state : Poller)
    (polls : Nat) :
    ((pollDaemon map portCount).final state
        (List.replicate polls .stateTimeout)).pending =
      state.pending + polls * pollLength portCount := by
  induction polls generalizing state with
  | zero =>
      simp [Machine.final]
  | succ polls inductionHypothesis =>
      rw [List.replicate_succ]
      have next : ((pollDaemon map portCount).next state .stateTimeout).pending =
          state.pending + pollLength portCount :=
        stateTimeoutCb_pending map portCount state
      calc
        ((pollDaemon map portCount).final ((pollDaemon map portCount).next state .stateTimeout)
            (List.replicate polls .stateTimeout)).pending
            = ((pollDaemon map portCount).next state .stateTimeout).pending +
                polls * pollLength portCount := inductionHypothesis _
        _ = state.pending + (polls + 1) * pollLength portCount := by
          rw [next, Nat.succ_mul]
          omega

/-- Lost replies let the queue grow without bound. -/
theorem no_backlog_bound :
    ¬∃ bound : PortCount → Nat, ∀ map portCount inputs,
      (pollDaemon map portCount).AllStates
        (fun state => state.pending ≤ bound portCount) initialPoller inputs := by
  rintro ⟨bound, within⟩
  let one : PortCount := ⟨1, by decide⟩
  let polls := bound one + 1
  have last := (within id one (List.replicate polls .stateTimeout)).final
  have grown := unanswered_pending id one initialPoller polls
  have empty : initialPoller.pending = 0 := rfl
  have length : pollLength one = 5 := by simp [pollLength, one]
  simp only [grown, empty, length, polls] at last
  omega

end TfortisPack.RealtekPoe
