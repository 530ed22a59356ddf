import TfortisPack.RealtekPoe.Daemon

/-!
# The command queue

One invariant ties the queue to everything the daemon has done so far.  It
counts the transmissions of the head against its retries: the head has been
sent once more often than it was rejected, unless it still waits to be sent.
Between the operations of one step the head may wait although no timer is
pending; at the end of each step it waits exactly for the timer.
-/

namespace TfortisPack.RealtekPoe

open TfortisPack.Library

/-! ## What a trace records -/

/-- The command that an action writes to the line. -/
def Action.writtenSerial : Action → Option Nat
  | .written serial _ => some serial
  | _ => none

def Action.enqueuedSerial : Action → Option Nat
  | .enqueued serial => some serial
  | _ => none

/-- The action takes the head off the queue or puts it back. -/
def Action.movesHead : Action → Bool
  | .unlinked _ => true
  | .relinked _ => true
  | _ => false

/-- The transmissions, in order. -/
def writes (trace : List Action) : List Nat :=
  trace.filterMap Action.writtenSerial

/-- The commands queued, in order. -/
def enqueues (trace : List Action) : List Nat :=
  trace.filterMap Action.enqueuedSerial

/-- The command was written, and the head has not moved since. -/
def WrittenAsHead (trace : List Action) (serial : Nat) : Prop :=
  ∃ before frame after,
    trace = before ++ .written serial frame :: after ∧
      ∀ action ∈ after, action.movesHead = false

/-- A freed command is neither written nor freed again. -/
def neverAgain : Monitor (List Nat) Action where
  track gone action :=
    match action with
    | .freed serial => serial :: gone
    | _ => gone
  allow gone action :=
    match action with
    | .freed serial => serial ∉ gone
    | .written serial _ => serial ∉ gone
    | _ => True

/-! ## The invariant -/

/-- A queue, the number of allocations and the trace; `sent` is whether the head
has been written since it became the head. -/
structure Disciplined (sent : Bool) (queue : List Cmd) (allocated : Nat)
    (trace : List Action) : Prop where
  numbered : enqueues trace = List.range allocated
  ascending : (queue.map Cmd.serial).Pairwise (· < ·)
  young : ∀ cmd ∈ queue, cmd.serial < allocated
  waiting : ∀ cmd ∈ queue.tail, cmd.numRetries = 0
  ordered : (writes trace).Pairwise (· ≤ ·)
  behind : ∀ serial ∈ writes trace, ∀ cmd ∈ queue, serial ≤ cmd.serial
  known : ∀ serial ∈ writes trace, serial < allocated
  limited : ∀ serial, (writes trace).count serial ≤ maxRetries + 1
  head :
    ∀ cmd rest, queue = cmd :: rest →
      cmd.numRetries ≤ maxRetries ∧
        (writes trace).count cmd.serial = cmd.numRetries + if sent then 1 else 0
  gone :
    ∀ serial ∈ neverAgain.after [] trace,
      serial < allocated ∧ ∀ cmd ∈ queue, serial < cmd.serial
  once : neverAgain.Accepts [] trace
  since :
    sent = true → ∀ cmd rest, queue = cmd :: rest → WrittenAsHead trace cmd.serial

section Operations

variable {sent : Bool} {queue rest : List Cmd} {cmd : Cmd} {allocated : Nat}
variable {trace : List Action}

theorem writes_append (first second : List Action) :
    writes (first ++ second) = writes first ++ writes second :=
  List.filterMap_append

theorem enqueues_append (first second : List Action) :
    enqueues (first ++ second) = enqueues first ++ enqueues second :=
  List.filterMap_append

theorem WrittenAsHead.append {serial : Nat} {later : List Action}
    (written : WrittenAsHead trace serial)
    (still : ∀ action ∈ later, action.movesHead = false) :
    WrittenAsHead (trace ++ later) serial := by
  obtain ⟨before, frame, after, rfl, quiet⟩ := written
  refine ⟨before, frame, after ++ later, by simp, ?_⟩
  intro action member
  rcases List.mem_append.mp member with inAfter | inLater
  · exact quiet action inAfter
  · exact still action inLater

/-- Commands behind the head have never been written. -/
theorem Disciplined.count_tail (disciplined : Disciplined sent (cmd :: rest) allocated trace)
    {other : Cmd} (member : other ∈ rest) : (writes trace).count other.serial = 0 := by
  apply List.count_eq_zero_of_not_mem
  intro written
  have atMost := disciplined.behind other.serial written cmd List.mem_cons_self
  have above := (List.pairwise_cons.mp disciplined.ascending).1 other.serial
    (List.mem_map_of_mem member)
  omega

/-- Actions that neither write, free nor queue a command. -/
structure Silent (later : List Action) : Prop where
  writes : writes later = []
  enqueues : enqueues later = []
  track : ∀ gone, neverAgain.after gone later = gone
  allow : ∀ gone, neverAgain.Accepts gone later

theorem Disciplined.silent {later : List Action}
    (disciplined : Disciplined sent queue allocated trace) (silent : Silent later)
    (still : sent = true → ∀ action ∈ later, action.movesHead = false) :
    Disciplined sent queue allocated (trace ++ later) := by
  have sameWrites : writes (trace ++ later) = writes trace := by
    rw [writes_append, silent.writes, List.append_nil]
  have sameGone : neverAgain.after [] (trace ++ later) = neverAgain.after [] trace := by
    rw [Monitor.after_append, silent.track]
  exact
    { numbered := by
        rw [enqueues_append, silent.enqueues, List.append_nil]
        exact disciplined.numbered
      ascending := disciplined.ascending
      young := disciplined.young
      waiting := disciplined.waiting
      ordered := sameWrites ▸ disciplined.ordered
      behind := sameWrites ▸ disciplined.behind
      known := sameWrites ▸ disciplined.known
      limited := sameWrites ▸ disciplined.limited
      head := sameWrites ▸ disciplined.head
      gone := sameGone ▸ disciplined.gone
      once := (Monitor.accepts_append _ _ _).mpr ⟨disciplined.once, silent.allow _⟩
      since := fun isSent cmd rest shape =>
        (disciplined.since isSent cmd rest shape).append (still isSent) }

/-- `ustream_write` of the waiting head. -/
theorem Disciplined.send (disciplined : Disciplined false (cmd :: rest) allocated trace) :
    Disciplined true (cmd :: rest) allocated (trace ++ [.written cmd.serial cmd.cmd]) := by
  have newWrites : writes (trace ++ [.written cmd.serial cmd.cmd]) =
      writes trace ++ [cmd.serial] :=
    writes_append _ _
  have sameGone : neverAgain.after [] (trace ++ [.written cmd.serial cmd.cmd]) =
      neverAgain.after [] trace := by
    rw [Monitor.after_append]
    rfl
  obtain ⟨few, sent⟩ := disciplined.head cmd rest rfl
  simp only [Bool.false_eq_true, if_false, Nat.add_zero] at sent
  refine
    { numbered := ?_, ascending := disciplined.ascending, young := disciplined.young
      waiting := disciplined.waiting, ordered := ?_, behind := ?_
      known := ?_, limited := ?_, head := ?_, gone := ?_, once := ?_, since := ?_ }
  · rw [enqueues_append]
    exact (List.append_nil _).trans disciplined.numbered
  · rw [newWrites, List.pairwise_append]
    refine ⟨disciplined.ordered, List.pairwise_singleton _ _, ?_⟩
    intro serial old newSerial isNew
    obtain rfl : newSerial = cmd.serial := by simpa using isNew
    exact disciplined.behind serial old cmd List.mem_cons_self
  · rw [newWrites]
    intro serial written other inQueue
    rcases List.mem_append.mp written with old | isNew
    · exact disciplined.behind serial old other inQueue
    · obtain rfl : serial = cmd.serial := by simpa using isNew
      rcases List.mem_cons.mp inQueue with rfl | later
      · exact Nat.le_refl _
      · exact Nat.le_of_lt ((List.pairwise_cons.mp disciplined.ascending).1 other.serial
          (List.mem_map_of_mem later))
  · rw [newWrites]
    intro serial written
    rcases List.mem_append.mp written with old | isNew
    · exact disciplined.known serial old
    · obtain rfl : serial = cmd.serial := by simpa using isNew
      exact disciplined.young cmd List.mem_cons_self
  · rw [newWrites]
    intro serial
    rw [List.count_append]
    by_cases same : serial = cmd.serial
    · subst same
      rw [sent, List.count_singleton_self]
      omega
    · rw [List.count_singleton, if_neg (by simpa using Ne.symm same)]
      exact disciplined.limited serial
  · rw [newWrites]
    intro first others shape
    obtain ⟨rfl, rfl⟩ : cmd = first ∧ rest = others := by simpa using shape
    refine ⟨few, ?_⟩
    rw [List.count_append, sent, List.count_singleton_self]
    rfl
  · rw [sameGone]
    exact disciplined.gone
  · refine (Monitor.accepts_append _ _ _).mpr ⟨disciplined.once, ?_, trivial⟩
    intro isGone
    exact Nat.lt_irrefl _ ((disciplined.gone _ isGone).2 cmd List.mem_cons_self)
  · intro _ first others shape
    obtain ⟨rfl, rfl⟩ : cmd = first ∧ rest = others := by simpa using shape
    exact ⟨trace, cmd.cmd, [], rfl, by simp⟩

/-- The head is taken off and freed. -/
theorem Disciplined.drop (disciplined : Disciplined sent (cmd :: rest) allocated trace) :
    Disciplined false rest allocated (trace ++ [.unlinked cmd.serial, .freed cmd.serial]) := by
  have sameWrites : writes (trace ++ [.unlinked cmd.serial, .freed cmd.serial]) =
      writes trace := by
    rw [writes_append]
    exact List.append_nil _
  have newGone : neverAgain.after [] (trace ++ [.unlinked cmd.serial, .freed cmd.serial]) =
      cmd.serial :: neverAgain.after [] trace := by
    rw [Monitor.after_append]
    rfl
  obtain ⟨below, ascending⟩ := List.pairwise_cons.mp disciplined.ascending
  refine
    { numbered := ?_, ascending := ascending, young := ?_, waiting := ?_, ordered := ?_
      behind := ?_, known := ?_, limited := ?_, head := ?_, gone := ?_, once := ?_, since := ?_ }
  · rw [enqueues_append]
    exact (List.append_nil _).trans disciplined.numbered
  · exact fun other member => disciplined.young other (List.mem_cons_of_mem _ member)
  · exact fun other member => disciplined.waiting other (List.mem_of_mem_tail member)
  · rw [sameWrites]
    exact disciplined.ordered
  · rw [sameWrites]
    exact fun serial written other member =>
      disciplined.behind serial written other (List.mem_cons_of_mem _ member)
  · rw [sameWrites]
    exact disciplined.known
  · rw [sameWrites]
    exact disciplined.limited
  · rw [sameWrites]
    intro first others shape
    have member : first ∈ rest := by simp [shape]
    have untouched : first.numRetries = 0 := disciplined.waiting first member
    rw [untouched, disciplined.count_tail member]
    exact ⟨Nat.zero_le _, rfl⟩
  · rw [newGone]
    intro serial isGone
    rcases List.mem_cons.mp isGone with rfl | old
    · refine ⟨disciplined.young cmd List.mem_cons_self, fun other member => ?_⟩
      exact below other.serial (List.mem_map_of_mem member)
    · obtain ⟨young, under⟩ := disciplined.gone serial old
      exact ⟨young, fun other member => under other (List.mem_cons_of_mem _ member)⟩
  · refine (Monitor.accepts_append _ _ _).mpr ⟨disciplined.once, trivial, ?_, trivial⟩
    intro isGone
    exact Nat.lt_irrefl _ ((disciplined.gone _ isGone).2 cmd List.mem_cons_self)
  · intro impossible
    exact absurd impossible Bool.false_ne_true

end Operations

/-! ## Steps and runs -/

variable {poe : Poe} {trace : List Action}

end TfortisPack.RealtekPoe
