import TfortisPack.RealtekPoe.Daemon

/-!
# Accesses to the tables

`poe_reply_consume` compares the command of a reply with the size of
`reply_handler` and lets the size itself through.  Of the handlers that index
`state.ports`, only `poe_reply_4_port_status` compares the port with
`MAX_PORT`.
-/

namespace TfortisPack.RealtekPoe

open TfortisPack.Library

variable {map : DialectMap}

/-- The access stays in its table. -/
def InBounds : Action → Prop
  | .handlerIndexed index => index < replyHandlerSize
  | .portIndexed index => index < maxPort
  | _ => True

/-- An intact reply to the head of the queue, either for the first command
behind `reply_handler` or for one of the handlers that do not check the port. -/
def Stray (map : DialectMap) (poe : Poe) (reply : Frame) : Prop :=
  ∃ cmd rest, poe.cmdPending = cmd :: rest ∧ ChecksumOk reply ∧ ¬Rejects reply ∧
    Answers map reply cmd ∧
    (replyId map reply = 0x4a ∨
      (replyId map reply = 0x44 ∨ replyId map reply = 0x49) ∧
        maxPort ≤ (portByte reply).toNat)

/-! ## Handlers -/

theorem inBounds_reply4PortLoop (reply : Frame) (left : Nat) (within : left ≤ 4)
    (telemetry : Telemetry) :
    ∀ action ∈ (reply4PortLoop reply left within telemetry).2, InBounds action := by
  induction left generalizing telemetry with
  | zero =>
      simp [reply4PortLoop]
  | succ left inductionHypothesis =>
      simp only [reply4PortLoop]
      split
      · exact inductionHypothesis (by omega) telemetry
      · split
        · simp
        · rename_i inRange
          intro action member
          rcases List.mem_cons.mp member with rfl | later
          · exact Nat.lt_of_not_le inRange
          · exact inductionHypothesis (by omega) _ action later

/-- What a handler accesses. -/
theorem inBounds_replyHandler_iff {index : UInt8}
    {handler : Frame → Telemetry → Telemetry × List Action}
    (present : replyHandler index = some handler) (reply : Frame) (telemetry : Telemetry) :
    (∀ action ∈ (handler reply telemetry).2, InBounds action) ↔
      ((index = 0x44 ∨ index = 0x49) → (portByte reply).toNat < maxPort) := by
  unfold replyHandler at present
  split at present
  · rename_i isStatus
    obtain rfl := Option.some.inj present
    simp [poeReplyStatus, isStatus]
  · split at present
    · rename_i isPower
      obtain rfl := Option.some.inj present
      simp [poeReplyPowerStats, isPower]
    · split at present
      · rename_i isFour
        obtain rfl := Option.some.inj present
        refine ⟨fun _ other => ?_, fun _ => inBounds_reply4PortLoop reply 4 _ telemetry⟩
        rw [isFour] at other
        exact absurd other (by decide)
      · split at present
        · rename_i isStats
          obtain rfl := Option.some.inj present
          simp [poeReplyPortPowerStats, isStats, InBounds, portByte]
        · split at present
          · rename_i isConfig
            obtain rfl := Option.some.inj present
            simp [poeReplyPortConfig, isConfig]
          · split at present
            · rename_i isExt
              obtain rfl := Option.some.inj present
              simp [poeReplyPortExtConfig, isExt, InBounds, portByte]
            · cases present

theorem dispatchReply_other {cmd : Cmd} {reply : Frame} (other : ¬Answers map reply cmd)
    (telemetry : Telemetry) : (dispatchReply map cmd reply telemetry).2 = [] := by
  simp only [dispatchReply]
  split
  · rfl
  · rename_i sameId
    rw [if_pos]
    intro sameSeq
    exact other ⟨Decidable.not_not.mp fun different => sameId (Or.inl different), sameSeq⟩

theorem dispatchReply_answer {cmd : Cmd} {reply : Frame} (answers : Answers map reply cmd)
    (telemetry : Telemetry) :
    (dispatchReply map cmd reply telemetry).2 =
      if (replyId map reply).toNat > replyHandlerSize then []
      else .handlerIndexed (replyId map reply).toNat ::
        match replyHandler (replyId map reply) with
        | none => []
        | some handler => (handler reply telemetry).2 := by
  obtain ⟨sameId, sameSeq⟩ := answers
  simp only [dispatchReply, ← sameId, ne_eq, not_true_eq_false, false_or, sameSeq, if_false]
  rw [← replyId]
  split
  · rfl
  · cases replyHandler (replyId map reply) <;> rfl

theorem toNat_eq_of_eq_literal {id : UInt8} {value : Nat} (small : value < 256) :
    id = UInt8.ofNat value ↔ id.toNat = value := by
  rw [← UInt8.toNat_inj, UInt8.toNat_ofNat_of_lt' small]

theorem replyHandler_of_unchecked {id : UInt8} (isUnchecked : id = 0x44 ∨ id = 0x49) :
    ∃ handler, replyHandler id = some handler := by
  rcases isUnchecked with rfl | rfl
  · exact ⟨_, rfl⟩
  · exact ⟨_, rfl⟩

theorem inBounds_dispatchReply_iff (cmd : Cmd) (reply : Frame) (telemetry : Telemetry) :
    (∀ action ∈ (dispatchReply map cmd reply telemetry).2, InBounds action) ↔
      ¬(Answers map reply cmd ∧
        (replyId map reply = 0x4a ∨
          (replyId map reply = 0x44 ∨ replyId map reply = 0x49) ∧
            maxPort ≤ (portByte reply).toNat)) := by
  by_cases answers : Answers map reply cmd
  · rw [dispatchReply_answer answers]
    simp only [answers, true_and]
    generalize replyId map reply = id
    have isSize : id = 0x4a ↔ id.toNat = replyHandlerSize :=
      toNat_eq_of_eq_literal (by decide)
    have isStats : id = 0x44 ↔ id.toNat = 0x44 := toNat_eq_of_eq_literal (by decide)
    have isExt : id = 0x49 ↔ id.toNat = 0x49 := toNat_eq_of_eq_literal (by decide)
    have size : replyHandlerSize = 0x4a := rfl
    by_cases behind : id.toNat > replyHandlerSize
    · rw [if_pos behind, isSize, isStats, isExt]
      simp only [List.not_mem_nil, false_imp_iff, implies_true, true_iff]
      omega
    · rw [if_neg behind, List.forall_mem_cons]
      have first : InBounds (.handlerIndexed id.toNat) ↔ id ≠ 0x4a := by
        rw [InBounds, ne_eq, isSize]
        omega
      rw [first]
      cases handled : replyHandler id with
      | none =>
          have checked : ¬(id = 0x44 ∨ id = 0x49) := by
            intro isUnchecked
            obtain ⟨handler, present⟩ := replyHandler_of_unchecked isUnchecked
            rw [handled] at present
            cases present
          simp [checked]
      | some handler =>
          rw [inBounds_replyHandler_iff handled]
          constructor
          · rintro ⟨notSize, bounded⟩ (isBehind | ⟨isUnchecked, far⟩)
            · exact notSize isBehind
            · exact Nat.not_lt.mpr far (bounded isUnchecked)
          · intro near
            refine ⟨fun isBehind => near (Or.inl isBehind), fun isUnchecked => ?_⟩
            by_contra far
            exact near (Or.inr ⟨isUnchecked, Nat.le_of_not_lt far⟩)
  · rw [dispatchReply_other answers]
    simp [answers]

/-! ## Replies -/

theorem inBounds_poeReplyConsume_iff (poe : Poe) (reply : Frame) :
    (∀ action ∈ (poeReplyConsume map poe reply).2, InBounds action) ↔ ¬Stray map poe reply := by
  cases queue : poe.cmdPending with
  | nil =>
      simp [poeReplyConsume, Stray, queue]
  | cons cmd rest =>
      have head : Stray map poe reply ↔ ChecksumOk reply ∧ ¬Rejects reply ∧
          Answers map reply cmd ∧
          (replyId map reply = 0x4a ∨
            (replyId map reply = 0x44 ∨ replyId map reply = 0x49) ∧
              maxPort ≤ (portByte reply).toNat) := by
        constructor
        · rintro ⟨other, others, isQueue, stray⟩
          rw [queue] at isQueue
          obtain ⟨rfl, rfl⟩ := List.cons.inj isQueue
          exact stray
        · intro stray
          exact ⟨cmd, rest, queue, stray⟩
      rw [head]
      simp only [poeReplyConsume, queue]
      by_cases intact : ChecksumOk reply
      · have sum : ¬reply[11] ≠ checksum reply := by
          simpa using (checksum_iff reply).mpr intact
        rw [if_neg sum]
        by_cases rejected : Rejects reply
        · have mask : reply[0] &&& 0xf0 = 0xf0 := rejected
          rw [if_pos mask]
          simp only [handlePoeF0Reply, rejected, not_true_eq_false, false_and, and_false,
            not_false_eq_true, iff_true]
          split
          · simp [InBounds]
          · split <;> simp [InBounds]
        · have mask : ¬reply[0] &&& 0xf0 = 0xf0 := rejected
          rw [if_neg mask]
          simp only [intact, rejected, not_false_eq_true, true_and]
          rw [← inBounds_dispatchReply_iff cmd reply poe.telemetry]
          simp [InBounds]
      · have sum : reply[11] ≠ checksum reply := fun same =>
          intact ((checksum_iff reply).mp same)
        rw [if_pos sum]
        simp [intact, InBounds]

theorem inBounds_poeCmdNext (poe : Poe) : ∀ action ∈ poeCmdNext poe, InBounds action := by
  unfold poeCmdNext
  split
  · simp
  · unfold poeCmdSend
    split <;> simp [InBounds]

/-! ## Runs -/

/-- The step receives no stray reply. -/
def NoStray (map : DialectMap) (poe : Poe) : Input → Prop
  | .frame reply => ¬Stray map poe reply
  | _ => True

theorem inBounds_emit_iff (poe : Poe) (input : Input) :
    (∀ action ∈ (daemon map).emit poe input, InBounds action) ↔ NoStray map poe input := by
  cases input with
  | queue request =>
      simp only [Machine.emit, daemon, poeCmdQueue, NoStray, iff_true]
      split
      · simp only [poeCmdSend]
        split <;> simp [InBounds]
      · simp [InBounds]
  | frame reply =>
      simp only [Machine.emit, daemon, poeStreamMsgCb, NoStray, List.forall_mem_append]
      rw [inBounds_poeReplyConsume_iff]
      exact and_iff_left (inBounds_poeCmdNext _)
  | timerExpired =>
      simp only [Machine.emit, daemon, mcuClearTimeout, NoStray, iff_true]
      split
      · exact inBounds_poeCmdNext _
      · simp

/-- Along every run, whatever has been queued: all accesses stay in their tables
exactly if no received frame is stray. -/
theorem accesses_in_bounds_iff (map : DialectMap) (poe : Poe) (inputs : List Input) :
    (∀ action ∈ (daemon map).outputs poe inputs, InBounds action) ↔
      (daemon map).AllSteps (NoStray map) poe inputs :=
  Machine.forall_outputs_iff inBounds_emit_iff poe inputs

/-- A reply with the power statistics of a port, with its checksum. -/
def powerStatsReply (seq port : UInt8) : Frame :=
  withChecksum <| Vector.ofFn fun i =>
    if i.val = 0 then 0x44 else if i.val = 1 then seq else if i.val = 2 then port else 0

/-- The poll timer asks for port 0 and the reply names port 24. -/
theorem stray_port_written :
    ¬∀ (map : DialectMap) (inputs : List Input),
      ∀ action ∈ (daemon map).outputs initial inputs, InBounds action := by
  intro always
  have indexed : Action.portIndexed 24 ∈ (daemon fun _ => 0).outputs initial
      [.queue ⟨[0x44, 0, 0], by decide⟩, .frame (powerStatsReply 1 24)] := by
    decide +kernel
  have bounded : 24 < maxPort := always _ _ _ indexed
  exact absurd bounded (by decide)

end TfortisPack.RealtekPoe
