import TfortisPack.Autorestart.PortModule

/-!
# The verdict of `ping`

`ping` sends an echo request and then looks at whatever its raw socket
receives.  It knows a reply by the address of the sender and by the bytes at
the place of the identifier behind an IP header without options.
-/

namespace TfortisPack.Autorestart

/-! ## The socket -/

/-- What `recvfrom` yields: the address of the sender and the datagram with its IP header;
`stack` is what the buffer holds before. -/
structure Datagram where
  fromAddr : UInt32
  bytes : List UInt8
  stack : Nat → UInt8

/-- What a call of `select` returns for. -/
inductive Arrival where
  | selectError
  /-- The socket is readable; with nothing received `recvfrom` fails. -/
  | readable (received : Option Datagram)

/-- An arrival, `wait` microseconds after `select` is called. -/
structure Delivery where
  wait : Nat
  arrival : Arrival

/-- The two bytes of `icd_id`. -/
abbrev ReplyId := UInt8 × UInt8

/-- `sizeof(ip_pkt_t)`: an IP header, a `struct icmp` and the data. -/
def sizeofIpPkt : Nat := 20 + 28 + 64

/-- A byte of `ip_pkt` after `recvfrom`. -/
def Datagram.ipPkt (datagram : Datagram) (i : Nat) : UInt8 :=
  (datagram.bytes.take sizeofIpPkt).getD i (datagram.stack i)

/-! ## The loop -/

/-- `get_cur_time_ms`, for a time in microseconds. -/
def getCurTimeMs (time : Nat) : Nat :=
  u32 (time / 1000)

/-- `timeout` of `port_runTestPing`. -/
def pingTimeout : Nat := 1500

/-- `tv`, in microseconds. -/
def selectTimeout : Nat := 1000500

def Datagram.answers (target : UInt32) (replyId : ReplyId) (datagram : Datagram) : Bool :=
  target = datagram.fromAddr && replyId = (datagram.ipPkt 24, datagram.ipPkt 25)

/-- One round of the loop: it is left, or `select` is called again at the time `now`. -/
inductive Round where
  | ends (reply : Option Nat) (examined : List Datagram)
  | waits (now : Nat) (examined : Datagram)

def pingRound (target : UInt32) (replyId : ReplyId) (start now : Nat) (delivery : Delivery) :
    Round :=
  if delivery.wait > selectTimeout then .ends none []
  else
    match delivery.arrival with
    | .selectError => .ends none []
    | .readable received =>
        let now := now + delivery.wait
        let elapsedTime := subU32 (getCurTimeMs now) (getCurTimeMs start)
        if elapsedTime > pingTimeout then .ends none []
        else
          match received with
          | none => .ends none []
          | some datagram =>
              if datagram.bytes = [] then .ends none []
              else if datagram.answers target replyId then .ends (some elapsedTime) [datagram]
              else .waits now datagram

/-- What `ping` returns, with the datagrams it has looked at. -/
structure Verdict where
  /-- The time of the reply for `ERR_OK`, nothing for `ERR_TEST_PING`. -/
  reply : Option Nat
  examined : List Datagram
  /-- The loop has been left before the deliveries ran out. -/
  left : Bool

def pingLoop (target : UInt32) (replyId : ReplyId) (start : Nat) :
    Nat → List Delivery → Verdict
  | _, [] => ⟨none, [], false⟩
  | now, delivery :: rest =>
      match pingRound target replyId start now delivery with
      | .ends reply examined => ⟨reply, examined, true⟩
      | .waits now datagram =>
          let later := pingLoop target replyId start now rest
          { later with examined := datagram :: later.examined }

/-- The address that an echo request is sent to. -/
def pingTarget (inetAton : List Char → Option UInt32) (ip : Option (List Char))
    (opened sent : Bool) : Option UInt32 :=
  match ip with
  | none => none
  | some ip =>
      match inetAton ip with
      | none => none
      | some toAddr =>
          if ip = "255.255.255.255".toList ∨ toAddr = 0xffffffff then none
          else if !opened then none
          else if !sent then none
          else some toAddr

/-- `ping`, called at the time `start`. -/
def ping (inetAton : List Char → Option UInt32) (ip : Option (List Char)) (opened sent : Bool)
    (replyId : ReplyId) (start : Nat) (deliveries : List Delivery) : Verdict :=
  match pingTarget inetAton ip opened sent with
  | none => ⟨none, [], true⟩
  | some toAddr => pingLoop toAddr replyId start start deliveries

/-! ## The law -/

/-- The length of the IP header in words. -/
def Datagram.ipHl (datagram : Datagram) : Nat :=
  (datagram.bytes.getD 0 0).toNat % 16

/-- An echo reply of the target to the request. -/
structure EchoReply (target : UInt32) (replyId : ReplyId) (datagram : Datagram) : Prop where
  sender : datagram.fromAddr = target
  header : 5 ≤ datagram.ipHl
  whole : 4 * datagram.ipHl + 8 ≤ datagram.bytes.length
  icmpType : datagram.bytes.getD (4 * datagram.ipHl) 0xff = 0
  identifier : (datagram.bytes.getD (4 * datagram.ipHl + 4) 0,
    datagram.bytes.getD (4 * datagram.ipHl + 5) 0) = replyId

/-- The clock shows at most the timeout since the start. -/
def InLimit (start now : Nat) : Prop :=
  now / 1000 ≤ start / 1000 + pingTimeout

instance (start now : Nat) : Decidable (InLimit start now) :=
  inferInstanceAs (Decidable (_ ≤ _))

/-- The datagram of a delivery within the limit. -/
def admitted (tolerates : Nat → Bool) (start now : Nat) (delivery : Delivery) :
    Option Datagram :=
  match delivery.arrival with
  | .selectError => none
  | .readable none => none
  | .readable (some datagram) =>
      if tolerates delivery.wait = true ∧ InLimit start (now + delivery.wait) ∧
          datagram.bytes ≠ [] then some datagram
      else none

/-- The datagrams that are delivered within the limit, before any error and before a silence
that is not tolerated. -/
def delivered (tolerates : Nat → Bool) (start : Nat) : Nat → List Delivery → List Datagram
  | _, [] => []
  | now, delivery :: rest =>
      match admitted tolerates start now delivery with
      | none => []
      | some datagram => datagram :: delivered tolerates start (now + delivery.wait) rest

/-- The datagrams that are delivered within the limit and before any error. -/
def timely (start : Nat) (deliveries : List Delivery) : List Datagram :=
  delivered (fun _ => true) start start deliveries

/-- Those before a silence that `select` does not wait out. -/
def heard (start : Nat) (deliveries : List Delivery) : List Datagram :=
  delivered (fun wait => wait ≤ selectTimeout) start start deliveries

/-- The time that passes until the last delivery. -/
def totalWait (deliveries : List Delivery) : Nat :=
  deliveries.foldr (fun delivery later => delivery.wait + later) 0

/-- The law for a request that is sent. -/
structure Judges (target : UInt32) (replyId : ReplyId) (start : Nat)
    (deliveries : List Delivery) (verdict : Verdict) : Prop where
  sound : verdict.reply.isSome = true →
    ∃ datagram ∈ verdict.examined,
      datagram ∈ timely start deliveries ∧ EchoReply target replyId datagram
  complete : (∃ datagram ∈ timely start deliveries, EchoReply target replyId datagram) →
    verdict.reply.isSome = true
  ends : ¬InLimit start (start + totalWait deliveries) → verdict.left = true

/-- The law for every call: without a request there is no reply. -/
structure KeepsVerdict (request : Option UInt32) (replyId : ReplyId) (start : Nat)
    (deliveries : List Delivery) (verdict : Verdict) : Prop where
  unsent : request = none → verdict.reply = none
  sent : ∀ target, request = some target → Judges target replyId start deliveries verdict

/-- The deliveries that the loop judges by the law: a datagram that is heard answers
by the test of the code, and an echo reply is among those up to the first such one; or none
that is heard answers, and no echo reply is delivered in time. -/
inductive Distinguishable (target : UInt32) (replyId : ReplyId) (start : Nat)
    (deliveries : List Delivery) : Prop
  | replied (before : List Datagram) (reply : Datagram) (after : List Datagram)
      (split : heard start deliveries = before ++ reply :: after)
      (unanswering : ∀ datagram ∈ before, datagram.answers target replyId = false)
      (isReply : EchoReply target replyId reply)
      (answered : ∃ datagram ∈ heard start deliveries, datagram.answers target replyId = true)
  | silent
      (unanswering : ∀ datagram ∈ heard start deliveries, datagram.answers target replyId = false)
      (noReply : ∀ datagram ∈ timely start deliveries, ¬EchoReply target replyId datagram)

/-! ## Rounds -/

variable {tolerates : Nat → Bool} {target : UInt32} {replyId : ReplyId} {start now : Nat}
  {delivery : Delivery} {deliveries : List Delivery} {datagram : Datagram}

/-- The subtraction of the clock values gives the time that has passed. -/
theorem elapsed_le_iff (started : start ≤ now) (inLimit : InLimit start now) {wait : Nat}
    (ready : wait ≤ selectTimeout) :
    subU32 (getCurTimeMs (now + wait)) (getCurTimeMs start) ≤ pingTimeout ↔
      InLimit start (now + wait) := by
  simp only [InLimit, pingTimeout, selectTimeout, subU32, getCurTimeMs, u32] at *
  omega

theorem admitted_of_refused
    (refused : ¬(tolerates delivery.wait = true ∧ InLimit start (now + delivery.wait))) :
    admitted tolerates start now delivery = none := by
  rw [admitted]
  split
  · rfl
  · rfl
  · exact if_neg fun conditions => refused ⟨conditions.1, conditions.2.1⟩

theorem pingRound_eq (started : start ≤ now) (inLimit : InLimit start now) :
    pingRound target replyId start now delivery =
      match admitted (fun wait => wait ≤ selectTimeout) start now delivery with
      | none => .ends none []
      | some datagram =>
          if datagram.answers target replyId then
            .ends (some (subU32 (getCurTimeMs (now + delivery.wait)) (getCurTimeMs start)))
              [datagram]
          else .waits (now + delivery.wait) datagram := by
  rw [pingRound]
  by_cases silent : delivery.wait > selectTimeout
  · rw [if_pos silent, admitted_of_refused]
    exact fun inTime => Nat.not_le.mpr silent (of_decide_eq_true inTime.1)
  · have ready := Nat.not_lt.mp silent
    have onTime := elapsed_le_iff started inLimit ready
    rw [if_neg silent]
    by_cases late : ¬InLimit start (now + delivery.wait)
    · rw [admitted_of_refused fun inTime => late inTime.2]
      cases delivery.arrival with
      | selectError =>
          rfl
      | readable received =>
          simp only [gt_iff_lt, ← Nat.not_le, onTime, if_pos late]
    · rw [admitted]
      cases delivery.arrival with
      | selectError =>
          rfl
      | readable received =>
          simp only [gt_iff_lt, ← Nat.not_le, onTime, if_neg late]
          cases received with
          | none =>
              rfl
          | some datagram =>
              by_cases empty : datagram.bytes = []
              · simp [empty]
              · simp [empty, ready, Decidable.not_not.mp late]

theorem inLimit_of_admitted (isAdmitted : admitted tolerates start now delivery = some datagram) :
    InLimit start (now + delivery.wait) := by
  rw [admitted] at isAdmitted
  split at isAdmitted
  · cases isAdmitted
  · cases isAdmitted
  · split at isAdmitted
    · rename_i conditions
      exact conditions.2.1
    · cases isAdmitted

theorem admitted_weaken (isAdmitted : admitted tolerates start now delivery = some datagram) :
    admitted (fun _ => true) start now delivery = some datagram := by
  rw [admitted] at isAdmitted ⊢
  split at isAdmitted
  · cases isAdmitted
  · cases isAdmitted
  · split at isAdmitted
    · rename_i conditions
      rw [← isAdmitted]
      exact if_pos ⟨rfl, conditions.2⟩
    · cases isAdmitted

/-! ## The loop -/

theorem delivered_subset (datagram : Datagram)
    (isDelivered : datagram ∈ delivered tolerates start now deliveries) :
    datagram ∈ delivered (fun _ => true) start now deliveries := by
  induction deliveries generalizing now with
  | nil =>
      cases isDelivered
  | cons delivery rest inductionHypothesis =>
      rw [delivered] at isDelivered ⊢
      cases isAdmitted : admitted tolerates start now delivery with
      | none =>
          rw [isAdmitted] at isDelivered
          cases isDelivered
      | some first =>
          rw [isAdmitted] at isDelivered
          rw [admitted_weaken isAdmitted]
          exact (List.mem_cons.mp isDelivered).elim (fun same => List.mem_cons.mpr (Or.inl same))
            fun later => List.mem_cons.mpr (Or.inr (inductionHypothesis later))

/-- The loop returns a reply exactly if a datagram that is heard answers. -/
theorem pingLoop_reply_iff (started : start ≤ now) (inLimit : InLimit start now) :
    (pingLoop target replyId start now deliveries).reply.isSome = true ↔
      ∃ datagram ∈ delivered (fun wait => wait ≤ selectTimeout) start now deliveries,
        datagram.answers target replyId = true := by
  induction deliveries generalizing now with
  | nil =>
      simp [pingLoop, delivered]
  | cons delivery rest inductionHypothesis =>
      rw [pingLoop, delivered, pingRound_eq started inLimit]
      cases isAdmitted : admitted (fun wait => wait ≤ selectTimeout) start now delivery with
      | none =>
          simp
      | some first =>
          have later := inductionHypothesis (Nat.le_add_right_of_le started)
            (inLimit_of_admitted isAdmitted)
          by_cases answers : first.answers target replyId = true
          · simp [answers]
          · simp only [List.exists_mem_cons_iff, answers, Bool.false_eq_true, false_or]
            exact later

/-- The loop looks at the datagrams up to the first one that answers. -/
theorem mem_pingLoop_examined_iff (started : start ≤ now) (inLimit : InLimit start now) :
    datagram ∈ (pingLoop target replyId start now deliveries).examined ↔
      ∃ before after,
        delivered (fun wait => wait ≤ selectTimeout) start now deliveries =
          before ++ datagram :: after ∧
        ∀ other ∈ before, other.answers target replyId = false := by
  induction deliveries generalizing now with
  | nil =>
      simp [pingLoop, delivered]
  | cons delivery rest inductionHypothesis =>
      rw [pingLoop, delivered, pingRound_eq started inLimit]
      cases isAdmitted : admitted (fun wait => wait ≤ selectTimeout) start now delivery with
      | none =>
          simp
      | some first =>
          have later := inductionHypothesis (Nat.le_add_right_of_le started)
            (inLimit_of_admitted isAdmitted)
          by_cases answers : first.answers target replyId = true
          · simp only [if_pos answers, List.mem_singleton]
            constructor
            · rintro rfl
              exact ⟨[], _, rfl, fun _ member => absurd member List.not_mem_nil⟩
            · rintro ⟨before, after, split, unanswering⟩
              cases before with
              | nil =>
                  exact (List.cons.inj split).1.symm
              | cons other before =>
                  obtain ⟨rfl, -⟩ := List.cons.inj split
                  rw [unanswering first List.mem_cons_self] at answers
                  exact absurd answers Bool.false_ne_true
          · simp only [if_neg answers, List.mem_cons, later]
            constructor
            · rintro (rfl | ⟨before, after, split, unanswering⟩)
              · exact ⟨[], _, rfl, fun _ member => absurd member List.not_mem_nil⟩
              · exact ⟨first :: before, after, congrArg (first :: ·) split,
                  List.forall_mem_cons.mpr ⟨Bool.eq_false_iff.mpr answers, unanswering⟩⟩
            · rintro ⟨before, after, split, unanswering⟩
              cases before with
              | nil =>
                  exact Or.inl (List.cons.inj split).1.symm
              | cons other before =>
                  obtain ⟨-, splitLater⟩ := List.cons.inj split
                  exact Or.inr ⟨before, after, splitLater,
                    (List.forall_mem_cons.mp unanswering).2⟩

/-- The loop is left once a delivery comes behind the limit. -/
theorem pingLoop_left (started : start ≤ now) (inLimit : InLimit start now)
    (exceeded : ¬InLimit start (now + totalWait deliveries)) :
    (pingLoop target replyId start now deliveries).left = true := by
  induction deliveries generalizing now with
  | nil =>
      exact absurd inLimit exceeded
  | cons delivery rest inductionHypothesis =>
      rw [pingLoop, pingRound_eq started inLimit]
      cases isAdmitted : admitted (fun wait => wait ≤ selectTimeout) start now delivery with
      | none =>
          rfl
      | some first =>
          have later := inductionHypothesis (Nat.le_add_right_of_le started)
            (inLimit_of_admitted isAdmitted) (by rwa [Nat.add_assoc])
          by_cases answers : first.answers target replyId = true
          · simp [answers]
          · simpa [answers] using later

/-! ## The verdict -/

theorem judges_pingLoop_iff (target : UInt32) (replyId : ReplyId) (start : Nat)
    (deliveries : List Delivery) :
    Judges target replyId start deliveries
        (pingLoop target replyId start start deliveries) ↔
      Distinguishable target replyId start deliveries := by
  have inLimit : InLimit start start := Nat.le_add_right _ _
  have replies : (pingLoop target replyId start start deliveries).reply.isSome = true ↔
      ∃ datagram ∈ heard start deliveries, datagram.answers target replyId = true :=
    pingLoop_reply_iff (Nat.le_refl start) inLimit
  constructor
  · intro law
    by_cases answered : ∃ datagram ∈ heard start deliveries,
        datagram.answers target replyId = true
    · obtain ⟨reply, examined, -, isReply⟩ := law.sound (replies.mpr answered)
      obtain ⟨before, after, split, unanswering⟩ :=
        (mem_pingLoop_examined_iff (Nat.le_refl start) inLimit).mp examined
      exact .replied before reply after split unanswering isReply answered
    · apply Distinguishable.silent
      · intro datagram isHeard
        exact Bool.eq_false_iff.mpr fun answers => answered ⟨datagram, isHeard, answers⟩
      · intro datagram inTime isReply
        exact answered (replies.mp (law.complete ⟨datagram, inTime, isReply⟩))
  · intro distinguishable
    refine ⟨?_, ?_, pingLoop_left (Nat.le_refl start) inLimit⟩
    · intro isReplied
      cases distinguishable with
      | replied before reply after split unanswering isReply answered =>
          have examined := (mem_pingLoop_examined_iff (Nat.le_refl start) inLimit).mpr
            ⟨before, after, split, unanswering⟩
          have isHeard : reply ∈ heard start deliveries := by
            rw [split]
            exact List.mem_append_right before List.mem_cons_self
          exact ⟨reply, examined, delivered_subset reply isHeard, isReply⟩
      | silent unanswering noReply =>
          obtain ⟨datagram, isHeard, answers⟩ := replies.mp isReplied
          rw [unanswering datagram isHeard] at answers
          cases answers
    · rintro ⟨reply, inTime, isReply⟩
      cases distinguishable with
      | replied before reply after split unanswering isReply answered =>
          exact replies.mpr answered
      | silent unanswering noReply =>
          exact absurd isReply (noReply reply inTime)

theorem delivered_of_patient (patient : ∀ delivery ∈ deliveries, tolerates delivery.wait = true) :
    delivered tolerates start now deliveries =
      delivered (fun _ => true) start now deliveries := by
  induction deliveries generalizing now with
  | nil =>
      rfl
  | cons delivery rest inductionHypothesis =>
      obtain ⟨first, patientLater⟩ := List.forall_mem_cons.mp patient
      have same : admitted tolerates start now delivery =
          admitted (fun _ => true) start now delivery := by
        simp only [admitted, first]
      rw [delivered, delivered, same]
      cases admitted (fun _ => true) start now delivery with
      | none =>
          rfl
      | some datagram =>
          exact congrArg (datagram :: ·) (inductionHypothesis patientLater)

/-- The loop keeps the law where no silence lasts longer than the timeout of `select` and the
test tells the echo replies from the other datagrams. -/
theorem distinguishable_of_regular
    (patient : ∀ delivery ∈ deliveries, delivery.wait ≤ selectTimeout)
    (regular : ∀ datagram ∈ timely start deliveries,
      datagram.answers target replyId = true ↔ EchoReply target replyId datagram) :
    Distinguishable target replyId start deliveries := by
  have same : heard start deliveries = timely start deliveries :=
    delivered_of_patient fun delivery member => decide_eq_true (patient delivery member)
  cases found : (heard start deliveries).find? (·.answers target replyId) with
  | none =>
      have unanswering := List.find?_eq_none.mp found
      apply Distinguishable.silent
      · intro datagram isHeard
        exact Bool.eq_false_iff.mpr (unanswering datagram isHeard)
      · intro datagram inTime isReply
        exact unanswering datagram (same ▸ inTime) ((regular datagram inTime).mpr isReply)
  | some reply =>
      obtain ⟨answers, before, after, split, unanswering⟩ := List.find?_eq_some_iff_append.mp found
      have isHeard := List.mem_of_find?_eq_some found
      apply Distinguishable.replied before reply after split
      · intro datagram earlier
        simpa using unanswering datagram earlier
      · exact (regular reply (same ▸ isHeard)).mp answers
      · exact ⟨reply, isHeard, answers⟩

/-- For every call of `ping` and everything its socket receives: the verdict is right exactly
if the deliveries are distinguishable by the test of the code. -/
theorem ping_verdict_iff (inetAton : List Char → Option UInt32) (ip : Option (List Char))
    (opened sent : Bool) (replyId : ReplyId) (start : Nat) (deliveries : List Delivery) :
    KeepsVerdict (pingTarget inetAton ip opened sent) replyId start deliveries
        (ping inetAton ip opened sent replyId start deliveries) ↔
      ∀ target, pingTarget inetAton ip opened sent = some target →
        Distinguishable target replyId start deliveries := by
  rw [ping]
  cases pingTarget inetAton ip opened sent with
  | none =>
      constructor
      · intro law target impossible
        cases impossible
      · intro distinguishable
        refine ⟨fun _ => rfl, ?_⟩
        intro target impossible
        cases impossible
  | some toAddr =>
      constructor
      · rintro law target ⟨⟩
        exact (judges_pingLoop_iff toAddr replyId start deliveries).mp (law.sent toAddr rfl)
      · intro distinguishable
        refine ⟨fun impossible => (by cases impossible), ?_⟩
        rintro target ⟨⟩
        exact (judges_pingLoop_iff toAddr replyId start deliveries).mpr
          (distinguishable toAddr rfl)

/-! ## Misjudged deliveries -/

/-- A datagram from 10.0.0.1 with the identifier 0x1234 behind the given IP options. -/
def sampleDatagram (ipHl icmpType : UInt8) (options : List UInt8) : Datagram where
  fromAddr := 0x0a000001
  bytes :=
    [0x40 + ipHl, 0, 0, 28, 0, 0, 0, 0, 64, 1, 0, 0, 10, 0, 0, 1, 10, 0, 0, 2] ++ options ++
      [icmpType, 0, 0, 0, 0x12, 0x34, 0, 0]
  stack := fun _ => 0

def samplePing (deliveries : List Delivery) : Verdict :=
  ping (fun _ => some 0x0a000001) (some "10.0.0.1".toList) true true (0x12, 0x34) 0 deliveries

/-- An echo request of the target is taken for a reply; a reply after 1.2 s of silence and one
with IP options are missed. -/
theorem misjudged_deliveries :
    (samplePing [⟨1000, .readable (some (sampleDatagram 5 8 []))⟩]).reply = some 1 ∧
      ¬EchoReply 0x0a000001 (0x12, 0x34) (sampleDatagram 5 8 []) ∧
      (samplePing [⟨1200000, .readable (some (sampleDatagram 5 0 []))⟩]).reply = none ∧
      EchoReply 0x0a000001 (0x12, 0x34) (sampleDatagram 5 0 []) ∧
      (samplePing [⟨1000, .readable (some (sampleDatagram 6 0 [1, 1, 1, 0]))⟩]).reply = none ∧
      EchoReply 0x0a000001 (0x12, 0x34) (sampleDatagram 6 0 [1, 1, 1, 0]) ∧
      ¬∀ (inetAton : List Char → Option UInt32) (ip : Option (List Char)) (opened sent : Bool)
        (replyId : ReplyId) (start : Nat) (deliveries : List Delivery),
        KeepsVerdict (pingTarget inetAton ip opened sent) replyId start deliveries
          (ping inetAton ip opened sent replyId start deliveries) := by
  refine ⟨by decide, ?_, by decide, ⟨rfl, by decide, by decide, rfl, rfl⟩, by decide,
    ⟨rfl, by decide, by decide, rfl, rfl⟩, ?_⟩
  · intro isReply
    exact absurd isReply.icmpType (by decide)
  · intro law
    have judges := (law (fun _ => some 0x0a000001) (some "10.0.0.1".toList) true true (0x12, 0x34)
      0 [⟨1200000, .readable (some (sampleDatagram 5 0 []))⟩]).sent 0x0a000001 rfl
    have missed := judges.complete
      ⟨sampleDatagram 5 0 [], List.mem_cons_self, rfl, by decide, by decide, rfl, rfl⟩
    exact absurd missed (by decide)

end TfortisPack.Autorestart
