import TfortisPack.DeviceMonitor.StateHandler

/-!
# Receiving and sending datagrams

`net_utils.c`.  One buffer serves for both directions, and one length serves as
the index of the terminator, as the number of bytes copied to `settingsMsg`,
as the length of the settings text and as the number of bytes sent.  The length
is a `size_t` of the 32-bit target, also when `recvfrom` returns -1.

Every function reports the bytes it writes.  A byte outside its array is
reported and otherwise dropped.
-/

namespace TfortisPack.DeviceMonitor

open TfortisPack.Library

/-- What `recvfrom` can store in `buffer`. -/
structure Datagram where
  bytes : List UInt8
  fits : bytes.length ≤ 1550

/-- The static data of `net_utils.c`. -/
structure Net where
  buffer : Vector UInt8 1550
  bufferLen : Nat

inductive Region where
  | buffer
  | settMsgBuff
  deriving DecidableEq, Repr

def Region.size : Region → Nat
  | .buffer => 1550
  | .settMsgBuff => 1070

/-- One byte written, at an offset from the start of an array. -/
structure Write where
  region : Region
  offset : Nat
  deriving DecidableEq, Repr

def Write.Inside (write : Write) : Prop :=
  write.offset < write.region.size

instance : DecidablePred Write.Inside :=
  fun _ => inferInstanceAs (Decidable (_ < _))

/-- The first bytes of an array. -/
def writesTo (region : Region) (count : Nat) : List Write :=
  (List.range count).map (Write.mk region)

/-- The number of values of `size_t`. -/
def sizeValues : Nat := 4294967296

/-- `net_getCommand`, for a datagram or for the result -1; the type of the
message and the bytes written. -/
def netGetCommand (net : Net) (received : Option Datagram) : Net × UInt8 × List Write :=
  let length := match received with
    | some datagram => datagram.bytes.length
    | none => sizeValues - 1
  let buffer := match received with
    | some datagram => CText.store net.buffer datagram.bytes
    | none => net.buffer
  let stored := match received with
    | some datagram => writesTo .buffer datagram.bytes.length
    | none => []
  ({ buffer := buffer, bufferLen := (length + 1) % sizeValues },
    buffer.toList.headD 0,
    stored ++ [⟨.buffer, length⟩])

/-- `getBuffer` with index 0. -/
def Net.getBuffer (net : Net) (settingsBuffer : Vector UInt8 1070) :
    Vector UInt8 1070 × List Write :=
  (Vector.ofFn fun index =>
      if index.val < net.bufferLen then net.buffer[index.val] else settingsBuffer.get index,
    writesTo .settMsgBuff net.bufferLen)

/-- `getBufferLen`. -/
def Net.getBufferLen (net : Net) : Nat :=
  (net.bufferLen + sizeValues - 39) % sizeValues

/-- `memcpy` of a whole message to the start of `buffer`. -/
def Net.place {size : Nat} (net : Net) (message : Vector UInt8 size) : Net × List Write :=
  ({ net with
      buffer := Vector.ofFn fun index =>
        if within : index.val < size then message[index.val] else net.buffer.get index },
    writesTo .buffer size)

/-- What `net_sendMsg` hands to `sendto`. -/
def netSendMsg (net : Net) : List UInt8 :=
  net.buffer.toList.take (net.bufferLen - 1)

/-- `client_sendSettMsg`: the datagram sent and the bytes written. -/
def clientSendSettMsg (net : Net) (buff : Vector UInt8 1070) : Net × List UInt8 × List Write :=
  let placed := net.place buff
  (placed.1, netSendMsg placed.1, placed.2)

/-- `client_sendSearchMsg`. -/
def clientSendSearchMsg (net : Net) (buff : Vector UInt8 444) : Net × List UInt8 × List Write :=
  let placed := net.place buff
  (placed.1, netSendMsg placed.1, placed.2)

/-! ## Bounds -/

/-- The bytes written for one result of `recvfrom`, up to the check of the
password and again for the answer, lie inside their arrays, and the length of a
settings text does not wrap. -/
def Contained (net : Net) (settingsBuffer : Vector UInt8 1070) (searchOut : Vector UInt8 444)
    (received : Option Datagram) : Prop :=
  let got := netGetCommand net received
  (∀ write ∈ got.2.2, write.Inside) ∧
    (got.2.1 = requestSetConfig →
      (∀ write ∈ (got.1.getBuffer settingsBuffer).2, write.Inside) ∧
        got.1.getBufferLen + 39 = got.1.bufferLen) ∧
    (∀ write ∈ (clientSendSettMsg got.1 (got.1.getBuffer settingsBuffer).1).2.2, write.Inside) ∧
    ∀ write ∈ (clientSendSearchMsg got.1 searchOut).2.2, write.Inside

/-- The lengths that the arrays hold: the terminator needs a place in `buffer`,
and a settings message has to reach its text and leave room for the terminator
in `settMsg.buff`. -/
def LengthOk (received : Option Datagram) : Prop :=
  ∃ datagram, received = some datagram ∧ datagram.bytes.length < 1550 ∧
    (datagram.bytes.head? = some requestSetConfig →
      38 ≤ datagram.bytes.length ∧ datagram.bytes.length ≤ 1069)

theorem writesTo_inside_iff (region : Region) (count : Nat) :
    (∀ write ∈ writesTo region count, write.Inside) ↔ count ≤ region.size := by
  simp only [writesTo, List.mem_map, List.mem_range, forall_exists_index, and_imp,
    forall_apply_eq_imp_iff₂, Write.Inside]
  constructor
  · intro inside
    by_contra tooMany
    have last := inside region.size (by omega)
    exact Nat.lt_irrefl _ last
  · intro few offset below
    omega

/-- The first byte of the buffer is the first of the datagram, or the
terminator. -/
theorem netGetCommand_type (net : Net) (datagram : Datagram) :
    (netGetCommand net (some datagram)).2.1 = datagram.bytes.headD 0 := by
  obtain ⟨bytes, fits⟩ := datagram
  simp only [netGetCommand, CText.toList_store]
  cases bytes with
  | nil =>
      rfl
  | cons first rest =>
      rfl

theorem netGetCommand_bufferLen (net : Net) (datagram : Datagram) :
    (netGetCommand net (some datagram)).1.bufferLen = datagram.bytes.length + 1 := by
  have fits := datagram.fits
  simp only [netGetCommand, sizeValues]
  omega

theorem getBufferLen_iff {net : Net} (small : net.bufferLen < sizeValues) :
    net.getBufferLen + 39 = net.bufferLen ↔ 39 ≤ net.bufferLen := by
  simp only [Net.getBufferLen, sizeValues] at small ⊢
  omega

theorem answers_inside (net : Net) (buff : Vector UInt8 1070) (searchOut : Vector UInt8 444) :
    (∀ write ∈ (clientSendSettMsg net buff).2.2, write.Inside) ∧
      ∀ write ∈ (clientSendSearchMsg net searchOut).2.2, write.Inside := by
  simp only [clientSendSettMsg, clientSendSearchMsg, Net.place, writesTo_inside_iff, Region.size]
  omega

/-- For every result of `recvfrom`: everything stays inside exactly if a
datagram arrived that leaves room for the terminator and, as a settings
message, has between 38 and 1069 bytes. -/
theorem contained_iff (net : Net) (settingsBuffer : Vector UInt8 1070)
    (searchOut : Vector UInt8 444) (received : Option Datagram) :
    Contained net settingsBuffer searchOut received ↔ LengthOk received := by
  cases received with
  | none =>
      -- the terminator goes to the last address of the address space
      constructor
      · intro contained
        have terminator := contained.1 ⟨.buffer, sizeValues - 1⟩ (by simp [netGetCommand])
        simp [Write.Inside, Region.size, sizeValues] at terminator
      · rintro ⟨datagram, missing, _⟩
        exact nomatch missing
  | some datagram =>
      have type := netGetCommand_type net datagram
      have length := netGetCommand_bufferLen net datagram
      have small : (netGetCommand net (some datagram)).1.bufferLen < sizeValues := by
        have fits := datagram.fits
        rw [length]
        simp only [sizeValues]
        omega
      have isSettings : (netGetCommand net (some datagram)).2.1 = requestSetConfig ↔
          datagram.bytes.head? = some requestSetConfig := by
        rw [type]
        cases datagram.bytes with
        | nil => simp [requestSetConfig]
        | cons first rest => simp
      have received : (∀ write ∈ (netGetCommand net (some datagram)).2.2, write.Inside) ↔
          datagram.bytes.length < 1550 := by
        have fits := datagram.fits
        simp only [netGetCommand]
        rw [List.forall_mem_append, writesTo_inside_iff, List.forall_mem_singleton]
        simp only [Write.Inside, Region.size]
        omega
      have copied : (∀ write ∈
            ((netGetCommand net (some datagram)).1.getBuffer settingsBuffer).2, write.Inside) ↔
          datagram.bytes.length ≤ 1069 := by
        simp only [Net.getBuffer, writesTo_inside_iff, length, Region.size]
        omega
      have notWrapped := getBufferLen_iff small
      rw [length] at notWrapped
      simp only [Contained, isSettings, received, copied, length, notWrapped, LengthOk]
      constructor
      · rintro ⟨room, settings, _⟩
        refine ⟨datagram, rfl, room, fun kind => ?_⟩
        obtain ⟨short, long⟩ := settings kind
        exact ⟨by omega, short⟩
      · rintro ⟨same, isSame, room, settings⟩
        obtain rfl := Option.some.inj isSame
        refine ⟨room, fun kind => ?_, answers_inside _ _ _⟩
        obtain ⟨long, short⟩ := settings kind
        exact ⟨short, by omega⟩

/-- A datagram that fills the buffer puts its terminator behind it. -/
theorem full_datagram_not_contained :
    ¬Contained ⟨Vector.replicate 1550 0, 0⟩ (Vector.replicate 1070 0) (Vector.replicate 444 0)
      (some ⟨List.replicate 1550 0, Nat.le_of_eq List.length_replicate⟩) := by
  intro contained
  have terminator := contained.1 ⟨.buffer, (List.replicate 1550 (0 : UInt8)).length⟩
    (List.mem_append_right _ (List.mem_singleton_self _))
  rw [Write.Inside, List.length_replicate] at terminator
  exact Nat.lt_irrefl _ terminator

end TfortisPack.DeviceMonitor
