import Mathlib.Data.List.TakeWhile
import TfortisPack.DeviceMonitor.StateHandler

/-!
# Who may change the settings

A settings datagram is meant to be obeyed when it names the device and carries
the hash of a configured user.  The code compares with one buffer that the
listing leaves behind, and the compiler may read `passFlag` before a check
clears it.  Here is what the code decides, and for which configurations and
compilers this is the intended decision.
-/

namespace TfortisPack.DeviceMonitor

open TfortisPack.Library

/-- The commands of the datagram are run. -/
def Executes (platform : Platform) (host : Host) (settings : SettingsMsg)
    (datagram : SettingsDatagram) : Prop :=
  ∃ message, (handleSettings platform host settings datagram).1 = .executed message

/-- The datagram names the device and carries the hash of a configured user. -/
def Authorised (host : Host) (datagram : SettingsDatagram) : Prop :=
  ∃ pass message, pass.length = 32 ∧ pass ∈ host.config.hashes ∧
    datagram.bytes = requestSetConfig :: (host.mac.toList ++ (pass ++ message))

/-- The digits agree for the comparison `pass_md5[i] != hash_data[i]`. -/
def Agrees (charSigned : Bool) (received hash : List UInt8) : Prop :=
  received.map (fun byte => (byte.toNat : Int)) = hash.map (charValue charSigned)

section Checks

theorem has_macLoop_mac {devices received : List UInt8} (lengths : devices.length = received.length)
    (passFlag : PassFlag) :
    BitFlags.has (macLoop devices received passFlag) passMac = true ↔
      devices = received ∧ BitFlags.has passFlag passMac = true := by
  induction devices generalizing received with
  | nil =>
      have empty : received = [] := List.length_eq_zero_iff.mp lengths.symm
      simp [macLoop, empty]
  | cons device devices inductionHypothesis =>
      cases received with
      | nil =>
          simp at lengths
      | cons other others =>
          rw [macLoop]
          split
          · rename_i different
            simp [different]
          · rename_i same
            have equal : device = other := not_not.mp same
            rw [inductionHypothesis (by simpa using lengths), equal]
            simp

theorem has_macLoop_md5 (devices received : List UInt8) (passFlag : PassFlag) :
    BitFlags.has (macLoop devices received passFlag) passMd5 = BitFlags.has passFlag passMd5 := by
  induction devices generalizing received with
  | nil =>
      simp [macLoop]
  | cons device devices inductionHypothesis =>
      cases received with
      | nil =>
          simp [macLoop]
      | cons other others =>
          rw [macLoop]
          split
          · exact BitFlags.has_clear_of_disjoint (by decide)
          · exact inductionHypothesis others

theorem has_md5Loop_md5 {charSigned : Bool} {received hash : List UInt8}
    (lengths : received.length = hash.length) (passFlag : PassFlag) :
    BitFlags.has (md5Loop charSigned received hash passFlag) passMd5 = true ↔
      Agrees charSigned received hash ∧ BitFlags.has passFlag passMd5 = true := by
  induction received generalizing hash passFlag with
  | nil =>
      have empty : hash = [] := List.length_eq_zero_iff.mp lengths.symm
      simp [md5Loop, Agrees, empty]
  | cons byte received inductionHypothesis =>
      cases hash with
      | nil =>
          simp at lengths
      | cons digit hash =>
          rw [md5Loop, inductionHypothesis (by simpa using lengths)]
          simp only [Agrees, List.map_cons, List.cons.injEq]
          split
          · rename_i different
            simp [different]
          · rename_i same
            simp [not_not.mp same]

theorem has_md5Loop_mac (charSigned : Bool) (received hash : List UInt8) (passFlag : PassFlag) :
    BitFlags.has (md5Loop charSigned received hash passFlag) passMac =
      BitFlags.has passFlag passMac := by
  induction received generalizing hash passFlag with
  | nil =>
      simp [md5Loop]
  | cons byte received inductionHypothesis =>
      cases hash with
      | nil =>
          simp [md5Loop]
      | cons digit hash =>
          rw [md5Loop, inductionHypothesis]
          split
          · exact BitFlags.has_clear_of_disjoint (by decide)
          · rfl

theorem length_macField (buff : Vector UInt8 1070) : (macField buff).length = 6 := by
  simp [macField]

theorem length_passField (buff : Vector UInt8 1070) : (passField buff).length = 32 := by
  simp [passField]

variable {host : Host} {buff : Vector UInt8 1070} {order : ReadOrder} {passFlag : PassFlag}

/-- Read before the call, a flag survives its check. -/
theorem has_macChecked_mac (raised : BitFlags.has passFlag passMac = true) :
    BitFlags.has (orAssign order (checkMacAddress host buff) passFlag) passMac = true ↔
      host.mac.toList = macField buff ∨ order = .beforeCall := by
  have lengths : host.mac.toList.length = (macField buff).length := by
    simp [length_macField]
  have loop := has_macLoop_mac lengths passFlag
  cases order with
  | beforeCall =>
      simp [orAssign, BitFlags.has_raise, raised]
  | afterCall =>
      simp [orAssign, BitFlags.has_raise, checkMacAddress, loop, raised]

theorem has_macChecked_md5 (raised : BitFlags.has passFlag passMd5 = true) :
    BitFlags.has (orAssign order (checkMacAddress host buff) passFlag) passMd5 = true := by
  have loop := has_macLoop_md5 host.mac.toList (macField buff) passFlag
  cases order with
  | beforeCall =>
      simp [orAssign, BitFlags.has_raise, raised]
  | afterCall =>
      simp [orAssign, BitFlags.has_raise, checkMacAddress, loop, raised]

theorem has_md5Checked_mac (charSigned : Bool) :
    BitFlags.has (orAssign order (checkMD5Sum charSigned host buff) passFlag) passMac =
      BitFlags.has passFlag passMac := by
  have loop := has_md5Loop_mac charSigned (passField buff) (hashData host).toList passFlag
  cases order with
  | beforeCall =>
      simp [orAssign, BitFlags.has_raise, checkMD5Sum, loop]
  | afterCall =>
      simp [orAssign, BitFlags.has_raise, checkMD5Sum, loop]

theorem has_md5Checked_md5 {charSigned : Bool} (raised : BitFlags.has passFlag passMd5 = true) :
    BitFlags.has (orAssign order (checkMD5Sum charSigned host buff) passFlag) passMd5 = true ↔
      Agrees charSigned (passField buff) (hashData host).toList ∨ order = .beforeCall := by
  have lengths : (passField buff).length = (hashData host).toList.length := by
    simp [length_passField]
  have loop : BitFlags.has (md5Loop charSigned _ _ passFlag) passMd5 = true ↔ _ :=
    has_md5Loop_md5 lengths passFlag
  cases order with
  | beforeCall =>
      simp [orAssign, BitFlags.has_raise, raised]
  | afterCall =>
      simp [orAssign, BitFlags.has_raise, checkMD5Sum, loop, raised]

theorem executes_iff (platform : Platform) (host : Host) (settings : SettingsMsg)
    (datagram : SettingsDatagram) :
    Executes platform host settings datagram ↔
      (host.mac.toList = macField (getBuffer settings.buff datagram) ∨
          platform.macRead = .beforeCall) ∧
        (Agrees platform.charSigned (passField (getBuffer settings.buff datagram))
            (hashData host).toList ∨
          platform.md5Read = .beforeCall) := by
  have raisedMac : BitFlags.has
      (BitFlags.raise (BitFlags.raise settings.passFlag passMac) passMd5) passMac = true := by
    rw [BitFlags.has_raise, BitFlags.has_raise, show BitFlags.has passMac passMac = true by decide,
      Bool.or_true, Bool.true_or]
  have raisedMd5 : BitFlags.has
      (BitFlags.raise (BitFlags.raise settings.passFlag passMac) passMd5) passMd5 = true :=
    BitFlags.has_raise_self (by decide)
  rw [← has_macChecked_mac raisedMac, ← has_md5Checked_md5 (has_macChecked_md5 raisedMd5),
    ← has_md5Checked_mac platform.charSigned]
  unfold Executes handleSettings clientSettings
  dsimp only
  split
  · rename_i macLeft
    split
    · rename_i md5Left
      exact ⟨fun _ => ⟨macLeft, md5Left⟩, fun _ => ⟨_, rfl⟩⟩
    · rename_i md5Cleared
      simp [md5Cleared]
  · rename_i macCleared
    simp [macCleared]

theorem charValue_eq_iff (charSigned : Bool) (received digit : UInt8) :
    (received.toNat : Int) = charValue charSigned digit ↔
      received = digit ∧ (charSigned = true → digit < 128) := by
  have receivedBound := received.toNat_lt
  have negativeIff : 128 ≤ digit ↔ 128 ≤ digit.toNat := UInt8.le_iff_toNat_le
  have positiveIff : digit < 128 ↔ digit.toNat < 128 := UInt8.lt_iff_toNat_lt
  have digitBound := digit.toNat_lt
  rw [charValue, ← UInt8.toNat_inj, positiveIff]
  by_cases negative : charSigned = true ∧ 128 ≤ digit
  · have high : 128 ≤ digit.toNat := negativeIff.mp negative.2
    rw [if_pos negative]
    constructor
    · intro equal
      omega
    · rintro ⟨_, small⟩
      have tooSmall := small negative.1
      omega
  · rw [if_neg negative]
    constructor
    · intro equal
      refine ⟨by omega, fun signed => ?_⟩
      by_contra high
      exact negative ⟨signed, negativeIff.mpr (by omega)⟩
    · rintro ⟨equal, _⟩
      omega

/-- Bytes above 127 agree with nothing where `char` is signed. -/
theorem agrees_iff (charSigned : Bool) (received hash : List UInt8) :
    Agrees charSigned received hash ↔
      received = hash ∧ (charSigned = true → ∀ digit ∈ hash, digit < 128) := by
  unfold Agrees
  induction received generalizing hash with
  | nil =>
      cases hash <;> simp
  | cons byte received inductionHypothesis =>
      cases hash with
      | nil =>
          simp
      | cons digit hash =>
          simp only [List.map_cons, List.cons.injEq, charValue_eq_iff, inductionHypothesis,
            List.mem_cons, forall_eq_or_imp]
          tauto

end Checks

section Fields

variable {settings : SettingsMsg} {datagram : SettingsDatagram}

theorem toList_getBuffer :
    (getBuffer settings.buff datagram).toList =
      (datagram.bytes ++ 0 :: settings.buff.toList.drop (datagram.bytes.length + 1)).take 1070 :=
  CText.toList_store settings.buff datagram.bytes

theorem fields_of_long (settings : SettingsMsg) (long : 39 ≤ datagram.bytes.length) :
    macField (getBuffer settings.buff datagram) = (datagram.bytes.drop 1).take 6 ∧
      passField (getBuffer settings.buff datagram) = (datagram.bytes.drop 7).take 32 := by
  have field : ∀ start size, start + size ≤ 39 →
      ((getBuffer settings.buff datagram).toList.drop start).take size =
        (datagram.bytes.drop start).take size := by
    intro start size inHeader
    rw [toList_getBuffer, List.drop_take, List.take_take, Nat.min_eq_left (by omega),
      List.drop_append_of_le_length (by omega),
      List.take_append_of_le_length (by rw [List.length_drop]; omega)]
  exact ⟨field 1 6 (by omega), field 7 32 (by omega)⟩

/-- A shorter one leaves a NUL in the pass: its own terminator, or what the
previous request cleared. -/
theorem zero_mem_passField_of_short (short : datagram.bytes.length < 39) :
    0 ∈ passField (getBuffer settings.buff datagram) := by
  have inField : ∀ index, 7 ≤ index → index < 39 →
      (getBuffer settings.buff datagram).toList[index]? = some 0 →
        0 ∈ passField (getBuffer settings.buff datagram) := by
    intro index behindMac inHeader isZero
    have shifted : (passField (getBuffer settings.buff datagram))[index - 7]? = some 0 := by
      rw [passField, List.getElem?_take_of_lt (by omega), List.getElem?_drop,
        Nat.add_sub_cancel' behindMac, isZero]
    exact List.mem_of_getElem? shifted
  by_cases inPass : 7 ≤ datagram.bytes.length
  · apply inField datagram.bytes.length inPass short
    rw [toList_getBuffer, List.getElem?_take_of_lt (by omega),
      List.getElem?_append_right (Nat.le_refl _)]
    simp
  · apply inField 8 (by omega) (by omega)
    rw [toList_getBuffer, List.getElem?_take_of_lt (by omega),
      List.getElem?_append_right (by omega)]
    obtain ⟨offset, shifted⟩ : ∃ offset, 8 - datagram.bytes.length = offset + 1 :=
      ⟨7 - datagram.bytes.length, by omega⟩
    rw [shifted, List.getElem?_cons_succ, List.getElem?_drop]
    have position : datagram.bytes.length + 1 + offset = 8 := by omega
    have cleared := settings.passCleared 8 (by omega) (by omega)
    rw [position, List.getElem?_eq_getElem (by simp), Vector.getElem_toList, cleared]

end Fields

/-- The last piece of the listing in which `hash` occurs. -/
def Configuration.lastMention (config : Configuration) : Option (List UInt8) :=
  ((CText.pieces 127 config.listing).filter fun output => bytesOf "hash" <:+: output).getLast?

section HashData

variable {host : Host}

theorem hashData_eq (host : Host) :
    hashData host =
      ((CText.pieces 127 host.config.listing).filter fun output =>
          bytesOf "hash" <:+: output).foldl
        (fun data output => getDataFormJson host.json output (bytesOf "hash") data)
        (CText.store host.stack []) := by
  rw [List.foldl_filter]
  simp [hashData]

theorem zero_mem_hashData_of_silent (silent : host.config.lastMention = none) :
    0 ∈ (hashData host).toList := by
  rw [hashData_eq, List.getLast?_eq_none_iff.mp silent]
  exact CText.zero_mem_store (by simp)

/-- Only the last mention counts for the bytes it writes. -/
theorem hashData_of_mention {line : List UInt8}
    (mention : host.config.lastMention = some line) :
    ∃ data, hashData host = getDataFormJson host.json line (bytesOf "hash") data := by
  obtain ⟨earlier, split⟩ := List.getLast?_eq_some_iff.mp mention
  rw [hashData_eq, split, List.foldl_append]
  exact ⟨_, rfl⟩

theorem takeWhile_text (value : Text) : value.bytes.takeWhile (· ≠ 0) = value.bytes := by
  rw [List.takeWhile_eq_self_iff]
  intro byte member
  have nonzero : byte ≠ 0 := fun zero => value.noNul (zero ▸ member)
  simpa using nonzero

theorem hashData_of_hashLine {value : Text} (valid : host.json.utf8 value.bytes = true)
    (mention : host.config.lastMention = some (hashLine value.bytes)) :
    ∃ data, hashData host = CText.store data value.bytes := by
  obtain ⟨data, read⟩ := hashData_of_mention mention
  rw [getDataFormJson, stringMember_hashLine host.json valid] at read
  simp only [takeWhile_text] at read
  exact ⟨_, read⟩

/-- `hash_data` is filled exactly by a last mention that is a whole line with
enough digits. -/
theorem hashData_filled_iff :
    0 ∉ (hashData host).toList ↔
      ∃ value : Text, host.config.lastMention = some (hashLine value.bytes) ∧
        host.json.utf8 value.bytes = true ∧ 32 ≤ value.bytes.length ∧
          (hashData host).toList = value.bytes.take 32 := by
  constructor
  · intro filled
    cases mention : host.config.lastMention with
    | none =>
        exact absurd (zero_mem_hashData_of_silent mention) filled
    | some line =>
        have arrives : line ∈ CText.pieces 127 host.config.listing :=
          (List.mem_filter.mp (List.mem_of_getLast? mention)).1
        obtain ⟨data, read⟩ := hashData_of_mention mention
        cases found : host.json.stringMember (jsonText line) (bytesOf "hash") with
        | none =>
            have emptied : hashData host = CText.store data [] := by
              rw [read, getDataFormJson, found]
            refine absurd ?_ filled
            rw [emptied]
            exact CText.zero_mem_store (by simp)
        | some bytes =>
            obtain ⟨value, rfl, valid, _⟩ := hashLine_of_stringMember arrives found
            obtain ⟨stored, isStored⟩ := hashData_of_hashLine valid mention
            have enough : 32 ≤ value.bytes.length := by
              by_contra short
              apply filled
              rw [isStored]
              exact CText.zero_mem_store (by omega)
            refine ⟨value, rfl, valid, enough, ?_⟩
            rw [isStored, CText.toList_store_of_le enough]
  · rintro ⟨value, _, _, _, digits⟩
    rw [digits]
    exact fun member => value.noNul (List.mem_of_mem_take member)

end HashData

section Decision

variable {host : Host} {settings : SettingsMsg}

theorem header_fields {mac pass : List UInt8} (first : UInt8) (message : List UInt8)
    (macLength : mac.length = 6) (passLength : pass.length = 32) :
    ((first :: (mac ++ (pass ++ message))).drop 1).take 6 = mac ∧
      ((first :: (mac ++ (pass ++ message))).drop 7).take 32 = pass := by
  constructor
  · rw [← macLength]
    exact List.take_left
  · have dropped : (first :: (mac ++ (pass ++ message))).drop 7 = pass ++ message := by
      rw [show 7 = mac.length + 1 by omega]
      exact List.drop_left
    rw [dropped, ← passLength]
    exact List.take_left

theorem header_split {bytes : List UInt8} {first : UInt8} (isFirst : bytes.head? = some first) :
    bytes = first :: ((bytes.drop 1).take 6 ++ ((bytes.drop 7).take 32 ++ bytes.drop 39)) := by
  cases bytes with
  | nil =>
      simp at isFirst
  | cons head rest =>
      obtain rfl : head = first := Option.some.inj isFirst
      have behindMac : rest.drop 6 = (rest.drop 6).take 32 ++ rest.drop 38 := by
        have split := (List.take_append_drop 32 (rest.drop 6)).symm
        rwa [List.drop_drop] at split
      simp only [List.drop_succ_cons, List.drop_zero]
      rw [← behindMac, List.take_append_drop]

theorem authorised_iff_of_long (settings : SettingsMsg) {datagram : SettingsDatagram}
    (long : 39 ≤ datagram.bytes.length) :
    Authorised host datagram ↔
      host.mac.toList = macField (getBuffer settings.buff datagram) ∧
        passField (getBuffer settings.buff datagram) ∈ host.config.hashes := by
  obtain ⟨isMac, isPass⟩ := fields_of_long settings long
  rw [isMac, isPass]
  constructor
  · rintro ⟨pass, message, passLength, configured, bytes⟩
    obtain ⟨macBytes, passBytes⟩ :=
      header_fields requestSetConfig message (by simp : host.mac.toList.length = 6) passLength
    rw [bytes, macBytes, passBytes]
    exact ⟨rfl, configured⟩
  · rintro ⟨sameMac, configured⟩
    refine ⟨(datagram.bytes.drop 7).take 32, datagram.bytes.drop 39, ?_, configured, ?_⟩
    · rw [List.length_take, List.length_drop]
      omega
    · rw [sameMac]
      exact header_split datagram.isSettings

theorem not_authorised_of_short {datagram : SettingsDatagram}
    (short : datagram.bytes.length < 39) : ¬Authorised host datagram := by
  rintro ⟨pass, message, passLength, _, bytes⟩
  rw [bytes] at short
  simp only [List.length_cons, List.length_append, Vector.length_toList] at short
  omega

/-- A request of the least length. -/
def request (mac pass : List UInt8) (macLength : mac.length = 6) (passLength : pass.length = 32) :
    SettingsDatagram where
  bytes := requestSetConfig :: (mac ++ pass)
  isSettings := rfl
  fits := by
    simp only [List.length_cons, List.length_append]
    omega

section Request

variable {mac pass : List UInt8} (macLength : mac.length = 6) (passLength : pass.length = 32)

theorem length_request : 39 ≤ (request mac pass macLength passLength).bytes.length := by
  simp only [request, List.length_cons, List.length_append]
  omega

theorem request_fields (settings : SettingsMsg) :
    macField (getBuffer settings.buff (request mac pass macLength passLength)) = mac ∧
      passField (getBuffer settings.buff (request mac pass macLength passLength)) = pass := by
  obtain ⟨isMac, isPass⟩ := fields_of_long settings (length_request macLength passLength)
  obtain ⟨macBytes, passBytes⟩ := header_fields requestSetConfig [] macLength passLength
  rw [List.append_nil] at macBytes passBytes
  rw [isMac, isPass]
  exact ⟨macBytes, passBytes⟩

theorem executes_request_iff (platform : Platform) (settings : SettingsMsg) :
    Executes platform host settings (request mac pass macLength passLength) ↔
      (host.mac.toList = mac ∨ platform.macRead = .beforeCall) ∧
        (Agrees platform.charSigned pass (hashData host).toList ∨
          platform.md5Read = .beforeCall) := by
  obtain ⟨isMac, isPass⟩ := request_fields macLength passLength settings
  rw [executes_iff, isMac, isPass]

theorem authorised_request_iff :
    Authorised host (request mac pass macLength passLength) ↔
      host.mac.toList = mac ∧ pass ∈ host.config.hashes := by
  obtain ⟨isMac, isPass⟩ := request_fields macLength passLength .initial
  rw [authorised_iff_of_long .initial (length_request macLength passLength), isMac, isPass]

end Request

/-- With the hash of the only configured user in `hash_data`, the decision is
the intended one. -/
theorem executes_iff_authorised {platform : Platform} {host : Host}
    (macRead : platform.macRead = .afterCall) (md5Read : platform.md5Read = .afterCall)
    (configured : (hashData host).toList ∈ host.config.hashes)
    (only : ∀ hash ∈ host.config.hashes, hash.length = 32 → hash = (hashData host).toList)
    (ascii : ∀ digit ∈ (hashData host).toList, digit < 128)
    (settings : SettingsMsg) (datagram : SettingsDatagram) :
    Executes platform host settings datagram ↔ Authorised host datagram := by
  rw [executes_iff, macRead, md5Read, agrees_iff]
  simp only [reduceCtorEq, or_false]
  by_cases long : 39 ≤ datagram.bytes.length
  · rw [authorised_iff_of_long settings long]
    constructor
    · rintro ⟨sameMac, samePass, _⟩
      exact ⟨sameMac, samePass ▸ configured⟩
    · rintro ⟨sameMac, inConfig⟩
      exact ⟨sameMac, only _ inConfig (length_passField _), fun _ => ascii⟩
  · constructor
    · rintro ⟨_, samePass, _⟩
      have noZero : 0 ∉ (hashData host).toList :=
        Configuration.zero_notMem_hashes configured
      rw [← samePass] at noZero
      exact absurd (zero_mem_passField_of_short (by omega)) noZero
    · intro authorised
      exact absurd authorised (not_authorised_of_short (by omega))

theorem exists_other_mac (host : Host) :
    ∃ mac : List UInt8, mac.length = 6 ∧ host.mac.toList ≠ mac := by
  by_cases zero : host.mac.toList = List.replicate 6 0
  · refine ⟨List.replicate 6 1, by simp, ?_⟩
    rw [zero]
    decide
  · exact ⟨List.replicate 6 0, by simp, zero⟩

/-- Under the intended decision the compiler reads `passFlag` after both calls. -/
theorem reads_after_of_intended {macRead md5Read : ReadOrder} {host : Host}
    {settings : SettingsMsg}
    (intended : ∀ datagram, Executes ⟨macRead, md5Read, false⟩ host settings datagram ↔
      Authorised host datagram) :
    macRead = .afterCall ∧ md5Read = .afterCall := by
  have dataLength : (hashData host).toList.length = 32 := by simp
  have macLength : host.mac.toList.length = 6 := by simp
  have same : Agrees false (hashData host).toList (hashData host).toList :=
    (agrees_iff _ _ _).mpr ⟨rfl, by simp⟩
  constructor
  · cases macRead with
    | afterCall =>
        rfl
    | beforeCall =>
        -- a request for another device
        obtain ⟨mac, otherLength, other⟩ := exists_other_mac host
        have executed := (executes_request_iff otherLength dataLength
          ⟨.beforeCall, md5Read, false⟩ settings).mpr ⟨Or.inr rfl, Or.inl same⟩
        have authorised := (authorised_request_iff otherLength dataLength).mp
          ((intended _).mp executed)
        exact absurd authorised.1 other
  · cases md5Read with
    | afterCall =>
        rfl
    | beforeCall =>
        -- a request with a pass that no user can have
        have zerosLength : (List.replicate 32 (0 : UInt8)).length = 32 := by simp
        have executed := (executes_request_iff macLength zerosLength
          ⟨macRead, .beforeCall, false⟩ settings).mpr ⟨Or.inl rfl, Or.inr rfl⟩
        have authorised := (authorised_request_iff macLength zerosLength).mp
          ((intended _).mp executed)
        exact absurd (by simp) (Configuration.zero_notMem_hashes authorised.2)

end Decision

/-- The code obeys exactly the datagrams of configured users when the compiler
reads `passFlag` after both checks, and the last piece of the listing that
mentions `hash` is a whole comma-terminated line whose value starts with the
one hash of 32 bytes that is configured, in ASCII. -/
theorem settings_authentication_iff (macRead md5Read : ReadOrder) (host : Host)
    (settings : SettingsMsg) :
    (∀ charSigned datagram,
        Executes ⟨macRead, md5Read, charSigned⟩ host settings datagram ↔
          Authorised host datagram) ↔
      macRead = .afterCall ∧ md5Read = .afterCall ∧
        ∃ value : Text, host.config.lastMention = some (hashLine value.bytes) ∧
          host.json.utf8 value.bytes = true ∧ 32 ≤ value.bytes.length ∧
            (∀ digit ∈ value.bytes.take 32, digit < 128) ∧
              value.bytes.take 32 ∈ host.config.hashes ∧
                ∀ hash ∈ host.config.hashes, hash.length = 32 → hash = value.bytes.take 32 := by
  constructor
  · intro intended
    obtain ⟨rfl, rfl⟩ := reads_after_of_intended (intended false)
    have macLength : host.mac.toList.length = 6 := by simp
    have dataLength : (hashData host).toList.length = 32 := by simp
    have decided : ∀ charSigned pass, pass.length = 32 →
        (Agrees charSigned pass (hashData host).toList ↔ pass ∈ host.config.hashes) := by
      intro charSigned pass passLength
      have request := intended charSigned (request _ pass macLength passLength)
      rw [executes_request_iff, authorised_request_iff] at request
      simpa using request
    have configured : (hashData host).toList ∈ host.config.hashes :=
      (decided false _ dataLength).mp ((agrees_iff _ _ _).mpr ⟨rfl, by simp⟩)
    have ascii : ∀ digit ∈ (hashData host).toList, digit < 128 :=
      ((agrees_iff _ _ _).mp ((decided true _ dataLength).mpr configured)).2 rfl
    have only : ∀ hash ∈ host.config.hashes, hash.length = 32 →
        hash = (hashData host).toList := by
      intro hash inConfig hashLength
      exact ((agrees_iff _ _ _).mp ((decided false hash hashLength).mpr inConfig)).1
    obtain ⟨value, mention, valid, enough, digits⟩ :=
      hashData_filled_iff.mp (Configuration.zero_notMem_hashes configured)
    rw [digits] at configured ascii only
    exact ⟨rfl, rfl, value, mention, valid, enough, ascii, configured, only⟩
  · rintro ⟨rfl, rfl, value, mention, valid, enough, ascii, configured, only⟩ charSigned datagram
    obtain ⟨stored, isStored⟩ := hashData_of_hashLine valid mention
    have digits : (hashData host).toList = value.bytes.take 32 := by
      rw [isStored, CText.toList_store_of_le enough]
    rw [← digits] at ascii configured only
    exact executes_iff_authorised rfl rfl configured only ascii settings datagram

section TwoUsers

def sampleText (text : String) (noNul : 0 ∉ bytesOf text) : Text :=
  ⟨bytesOf text, noNul⟩

def sampleName (text : String) (valid : IsName (bytesOf text)) : Name :=
  ⟨bytesOf text, valid⟩

/-- A user as the accounts script writes it. -/
def sampleUser (name : Name) (username hash : Text) : Section where
  name := name
  anonymous := false
  type := sampleText "login" (by decide)
  options :=
    [(sampleName "username" (by decide), .text username),
      (sampleName "hash" (by decide), .text hash),
      (sampleName "timeout" (by decide), .text (sampleText "300" (by decide)))]

def firstHash : Text :=
  sampleText "0123456789abcdef0123456789abcdef" (by decide)

def secondHash : Text :=
  sampleText "fedcba9876543210fedcba9876543210" (by decide)

def twoUsers : Host where
  json := plainJson
  mac := #v[0xC0, 0x11, 0xA6, 0x00, 0x00, 0x01]
  config :=
    ⟨[sampleUser (sampleName "root" (by decide)) (sampleText "root" (by decide)) firstHash,
      sampleUser (sampleName "guest" (by decide)) (sampleText "guest" (by decide)) secondHash]⟩
  stack := Vector.replicate 32 0
  commands := fun buff => (0, buff)

theorem hashData_twoUsers : (hashData twoUsers).toList = secondHash.bytes := by
  have mention : twoUsers.config.lastMention = some (hashLine secondHash.bytes) := by
    decide +kernel
  have valid : twoUsers.json.utf8 secondHash.bytes = true := by
    decide
  obtain ⟨stored, isStored⟩ := hashData_of_hashLine valid mention
  rw [isStored, CText.toList_store_of_le (by decide)]
  decide

/-- Only the user listed last is let in. -/
theorem first_of_two_users_is_turned_away :
    Authorised twoUsers (request twoUsers.mac.toList firstHash.bytes (by decide) (by decide)) ∧
      ¬Executes ⟨.afterCall, .afterCall, false⟩ twoUsers .initial
        (request twoUsers.mac.toList firstHash.bytes (by decide) (by decide)) := by
  constructor
  · rw [authorised_request_iff]
    exact ⟨rfl, by decide⟩
  · rw [executes_request_iff, hashData_twoUsers, agrees_iff]
    decide

end TwoUsers

end TfortisPack.DeviceMonitor
