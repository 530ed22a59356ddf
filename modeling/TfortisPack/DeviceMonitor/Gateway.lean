import Mathlib.Data.List.TakeWhile
import TfortisPack.DeviceMonitor.SettingsText

/-!
# The gateway setting

`runSetGate` of `settings_module.c`.  `checkGateWayValid` counts the octets 255
of a value of four tokens and returns 5 for any other value; a count of 0 has
the gateway set, any other number has it deleted.
-/

namespace TfortisPack.DeviceMonitor

open TfortisPack.Library

/-! ## Dotted quads -/

def isDecimal (byte : UInt8) : Bool :=
  48 ≤ byte && byte ≤ 57

/-- One to three decimal digits of a number up to 255. -/
structure Octet where
  digits : List UInt8
  nonempty : digits ≠ []
  short : digits.length ≤ 3
  decimal : ∀ digit ∈ digits, isDecimal digit = true
  small : decimalValue digits ≤ 255

structure DottedQuad where
  first : Octet
  second : Octet
  third : Octet
  fourth : Octet

namespace DottedQuad

def octets (quad : DottedQuad) : List Octet :=
  [quad.first, quad.second, quad.third, quad.fourth]

/-- The address without the brackets. -/
def address (quad : DottedQuad) : List UInt8 :=
  quad.first.digits ++ 46 :: (quad.second.digits ++ 46 :: (quad.third.digits ++
    46 :: quad.fourth.digits))

/-- The address as a settings value. -/
def value (quad : DottedQuad) : List UInt8 :=
  91 :: (quad.address ++ [93])

end DottedQuad

def Octet.IsFull (octet : Octet) : Prop :=
  decimalValue octet.digits = 255

instance (octet : Octet) : Decidable octet.IsFull :=
  inferInstanceAs (Decidable (_ = _))

/-! ## The rule -/

def setGateway : List UInt8 :=
  bytesOf "uci set network.lan.gateway="

def delGateway : List UInt8 :=
  bytesOf "uci del network.lan.gateway"

/-- The handler returns, and of the commands it hands to the shell one deletes the gateway exactly
for the address of four octets 255, one sets it for any other address, and none is about
it for a value that is no address. -/
structure GatewayRule (inData : List UInt8) (commands : List (List UInt8)) : Prop where
  deletes : delGateway ∈ commands ↔
    ∃ quad : DottedQuad, quad.value = inData ∧ ∀ octet ∈ quad.octets, octet.IsFull
  sets : ∀ quad : DottedQuad, quad.value = inData → (¬∀ octet ∈ quad.octets, octet.IsFull) →
    setGateway ++ 39 :: (quad.address ++ [39]) ∈ commands
  leaves : (¬∃ quad : DottedQuad, quad.value = inData) →
    ∀ command ∈ commands, command ≠ delGateway ∧ ¬setGateway <+: command

/-- An address of which all octets are 255 or none is. -/
def Unmixed (inData : List UInt8) : Prop :=
  ∃ quad : DottedQuad, quad.value = inData ∧
    ((∀ octet ∈ quad.octets, octet.IsFull) ∨ ∀ octet ∈ quad.octets, ¬octet.IsFull)

/-! ## The tokens of an address -/

/-- The replacements of `checkGateWayValid`. -/
def spaced (ip : List UInt8) : List UInt8 :=
  ip.map fun byte => if byte = 46 ∨ byte = 91 ∨ byte = 93 then 32 else byte

theorem isDecimal_iff (byte : UInt8) :
    isDecimal byte = true ↔ 48 ≤ byte.toNat ∧ byte.toNat ≤ 57 := by
  rw [isDecimal, Bool.and_eq_true, decide_eq_true_iff, decide_eq_true_iff,
    UInt8.le_iff_toNat_le, UInt8.le_iff_toNat_le]
  rfl

theorem ne_of_isDecimal {byte other : UInt8} (decimal : isDecimal byte = true)
    (outside : isDecimal other = false) : byte ≠ other := by
  rintro rfl
  rw [decimal] at outside
  cases outside

/-- A map that leaves digits alone. -/
theorem Octet.map_digits (octet : Octet) {f : UInt8 → UInt8}
    (same : ∀ byte, isDecimal byte = true → f byte = byte) :
    octet.digits.map f = octet.digits := by
  have identity : octet.digits.map f = octet.digits.map id := by
    apply List.map_congr_left
    intro digit member
    exact same digit (octet.decimal digit member)
  rw [identity, List.map_id]

theorem Octet.spaced_digits (octet : Octet) : spaced octet.digits = octet.digits := by
  apply octet.map_digits
  intro byte decimal
  rw [if_neg]
  rintro (dot | opening | closing)
  · exact ne_of_isDecimal decimal (by decide) dot
  · exact ne_of_isDecimal decimal (by decide) opening
  · exact ne_of_isDecimal decimal (by decide) closing

theorem spaced_append (front back : List UInt8) :
    spaced (front ++ back) = spaced front ++ spaced back :=
  List.map_append

theorem DottedQuad.spaced_value (quad : DottedQuad) :
    spaced quad.value =
      32 :: (quad.first.digits ++ 32 :: (quad.second.digits ++ 32 :: (quad.third.digits ++
        32 :: (quad.fourth.digits ++ [32])))) := by
  have opening : ∀ rest, spaced (91 :: rest) = 32 :: spaced rest := fun _ => rfl
  have dot : ∀ rest, spaced (46 :: rest) = 32 :: spaced rest := fun _ => rfl
  have closing : spaced [93] = [32] := rfl
  rw [DottedQuad.value, DottedQuad.address, opening]
  simp only [List.append_assoc, List.cons_append, spaced_append, Octet.spaced_digits, dot,
    closing]

theorem Octet.free (octet : Octet) {byte : UInt8} (outside : isDecimal byte = false) :
    byte ∉ octet.digits := by
  intro member
  exact ne_of_isDecimal (octet.decimal byte member) outside rfl

theorem Octet.tokens_append (octet : Octet) (rest : List UInt8) :
    Texts.tokens 32 (octet.digits ++ 32 :: rest) = octet.digits :: Texts.tokens 32 rest := by
  have blank : isDecimal 32 = false := by decide
  rw [Texts.tokens_append_cons, Texts.tokens_of_free (octet.free blank) octet.nonempty]
  rfl

theorem DottedQuad.tokens_value (quad : DottedQuad) :
    Texts.tokens 32 (spaced quad.value) = quad.octets.map Octet.digits := by
  have start := Texts.tokens_append_cons (32 : UInt8) [] (quad.first.digits ++
    32 :: (quad.second.digits ++ 32 :: (quad.third.digits ++ 32 :: (quad.fourth.digits ++ [32]))))
  rw [List.nil_append, Texts.tokens_nil, List.nil_append] at start
  rw [quad.spaced_value, start, Octet.tokens_append, Octet.tokens_append, Octet.tokens_append,
    Octet.tokens_append, Texts.tokens_nil]
  rfl

theorem Octet.atoi_digits (octet : Octet) : atoi octet.digits = decimalValue octet.digits := by
  obtain ⟨first, others, shape⟩ := List.exists_cons_of_ne_nil octet.nonempty
  have decimal := octet.decimal first (by rw [shape]; exact List.mem_cons_self)
  have solid : isSpace first = false := by
    have range := (isDecimal_iff first).mp decimal
    rw [isSpace, decide_eq_false_iff_not]
    rintro (blank | ⟨_, control⟩)
    · exact ne_of_isDecimal decimal (by decide) blank
    · rw [UInt8.le_iff_toNat_le] at control
      have limit : (13 : UInt8).toNat = 13 := rfl
      omega
  have minus : first ≠ 45 := ne_of_isDecimal decimal (by decide)
  have plus : first ≠ 43 := ne_of_isDecimal decimal (by decide)
  rw [shape, atoi, List.dropWhile_cons, solid]
  split
  · rename_i rest equality
    exact absurd (List.cons.inj equality).1 minus
  · rename_i rest equality
    exact absurd (List.cons.inj equality).1 plus
  · rfl

/-- For an address the check counts the octets 255. -/
theorem DottedQuad.checkGateWayValid_value (quad : DottedQuad) :
    checkGateWayValid quad.value = (quad.octets.filter fun octet => octet.IsFull).length := by
  have tokens := quad.tokens_value
  have count : (Texts.tokens 32 (spaced quad.value)).length = 4 := by
    rw [tokens]
    rfl
  have last : (splitLine 32 (spaced quad.value)).splitLineMax = 3 := by
    rw [splitLine_splitLineMax, count]
    rfl
  have entries : (splitLine 32 (spaced quad.value)).entries =
      quad.octets.map fun octet => some octet.digits := by
    rw [entries_splitLine (by rw [count]; decide), count, tokens]
    rfl
  have unfolded : checkGateWayValid quad.value =
      if (splitLine 32 (spaced quad.value)).splitLineMax ≠ 3 then 5
      else ((splitLine 32 (spaced quad.value)).entries.filter fun entry =>
        entry.any fun token => atoi token = 255).length := rfl
  rw [unfolded, last, if_neg (not_not.mpr rfl), entries, List.filter_map, List.length_map]
  congr 1
  apply List.filter_congr
  intro octet _
  have number := octet.atoi_digits
  have same : atoi octet.digits = 255 ↔ octet.IsFull := by
    rw [Octet.IsFull]
    omega
  exact decide_eq_decide.mpr same

theorem DottedQuad.valid_iff (quad : DottedQuad) :
    checkGateWayValid quad.value = 0 ↔ ∀ octet ∈ quad.octets, ¬octet.IsFull := by
  rw [quad.checkGateWayValid_value, List.length_eq_zero_iff, List.filter_eq_nil_iff]
  simp only [decide_eq_true_iff]

/-! ## The commands -/

/-- An address is determined by its value. -/
theorem DottedQuad.octets_of_value {quad other : DottedQuad} (same : quad.value = other.value) :
    quad.octets.map Octet.digits = other.octets.map Octet.digits := by
  rw [← quad.tokens_value, ← other.tokens_value, same]

theorem DottedQuad.allFull_iff {quad other : DottedQuad} (same : quad.value = other.value) :
    (∀ octet ∈ quad.octets, octet.IsFull) ↔ ∀ octet ∈ other.octets, octet.IsFull := by
  have digits : ∀ quad : DottedQuad, (∀ octet ∈ quad.octets, octet.IsFull) ↔
      ∀ token ∈ quad.octets.map Octet.digits, decimalValue token = 255 := by
    intro quad
    rw [List.forall_mem_map]
    rfl
  rw [digits quad, digits other, DottedQuad.octets_of_value same]

theorem DottedQuad.length_address (quad : DottedQuad) : quad.address.length ≤ 15 := by
  have first := quad.first.short
  have second := quad.second.short
  have third := quad.third.short
  have fourth := quad.fourth.short
  simp only [DottedQuad.address, List.length_append, List.length_cons]
  omega

theorem Octet.quote_digits (octet : Octet) : quote octet.digits = octet.digits := by
  apply octet.map_digits
  intro byte decimal
  rw [if_neg]
  rintro (opening | closing)
  · exact ne_of_isDecimal decimal (by decide) opening
  · exact ne_of_isDecimal decimal (by decide) closing

theorem quote_append (front back : List UInt8) :
    quote (front ++ back) = quote front ++ quote back :=
  List.map_append

theorem DottedQuad.quote_value (quad : DottedQuad) :
    quote quad.value = 39 :: (quad.address ++ [39]) := by
  have opening : ∀ rest, quote (91 :: rest) = 39 :: quote rest := fun _ => rfl
  have dot : ∀ rest, quote (46 :: rest) = 46 :: quote rest := fun _ => rfl
  have closing : quote [93] = [39] := rfl
  rw [DottedQuad.value, DottedQuad.address, opening]
  simp only [quote_append, Octet.quote_digits, dot, closing]

theorem DottedQuad.firstLine_quote_value (quad : DottedQuad) :
    firstLine (quote quad.value) = 39 :: (quad.address ++ [39]) := by
  have noNewline : ∀ byte ∈ quote quad.value, byte ≠ CText.newline := by
    have digits : ∀ octet : Octet, ∀ byte ∈ octet.digits, byte ≠ CText.newline :=
      fun octet byte member => ne_of_isDecimal (octet.decimal byte member) (by decide)
    have mark : (39 : UInt8) ≠ CText.newline := by decide
    have dot : (46 : UInt8) ≠ CText.newline := by decide
    rw [quad.quote_value, DottedQuad.address]
    simp only [List.mem_cons, List.mem_append, List.not_mem_nil, or_false]
    intro byte member
    rcases member with rfl | (member | rfl | member | rfl | member | rfl | member) | rfl
    · exact mark
    · exact digits _ byte member
    · exact dot
    · exact digits _ byte member
    · exact dot
    · exact digits _ byte member
    · exact dot
    · exact digits _ byte member
    · exact mark
  rw [← quad.quote_value, firstLine, List.takeWhile_eq_self_iff]
  intro byte member
  exact decide_eq_true (noNewline byte member)

/-- The commands for an address. -/
theorem DottedQuad.runSetGate_value (quad : DottedQuad) (info : SettingsInfo) :
    runSetGate quad.value info =
      some (if ∀ octet ∈ quad.octets, ¬octet.IsFull then
          [setGateway ++ 39 :: (quad.address ++ [39]), bytesOf "uci commit network"]
        else [delGateway, bytesOf "uci commit network"],
        { info with applyNetwork := true }) := by
  have short : setGateway.length + (39 :: (quad.address ++ [39])).length < 128 := by
    have start : setGateway.length = 28 := by decide
    have address := quad.length_address
    rw [start, List.length_cons, List.length_append, List.length_singleton]
    omega
  have command : mainCommand (bytesOf "uci set network.lan.gateway=")
      (firstLine (quote quad.value)) = some (setGateway ++ 39 :: (quad.address ++ [39])) := by
    rw [quad.firstLine_quote_value]
    exact if_pos short
  by_cases valid : ∀ octet ∈ quad.octets, ¬octet.IsFull
  · rw [runSetGate, if_pos (quad.valid_iff.mpr valid), command, if_pos valid]
    rfl
  · rw [runSetGate, if_neg fun zero => valid (quad.valid_iff.mp zero), if_neg valid]
    rfl

/-- What a call leaves that returns, for any value. -/
theorem runSetGate_cases {inData : List UInt8} {info : SettingsInfo}
    {result : List (List UInt8) × SettingsInfo} (returned : runSetGate inData info = some result) :
    delGateway ∈ result.1 ∨ ∃ command ∈ result.1, setGateway <+: command := by
  rw [runSetGate] at returned
  split at returned
  · obtain ⟨command, written, rfl⟩ := Option.map_eq_some_iff.mp returned
    refine Or.inr ⟨command, List.mem_cons_self, ?_⟩
    rw [mainCommand] at written
    split at written
    · cases written
      exact List.prefix_append _ _
    · cases written
  · cases returned
    exact Or.inl List.mem_cons_self

theorem notDeleted (quad : DottedQuad) :
    delGateway ∉ [setGateway ++ 39 :: (quad.address ++ [39]), bytesOf "uci commit network"] := by
  intro member
  rw [List.mem_cons, List.mem_singleton] at member
  rcases member with set | commit
  · have starts := congrArg (List.take 5) set
    rw [List.take_append_of_le_length (by decide)] at starts
    exact absurd starts (by decide)
  · exact absurd commit (by decide)

theorem gatewayRule_of_full {quad : DottedQuad} (full : ∀ octet ∈ quad.octets, octet.IsFull) :
    GatewayRule quad.value [delGateway, bytesOf "uci commit network"] where
  deletes := ⟨fun _ => ⟨quad, rfl, full⟩, fun _ => List.mem_cons_self⟩
  sets _ same notFull := absurd ((DottedQuad.allFull_iff same).mpr full) notFull
  leaves noQuad := absurd ⟨quad, rfl⟩ noQuad

theorem gatewayRule_of_empty {quad : DottedQuad}
    (empty : ∀ octet ∈ quad.octets, ¬octet.IsFull) :
    GatewayRule quad.value
      [setGateway ++ 39 :: (quad.address ++ [39]), bytesOf "uci commit network"] where
  deletes := by
    constructor
    · intro deleted
      exact absurd deleted (notDeleted quad)
    · rintro ⟨other, same, full⟩
      have first : quad.first ∈ quad.octets := List.mem_cons_self
      exact absurd ((DottedQuad.allFull_iff same).mp full quad.first first)
        (empty quad.first first)
  sets other same _ := by
    have quoted := congrArg quote same
    rw [other.quote_value, quad.quote_value] at quoted
    rw [quoted]
    exact List.mem_cons_self
  leaves noQuad := absurd ⟨quad, rfl⟩ noQuad

/-- The gateway is handled as its value says exactly for the addresses of which all octets are
255 or none is. -/
theorem gateway_rule_iff (inData : List UInt8) (info : SettingsInfo) :
    (∃ result, runSetGate inData info = some result ∧ GatewayRule inData result.1) ↔
      Unmixed inData := by
  constructor
  · rintro ⟨result, returned, rule⟩
    by_cases isQuad : ∃ quad : DottedQuad, quad.value = inData
    · obtain ⟨quad, rfl⟩ := isQuad
      refine ⟨quad, rfl, ?_⟩
      by_contra mixed
      rw [not_or] at mixed
      rw [quad.runSetGate_value, if_neg mixed.2] at returned
      cases returned
      have full := rule.deletes.mp List.mem_cons_self
      obtain ⟨other, same, otherFull⟩ := full
      exact mixed.1 ((DottedQuad.allFull_iff same).mp otherFull)
    · rcases runSetGate_cases returned with deleted | ⟨command, member, starts⟩
      · exact absurd rfl (rule.leaves isQuad delGateway deleted).1
      · exact absurd starts (rule.leaves isQuad command member).2
  · rintro ⟨quad, rfl, full | empty⟩
    · have first : quad.first ∈ quad.octets := List.mem_cons_self
      have notEmpty : ¬∀ octet ∈ quad.octets, ¬octet.IsFull :=
        fun empty => empty quad.first first (full quad.first first)
      have returned := quad.runSetGate_value info
      rw [if_neg notEmpty] at returned
      exact ⟨_, returned, gatewayRule_of_full full⟩
    · have returned := quad.runSetGate_value info
      rw [if_pos empty] at returned
      exact ⟨_, returned, gatewayRule_of_empty empty⟩

/-- The octet of some digits. -/
def octetOf (digits : List UInt8) (nonempty : digits ≠ []) (short : digits.length ≤ 3)
    (decimal : digits.all isDecimal = true) (small : decimalValue digits ≤ 255) : Octet :=
  ⟨digits, nonempty, short, List.all_eq_true.mp decimal, small⟩

/-- The address 10.255.1.1 has the gateway deleted. -/
theorem gateway_with_one_full_octet :
    ¬∀ inData info, ∃ result, runSetGate inData info = some result ∧
      GatewayRule inData result.1 := by
  intro keeps
  let ten := octetOf [49, 48] (by decide) (by decide) (by decide) (by decide)
  let full := octetOf [50, 53, 53] (by decide) (by decide) (by decide) (by decide)
  let one := octetOf [49] (by decide) (by decide) (by decide) (by decide)
  let quad : DottedQuad := ⟨ten, full, one, one⟩
  have mixed : ¬∀ octet ∈ quad.octets, ¬octet.IsFull := by
    intro empty
    exact empty full (List.mem_cons_of_mem _ List.mem_cons_self) (by decide)
  obtain ⟨result, returned, rule⟩ := keeps quad.value .cleared
  rw [quad.runSetGate_value, if_neg mixed] at returned
  cases returned
  obtain ⟨other, same, allFull⟩ := rule.deletes.mp List.mem_cons_self
  have tenFull := (DottedQuad.allFull_iff same).mp allFull ten List.mem_cons_self
  revert tenFull
  decide

end TfortisPack.DeviceMonitor
