import TfortisPack.DeviceMonitor.SettingsText

/-!
# Settings messages made of items

The text of a settings message is a list of items between `#` signs.  An item
is meant to run one handler if its key is known and it has a value, and nothing
otherwise.  The code executes the slot of every item.
-/

namespace TfortisPack.DeviceMonitor

open TfortisPack.Library

/-! ## Items -/

/-- A nonempty text without NUL, `#` and `=`. -/
structure Key where
  bytes : List UInt8
  nonempty : bytes ≠ []
  noNul : 0 ∉ bytes
  noHash : hash ∉ bytes
  noEquals : equals ∉ bytes

/-- A nonempty text without NUL and `#`. -/
structure Value where
  bytes : List UInt8
  nonempty : bytes ≠ []
  noNul : 0 ∉ bytes
  noHash : hash ∉ bytes

/-- An item of a settings message. -/
inductive Item where
  /-- `KEY=value`. -/
  | assign (key : Key) (value : Value)
  /-- A text without `=`. -/
  | bare (text : Key)
  /-- `KEY=`. -/
  | valueless (key : Key)

def Item.text : Item → List UInt8
  | .assign key value => key.bytes ++ equals :: value.bytes
  | .bare text => text.bytes
  | .valueless key => key.bytes ++ [equals]

/-- The text of a message. -/
def messageOf (items : List Item) : List UInt8 :=
  List.intercalate [hash] (items.map Item.text)

/-- The handler call that an item asks for. -/
def Item.call : Item → Option (SettingsCmd × List UInt8)
  | .assign key value => (findCmd key.bytes).map fun cmd => (cmd, value.bytes)
  | _ => none

/-- Whatever `malloc` returns an array of, the message runs the calls that its
items ask for and no others. -/
def RunsItems (host : SettingsHost) (items : List Item) : Prop :=
  ∀ heap info, ∃ actions after,
    runSettings host (some heap) (messageOf items) info = some (0, actions, after) ∧
      calls actions = items.filterMap Item.call

/-- The item is known to the table, its value is one token that fits into the
slot, and its handler holds it. -/
def Item.Runnable (host : SettingsHost) : Item → Prop
  | .assign key value =>
      ∃ cmd, findCmd key.bytes = some cmd ∧ equals ∉ value.bytes ∧ value.bytes.length < 128 ∧
        Fits host cmd value.bytes
  | _ => False

/-- The number of items that the wrapped index of `split_line` forgets. -/
def forgotten (items : List Item) : Nat :=
  items.length - items.length % 256

/-- The items that the code sees are not none, and all of them can be run; those
it forgets ask for nothing. -/
def AllRunnable (host : SettingsHost) (items : List Item) : Prop :=
  items.drop (forgotten items) ≠ [] ∧
    (∀ item ∈ items.drop (forgotten items), item.Runnable host) ∧
    ∀ item ∈ items.take (forgotten items), item.call = none

/-! ## Items and their tokens -/

theorem Item.text_ne_nil (item : Item) : item.text ≠ [] := by
  cases item with
  | assign key value => simp [Item.text]
  | bare text => exact text.nonempty
  | valueless key => simp [Item.text]

theorem Item.zero_notMem (item : Item) : 0 ∉ item.text := by
  have different : (0 : UInt8) ≠ equals := by decide
  cases item with
  | assign key value => simp [Item.text, key.noNul, value.noNul, different]
  | bare text => exact text.noNul
  | valueless key => simp [Item.text, key.noNul, different]

theorem Item.hash_notMem (item : Item) : hash ∉ item.text := by
  have different : hash ≠ equals := by decide
  cases item with
  | assign key value => simp [Item.text, key.noHash, value.noHash, different]
  | bare text => exact text.noHash
  | valueless key => simp [Item.text, key.noHash, different]

theorem tokens_messageOf (items : List Item) :
    Texts.tokens hash (messageOf items) = items.map Item.text := by
  apply Texts.tokens_intercalate
  · intro text member
    obtain ⟨item, _, rfl⟩ := List.mem_map.mp member
    exact item.hash_notMem
  · intro text member
    obtain ⟨item, _, rfl⟩ := List.mem_map.mp member
    exact item.text_ne_nil

theorem tokens_key (key : Key) : Texts.tokens equals key.bytes = [key.bytes] :=
  Texts.tokens_of_free key.noEquals key.nonempty

theorem tokens_assign (key : Key) (value : Value) :
    Texts.tokens equals (Item.assign key value).text =
      key.bytes :: Texts.tokens equals value.bytes := by
  rw [Item.text, Texts.tokens_append_cons, tokens_key]
  rfl

theorem tokens_valueless (key : Key) :
    Texts.tokens equals (Item.valueless key).text = [key.bytes] := by
  rw [Item.text, Texts.tokens_append_cons, tokens_key, Texts.tokens_nil]
  rfl

section Item

variable {host : SettingsHost} {item : Item}

theorem named_of_runnable (runnable : item.Runnable host) :
    ∃ call, item.call = some call ∧ Named host item.text call := by
  cases item with
  | assign key value =>
      obtain ⟨cmd, known, oneToken, short, fits⟩ := runnable
      have tokens : Texts.tokens equals (Item.assign key value).text =
          [key.bytes, value.bytes] := by
        rw [tokens_assign, Texts.tokens_of_free oneToken value.nonempty]
      obtain ⟨first, second⟩ := tokens_pair tokens
      refine ⟨(cmd, value.bytes), ?_, key.bytes, first, known, second, short, fits⟩
      simp only [Item.call, known, Option.map_some]
  | bare text => exact runnable.elim
  | valueless key => exact runnable.elim

/-- In an item of at most 512 bytes the index does not wrap, so that its tokens
are its key and its value. -/
theorem call_ne_none_of_short (short : item.text.length ≤ 512)
    {call : SettingsCmd × List UInt8} (named : Named host item.text call) : item.call ≠ none := by
  obtain ⟨key, first, known, second, _, _⟩ := named
  have kept : (Texts.tokens equals item.text).length % 256 ≠ 0 := by
    intro wrapped
    rw [tokens_zero_of_wrapped wrapped] at first
    exact nomatch first
  have half := Texts.two_mul_length_tokens_le equals item.text
  have few : (Texts.tokens equals item.text).length < 256 := by omega
  have isFirst := tokens_of_few few (Nat.zero_le _)
  have isSecond := tokens_of_few few (show 1 ≤ _ by omega)
  rw [show UInt8.ofNat 0 = 0 from rfl, first] at isFirst
  rw [show UInt8.ofNat 1 = 1 from rfl, second] at isSecond
  cases item with
  | assign itemKey value =>
      rw [tokens_assign, List.getElem?_cons_zero, Option.some.injEq] at isFirst
      simp only [Item.call, ← isFirst, known, Option.map_some]
      exact nofun
  | bare text =>
      rw [Item.text, tokens_key] at isSecond
      exact nomatch isSecond
  | valueless itemKey =>
      rw [tokens_valueless] at isSecond
      exact nomatch isSecond

theorem runnable_of_call {call : SettingsCmd × List UInt8} (asks : item.call = some call)
    (named : Named host item.text call) : item.Runnable host := by
  obtain ⟨key, _, _, second, short, fits⟩ := named
  have oneToken := Texts.free_of_mem_tokens (mem_of_splitLine_tokens second)
  cases item with
  | assign itemKey value =>
      obtain ⟨cmd, known, rfl⟩ := Option.map_eq_some_iff.mp asks
      exact ⟨cmd, known, oneToken, short, fits⟩
  | bare text => exact nomatch asks
  | valueless itemKey => exact nomatch asks

end Item

/-! ## The whole message -/

section Message

variable {host : SettingsHost} {items : List Item}

theorem messageOf_cons {rest : List Item} (item : Item) (more : rest ≠ []) :
    messageOf (item :: rest) = item.text ++ hash :: messageOf rest := by
  obtain ⟨next, later, rfl⟩ := List.exists_cons_of_ne_nil more
  simp [messageOf, List.intercalate]

theorem length_text_le {item : Item} (member : item ∈ items) :
    item.text.length + 2 * (items.length - 1) ≤ (messageOf items).length := by
  induction items with
  | nil =>
      exact nomatch member
  | cons head rest inductionHypothesis =>
      by_cases single : rest = []
      · rw [single, List.mem_singleton] at member
        simp [single, member, messageOf, List.intercalate]
      · have room := Texts.two_mul_length_tokens_le hash (messageOf rest)
        have headRoom := List.length_pos_iff.mpr head.text_ne_nil
        have restRoom := List.length_pos_iff.mpr single
        rw [tokens_messageOf, List.length_map] at room
        rw [messageOf_cons head single, List.length_append, List.length_cons, List.length_cons]
        rcases List.mem_cons.mp member with rfl | later
        · omega
        · have bound := inductionHypothesis later
          omega

theorem zero_notMem_messageOf : 0 ∉ messageOf items := by
  have different : (0 : UInt8) ≠ hash := by decide
  induction items with
  | nil =>
      simp [messageOf]
  | cons item rest inductionHypothesis =>
      by_cases single : rest = []
      · rw [single]
        simpa [messageOf, List.intercalate] using item.zero_notMem
      · rw [messageOf_cons item single]
        simp [item.zero_notMem, different, inductionHypothesis]

theorem seen_messageOf : seen (messageOf items) = (items.drop (forgotten items)).map Item.text := by
  rw [seen, tokens_messageOf, List.length_map, forgotten, ← List.map_drop]

theorem filterMap_call (items : List Item) :
    items.filterMap Item.call =
      (items.take (forgotten items)).filterMap Item.call ++
        (items.drop (forgotten items)).filterMap Item.call := by
  rw [← List.filterMap_append, List.take_append_drop]

theorem named_of_allRunnable {handled : List Item}
    (runnable : ∀ item ∈ handled, item.Runnable host) :
    List.Forall₂ (Named host) (handled.map Item.text) (handled.filterMap Item.call) := by
  induction handled with
  | nil =>
      exact .nil
  | cons item rest inductionHypothesis =>
      obtain ⟨itemRunnable, restRunnable⟩ := List.forall_mem_cons.mp runnable
      obtain ⟨call, asks, named⟩ := named_of_runnable itemRunnable
      rw [List.filterMap_cons_some asks]
      exact .cons named (inductionHypothesis restRunnable)

theorem runsItems_of_allRunnable (runnable : AllRunnable host items) : RunsItems host items := by
  obtain ⟨kept, handled, silent⟩ := runnable
  have keptTexts : seen (messageOf items) ≠ [] := by
    rw [seen_messageOf]
    simpa using kept
  have named := named_of_allRunnable handled
  rw [← seen_messageOf] at named
  intro heap info
  obtain ⟨actions, after, runs, called⟩ :=
    runSettings_of_named zero_notMem_messageOf keptTexts named heap info
  refine ⟨actions, after, runs, ?_⟩
  rw [called, filterMap_call items, List.filterMap_eq_nil_iff.mpr silent, List.nil_append]

theorem runnable_of_calls {handled : List Item} {called : List (SettingsCmd × List UInt8)}
    (named : List.Forall₂ (Named host) (handled.map Item.text) called)
    (asked : handled.filterMap Item.call = called) : ∀ item ∈ handled, item.Runnable host := by
  induction handled generalizing called with
  | nil =>
      exact nofun
  | cons item rest inductionHypothesis =>
      obtain ⟨call, calledRest, one, later, rfl⟩ := List.forall₂_cons_left_iff.mp named
      -- An item that asks for nothing leaves too few calls to the others.
      have asks : item.call = some call := by
        cases asksOne : item.call with
        | none =>
            have counted := congrArg List.length asked
            have most := List.length_filterMap_le Item.call rest
            have same := later.length_eq
            rw [List.filterMap_cons_none asksOne, List.length_cons] at counted
            rw [List.length_map] at same
            omega
        | some asksFor =>
            rw [List.filterMap_cons_some asksOne] at asked
            rw [(List.cons.inj asked).1]
      rw [List.filterMap_cons_some asks] at asked
      exact List.forall_mem_cons.mpr ⟨runnable_of_call asks one,
        inductionHypothesis later (List.cons.inj asked).2⟩

theorem exists_named {handled : List Item} {called : List (SettingsCmd × List UInt8)}
    (named : List.Forall₂ (Named host) (handled.map Item.text) called) :
    ∀ item ∈ handled, ∃ call, Named host item.text call := by
  induction handled generalizing called with
  | nil =>
      exact nofun
  | cons item rest inductionHypothesis =>
      obtain ⟨call, calledRest, one, later, rfl⟩ := List.forall₂_cons_left_iff.mp named
      exact List.forall_mem_cons.mpr ⟨⟨call, one⟩, inductionHypothesis later⟩

/-- The items that the index forgets ask for nothing if those seen take all the
calls. -/
theorem silent_of_calls (short : (messageOf items).length ≤ 1024)
    {called : List (SettingsCmd × List UInt8)}
    (named : List.Forall₂ (Named host) ((items.drop (forgotten items)).map Item.text) called)
    (asked : items.filterMap Item.call = called) :
    (items.take (forgotten items)).filterMap Item.call = [] := by
  by_cases few : items.length < 256
  · have none : forgotten items = 0 := by
      rw [forgotten, Nat.mod_eq_of_lt few, Nat.sub_self]
    rw [none, List.take_zero, List.filterMap_nil]
  · have allAsk : ∀ item ∈ items.drop (forgotten items), item.call.isSome = true := by
      intro item member
      obtain ⟨call, one⟩ := exists_named named item member
      have bound := length_text_le (List.mem_of_mem_drop member)
      have nonempty := List.length_pos_of_mem member
      have shorter : item.text.length ≤ 512 := by
        rw [List.length_drop, forgotten] at nonempty
        omega
      exact Option.isSome_iff_ne_none.mpr (call_ne_none_of_short shorter one)
    have counted := congrArg List.length ((filterMap_call items).symm.trans asked)
    have same := named.length_eq
    rw [List.length_append, List.filterMap_length_eq_length.mpr allAsk] at counted
    rw [List.length_map] at same
    exact List.length_eq_zero_iff.mp (by omega)

/-- A message runs the calls that its items ask for exactly if the code sees an
item, can run all those it sees, and forgets none that asks for a call. -/
theorem settings_executed_iff (host : SettingsHost) (items : List Item)
    (short : (messageOf items).length ≤ 1024) :
    RunsItems host items ↔ AllRunnable host items := by
  refine ⟨fun runsItems => ?_, runsItems_of_allRunnable⟩
  obtain ⟨actions, after, runs, asked⟩ := runsItems (fun _ => noSlot) .cleared
  obtain ⟨kept, named⟩ := named_of_runSettings zero_notMem_messageOf runs
  rw [seen_messageOf] at kept named
  have silent := silent_of_calls short named asked.symm
  refine ⟨by simpa using kept, runnable_of_calls named ?_, List.filterMap_eq_nil_iff.mp silent⟩
  rw [asked, filterMap_call items, silent, List.nil_append]

end Message

/-- `SNMP_STATE=1`. -/
def snmpItem : Item :=
  .assign
    { bytes := bytesOf "SNMP_STATE", nonempty := by decide, noNul := by decide,
      noHash := by decide, noEquals := by decide }
    { bytes := bytesOf "1", nonempty := by decide, noNul := by decide, noHash := by decide }

/-- The word `SNMP` is no key of `settings_Table`. -/
def unknownItem : Item :=
  .assign
    { bytes := bytesOf "SNMP", nonempty := by decide, noNul := by decide, noHash := by decide,
      noEquals := by decide }
    { bytes := bytesOf "1", nonempty := by decide, noNul := by decide, noHash := by decide }

/-- A known key with a value is run. -/
theorem known_item_executed :
    (messageOf [snmpItem]).length ≤ 1024 ∧
      RunsItems { protoLines := 1, locationTestFlag := false } [snmpItem] := by
  have short : (messageOf [snmpItem]).length ≤ 1024 := by decide
  refine ⟨short, (settings_executed_iff _ _ short).mpr ⟨by decide, ?_, by decide⟩⟩
  intro item member
  rw [List.mem_singleton.mp (List.mem_of_mem_drop member)]
  have fits : (firstLine (bytesOf "1")).length ≤ 97 := by decide
  exact ⟨.snmp, by decide, by decide, by decide, fits⟩

/-- The slot of an item with an unknown key runs whatever `malloc` left in it:
here the factory reset, for a message that asks for nothing. -/
theorem unknown_item_executed :
    (messageOf [unknownItem]).length ≤ 1024 ∧ [unknownItem].filterMap Item.call = [] ∧
      (runSettings { protoLines := 1, locationTestFlag := false }
        (some fun _ => { cmd := 0, value := Vector.replicate 128 0 }) (messageOf [unknownItem])
        .cleared).map (fun result => calls result.2.1) = some [(.defaultAll, [])] ∧
      ¬ RunsItems { protoLines := 1, locationTestFlag := false } [unknownItem] := by
  have runs : (runSettings { protoLines := 1, locationTestFlag := false }
      (some fun _ => { cmd := 0, value := Vector.replicate 128 0 }) (messageOf [unknownItem])
      .cleared).map (fun result => calls result.2.1) = some [(.defaultAll, [])] := by
    decide +kernel
  refine ⟨by decide, by decide, runs, fun runsItems => ?_⟩
  obtain ⟨actions, after, result, asked⟩ := runsItems _ _
  rw [result] at runs
  have reset : [unknownItem].filterMap Item.call = [(.defaultAll, [])] :=
    asked.symm.trans (Option.some.inj runs)
  exact absurd reset (by decide)

end TfortisPack.DeviceMonitor
