import TfortisPack.DeviceMonitor.SettingsModule
import Mathlib.Data.List.Forall2

/-!
# Which texts are executed

An item of a settings text runs a handler on its own value if its first two
tokens are a key of `settings_Table` and a value that the slot and the handler
hold.  The slot of any other item holds what `malloc` found there, or the code
reads a null pointer.
-/

namespace TfortisPack.DeviceMonitor

open TfortisPack.Library

/-! ## Tokens in the array -/

section Tokens

/-- What the loop of `split_line` leaves after some tokens, whatever the array held.  The index
wraps, so that only the tokens since the last multiple of 256 are found in order. -/
theorem foldl_push (heap : UInt8 → Option (List UInt8)) (tokens : List (List UInt8)) :
    let filled := tokens.foldl SplitedLine.push { tokens := heap, splitLineMax := 0 }
    filled.splitLineMax = UInt8.ofNat tokens.length ∧
      ∀ index < tokens.length % 256,
        filled.tokens (UInt8.ofNat index) =
          tokens[tokens.length - tokens.length % 256 + index]? := by
  induction tokens using List.reverseRecOn with
  | nil =>
      exact ⟨rfl, by simp⟩
  | append_singleton before last inductionHypothesis =>
      obtain ⟨next, earlier⟩ := inductionHypothesis
      simp only [List.foldl_append, List.foldl_cons, List.foldl_nil, SplitedLine.push,
        List.length_append, List.length_singleton]
      refine ⟨by rw [next]; exact (UInt8.ofNat_add _ 1).symm, fun index below => ?_⟩
      have wraps : (before.length + 1) % 256 = before.length % 256 + 1 := by omega
      have start : before.length + 1 - (before.length + 1) % 256 =
          before.length - before.length % 256 := by omega
      have slot : before.length - before.length % 256 + before.length % 256 = before.length :=
        Nat.sub_add_cancel (Nat.mod_le _ _)
      rw [start, next]
      by_cases isLast : index = before.length % 256
      · have same : UInt8.ofNat index = UInt8.ofNat before.length := by
          rw [isLast]
          apply UInt8.toNat_inj.mp
          simp
        rw [same, Function.update_self, isLast, slot, List.getElem?_concat_length]
      · have other : UInt8.ofNat index ≠ UInt8.ofNat before.length := by
          intro same
          have values := congrArg UInt8.toNat same
          simp only [UInt8.toNat_ofNat'] at values
          omega
        rw [Function.update_of_ne other, earlier index (by omega),
          List.getElem?_append_left (by omega)]

variable {delim : UInt8} {text : List UInt8}

theorem splitLine_splitLineMax :
    (splitLine delim text).splitLineMax =
      UInt8.ofNat (Texts.tokens delim text).length - 1 := by
  rw [splitLine, (foldl_push _ _).1]

theorem splitLine_tokens_end :
    (splitLine delim text).tokens (UInt8.ofNat (Texts.tokens delim text).length) = none := by
  have next := (foldl_push (fun _ => none) (Texts.tokens delim text)).1
  simp only [splitLine, next, Function.update_self]

theorem splitLine_tokens {index : Nat} (before : index < (Texts.tokens delim text).length % 256) :
    (splitLine delim text).tokens (UInt8.ofNat index) =
      (Texts.tokens delim text)[(Texts.tokens delim text).length -
        (Texts.tokens delim text).length % 256 + index]? := by
  obtain ⟨next, earlier⟩ := foldl_push (fun _ => none) (Texts.tokens delim text)
  have other : UInt8.ofNat index ≠ UInt8.ofNat (Texts.tokens delim text).length := by
    intro same
    have values := congrArg UInt8.toNat same
    simp only [UInt8.toNat_ofNat'] at values
    omega
  simp only [splitLine, next, Function.update_of_ne other, earlier index before]

theorem mem_of_splitLine_tokens {index : UInt8} {token : List UInt8}
    (found : (splitLine delim text).tokens index = some token) :
    token ∈ Texts.tokens delim text := by
  have stored : ∀ tokens : List (List UInt8), ∀ index token,
      (tokens.foldl SplitedLine.push { tokens := fun _ => none, splitLineMax := 0 }).tokens index =
        some token → token ∈ tokens := by
    intro tokens
    induction tokens using List.reverseRecOn with
    | nil =>
        intro index token found
        exact nomatch found
    | append_singleton before last inductionHypothesis =>
        intro index token found
        simp only [List.foldl_append, List.foldl_cons, List.foldl_nil, SplitedLine.push,
          Function.update_apply] at found
        split at found
        · cases found
          exact List.mem_append_right _ (List.mem_singleton_self _)
        · exact List.mem_append_left _ (inductionHypothesis index token found)
  simp only [splitLine, Function.update_apply] at found
  split at found
  · exact nomatch found
  · exact stored _ index token found

/-- With a multiple of 256 tokens the first entry is the null pointer behind the
last one. -/
theorem tokens_zero_of_wrapped (wrapped : (Texts.tokens delim text).length % 256 = 0) :
    (splitLine delim text).tokens 0 = none := by
  have last : UInt8.ofNat (Texts.tokens delim text).length = 0 := by
    apply UInt8.toNat_inj.mp
    simpa using wrapped
  have atEnd : (splitLine delim text).tokens (UInt8.ofNat _) = none := splitLine_tokens_end
  rwa [last] at atEnd

theorem tokens_of_few (few : (Texts.tokens delim text).length < 256) {index : Nat}
    (within : index ≤ (Texts.tokens delim text).length) :
    (splitLine delim text).tokens (UInt8.ofNat index) = (Texts.tokens delim text)[index]? := by
  have small : (Texts.tokens delim text).length % 256 = (Texts.tokens delim text).length :=
    Nat.mod_eq_of_lt few
  by_cases isEnd : index = (Texts.tokens delim text).length
  · rw [isEnd, List.getElem?_eq_none (Nat.le_refl _)]
    exact splitLine_tokens_end
  · rw [splitLine_tokens (by omega), small, Nat.sub_self, Nat.zero_add]

theorem tokens_pair {key value : List UInt8} (pair : Texts.tokens delim text = [key, value]) :
    (splitLine delim text).tokens 0 = some key ∧ (splitLine delim text).tokens 1 = some value := by
  have few : (Texts.tokens delim text).length < 256 := by simp [pair]
  have first := tokens_of_few few (Nat.zero_le _)
  have second := tokens_of_few few (show 1 ≤ _ by simp [pair])
  rw [pair] at first second
  exact ⟨first, second⟩

theorem entries_splitLine (kept : (Texts.tokens delim text).length % 256 ≠ 0) :
    (splitLine delim text).entries =
      ((Texts.tokens delim text).drop
        ((Texts.tokens delim text).length - (Texts.tokens delim text).length % 256)).map some := by
  have count : (splitLine delim text).splitLineMax.toNat + 1 =
      (Texts.tokens delim text).length % 256 := by
    rw [splitLine_splitLineMax, UInt8.toNat_sub, UInt8.toNat_ofNat', UInt8.toNat_one]
    omega
  have most := Nat.mod_le (Texts.tokens delim text).length 256
  apply List.ext_getElem
  · simp only [SplitedLine.entries, count, List.length_map, List.length_range, List.length_drop]
    omega
  · intro index inEntries inTokens
    simp only [SplitedLine.entries, count, List.length_map, List.length_range] at inEntries
    simp only [SplitedLine.entries, count, List.getElem_map, List.getElem_range, List.getElem_drop]
    rw [splitLine_tokens inEntries, List.getElem?_eq_getElem]

theorem entries_of_wrapped (wrapped : (Texts.tokens delim text).length % 256 = 0) :
    ∃ rest, (splitLine delim text).entries = none :: rest := by
  have first : (splitLine delim text).tokens (UInt8.ofNat 0) = none :=
    tokens_zero_of_wrapped wrapped
  rw [SplitedLine.entries, List.range_succ_eq_map, List.map_cons, first]
  exact ⟨_, rfl⟩

end Tokens

/-! ## What the handlers hold -/

/-- The value fits behind the start of the command in `mainCommand`. -/
def Fits (host : SettingsHost) (cmd : SettingsCmd) (value : List UInt8) : Prop :=
  match cmd with
  | .ipAddress => host.protoLines = 0 ∨ (firstLine value).length ≤ 100
  | .netMask => (firstLine value).length ≤ 99
  | .gateway => checkGateWayValid value ≠ 0 ∨ (firstLine value).length ≤ 99
  | .systemName => (if host.locationTestFlag then value else firstLine value).length ≤ 89
  | .systemLocation => (if host.locationTestFlag then value else firstLine value).length ≤ 92
  | .snmp => (firstLine value).length ≤ 97
  | _ => True

section Handlers

theorem length_firstLine_quote (value : List UInt8) :
    (firstLine (quote value)).length = (firstLine value).length := by
  induction value with
  | nil =>
      rfl
  | cons byte rest inductionHypothesis =>
      have same : (if byte = 91 ∨ byte = 93 then 39 else byte) ≠ CText.newline ↔
          byte ≠ CText.newline := by
        by_cases bracket : byte = 91 ∨ byte = 93
        · rw [if_pos bracket]
          rcases bracket with rfl | rfl <;> decide
        · rw [if_neg bracket]
      simp only [firstLine, quote, List.map_cons, List.takeWhile_cons] at inductionHypothesis ⊢
      by_cases ends : byte = CText.newline
      · simp [ends, CText.newline]
      · have keeps : decide ((if byte = 91 ∨ byte = 93 then 39 else byte) ≠ CText.newline) =
            true := by
          simpa only [decide_eq_true_eq] using same.mpr ends
        rw [if_pos keeps, if_pos (decide_eq_true ends), List.length_cons, List.length_cons,
          inductionHypothesis]

theorem length_locationData (host : SettingsHost) (value : List UInt8) :
    (locationData host value).length =
      (if host.locationTestFlag then value else firstLine value).length := by
  unfold locationData
  split
  · exact List.length_map _
  · exact length_firstLine_quote value

theorem mainCommand_isSome {start added : List UInt8} (limit : Nat)
    (startLength : start.length + limit = 127) :
    (mainCommand start added).isSome = true ↔ added.length ≤ limit := by
  unfold mainCommand
  split
  · simp
    omega
  · simp
    omega

/-- A handler returns exactly if its buffer holds the value. -/
theorem runSetingsCmd_isSome (host : SettingsHost) (cmd : SettingsCmd) {value : List UInt8}
    (nonempty : value ≠ []) (info : SettingsInfo) :
    (runSetingsCmd host cmd value info).isSome = true ↔ Fits host cmd value := by
  have setIfGiven_isSome : ∀ start added behind raise limit,
      start.length + limit = 127 →
        ((setIfGiven start added behind raise value info).isSome = true ↔
          (added value).length ≤ limit) := by
    intro start added behind raise limit startLength
    rw [setIfGiven, if_neg nonempty, Option.isSome_map]
    exact mainCommand_isSome limit startLength
  cases cmd with
  | ipAddress =>
      simp only [runSetingsCmd, runSetIp, Fits]
      split
      · rename_i silent
        simp [silent]
      · rename_i printed
        rw [Option.isSome_map, mainCommand_isSome 100 (by decide),
          length_firstLine_quote]
        simp [printed]
  | netMask =>
      simp only [runSetingsCmd, runSetMask, Fits]
      rw [Option.isSome_map, mainCommand_isSome 99 (by decide), length_firstLine_quote]
  | gateway =>
      simp only [runSetingsCmd, runSetGate, Fits]
      split
      · rename_i sets
        rw [Option.isSome_map, mainCommand_isSome 99 (by decide),
          length_firstLine_quote]
        simp [sets]
      · rename_i deletes
        simp [deletes]
  | systemName =>
      rw [Fits, ← length_locationData, runSetingsCmd, runSetDescription,
        setIfGiven_isSome _ _ _ _ 89 (by decide)]
  | systemLocation =>
      rw [Fits, ← length_locationData, runSetingsCmd, runSetLocation,
        setIfGiven_isSome _ _ _ _ 92 (by decide)]
  | snmp =>
      rw [Fits, ← length_firstLine_quote, runSetingsCmd, runSetSnmp,
        setIfGiven_isSome _ _ _ _ 97 (by decide)]
  | _ =>
      simp [runSetingsCmd, runReset, runReboot, runSystemRestart, runNetworkRestart, Fits]

end Handlers

/-! ## Slots -/

section Slots

theorem toList_copyValue (text : List UInt8) :
    (copyValue text).toList = (text ++ List.replicate 128 0).take 128 := by
  apply List.ext_getElem
  · simp
  · intro index inVector inText
    simp only [Vector.length_toList] at inVector
    rw [Vector.getElem_toList, List.getElem_take]
    simp only [copyValue, Vector.getElem_ofFn, List.getD_eq_getElem?_getD]
    by_cases stored : index < text.length
    · rw [List.getElem?_eq_getElem stored, List.getElem_append_left stored]
      rfl
    · rw [List.getElem?_eq_none (by omega), List.getElem_append_right (by omega),
        List.getElem_replicate]
      rfl

theorem stringOf_copyValue {text : List UInt8} (noNul : 0 ∉ text) :
    stringOf (copyValue text) = if text.length < 128 then some text else none := by
  unfold stringOf
  rw [toList_copyValue]
  by_cases short : text.length < 128
  · obtain ⟨padding, isPadding⟩ : ∃ padding, 128 - text.length = padding + 1 :=
      ⟨127 - text.length, by omega⟩
    have padded : (text ++ List.replicate 128 0).take 128 =
        text ++ 0 :: List.replicate padding 0 := by
      rw [List.take_append, List.take_of_length_le (by omega), List.take_replicate,
        Nat.min_eq_left (by omega), isPadding, List.replicate_succ]
    have nonzero : ∀ byte ∈ text, decide (byte ≠ 0) = true := by
      intro byte member
      have isNonzero : byte ≠ 0 := fun zero => noNul (zero ▸ member)
      exact decide_eq_true isNonzero
    rw [padded, if_pos (by simp), if_pos short, List.takeWhile_append_of_pos nonzero]
    simp
  · rw [List.take_append_of_le_length (by omega), if_neg short, if_neg]
    exact fun member => noNul (List.mem_of_mem_take member)

theorem settingsCmds_index (cmd : SettingsCmd) : settingsCmds[cmd.index]? = some cmd := by
  cases cmd <;> rfl

end Slots

/-! ## One item -/

/-- The first two tokens of an item are a known key and a value that the slot
and the handler hold. -/
def Named (host : SettingsHost) (item : List UInt8) (call : SettingsCmd × List UInt8) : Prop :=
  ∃ key, (splitLine equals item).tokens 0 = some key ∧ findCmd key = some call.1 ∧
    (splitLine equals item).tokens 1 = some call.2 ∧ call.2.length < 128 ∧
    Fits host call.1 call.2

/-- The slot of a call. -/
def slotOf (call : SettingsCmd × List UInt8) : Slot where
  cmd := call.1.index
  value := copyValue call.2

/-- A slot without a command. -/
def noSlot : Slot where
  cmd := settingsCmds.length
  value := Vector.replicate 128 0

section Item

variable {host : SettingsHost} {item : List UInt8} {call : SettingsCmd × List UInt8}

theorem getCmdType_of_named (named : Named host item call) (slot : Slot) :
    getCmdType (splitLine equals item) slot = some (slotOf call) := by
  obtain ⟨key, first, known, second, _, _⟩ := named
  simp only [getCmdType, first, Option.bind_some, known, second, Option.map_some, slotOf]

theorem token_isString (noNul : 0 ∉ item) {index : UInt8} {token : List UInt8}
    (found : (splitLine equals item).tokens index = some token) : 0 ∉ token ∧ token ≠ [] := by
  have member := mem_of_splitLine_tokens found
  exact ⟨fun zero => noNul (Texts.mem_of_mem_tokens member zero), Texts.ne_nil_of_mem_tokens member⟩

theorem slotOf_runs (noNul : 0 ∉ item) (named : Named host item call) :
    settingsCmds[(slotOf call).cmd]? = some call.1 ∧
      stringOf (slotOf call).value = some call.2 ∧
      ∀ info, (runSetingsCmd host call.1 call.2 info).isSome = true := by
  obtain ⟨key, first, known, second, short, fits⟩ := named
  obtain ⟨valueNoNul, nonempty⟩ := token_isString noNul second
  refine ⟨settingsCmds_index call.1, ?_, fun info => ?_⟩
  · rw [slotOf, stringOf_copyValue valueNoNul, if_pos short]
  · exact (runSetingsCmd_isSome host call.1 nonempty info).mpr fits

theorem named_of_fills (noNul : 0 ∉ item) {filled : Slot} {cmd : SettingsCmd}
    {value : List UInt8} {info : SettingsInfo}
    (fills : getCmdType (splitLine equals item) noSlot = some filled)
    (names : settingsCmds[filled.cmd]? = some cmd) (holds : stringOf filled.value = some value)
    (returns : (runSetingsCmd host cmd value info).isSome = true) :
    Named host item (cmd, value) := by
  obtain ⟨key, first, rest⟩ := Option.bind_eq_some_iff.mp fills
  cases known : findCmd key with
  | none =>
      simp only [known, Option.some.injEq] at rest
      subst rest
      simp [noSlot] at names
  | some found =>
      simp only [known, Option.map_eq_some_iff] at rest
      obtain ⟨token, second, rfl⟩ := rest
      obtain ⟨tokenNoNul, nonempty⟩ := token_isString noNul second
      rw [settingsCmds_index, Option.some.injEq] at names
      subst names
      rw [stringOf_copyValue tokenNoNul] at holds
      split at holds
      · rename_i short
        obtain rfl := Option.some.inj holds
        exact ⟨key, first, known, second, short,
          (runSetingsCmd_isSome host found nonempty info).mp returns⟩
      · exact nomatch holds

end Item

/-! ## The loop over the items -/

def SettingsAction.call : SettingsAction → Option (SettingsCmd × List UInt8)
  | .ran cmd value => some (cmd, value)
  | _ => none

/-- The handler calls of the loop in `settings_handler`, in order. -/
def calls (actions : List SettingsAction) : List (SettingsCmd × List UInt8) :=
  actions.filterMap SettingsAction.call

section Loop

variable {host : SettingsHost} {items : List (List UInt8)}
  {called : List (SettingsCmd × List UInt8)}

theorem calls_ran (cmd : SettingsCmd) (value : List UInt8) (commands : List (List UInt8))
    (later : List SettingsAction) :
    calls (.ran cmd value :: (commands.map .pipe ++ later)) = (cmd, value) :: calls later := by
  simp [calls, SettingsAction.call]

theorem calls_reload (cmd : SettingsCmd) (info : SettingsInfo) :
    calls (reload host cmd info) = [] := by
  unfold reload
  split
  · rfl
  · simp [calls, SettingsAction.call]

theorem fillSlots_of_named (named : List.Forall₂ (Named host) items called) (heap : Nat → Slot)
    (index : Nat) :
    fillSlots heap index (items.map some) = some (called.map slotOf) := by
  induction named generalizing index with
  | nil =>
      rfl
  | cons one later inductionHypothesis =>
      simp only [List.map_cons, fillSlots, getCmdType_of_named one, inductionHypothesis,
        Option.bind_eq_bind, Option.bind_some]

theorem runSlots_of_named (noNul : ∀ item ∈ items, 0 ∉ item)
    (named : List.Forall₂ (Named host) items called) (info : SettingsInfo) :
    ∃ ran, runSlots host (called.map slotOf) info = some ran ∧ calls ran.1 = called := by
  induction named generalizing info with
  | nil =>
      exact ⟨([], info), rfl, rfl⟩
  | @cons item call rest calledRest one later inductionHypothesis =>
      obtain ⟨itemNoNul, restNoNul⟩ := List.forall_mem_cons.mp noNul
      obtain ⟨names, holds, returns⟩ := slotOf_runs itemNoNul one
      obtain ⟨ran, runs⟩ := Option.isSome_iff_exists.mp (returns info)
      obtain ⟨ranLater, runsLater, callsLater⟩ := inductionHypothesis restNoNul ran.2
      refine ⟨(.ran call.1 call.2 :: (ran.1.map .pipe ++ ranLater.1), ranLater.2), ?_, ?_⟩
      · simp only [List.map_cons, runSlots, names, holds, runs, runsLater, Option.bind_eq_bind,
          Option.bind_some]
      · rw [calls_ran, callsLater]

theorem fillSlots_cons_eq_some {heap : Nat → Slot} {index : Nat} {item : List UInt8}
    {rest : List (List UInt8)} {slots : List Slot} :
    fillSlots heap index ((item :: rest).map some) = some slots ↔
      ∃ slot, getCmdType (splitLine equals item) (heap index) = some slot ∧
        ∃ later, fillSlots heap (index + 1) (rest.map some) = some later ∧
          slot :: later = slots := by
  simp only [List.map_cons, fillSlots, Option.bind_eq_bind, Option.bind_some,
    Option.bind_eq_some_iff, Option.some.injEq]

theorem runSlots_cons_eq_some {host : SettingsHost} {slot : Slot} {rest : List Slot}
    {info : SettingsInfo} {ran : List SettingsAction × SettingsInfo} :
    runSlots host (slot :: rest) info = some ran ↔
      ∃ cmd, settingsCmds[slot.cmd]? = some cmd ∧
        ∃ inData, stringOf slot.value = some inData ∧
          ∃ one, runSetingsCmd host cmd inData info = some one ∧
            ∃ later, runSlots host rest one.2 = some later ∧
              (.ran cmd inData :: (one.1.map .pipe ++ later.1), later.2) = ran := by
  simp only [runSlots, Option.bind_eq_bind, Option.bind_eq_some_iff, Option.some.injEq]

/-- From slots without a command every item names the call that its slot runs. -/
theorem named_of_runs (noNul : ∀ item ∈ items, 0 ∉ item) {index : Nat} {slots : List Slot}
    {info : SettingsInfo} {ran : List SettingsAction × SettingsInfo}
    (fills : fillSlots (fun _ => noSlot) index (items.map some) = some slots)
    (runs : runSlots host slots info = some ran) :
    List.Forall₂ (Named host) items (calls ran.1) := by
  induction items generalizing index slots info ran with
  | nil =>
      simp only [List.map_nil, fillSlots, Option.some.injEq] at fills
      subst fills
      simp only [runSlots, Option.some.injEq] at runs
      subst runs
      exact .nil
  | cons item rest inductionHypothesis =>
      obtain ⟨itemNoNul, restNoNul⟩ := List.forall_mem_cons.mp noNul
      obtain ⟨filled, fillsOne, slotsRest, fillsRest, rfl⟩ := fillSlots_cons_eq_some.mp fills
      obtain ⟨cmd, names, value, holds, ranOne, runsOne, later, runsLater, rfl⟩ :=
        runSlots_cons_eq_some.mp runs
      have returns : (runSetingsCmd host cmd value info).isSome = true :=
        Option.isSome_iff_exists.mpr ⟨ranOne, runsOne⟩
      rw [calls_ran]
      exact .cons (named_of_fills itemNoNul fillsOne names holds returns)
        (inductionHypothesis restNoNul fillsRest runsLater)

end Loop

/-! ## The whole text -/

/-- The items of a text since the last wrap of the index in `split_line`. -/
def seen (text : List UInt8) : List (List UInt8) :=
  (Texts.tokens hash text).drop
    ((Texts.tokens hash text).length - (Texts.tokens hash text).length % 256)

/-- The code sees an item of the text, and all those it sees name a call. -/
def TextRuns (host : SettingsHost) (text : List UInt8) : Prop :=
  seen text ≠ [] ∧ ∀ item ∈ seen text, ∃ call, Named host item call

section Text

variable {host : SettingsHost} {text : List UInt8}

theorem seen_ne_nil_iff : seen text ≠ [] ↔ (Texts.tokens hash text).length % 256 ≠ 0 := by
  have most := Nat.mod_le (Texts.tokens hash text).length 256
  rw [Ne, seen, List.drop_eq_nil_iff]
  omega

theorem zero_notMem_of_seen (noNul : 0 ∉ text) : ∀ item ∈ seen text, 0 ∉ item :=
  fun _ member zero =>
    noNul (Texts.mem_of_mem_tokens (List.mem_of_mem_drop member) zero)

theorem runSettings_eq_some {heap : Nat → Slot} {text : List UInt8} {info : SettingsInfo}
    {actions : List SettingsAction} {after : SettingsInfo} :
    runSettings host (some heap) text info = some (0, actions, after) ↔
      ∃ slots ran, fillSlots heap 0 (splitLine hash text).entries = some slots ∧
        runSlots host slots .cleared = some (ran, after) ∧
        actions = ran ++ (if after.applySystem then reload host .sysReload after else []) ++
          (if after.applyNetwork then reload host .netReload after else []) := by
  simp only [runSettings, settingsHandler, Option.bind_eq_bind, Option.bind_eq_some_iff,
    Option.map_eq_some_iff, Option.some.injEq, Prod.mk.injEq, true_and]
  constructor
  · rintro ⟨slots, fills, handled, ⟨⟨ran, left⟩, runs, rfl⟩, isPair⟩
    obtain ⟨rfl, rfl⟩ := Prod.mk.inj isPair
    exact ⟨slots, ran, fills, runs, rfl⟩
  · rintro ⟨slots, ran, fills, runs, rfl⟩
    exact ⟨slots, fills, _, ⟨(ran, after), runs, rfl⟩, rfl⟩

theorem calls_handled (ran : List SettingsAction) (after : SettingsInfo) :
    calls (ran ++ (if after.applySystem then reload host .sysReload after else []) ++
      (if after.applyNetwork then reload host .netReload after else [])) = calls ran := by
  have none : ∀ flag : Bool, ∀ cmd,
      (if flag then reload host cmd after else []).filterMap SettingsAction.call = [] := by
    intro flag cmd
    cases flag
    · rfl
    · exact calls_reload cmd after
  simp only [calls, List.filterMap_append, none, List.append_nil]

/-- Items that all name a call run these calls, whatever the slots held. -/
theorem runSettings_of_named (noNul : 0 ∉ text) (kept : seen text ≠ [])
    {called : List (SettingsCmd × List UInt8)}
    (named : List.Forall₂ (Named host) (seen text) called) (heap : Nat → Slot)
    (info : SettingsInfo) :
    ∃ actions after, runSettings host (some heap) text info = some (0, actions, after) ∧
      calls actions = called := by
  obtain ⟨⟨ran, after⟩, runs, callsRan⟩ :=
    runSlots_of_named (zero_notMem_of_seen noNul) named .cleared
  refine ⟨_, after, runSettings_eq_some.mpr ⟨_, ran, ?_, runs, rfl⟩, ?_⟩
  · rw [entries_splitLine (seen_ne_nil_iff.mp kept)]
    exact fillSlots_of_named named heap 0
  · rw [calls_handled, callsRan]

/-- A text that runs has filled slots with the items that are seen of it. -/
theorem slots_of_runSettings {heap : Nat → Slot} {info after : SettingsInfo}
    {actions : List SettingsAction}
    (runs : runSettings host (some heap) text info = some (0, actions, after)) :
    (Texts.tokens hash text).length % 256 ≠ 0 ∧
      ∃ slots ran, fillSlots heap 0 ((seen text).map some) = some slots ∧
        runSlots host slots .cleared = some (ran, after) ∧
        actions = ran ++ (if after.applySystem then reload host .sysReload after else []) ++
          (if after.applyNetwork then reload host .netReload after else []) := by
  obtain ⟨slots, ran, fills, runsSlots, isActions⟩ := runSettings_eq_some.mp runs
  have kept : (Texts.tokens hash text).length % 256 ≠ 0 := by
    intro wrapped
    obtain ⟨rest, entries⟩ := entries_of_wrapped wrapped
    rw [entries, fillSlots] at fills
    exact absurd fills.symm (Option.some_ne_none slots)
  rw [entries_splitLine kept] at fills
  exact ⟨kept, slots, ran, fills, runsSlots, isActions⟩

/-- A text that runs from slots without a command consists of items that name
their calls. -/
theorem named_of_runSettings (noNul : 0 ∉ text) {info after : SettingsInfo}
    {actions : List SettingsAction}
    (runs : runSettings host (some fun _ => noSlot) text info = some (0, actions, after)) :
    seen text ≠ [] ∧ List.Forall₂ (Named host) (seen text) (calls actions) := by
  obtain ⟨kept, slots, ran, fills, runsSlots, rfl⟩ := slots_of_runSettings runs
  rw [calls_handled]
  exact ⟨seen_ne_nil_iff.mpr kept, named_of_runs (zero_notMem_of_seen noNul) fills runsSlots⟩

end Text

end TfortisPack.DeviceMonitor
