import TfortisPack.Dkjson.Writing
import TfortisPack.Library.Occurrences
import TfortisPack.Library.Words

/-!
# The installed packages (`show_packets.lua`)

The script cuts the list that `opkg` prints into a table, writes the table as
JSON, reads the JSON again and prints the names of the packages in it.
-/

namespace TfortisPack.Clish.ShowPackets

open Library Dkjson
open Library.LuaNumerals (isSpace)

/-! ## The list -/

/-- `%s*(.+)`: at least one letter is left for the capture. -/
def capture (text : Text) : Option Text :=
  if text.dropWhile isSpace ≠ [] then some (text.dropWhile isSpace)
  else text.getLast?.map fun letter => [letter]

/-- The text behind the first `Package:`. -/
def behindPackage (line : Text) : Option Text :=
  (Occurrences.firstText "Package:".toList line).map fun found => found.drop 8

/-- `([^:]+):%s*(.+)`. -/
def field (line : Text) : Option (Text × Text) :=
  let line := line.dropWhile (· = ':')
  let key := line.takeWhile (· ≠ ':')
  if key = [] then none
  else (capture ((line.drop key.length).drop 1)).map fun value => (key, value)

/-- What the loop over the lines has read; the fields of the packages are the values. -/
structure Listing where
  currentPackage : Text
  packageList : List (Text × List (Text × Text))

/-- `tbl[key] = value` with a string for a key. -/
def put {α : Type} (tbl : List (Text × α)) (key : Text) (value : α) : List (Text × α) :=
  (tbl.filter fun entry => entry.1 ≠ key) ++ [(key, value)]

def find {α : Type} (tbl : List (Text × α)) (key : Text) : Option α :=
  (tbl.find? fun entry => entry.1 = key).map Prod.snd

/-- An error of Lua that ends the script. -/
inductive LuaError where
  | indexIsNil
  | indexOfNil
  | badArgument
  | encode (message : Text)
  deriving DecidableEq

def readLine (listing : Listing) (line : Text) : Except LuaError Listing :=
  match behindPackage line with
  | some rest =>
      match capture rest with
      | none => .error .indexIsNil
      | some currentPackage =>
          .ok ⟨currentPackage, put listing.packageList currentPackage []⟩
  | none =>
      match field line with
      | none => .ok listing
      | some (key, value) =>
          match find listing.packageList listing.currentPackage with
          | none => .error .indexOfNil
          | some fields =>
              .ok { listing with
                packageList := put listing.packageList listing.currentPackage
                  (put fields key (value ++ ['\n'])) }

def lines (input_str : Text) : List Text :=
  words (fun letter => letter = '\r' || letter = '\n') input_str

def packageList (input_str : Text) : Except LuaError (List (Text × List (Text × Text))) := do
  let listing ← (lines input_str).foldlM readLine ⟨[], []⟩
  return listing.packageList

/-! ## The script -/

section Script

variable (pairs : Lua.Pairs) (tostring : ℚ → Text)

/-- A table of strings with its entries in the order of `pairs`. -/
def fieldsValue (fields : List (Text × Text)) : Value :=
  .table none ((pairs.order fields).map fun entry => (.string entry.1, .string entry.2))

def listValue (packageList : List (Text × List (Text × Text))) : Value :=
  .table none ((pairs.order packageList).map fun entry =>
    (.string entry.1, fieldsValue pairs entry.2))

def getPacketJsonInfo (input_str : Text) : Except LuaError Text := do
  let packageList ← packageList input_str
  match encode tostring false
      (.table none [(.string "Package".toList, listValue pairs packageList)]) with
  | .ok jsonData => return jsonData
  | .error message => throw (.encode message)

/-- `print` of a key. -/
def printKey : Key → Text
  | .string key => key
  | .number key => tostring key
  | .boolean value => if value then "true".toList else "false".toList
  | .table _ => "table".toList

/-- The entries that `pairs` visits; there are none to visit in what is no table. -/
def entriesOf : Option Value → Except LuaError Entries
  | some (.table _ entries) => .ok entries
  | _ => .error .badArgument

/-- The lines that the script prints, where `opkg` printed `packetInfo`. -/
def runShowPackets (packetInfo : Text) : Except LuaError (List Text) := do
  let jsonData ← getPacketJsonInfo pairs tostring packetInfo
  match decode .nil jsonData with
  | .ok (.table _ entries, _) => do
      let packages ← entriesOf (index entries (.string "Package".toList))
      return "Installed Packages: ".toList ::
        (pairs.order packages).map fun entry => printKey tostring entry.1
  | .ok (.nil, _) => return ["packet_jsonInfo not valid".toList]
  | .ok _ => throw .badArgument
  | .error _ => return ["packet_jsonInfo not valid".toList]

end Script

/-! ## Tables with names for keys -/

section Tables

variable {α : Type} {tbl : List (Text × α)} {key : Text} {value : α}

theorem names_put {name : Text} :
    name ∈ (put tbl key value).map Prod.fst ↔ name = key ∨ name ∈ tbl.map Prod.fst := by
  simp only [put, List.map_append, List.mem_append, List.mem_map, List.mem_filter,
    decide_eq_true_eq, List.mem_singleton]
  constructor
  · rintro (⟨entry, ⟨member, _⟩, rfl⟩ | ⟨entry, rfl, rfl⟩)
    · exact Or.inr ⟨entry, member, rfl⟩
    · exact Or.inl rfl
  · rintro (rfl | ⟨entry, member, rfl⟩)
    · exact Or.inr ⟨_, rfl, rfl⟩
    · by_cases same : entry.1 = key
      · exact Or.inr ⟨_, rfl, same.symm⟩
      · exact Or.inl ⟨entry, ⟨member, same⟩, rfl⟩

theorem nodup_put (distinct : (tbl.map Prod.fst).Nodup) :
    ((put tbl key value).map Prod.fst).Nodup := by
  rw [put, List.map_append, List.nodup_append]
  refine ⟨distinct.sublist (List.filter_sublist.map Prod.fst), by simp, ?_⟩
  rintro _ earlier _ new rfl
  obtain ⟨entry, member, rfl⟩ := List.mem_map.mp earlier
  have different := (List.mem_filter.mp member).2
  simp only [decide_eq_true_eq] at different
  exact different (List.mem_singleton.mp new)

theorem mem_put {entry : Text × α} (member : entry ∈ put tbl key value) :
    entry ∈ tbl ∨ entry = (key, value) := by
  rcases List.mem_append.mp member with earlier | new
  · exact Or.inl (List.mem_of_mem_filter earlier)
  · exact Or.inr (List.mem_singleton.mp new)

theorem mem_of_find (found : find tbl key = some value) : (key, value) ∈ tbl := by
  obtain ⟨entry, first, rfl⟩ := Option.map_eq_some_iff.mp found
  have same := List.find?_some first
  simp only [decide_eq_true_eq] at same
  rw [← same]
  exact List.mem_of_find?_eq_some first

theorem find_eq_none_iff : find tbl key = none ↔ key ∉ tbl.map Prod.fst := by
  simp only [find, Option.map_eq_none_iff, List.find?_eq_none, decide_eq_true_eq, List.mem_map,
    not_exists, not_and]

end Tables

/-! ## What the loop reads -/

/-- The name of the package that starts in this line. -/
def packageName (line : Text) : Option Text :=
  (behindPackage line).bind capture

/-- What holds of the listing behind the lines `done`. -/
structure Read (done : List Text) (listing : Listing) : Prop where
  distinct : (listing.packageList.map Prod.fst).Nodup
  names : ∀ name, name ∈ listing.packageList.map Prod.fst ↔
    ∃ line ∈ done, packageName line = some name
  fields : ∀ entry ∈ listing.packageList, (entry.2.map Prod.fst).Nodup
  current : listing.currentPackage ∈ listing.packageList.map Prod.fst ∨
    ∀ line ∈ done, behindPackage line = none

theorem read_start : Read [] ⟨[], []⟩ where
  distinct := List.nodup_nil
  names := by simp
  fields := by simp
  current := Or.inr (by simp)

theorem read_put {done : List Text} {listing : Listing} (read : Read done listing) {line key : Text}
    {fields : List (Text × Text)} (distinct : (fields.map Prod.fst).Nodup)
    (names : ∀ name, name = key ∨ name ∈ listing.packageList.map Prod.fst ↔
      ∃ earlier ∈ done ++ [line], packageName earlier = some name) :
    Read (done ++ [line]) ⟨key, put listing.packageList key fields⟩ where
  distinct := nodup_put read.distinct
  names := fun name => names_put.trans (names name)
  fields := by
    intro entry member
    rcases mem_put member with earlier | rfl
    · exact read.fields entry earlier
    · exact distinct
  current := Or.inl (names_put.mpr (Or.inl rfl))

theorem names_snoc {done : List Text} {line name : Text} :
    (∃ earlier ∈ done ++ [line], packageName earlier = some name) ↔
      packageName line = some name ∨ ∃ earlier ∈ done, packageName earlier = some name := by
  simp only [List.mem_append, List.mem_singleton]
  constructor
  · rintro ⟨earlier, member | rfl, same⟩
    · exact Or.inr ⟨earlier, member, same⟩
    · exact Or.inl same
  · rintro (same | ⟨earlier, member, same⟩)
    · exact ⟨line, Or.inr rfl, same⟩
    · exact ⟨earlier, Or.inl member, same⟩

theorem read_readLine {done : List Text} {listing next : Listing} {line : Text}
    (read : Read done listing) (ran : readLine listing line = .ok next) :
    Read (done ++ [line]) next := by
  unfold readLine at ran
  split at ran
  · rename_i rest starts
    split at ran
    · cases ran
    · rename_i currentPackage captured
      cases ran
      have named : packageName line = some currentPackage := by
        rw [packageName, starts, Option.bind_some, captured]
      refine read_put read List.nodup_nil fun name => ?_
      rw [names_snoc, named, ← read.names name, Option.some.injEq, eq_comm]
  · rename_i noStart
    have unnamed : packageName line = none := by
      rw [packageName, noStart, Option.bind_none]
    have sameNames : ∀ name, name ∈ listing.packageList.map Prod.fst ↔
        ∃ earlier ∈ done ++ [line], packageName earlier = some name := by
      intro name
      rw [names_snoc, unnamed, ← read.names name]
      simp
    split at ran
    · cases ran
      refine ⟨read.distinct, sameNames, read.fields, ?_⟩
      refine read.current.imp_right fun noPackage earlier member => ?_
      rcases List.mem_append.mp member with isDone | isNew
      · exact noPackage earlier isDone
      · obtain rfl := List.mem_singleton.mp isNew
        exact noStart
    · rename_i key value isField
      split at ran
      · cases ran
      · rename_i fields found
        cases ran
        have member := mem_of_find found
        have isName : listing.currentPackage ∈ listing.packageList.map Prod.fst :=
          List.mem_map.mpr ⟨_, member, rfl⟩
        refine read_put read (nodup_put (read.fields _ member)) fun name => ?_
        rw [← sameNames name]
        constructor
        · rintro (rfl | isIn)
          · exact isName
          · exact isIn
        · exact Or.inr

theorem read_foldlM {lines : List Text} {listing : Listing}
    (ran : lines.foldlM readLine ⟨[], []⟩ = .ok listing) : Read lines listing :=
  Lua.foldlM_invariant Read (fun _ _ _ _ _ read stepped => read_readLine read stepped) read_start
    ran

/-! ## Through JSON and back -/

section Json

variable (pairs : Lua.Pairs) (tostring : ℚ → Text)

/-- An empty table of Lua is an empty array. -/
def tableJson (members : List (Text × Json)) : Json :=
  if members = [] then .array [] else .object members

def fieldsJson (fields : List (Text × Text)) : Json :=
  tableJson ((pairs.order fields).map fun entry => (entry.1, .string entry.2))

def listJson (packageList : List (Text × List (Text × Text))) : Json :=
  tableJson ((pairs.order packageList).map fun entry => (entry.1, fieldsJson pairs entry.2))

/-- A table with names for keys and no number in it. -/
theorem jsonOf_table {α : Type} (entries : List (Text × α)) {value : α → Value} {json : α → Json}
    (noNumber : ∀ entry number, value entry ≠ .number number)
    (same : ∀ entry, jsonOf tostring (value entry) = json entry) :
    jsonOf tostring (.table none (entries.map fun entry => (.string entry.1, value entry.2))) =
      tableJson (entries.map fun entry => (entry.1, json entry.2)) := by
  cases entries with
  | nil => rfl
  | cons entry entries =>
    have noArray := @indices_none
      ((entry :: entries).map fun entry => (Key.string entry.1, value entry.2)) 0 0 0 entry.1
      (value entry.2) List.mem_cons_self
      fun number isLength => noNumber entry.2 number (Prod.mk.inj isLength).2
    have isObject : isarray
        ((entry :: entries).map fun entry => (Key.string entry.1, value entry.2)) = none := by
      simp only [isarray, noArray]
    rw [jsonOf, isObject]
    simp only [tableJson, List.map_cons, reduceCtorEq, if_false]
    rw [jsonsOf_eq, membersOf]
    simp [Key.name, same, Function.comp_def]

theorem jsonOf_fieldsValue (fields : List (Text × Text)) :
    jsonOf tostring (fieldsValue pairs fields) = fieldsJson pairs fields :=
  jsonOf_table tostring (pairs.order fields) (by simp) (fun entry => by rw [jsonOf])

theorem jsonOf_listValue (packageList : List (Text × List (Text × Text))) :
    jsonOf tostring (listValue pairs packageList) = listJson pairs packageList :=
  jsonOf_table tostring (pairs.order packageList) (by simp [fieldsValue])
    (jsonOf_fieldsValue pairs tostring)

theorem encodable_table {α : Type} (entries : List (Text × α)) {value : α → Value}
    (noNumber : ∀ entry number, value entry ≠ .number number)
    (encodable : ∀ entry, Dkjson.Encodable tostring (value entry)) :
    Dkjson.Encodable tostring
      (.table none (entries.map fun entry => (.string entry.1, value entry.2))) := by
  rw [Dkjson.Encodable]
  refine ⟨fun _ number member => ?_, ?_⟩
  · obtain ⟨entry, _, same⟩ := List.mem_map.mp member
    exact absurd (Prod.mk.inj same).2 (noNumber _ _)
  · induction entries with
    | nil => rw [List.map_nil, EncodableEntries]; trivial
    | cons entry entries inductionHypothesis =>
      rw [List.map_cons, EncodableEntries]
      exact ⟨trivial, encodable _, inductionHypothesis⟩

theorem encodable_listValue (packageList : List (Text × List (Text × Text))) :
    Dkjson.Encodable tostring (listValue pairs packageList) := by
  refine encodable_table tostring (pairs.order packageList) (by simp [fieldsValue]) fun fields => ?_
  exact encodable_table tostring (pairs.order fields) (by simp)
    fun entry => by rw [Dkjson.Encodable]; trivial

variable {tostring} in
theorem canonicalMembers_table {α : Type} {entries : List (Text × α)} {json : α → Json}
    (canonical : ∀ entry ∈ entries, Canonical tostring (json entry.2)) :
    CanonicalMembers tostring (entries.map fun entry => (entry.1, json entry.2)) := by
  induction entries with
  | nil => rw [List.map_nil, CanonicalMembers]; trivial
  | cons entry entries inductionHypothesis =>
    obtain ⟨first, others⟩ := List.forall_mem_cons.mp canonical
    rw [List.map_cons, CanonicalMembers]
    exact ⟨first, inductionHypothesis others⟩

theorem names_table {α β : Type} (entries : List (Text × α)) (change : α → β) :
    (entries.map fun entry => (entry.1, change entry.2)).map Prod.fst = entries.map Prod.fst := by
  rw [List.map_map]
  rfl

theorem canonical_tableJson {α : Type} {entries : List (Text × α)} {json : α → Json}
    (distinct : (entries.map Prod.fst).Nodup)
    (noNumber : ∀ entry number, json entry ≠ .number number)
    (canonical : ∀ entry ∈ entries, Canonical tostring (json entry.2)) :
    Canonical tostring (tableJson (entries.map fun entry => (entry.1, json entry.2))) := by
  unfold tableJson
  split
  · rw [Canonical, CanonicalItems]
    trivial
  · rw [Canonical, names_table]
    refine ⟨distinct, fun number same => ?_, canonicalMembers_table canonical⟩
    obtain ⟨entry, _, isLength⟩ := List.mem_map.mp
      (by rw [same]; exact List.mem_cons_self :
        (['n'], Json.number number) ∈ entries.map fun entry => (entry.1, json entry.2))
    exact noNumber entry.2 number (Prod.mk.inj isLength).2

theorem distinct_order {α : Type} {entries : List (Text × α)}
    (distinct : (entries.map Prod.fst).Nodup) : ((pairs.order entries).map Prod.fst).Nodup :=
  ((pairs.perm entries).map Prod.fst).nodup_iff.mpr distinct

theorem tableJson_ne_number (members : List (Text × Json)) (number : ℚ) :
    tableJson members ≠ .number number := by
  unfold tableJson
  split <;> simp

theorem canonical_fieldsJson {fields : List (Text × Text)}
    (distinct : (fields.map Prod.fst).Nodup) : Canonical tostring (fieldsJson pairs fields) :=
  canonical_tableJson tostring (distinct_order pairs distinct) (by simp)
    fun entry _ => by rw [Canonical]; trivial

theorem canonical_listJson {packageList : List (Text × List (Text × Text))}
    (distinct : (packageList.map Prod.fst).Nodup)
    (fields : ∀ entry ∈ packageList, (entry.2.map Prod.fst).Nodup) :
    Canonical tostring (listJson pairs packageList) :=
  canonical_tableJson tostring (distinct_order pairs distinct)
    (fun _ number => tableJson_ne_number _ number)
    fun entry member => canonical_fieldsJson pairs tostring
      (fields entry ((Lua.Pairs.mem_order pairs).mp member))

/-- The names of the packages come back out of the JSON text. -/
theorem keys_of_listJson {packageList : List (Text × List (Text × Text))}
    (distinct : (packageList.map Prod.fst).Nodup)
    (fields : ∀ entry ∈ packageList, (entry.2.map Prod.fst).Nodup) :
    ∃ jsontype entries, toValue .nil (listJson pairs packageList) = .table jsontype entries ∧
      entries.map Prod.fst = (pairs.order packageList).map fun entry => Key.string entry.1 := by
  have members := @canonicalMembers_table (fun _ => []) _ (pairs.order packageList)
    (fieldsJson pairs) fun entry member => canonical_fieldsJson pairs _
      (fields entry ((Lua.Pairs.mem_order pairs).mp member))
  unfold listJson tableJson
  split
  · rename_i empty
    refine ⟨some .array, [], by rw [toValue, numbered], ?_⟩
    rw [List.map_eq_nil_iff.mp empty]
    rfl
  · refine ⟨_, _, toValue_object members ?_, ?_⟩
    · rw [names_table]
      exact distinct_order pairs distinct
    · rw [List.map_map, List.map_map]
      rfl

/-- The text that the script writes is read as the table of the packages. -/
theorem decode_encode_list {packageList : List (Text × List (Text × Text))}
    (distinct : (packageList.map Prod.fst).Nodup)
    (fields : ∀ entry ∈ packageList, (entry.2.map Prod.fst).Nodup) :
    ∃ jsonData, encode tostring false
        (.table none [(.string "Package".toList, listValue pairs packageList)]) = .ok jsonData ∧
      decode .nil jsonData = .ok (.table (some .object)
        [(.string "Package".toList, toValue .nil (listJson pairs packageList))], []) := by
  have noNumber : ∀ packageList number, listValue pairs packageList ≠ .number number := by
    simp [listValue]
  have json : jsonOf tostring
      (.table none [(.string "Package".toList, listValue pairs packageList)]) =
        .object [("Package".toList, listJson pairs packageList)] :=
    jsonOf_table tostring [("Package".toList, packageList)] noNumber
      (jsonOf_listValue pairs tostring)
  have encodable := encodable_table tostring [("Package".toList, packageList)] noNumber
    (encodable_listValue pairs tostring)
  have members : CanonicalMembers tostring [("Package".toList, listJson pairs packageList)] := by
    rw [CanonicalMembers, CanonicalMembers]
    exact ⟨canonical_listJson pairs tostring distinct fields, trivial⟩
  obtain ⟨jsonData, encoded, written⟩ := encode_writes false encodable
  have read := decode_writes .nil (json ▸ written)
  rw [toValue_object members (by simp)] at read
  exact ⟨jsonData, encoded, read⟩

end Json

/-! ## The script -/

section Prints

variable (pairs : Lua.Pairs) (tostring : ℚ → Text)

theorem packageName_error {listing : Listing} {line : Text} {failure : LuaError}
    (failed : readLine listing line = .error failure) :
    failure = .indexIsNil ∧ behindPackage line = some [] ∨
      failure = .indexOfNil ∧ behindPackage line = none ∧ (field line).isSome ∧
        listing.currentPackage ∉ listing.packageList.map Prod.fst := by
  unfold readLine at failed
  split at failed
  · rename_i rest starts
    split at failed
    · rename_i uncaptured
      cases failed
      refine Or.inl ⟨rfl, ?_⟩
      rw [starts]
      unfold capture at uncaptured
      split at uncaptured
      · cases uncaptured
      · rw [Option.map_eq_none_iff, List.getLast?_eq_none_iff] at uncaptured
        rw [uncaptured]
    · cases failed
  · rename_i noStart
    split at failed
    · cases failed
    · rename_i key value isField
      split at failed
      · rename_i missing
        cases failed
        exact Or.inr ⟨rfl, noStart, by rw [isField]; rfl, find_eq_none_iff.mp missing⟩
      · cases failed

/-- The name of each package of the list once, whatever letters it is made of, or an error of a
package without a name or of a field in front of the first package. -/
def Prints (packetInfo : Text) : Except LuaError (List Text) → Prop
  | .ok printed => ∃ names, printed = "Installed Packages: ".toList :: names ∧ names.Nodup ∧
      ∀ name, name ∈ names ↔ ∃ line ∈ lines packetInfo, packageName line = some name
  | .error .indexIsNil => ∃ line ∈ lines packetInfo, behindPackage line = some []
  | .error .indexOfNil => ∃ before line later, lines packetInfo = before ++ line :: later ∧
      (∀ earlier ∈ before, behindPackage earlier = none) ∧ behindPackage line = none ∧
      (field line).isSome
  | .error _ => False

theorem runShowPackets_prints (packetInfo : Text) :
    Prints packetInfo (runShowPackets pairs tostring packetInfo) := by
  unfold runShowPackets getPacketJsonInfo packageList
  cases ran : (lines packetInfo).foldlM readLine ⟨[], []⟩ with
  | error failure =>
    obtain ⟨before, line, later, listing, split, ranBefore, failed⟩ :=
      Lua.exists_of_foldlM_error ran
    have read := read_foldlM ranBefore
    rcases packageName_error failed with ⟨rfl, noName⟩ | ⟨rfl, noStart, isField, noPackage⟩
    · exact ⟨line, by rw [split]; simp, noName⟩
    · exact ⟨before, line, later, split, read.current.resolve_left noPackage, noStart, isField⟩
  | ok listing =>
    have read := read_foldlM ran
    obtain ⟨jsonData, encoded, decoded⟩ :=
      decode_encode_list pairs tostring read.distinct read.fields
    obtain ⟨jsontype, entries, isTable, keys⟩ :=
      keys_of_listJson pairs read.distinct read.fields
    have printed : ((pairs.order entries).map fun entry => printKey tostring entry.1).Perm
        (listing.packageList.map Prod.fst) := by
      refine ((pairs.perm entries).map _).trans ?_
      have names : (entries.map fun entry => printKey tostring entry.1) =
          (pairs.order listing.packageList).map Prod.fst := by
        rw [← Function.comp_def, ← List.map_map, keys, List.map_map]
        rfl
      rw [names]
      exact (pairs.perm listing.packageList).map Prod.fst
    simp only [bind, Except.bind, pure, Except.pure, encoded, decoded, index, entriesOf, isTable,
      List.find?_cons_of_pos, decide_true, Option.map_some]
    exact ⟨_, rfl, printed.nodup_iff.mpr read.distinct, fun name =>
      printed.mem_iff.trans (read.names name)⟩

end Prints

end TfortisPack.Clish.ShowPackets
