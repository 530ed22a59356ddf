import TfortisPack.Dkjson.Quotes
import TfortisPack.Dkjson.Reading

/-!
# The encoder writes JSON

What `encode` makes of a value is a text of the grammar, and so the decoder
reads it.  A table with the keys of an array is an array, with a null for each
index that is missing; another table is an object, where the key of a member is
a string even if it was a number.  A table that was read is read back as it was.
-/

namespace TfortisPack.Dkjson

open Library

/-! ## The JSON value of a value -/

def Key.Nameable : Key → Prop
  | .string _ => True
  | .number _ => True
  | _ => False

section Values

variable (tostring : ℚ → Text)

def Key.name : Key → Text
  | .string key => key
  | .number key => tostring key
  | _ => []

/-- The items with the indices from one to `n`. -/
def itemsOf (n : ℚ) (entries : List (Key × Json)) : List Json :=
  (List.range' 1 n.floor.toNat).map fun i : Nat => (index entries (.number i)).getD .null

def membersOf (entries : List (Key × Json)) : List (Text × Json) :=
  entries.map fun entry => (entry.1.name tostring, entry.2)

mutual

def jsonOf : Value → Json
  | .nil => .null
  | .boolean value => .boolean value
  | .number value => .number value
  | .string letters => .string letters
  | .table jsontype entries =>
      match isarray entries with
      | none => .object (membersOf tostring (jsonsOf entries))
      | some n =>
          if n = 0 ∧ jsontype = some .object then .object (membersOf tostring (jsonsOf entries))
          else .array (itemsOf n (jsonsOf entries))

def jsonsOf : Entries → List (Key × Json)
  | [] => []
  | (key, value) :: rest => (key, jsonOf value) :: jsonsOf rest

end

mutual

/-- Each number in the value is printed as a numeral of JSON that stands for it, a key is a string
or a number, and the length under the key `n` of an array is whole. -/
def Encodable : Value → Prop
  | .nil => True
  | .boolean _ => True
  | .number value => Json.Numeral (tostring value) value
  | .string _ => True
  | .table _ entries =>
      ((isarray entries).isSome → ∀ value, (Key.string ['n'], Value.number value) ∈ entries →
          ∃ whole : Int, value = whole) ∧
        EncodableEntries entries

def EncodableEntries : Entries → Prop
  | [] => True
  | (key, value) :: rest => key.Nameable ∧ Encodable value ∧ EncodableEntries rest

end

end Values

/-! ## Numbers -/

theorem num2str_numeral {tostring : ℚ → Text} {value : ℚ}
    (exact : Json.Numeral (tostring value) value) : num2str tostring value = tostring value := by
  refine List.filter_eq_self.mpr fun letter member => ?_
  rcases numeric_of_numeral exact letter member with digit | mark
  · rw [digit, Bool.true_or]
  · have marks : ∀ letter ∈ ['.', 'e', 'E', '+', '-'],
        (letter.isDigit || ['-', '+', 'e', 'E', '.'].contains letter) = true :=
      forall_mem_of_all (by decide)
    exact marks letter mark

theorem floor_natural (count : Nat) : (count : ℚ).floor = (count : Int) := by
  simp [Rat.floor]

/-! ## Arrays -/

theorem larger_whole {max value : ℚ} (natural : ∃ whole : Nat, max = whole)
    (isWhole : ∃ whole : Int, value = whole) :
    ∃ whole : Nat, (if value > max then value else max) = whole := by
  obtain ⟨whole, rfl⟩ := isWhole
  split
  · rename_i above
    obtain ⟨small, rfl⟩ := natural
    have positive : (small : Int) < whole := by exact_mod_cast above
    have same : ((whole.toNat : Nat) : Int) = whole := Int.toNat_of_nonneg (by omega)
    exact ⟨whole.toNat, by exact_mod_cast same.symm⟩
  · exact natural

theorem indices_whole {entries : Entries} {max arraylen : ℚ} {n : Nat} {survey : ℚ × ℚ × Nat}
    (found : indices max arraylen n entries = some survey) (natural : ∃ whole : Nat, max = whole)
    (wholeN : ∀ value, (Key.string ['n'], Value.number value) ∈ entries →
      ∃ whole : Int, value = whole) : ∃ whole : Nat, survey.1 = whole := by
  induction entries generalizing max arraylen n with
  | nil =>
    cases found
    exact natural
  | cons entry rest inductionHypothesis =>
    have later : ∀ value, (Key.string ['n'], Value.number value) ∈ rest →
        ∃ whole : Int, value = whole := fun value member =>
      wholeN value (List.mem_cons_of_mem _ member)
    unfold indices at found
    split at found
    · rename_i same
      cases same
    · rename_i value rest' same
      obtain ⟨rfl, rfl⟩ := List.cons.inj same
      exact inductionHypothesis found (larger_whole natural (wholeN value List.mem_cons_self)) later
    · rename_i rest' key other _ same
      obtain ⟨rfl, rfl⟩ := List.cons.inj same
      split at found
      · cases found
      · rename_i inside
        push Not at inside
        exact inductionHypothesis found (larger_whole natural ⟨key.floor, inside.2.symm⟩) later
    · cases found

/-- The length of an array is whole. -/
theorem isarray_whole {entries : Entries} {n : ℚ} (isArray : isarray entries = some n)
    (wholeN : ∀ value, (Key.string ['n'], Value.number value) ∈ entries →
      ∃ whole : Int, value = whole) : ∃ count : Nat, n = count := by
  unfold isarray at isArray
  split at isArray
  · cases isArray
  · rename_i max arraylen count found
    split at isArray
    · cases isArray
    · cases isArray
      exact indices_whole found ⟨0, rfl⟩ wholeN

section Items

variable {n : ℚ} {item : Nat → Except Text Text} {json : Nat → Json}

theorem encodeItems_writes
    (written : ∀ i, ∃ text, item i = .ok text ∧ Json.Writes (.value (json i)) text) :
    ∀ (rounds i : Nat), n = (i + (rounds + 1) : Nat) →
      ∃ body, encodeItems n item i (rounds + 1) = .ok body ∧
        Json.Writes (.elements ((List.range' (i + 1) (rounds + 1)).map json)) body := by
  have noBlanks : Json.Blanks [] := by simp [Json.Blanks]
  intro rounds
  induction rounds with
  | zero =>
    rintro i rfl
    obtain ⟨text, same, writes⟩ := written (i + 1)
    refine ⟨text, ?_, ?_⟩
    · rw [encodeItems, same]
      simp [bind, Except.bind, pure, Except.pure, encodeItems]
    · have only := Json.Writes.lastElement noBlanks writes noBlanks
      rw [List.nil_append, List.append_nil] at only
      exact only
  | succ rounds inductionHypothesis =>
    rintro i same
    obtain ⟨text, first, writes⟩ := written (i + 1)
    obtain ⟨body, others, elements⟩ :=
      inductionHypothesis (i + 1) (by rw [same]; congr 1; omega)
    have more : ((i + 1 : Nat) : ℚ) < n := by
      rw [same]
      exact_mod_cast (by omega : i + 1 < i + (rounds + 1 + 1))
    refine ⟨text ++ ',' :: body, ?_, ?_⟩
    · rw [encodeItems, first, others, if_pos more]
      rfl
    · rw [List.range'_succ, List.map_cons]
      exact Json.Writes.element noBlanks writes noBlanks elements

end Items

/-! ## Entries -/

/-- The text of the entry stands for its JSON value. -/
def Written (entry : Key × Except Text Text) (json : Key × Json) : Prop :=
  entry.1 = json.1 ∧ entry.1.Nameable ∧
    ∃ text, entry.2 = .ok text ∧ Json.Writes (.value json.2) text

theorem index_writes {entries : List (Key × Except Text Text)} {jsons : List (Key × Json)}
    (written : List.Forall₂ Written entries jsons) (key : Key) :
    ∃ text, (index entries key).getD (.ok ['n', 'u', 'l', 'l']) = .ok text ∧
      Json.Writes (.value ((index jsons key).getD .null)) text := by
  induction written with
  | nil => exact ⟨_, rfl, Json.Writes.null⟩
  | @cons entry json entries jsons first _ inductionHypothesis =>
    obtain ⟨sameKey, _, text, same, writes⟩ := first
    by_cases here : entry.1 = key
    · refine ⟨text, ?_, ?_⟩
      · simp [index, here, same]
      · simpa [index, ← sameKey, here] using writes
    · have onward : index (entry :: entries) key = index entries key := by
        simp [index, here]
      have onwardToo : index (json :: jsons) key = index jsons key := by
        simp [index, ← sameKey, here]
      rw [onward, onwardToo]
      exact inductionHypothesis

section Members

variable (tostring : ℚ → Text) (indent : Bool)

theorem blanks_newline (level : Nat) :
    Json.Blanks (if indent then addnewline2 level else []) := by
  intro letter member
  cases indent with
  | false => cases member
  | true =>
    rcases List.mem_cons.mp member with rfl | space
    · decide
    · rw [List.eq_of_mem_replicate space]
      decide

theorem keyText_quoted {key : Key} (nameable : key.Nameable) :
    keyText tostring key = .ok ('"' :: (quoted (key.name tostring) ++ ['"'])) := by
  cases key with
  | string key => rfl
  | number key => rfl
  | boolean value => cases nameable
  | table place => cases nameable

theorem addpairs_writes (level : Nat) {entries : List (Key × Except Text Text)}
    {jsons : List (Key × Json)} (written : List.Forall₂ Written entries jsons) :
    entries ≠ [] → ∀ prev, ∃ body,
      addpairs tostring indent level prev entries =
          .ok ((if prev then [','] else []) ++ body) ∧
        ∀ trail, Json.Blanks trail →
          Json.Writes (.members (membersOf tostring jsons)) (body ++ trail) := by
  have noBlanks : Json.Blanks [] := by simp [Json.Blanks]
  induction written with
  | nil => exact fun nonempty => absurd rfl nonempty
  | @cons entry json entries jsons first others inductionHypothesis =>
    obtain ⟨key, value⟩ := entry
    obtain ⟨sameKey, nameable, text, same, writes⟩ := first
    intro _ prev
    have name := keyText_quoted tostring nameable
    have lead := blanks_newline indent level
    have spelled := spells_quoted (key.name tostring)
    simp only at sameKey same nameable
    rw [membersOf, List.map_cons, ← sameKey]
    cases others with
    | nil =>
      refine ⟨(if indent then addnewline2 level else []) ++
        ('"' :: (quoted (key.name tostring) ++ ('"' :: ':' :: text))), ?_, fun trail blanks => ?_⟩
      · rw [addpairs, name, same]
        simp [bind, Except.bind, pure, Except.pure, addpairs]
      · have last := Json.Writes.lastMember lead spelled noBlanks noBlanks writes blanks
        simpa [addpairs] using last
    | @cons entry' json' entries' jsons' first' others' =>
      obtain ⟨body, rest, members⟩ := inductionHypothesis (by simp) true
      refine ⟨(if indent then addnewline2 level else []) ++
        ('"' :: (quoted (key.name tostring) ++ ('"' :: ':' :: (text ++ ',' :: body)))), ?_,
        fun trail blanks => ?_⟩
      · rw [addpairs, name, same, rest]
        simp [bind, Except.bind, pure, Except.pure]
      · have member := Json.Writes.member lead spelled noBlanks noBlanks writes noBlanks
          (members trail blanks)
        simpa [membersOf] using member

end Members

/-! ## Values -/

section Encode

variable {tostring : ℚ → Text} {indent : Bool}

theorem objectText_writes (level : Nat) {entries : List (Key × Except Text Text)}
    {jsons : List (Key × Json)} (written : List.Forall₂ Written entries jsons) :
    ∃ text, objectText tostring indent level entries = .ok text ∧
      Json.Writes (.value (.object (membersOf tostring jsons))) text := by
  have behind := blanks_newline indent level
  cases written with
  | nil => exact ⟨_, rfl, Json.Writes.emptyObject behind⟩
  | cons first others =>
    obtain ⟨body, inside, members⟩ := addpairs_writes tostring indent (level + 1)
      (List.Forall₂.cons first others) (by simp) false
    refine ⟨'{' :: (body ++ ((if indent then addnewline2 level else []) ++ ['}'])), ?_, ?_⟩
    · rw [objectText, inside]
      rfl
    · have whole := Json.Writes.object (members _ behind)
      rwa [List.append_assoc] at whole

theorem arrayText_writes {n : ℚ} {count : Nat} (whole : n = count)
    {entries : List (Key × Except Text Text)} {jsons : List (Key × Json)}
    (written : List.Forall₂ Written entries jsons) :
    ∃ text, arrayText n entries = .ok text ∧
      Json.Writes (.value (.array (itemsOf n jsons))) text := by
  subst whole
  have noBlanks : Json.Blanks [] := by simp [Json.Blanks]
  rw [arrayText, itemsOf, floor_natural, Int.toNat_natCast]
  cases count with
  | zero => exact ⟨_, rfl, Json.Writes.emptyArray noBlanks⟩
  | succ count =>
    obtain ⟨body, inside, elements⟩ := encodeItems_writes
      (fun i => index_writes written (.number i)) count 0 (by rw [Nat.zero_add])
    exact ⟨'[' :: (body ++ [']']), by rw [inside]; rfl, Json.Writes.array elements⟩

variable (tostring indent)

mutual

theorem encode2_writes (level : Nat) (value : Value) (encodable : Encodable tostring value) :
    ∃ text, encode2 tostring indent level value = .ok text ∧
      Json.Writes (.value (jsonOf tostring value)) text := by
  cases value with
  | nil => exact ⟨_, by rw [encode2], by rw [jsonOf]; exact Json.Writes.null⟩
  | boolean value =>
    cases value with
    | true => exact ⟨_, by rw [encode2], by rw [jsonOf]; exact Json.Writes.true⟩
    | false => exact ⟨_, by rw [encode2], by rw [jsonOf]; exact Json.Writes.false⟩
  | number value =>
    rw [Encodable] at encodable
    refine ⟨_, by rw [encode2], ?_⟩
    rw [jsonOf, num2str_numeral encodable]
    exact Json.Writes.number encodable
  | string letters => exact ⟨_, by rw [encode2], by rw [jsonOf]; exact writes_quotestring letters⟩
  | table jsontype entries =>
    rw [Encodable] at encodable
    have written := encodeEntries_writes (level + 1) entries encodable.2
    rw [encode2, jsonOf]
    cases isArray : isarray entries with
    | none => exact objectText_writes level written
    | some n =>
      obtain ⟨count, whole⟩ := isarray_whole isArray (encodable.1 (by rw [isArray]; rfl))
      by_cases empty : n = 0 ∧ jsontype = some .object
      · simp only [if_pos empty]
        exact objectText_writes level written
      · simp only [if_neg empty]
        exact arrayText_writes whole written

theorem encodeEntries_writes (level : Nat) (entries : Entries)
    (encodable : EncodableEntries tostring entries) :
    List.Forall₂ Written (encodeEntries tostring indent level entries)
      (jsonsOf tostring entries) := by
  cases entries with
  | nil =>
    rw [encodeEntries, jsonsOf]
    exact List.Forall₂.nil
  | cons entry rest =>
    obtain ⟨key, value⟩ := entry
    rw [EncodableEntries] at encodable
    obtain ⟨nameable, first, others⟩ := encodable
    rw [encodeEntries, jsonsOf]
    exact List.Forall₂.cons ⟨rfl, nameable, encode2_writes level value first⟩
      (encodeEntries_writes level rest others)

end

end Encode

/-! ## Back again -/

section Canonical

variable (tostring : ℚ → Text)

mutual

/-- Each number is printed as a numeral that stands for it, no item and no member is a null, the
names of an object are distinct, and it is not the length of an array alone. -/
def Canonical : Json → Prop
  | .null => False
  | .boolean _ => True
  | .number value => Json.Numeral (tostring value) value
  | .string _ => True
  | .array items => CanonicalItems items
  | .object members =>
      (members.map Prod.fst).Nodup ∧ (∀ value, members ≠ [(['n'], .number value)]) ∧
        CanonicalMembers members

def CanonicalItems : List Json → Prop
  | [] => True
  | item :: items => Canonical item ∧ CanonicalItems items

def CanonicalMembers : List (Text × Json) → Prop
  | [] => True
  | (_, json) :: members => Canonical json ∧ CanonicalMembers members

end

variable {tostring}

theorem toValue_ne_nil {json : Json} (canonical : Canonical tostring json) :
    toValue .nil json ≠ .nil := by
  cases json with
  | null =>
    rw [Canonical] at canonical
    exact canonical.elim
  | _ => simp [toValue]

theorem assign_fresh {entries : Entries} {key : Key} {value : Value}
    (fresh : ∀ entry ∈ entries, entry.1 ≠ key) (isValue : value ≠ .nil) :
    assign entries key value = entries ++ [(key, value)] := by
  have others : (entries.filter fun entry => entry.1 ≠ key) = entries :=
    List.filter_eq_self.mpr fun entry member => by simpa using fresh entry member
  cases value with
  | nil => exact absurd rfl isValue
  | _ => simp only [assign, others]

/-- The items under the numbers behind `n`. -/
def indexed {α : Type} (n : Nat) : List α → List (Key × α)
  | [] => []
  | item :: items => (.number (n + 1 : Nat), item) :: indexed (n + 1) items

theorem numbered_eq {items : List Json} (canonical : CanonicalItems tostring items) {n : Nat}
    {entries : Entries}
    (fresh : ∀ entry ∈ entries, ∀ later, n < later → entry.1 ≠ .number (later : Nat)) :
    numbered .nil entries n items = entries ++ indexed n (items.map (toValue .nil)) := by
  induction items generalizing n entries with
  | nil => simp [numbered, indexed]
  | cons item items inductionHypothesis =>
    rw [CanonicalItems] at canonical
    have added := assign_fresh (fun entry member => fresh entry member (n + 1) (Nat.lt_succ_self n))
      (toValue_ne_nil canonical.1)
    have freshAgain : ∀ entry ∈ entries ++ [(Key.number (n + 1 : Nat), toValue .nil item)],
        ∀ later, n + 1 < later → entry.1 ≠ .number (later : Nat) := by
      intro entry member later after
      rcases List.mem_append.mp member with earlier | new
      · exact fresh entry earlier later (by omega)
      · obtain rfl := List.mem_singleton.mp new
        intro same
        have equal : n + 1 = later := by exact_mod_cast Key.number.inj same
        omega
    rw [numbered, added, inductionHypothesis canonical.2 freshAgain, List.append_assoc]
    rfl

theorem named_eq {members : List (Text × Json)} (canonical : CanonicalMembers tostring members)
    (distinct : (members.map Prod.fst).Nodup) {entries : Entries}
    (fresh : ∀ entry ∈ entries, ∀ member ∈ members, entry.1 ≠ .string member.1) :
    named .nil entries members =
      entries ++ members.map fun member => (.string member.1, toValue .nil member.2) := by
  induction members generalizing entries with
  | nil => simp [named]
  | cons member members inductionHypothesis =>
    obtain ⟨name, json⟩ := member
    rw [CanonicalMembers] at canonical
    rw [List.map_cons, List.nodup_cons] at distinct
    have added := assign_fresh (fun entry isIn => fresh entry isIn _ List.mem_cons_self)
      (toValue_ne_nil canonical.1)
    have freshAgain : ∀ entry ∈ entries ++ [(Key.string name, toValue .nil json)],
        ∀ member ∈ members, entry.1 ≠ .string member.1 := by
      intro entry isIn other isMember
      rcases List.mem_append.mp isIn with earlier | new
      · exact fresh entry earlier other (List.mem_cons_of_mem _ isMember)
      · obtain rfl := List.mem_singleton.mp new
        intro same
        exact distinct.1 (List.mem_map.mpr ⟨other, isMember, (Key.string.inj same).symm⟩)
    rw [named, added, inductionHypothesis canonical.2 distinct.2 freshAgain, List.append_assoc]
    rfl

/-! ### Indexed entries -/

theorem indices_indexed {values : List Value} {n : Nat} {arraylen : ℚ} :
    indices (n : ℚ) arraylen n (indexed n values) =
      some (((n + values.length : Nat) : ℚ), arraylen, n + values.length) := by
  induction values generalizing n with
  | nil => rfl
  | cons value values inductionHypothesis =>
    have natural : ¬(((n + 1 : Nat) : ℚ) < 1 ∨ ((((n + 1 : Nat) : ℚ).floor : Int) : ℚ) ≠
        ((n + 1 : Nat) : ℚ)) := by
      rw [floor_natural]
      push Not
      exact ⟨by exact_mod_cast Nat.le_add_left 1 n, rfl⟩
    have larger : ((n + 1 : Nat) : ℚ) > (n : ℚ) := by exact_mod_cast Nat.lt_succ_self n
    rw [indexed, indices, if_neg natural, if_pos larger, inductionHypothesis, List.length_cons]
    congr 2
    · push_cast; ring
    · congr 1; omega

theorem isarray_indexed (values : List Value) :
    isarray (indexed 0 values) = some (values.length : ℚ) := by
  have survey := @indices_indexed values 0 0
  rw [Nat.zero_add] at survey
  have noHoles : ¬((values.length : ℚ) > 10 ∧ (values.length : ℚ) > 0 ∧
      (values.length : ℚ) > (values.length : ℚ) * 2) := by
    rintro ⟨large, _, more⟩
    linarith
  simp only [isarray]
  rw [show (0 : ℚ) = ((0 : Nat) : ℚ) from rfl] at *
  rw [survey]
  simp only [if_neg noHoles]

theorem map_index_indexed {α : Type} (other : α) (n : Nat) (items : List α) :
    (List.range' (n + 1) items.length).map
        (fun i : Nat => (index (indexed n items) (.number i)).getD other) = items := by
  induction items generalizing n with
  | nil => rfl
  | cons item items inductionHypothesis =>
    have head : index (indexed n (item :: items)) (.number (n + 1 : Nat)) = some item := by
      simp [index, indexed]
    have tail : ∀ i ∈ List.range' (n + 1 + 1) items.length,
        index (indexed n (item :: items)) (.number (i : Nat)) =
          index (indexed (n + 1) items) (.number (i : Nat)) := by
      intro i member
      have after := (List.mem_range'_1.mp member).1
      have different : Key.number ((n + 1 : Nat) : ℚ) ≠ Key.number ((i : Nat) : ℚ) := by
        intro same
        have equal : n + 1 = i := by exact_mod_cast Key.number.inj same
        omega
      rw [index, indexed, List.find?_cons_of_neg (by simpa using different)]
      rfl
    have rest : (List.range' (n + 1 + 1) items.length).map
        (fun i : Nat => (index (indexed n (item :: items)) (.number i)).getD other) = items :=
      (List.map_congr_left fun i member => by rw [tail i member]).trans
        (inductionHypothesis (n + 1))
    rw [List.length_cons, List.range'_succ, List.map_cons, head, rest]
    rfl

theorem itemsOf_indexed (items : List Json) :
    itemsOf (items.length : ℚ) (indexed 0 items) = items := by
  rw [itemsOf, floor_natural, Int.toNat_natCast]
  exact map_index_indexed .null 0 items

theorem key_of_indexed {α : Type} {n : Nat} {items : List α} {key : Key} {value : α}
    (member : (key, value) ∈ indexed n items) : ∃ number, key = .number number := by
  induction items generalizing n with
  | nil => cases member
  | cons item items inductionHypothesis =>
    rcases List.mem_cons.mp member with here | later
    · exact ⟨_, (Prod.mk.inj here).1⟩
    · exact inductionHypothesis later

theorem map_indexed {α β : Type} (change : α → β) (n : Nat) (items : List α) :
    ((indexed n items).map fun entry => (entry.1, change entry.2)) =
      indexed n (items.map change) := by
  induction items generalizing n with
  | nil => rfl
  | cons item items inductionHypothesis =>
    rw [indexed, List.map_cons, inductionHypothesis]
    rfl

theorem jsonsOf_eq (entries : Entries) :
    jsonsOf tostring entries = entries.map fun entry => (entry.1, jsonOf tostring entry.2) := by
  induction entries with
  | nil => rw [jsonsOf, List.map_nil]
  | cons entry entries inductionHypothesis =>
    obtain ⟨key, value⟩ := entry
    rw [jsonsOf, inductionHypothesis, List.map_cons]

/-! ### Named entries -/

/-- A table with another name is no array. -/
theorem indices_none {entries : Entries} {max arraylen : ℚ} {n : Nat} {name : Text} {value : Value}
    (member : (Key.string name, value) ∈ entries)
    (other : ∀ number, (name, value) ≠ (['n'], .number number)) :
    indices max arraylen n entries = none := by
  induction entries generalizing max arraylen n with
  | nil => cases member
  | cons entry entries inductionHypothesis =>
    unfold indices
    split
    · rename_i same
      cases same
    · rename_i length rest same
      obtain ⟨rfl, rfl⟩ := List.cons.inj same
      rcases List.mem_cons.mp member with here | later
      · cases here
        exact absurd rfl (other length)
      · exact inductionHypothesis later
    · rename_i rest key content _ same
      obtain ⟨rfl, rfl⟩ := List.cons.inj same
      rcases List.mem_cons.mp member with here | later
      · cases here
      · split
        · rfl
        · exact inductionHypothesis later
    · rfl

theorem isarray_named {members : List (Text × Json)} (distinct : (members.map Prod.fst).Nodup)
    (notLength : ∀ value, members ≠ [(['n'], .number value)]) (some : members ≠ []) :
    isarray (members.map fun member => (Key.string member.1, toValue .nil member.2)) = none := by
  have isNumber : ∀ {json : Json} {number : ℚ}, toValue .nil json = .number number →
      json = .number number := by
    intro json number same
    cases json with
    | number value => rw [toValue] at same; cases same; rfl
    | _ => simp [toValue] at same
  obtain ⟨member, isMember, other⟩ : ∃ member ∈ members, ∀ number,
      (member.1, toValue .nil member.2) ≠ (['n'], .number number) := by
    rcases members with _ | ⟨⟨name, json⟩, _ | ⟨⟨name', json'⟩, members⟩⟩
    · exact absurd rfl some
    · refine ⟨_, List.mem_cons_self, fun number same => ?_⟩
      obtain ⟨rfl, isNumeric⟩ := Prod.mk.inj same
      exact notLength number (by rw [show json = .number number from isNumber isNumeric])
    · by_cases isLength : name = ['n']
      · refine ⟨(name', json'), by simp, fun number same => ?_⟩
        have nameToo : name' = ['n'] := (Prod.mk.inj same).1
        simp [isLength, nameToo] at distinct
      · exact ⟨(name, json), by simp, fun number same => isLength (Prod.mk.inj same).1⟩
  have listed : (Key.string member.1, toValue .nil member.2) ∈
      members.map fun member => (Key.string member.1, toValue .nil member.2) :=
    List.mem_map.mpr ⟨member, isMember, rfl⟩
  have noArray := @indices_none _ 0 0 0 _ _ listed other
  simp only [isarray, noArray]

/-! ### The JSON value of what was read -/

theorem toValue_array {items : List Json} (canonical : CanonicalItems tostring items) :
    toValue .nil (.array items) = .table (some .array) (indexed 0 (items.map (toValue .nil))) := by
  rw [toValue, numbered_eq canonical (by simp), List.nil_append]

theorem toValue_object {members : List (Text × Json)}
    (canonical : CanonicalMembers tostring members) (distinct : (members.map Prod.fst).Nodup) :
    toValue .nil (.object members) = .table (some .object)
      (members.map fun member => (.string member.1, toValue .nil member.2)) := by
  rw [toValue, named_eq canonical distinct (by simp), List.nil_append]

mutual

theorem jsonOf_toValue (json : Json) (canonical : Canonical tostring json) :
    jsonOf tostring (toValue .nil json) = json := by
  cases json with
  | null =>
    rw [Canonical] at canonical
    exact canonical.elim
  | boolean value => rw [toValue, jsonOf]
  | number value => rw [toValue, jsonOf]
  | string letters => rw [toValue, jsonOf]
  | array items =>
    rw [Canonical] at canonical
    have same := jsonOf_items items canonical
    have length : ((items.map (toValue .nil)).length : ℚ) =
        ((items.map (jsonOf tostring ∘ toValue .nil)).length : ℚ) := by
      rw [List.length_map, List.length_map]
    rw [toValue_array canonical, jsonOf, isarray_indexed]
    simp only [reduceCtorEq, Option.some.injEq, and_false, if_false]
    rw [jsonsOf_eq, map_indexed, List.map_map, length, itemsOf_indexed, same]
  | object members =>
    rw [Canonical] at canonical
    obtain ⟨distinct, notLength, canonical⟩ := canonical
    have same := jsonOf_members members canonical
    have entries : membersOf tostring (jsonsOf tostring
        (members.map fun member => (Key.string member.1, toValue .nil member.2))) = members := by
      rw [jsonsOf_eq, membersOf, List.map_map, List.map_map]
      exact same
    rw [toValue_object canonical distinct, jsonOf]
    cases members with
    | nil =>
      rw [show isarray (List.map _ []) = some 0 from rfl]
      simp only [and_self, if_true]
      rw [entries]
    | cons member members =>
      rw [isarray_named distinct notLength (by simp)]
      simp only [entries]

theorem jsonOf_items (items : List Json) (canonical : CanonicalItems tostring items) :
    items.map (jsonOf tostring ∘ toValue .nil) = items := by
  cases items with
  | nil => rfl
  | cons item items =>
    rw [CanonicalItems] at canonical
    rw [List.map_cons, Function.comp_apply, jsonOf_toValue item canonical.1,
      jsonOf_items items canonical.2]

theorem jsonOf_members (members : List (Text × Json))
    (canonical : CanonicalMembers tostring members) :
    members.map (fun member => (member.1, jsonOf tostring (toValue .nil member.2))) = members := by
  cases members with
  | nil => rfl
  | cons member members =>
    obtain ⟨name, json⟩ := member
    rw [CanonicalMembers] at canonical
    rw [List.map_cons, jsonOf_toValue json canonical.1, jsonOf_members members canonical.2]

end

mutual

theorem encodable_toValue (json : Json) (canonical : Canonical tostring json) :
    Encodable tostring (toValue .nil json) := by
  cases json with
  | null =>
    rw [Canonical] at canonical
    exact canonical.elim
  | boolean value => rw [toValue, Encodable]; trivial
  | number value =>
    rw [Canonical] at canonical
    rw [toValue, Encodable]
    exact canonical
  | string letters => rw [toValue, Encodable]; trivial
  | array items =>
    rw [Canonical] at canonical
    rw [toValue_array canonical, Encodable]
    refine ⟨fun _ value member => ?_, encodable_items 0 items canonical⟩
    obtain ⟨_, isNumber⟩ := key_of_indexed member
    cases isNumber
  | object members =>
    rw [Canonical] at canonical
    obtain ⟨distinct, notLength, canonical⟩ := canonical
    rw [toValue_object canonical distinct, Encodable]
    refine ⟨fun isArray value member => ?_, encodable_members members canonical⟩
    cases members with
    | nil => cases member
    | cons first members =>
      rw [isarray_named distinct notLength (by simp)] at isArray
      cases isArray

theorem encodable_items (n : Nat) (items : List Json)
    (canonical : CanonicalItems tostring items) :
    EncodableEntries tostring (indexed n (items.map (toValue .nil))) := by
  cases items with
  | nil => rw [List.map_nil, indexed, EncodableEntries]; trivial
  | cons item items =>
    rw [CanonicalItems] at canonical
    rw [List.map_cons, indexed, EncodableEntries]
    exact ⟨trivial, encodable_toValue item canonical.1, encodable_items (n + 1) items canonical.2⟩

theorem encodable_members (members : List (Text × Json))
    (canonical : CanonicalMembers tostring members) :
    EncodableEntries tostring
      (members.map fun member => (.string member.1, toValue .nil member.2)) := by
  cases members with
  | nil => rw [List.map_nil, EncodableEntries]; trivial
  | cons member members =>
    obtain ⟨name, json⟩ := member
    rw [CanonicalMembers] at canonical
    rw [List.map_cons, EncodableEntries]
    exact ⟨trivial, encodable_toValue json canonical.1, encodable_members members canonical.2⟩

end

end Canonical

/-! ## Texts -/

section Texts

variable {tostring : ℚ → Text}

theorem encode_writes (indent : Bool) {value : Value} (encodable : Encodable tostring value) :
    ∃ text, encode tostring indent value = .ok text ∧
      Json.Writes (.value (jsonOf tostring value)) text :=
  encode2_writes tostring indent 0 value encodable

/-- What the decoder makes of a text of the grammar with nothing around it. -/
theorem decode_writes (nullval : Value) {json : Json} {text : Text}
    (written : Json.Writes (.value json) text) :
    decode nullval text = .ok (toValue nullval json, []) := by
  have read := reads_of_writes nullval written (text.length + 1) [] (Nat.le_succ _) (by simp [Ends])
  rwa [List.append_nil] at read

/-- What `encode` writes is read as the JSON value of the table. -/
theorem decode_encode (indent : Bool) (nullval : Value) {value : Value}
    (encodable : Encodable tostring value) :
    ∃ text, encode tostring indent value = .ok text ∧
      decode nullval text = .ok (toValue nullval (jsonOf tostring value), []) := by
  obtain ⟨text, encoded, written⟩ := encode_writes indent encodable
  exact ⟨text, encoded, decode_writes nullval written⟩

/-- The numeral of a small number. -/
theorem numeral_five : Json.Numeral ['5'] 5 := by
  have magnitude := @Json.Magnitude.parts ['5'] [] [] [] 0 (by simp) (by simp [Json.Digits])
    Json.Fraction.none Json.Exponent.none
  have numeral := Json.Numeral.plain magnitude
  have value : LuaNumerals.scale (Nat.ofDigitChars 10 (['5'] ++ []) 0) (0 - ([] : Text).length) =
      5 := by decide +kernel
  rwa [value] at numeral

/-- An array with a hole, whose key is the number 2. -/
theorem decode_encode_hole :
    ∃ text, encode (fun _ => ['5']) true (.table none [(.number 2, .number 5)]) = .ok text ∧
      decode .nil text = .ok (toValue .nil
        (jsonOf (fun _ => ['5']) (.table none [(.number 2, .number 5)])), []) := by
  refine decode_encode true .nil ?_
  rw [Encodable, EncodableEntries, EncodableEntries, Encodable]
  exact ⟨by simp, trivial, numeral_five, trivial⟩

/-- A table that was read from a text is written as another text, which gives the same table. -/
theorem decode_encode_decode (indent : Bool) {json : Json} {text : Text}
    (isText : Json.Text json text) (canonical : Canonical tostring json) :
    ∃ value rest written, decode .nil text = .ok (value, rest) ∧
      encode tostring indent value = .ok written ∧ decode .nil written = .ok (value, []) := by
  obtain ⟨lead, inner, trail, before, writes, behind, rfl⟩ := isText
  obtain ⟨written, encoded, again⟩ := encode_writes indent (encodable_toValue json canonical)
  rw [jsonOf_toValue json canonical] at again
  exact ⟨_, trail, written, decode_around .nil before writes behind, encoded,
    decode_writes .nil again⟩

/-- An object with a number in it. -/
theorem decode_encode_decode_object :
    ∃ value rest written, decode .nil "\x7b \"a\" : 5 \x7d".toList = .ok (value, rest) ∧
      encode (fun _ => ['5']) true value = .ok written ∧
      decode .nil written = .ok (value, []) := by
  have none : Json.Blanks [] := by simp [Json.Blanks]
  have space : Json.Blanks [' '] := by simp [Json.Blanks]
  have name : Json.Spells ['a'] ['a'] := Json.Spells.plain (by decide) (by decide) Json.Spells.nil
  have written := Json.Writes.object (Json.Writes.lastMember space name space space
    (Json.Writes.number numeral_five) space)
  refine decode_encode_decode true ⟨[], _, [], none, written, none, by decide⟩ ?_
  rw [Canonical, CanonicalMembers, CanonicalMembers, Canonical]
  exact ⟨by simp, by simp, numeral_five, trivial⟩

end Texts

end TfortisPack.Dkjson
