import TfortisPack.Library.Json

/-!
# Decoding (`dkjson.lua`)

The scripts read the answers of `ubus` with `dkjson.decode`.  A string of Lua is
a list of bytes; a position in it is kept as the text from there on.  Numbers
are exact.

The decoder recurses into the values of a table; `fuel` bounds the depth of
this recursion and the rounds of a loop, and as many units as the text has
letters suffice.
-/

namespace TfortisPack.Dkjson

open Library
open Library.LuaNumerals (tonumber isSpace trim hexDigit)

abbrev Text := List Char

/-! ## Values of Lua -/

/-- A key of a table.  A table that is a key is no other key; it is known by the place of its
text. -/
inductive Key where
  | boolean (value : Bool)
  | number (value : ℚ)
  | string (letters : Text)
  | table (place : Nat)
  deriving DecidableEq

/-- `__jsontype` in the metatable. -/
inductive JsonType where
  | object
  | array
  deriving DecidableEq, Repr

/-- The entries of a table are in the order in which `pairs` visits them. -/
inductive Value where
  | nil
  | boolean (value : Bool)
  | number (value : ℚ)
  | string (letters : Text)
  | table (jsontype : Option JsonType) (entries : List (Key × Value))

abbrev Entries := List (Key × Value)

/-- `tbl[key] = value`. -/
def assign (entries : Entries) (key : Key) (value : Value) : Entries :=
  let others := entries.filter fun entry => entry.1 ≠ key
  match value with
  | .nil => others
  | value => others ++ [(key, value)]

/-- `value` as a key of a table. -/
def Value.key (place : Nat) : Value → Option Key
  | .nil => none
  | .boolean value => some (.boolean value)
  | .number value => some (.number value)
  | .string letters => some (.string letters)
  | .table _ _ => some (.table place)

/-! ## White space -/

/-- What `scanwhite` is in. -/
inductive White where
  | blank
  | line
  | block

/-- A byte order mark and comments are white space as well. -/
def skip : White → Text → Option Text
  | .blank, '\u00ef' :: '\u00bb' :: '\u00bf' :: rest => skip .blank rest
  | .blank, '/' :: '/' :: rest => skip .line rest
  | .blank, '/' :: '*' :: rest => skip .block rest
  | .blank, letter :: rest => if isSpace letter then skip .blank rest else some (letter :: rest)
  | .line, letter :: rest =>
      if letter = '\n' ∨ letter = '\r' then skip .blank rest else skip .line rest
  | .block, '*' :: '/' :: rest => skip .blank rest
  | .block, _ :: rest => skip .block rest
  | _, [] => none

def scanwhite (text : Text) : Option Text :=
  skip .blank text

/-! ## Strings -/

def escapechars (name : Char) : Option Char :=
  (Json.escapes.find? fun entry => entry.1 = name).map Prod.snd

/-- The digits of a number of base 16. -/
def digits16 (text : Text) : Option Nat :=
  if text = [] then none
  else text.foldlM (fun value letter => (hexDigit letter).map (value * 16 + ·)) 0

def unsigned16 : Text → Option Nat
  | '0' :: 'x' :: rest => digits16 rest
  | '0' :: 'X' :: rest => digits16 rest
  | rest => digits16 rest

/-- `tonumber` of base 16, which takes a sign and a prefix; a `-` gives the negative of an
`unsigned long`. -/
def tonumber16 (text : Text) : Option Nat :=
  match trim text with
  | '-' :: rest => (unsigned16 rest).map fun value => (4294967296 - value) % 4294967296
  | '+' :: rest => unsigned16 rest
  | rest => unsigned16 rest

def unichar (value : Nat) : Option Text :=
  if value ≤ 0x10ffff then some (Json.utf8 value) else none

/-- The second half of a surrogate pair, where the first half has been read. -/
def lowSurrogate (text : Text) : Option Nat :=
  if text.take 2 = ['\\', 'u'] then
    (tonumber16 ((text.drop 2).take 4)).filter fun value => 0xDC00 ≤ value ∧ value ≤ 0xDFFF
  else none

/-- The letters of an escape that starts with a `u`, and how many letters follow the `u`. -/
def unicodeEscape (text : Text) : Option (Text × Nat) :=
  match tonumber16 (text.take 4) with
  | none => none
  | some value =>
      if 0xD800 ≤ value ∧ value ≤ 0xDBff then
        match lowSurrogate (text.drop 4) with
        | some value2 =>
            (unichar ((value - 0xD800) * 0x400 + (value2 - 0xDC00) + 0x10000)).map (·, 10)
        | none => (unichar value).map (·, 4)
      else (unichar value).map (·, 4)

/-- The letters of the escape whose name comes first, and how many letters it takes. -/
def escaped : Text → Text × Nat
  | [] => ([], 1)
  | name :: rest =>
      match if name = 'u' then unicodeEscape rest else none with
      | some (letters, count) => (letters, count + 1)
      | none => ((escapechars name).elim [name] fun letter => [letter], 1)

/-- The letters up to the quote, and what is behind it; the first `count` letters have been read
already. -/
def letters : Nat → Text → Option (Text × Text)
  | _, [] => none
  | count + 1, _ :: rest => letters count rest
  | 0, letter :: rest =>
      if letter = '"' then some ([], rest)
      else if letter = '\\' then
        (letters (escaped rest).2 rest).map fun read => ((escaped rest).1 ++ read.1, read.2)
      else (letters 0 rest).map fun read => (letter :: read.1, read.2)

/-! ## Errors -/

/-- Where a table or a string starts that does not end. -/
inductive What where
  | string
  | array
  | object
  deriving DecidableEq, Repr

/-- An error with the text from the place it is about. -/
inductive Failure where
  | reachedEnd
  | unterminated (what : What) (start : Text)
  | nilIndex (place : Text)
  | noValue (place : Text)
  | outOfFuel
  deriving DecidableEq

def What.name : What → Text
  | .string => ['s', 't', 'r', 'i', 'n', 'g']
  | .array => ['a', 'r', 'r', 'a', 'y']
  | .object => ['o', 'b', 'j', 'e', 'c', 't']

/-- `loc` of the place where `rest` starts. -/
def loc (str rest : Text) : Text :=
  let before := str.take (str.length - rest.length)
  "line ".toList ++ Lua.tostring (before.count '\n' + 1) ++ ", column ".toList ++
    Lua.tostring ((before.reverse.takeWhile (· ≠ '\n')).length + 1)

/-- The second value that `decode` returns with an error. -/
def Failure.position (str : Text) : Failure → Nat
  | .reachedEnd => str.length + 1
  | .unterminated _ _ => str.length + 1
  | .nilIndex place => str.length - place.length + 1
  | .noValue place => str.length - place.length + 1
  | .outOfFuel => 0

def Failure.message (str : Text) : Failure → Text
  | .reachedEnd => "no valid JSON value (reached the end)".toList
  | .unterminated what start =>
      "unterminated ".toList ++ what.name ++ " at ".toList ++ loc str start
  | .nilIndex place => "cannot use nil as table index (at ".toList ++ loc str place ++ [')']
  | .noValue place => "no valid JSON value at ".toList ++ loc str place
  | .outOfFuel => []

/-! ## Numbers and names -/

/-- The letter in front, if it is one of `some`. -/
def optional (some : Text) : Text → Text × Text
  | [] => ([], [])
  | letter :: rest => if letter ∈ some then ([letter], rest) else ([], letter :: rest)

/-- `[%d%.]`. -/
def inBody (letter : Char) : Bool :=
  letter.isDigit || letter = '.'

/-- The letters that `^%-?[%d%.]+[eE]?[%+%-]?%d*` takes, and the ones behind them. -/
def numberToken (text : Text) : Option (Text × Text) :=
  let sign := optional ['-'] text
  let body := sign.2.takeWhile inBody
  let mark := optional ['e', 'E'] (sign.2.dropWhile inBody)
  let exponentSign := optional ['+', '-'] mark.2
  if body = [] then none
  else
    some (sign.1 ++ (body ++ (mark.1 ++ (exponentSign.1 ++ exponentSign.2.takeWhile Char.isDigit))),
      exponentSign.2.dropWhile Char.isDigit)

def scannumber (text : Text) : Option (Value × Text) :=
  match numberToken text with
  | none => none
  | some (token, rest) => (tonumber token).map fun number => (.number number, rest)

/-- `^%a%w*`. -/
def nameToken (text : Text) : Text :=
  match text with
  | [] => []
  | letter :: rest => if letter.isAlpha then letter :: rest.takeWhile Char.isAlphanum else []

def scanname (nullval : Value) (text : Text) : Option (Value × Text) :=
  let name := nameToken text
  let rest := text.drop name.length
  if name = ['t', 'r', 'u', 'e'] then some (.boolean true, rest)
  else if name = ['f', 'a', 'l', 's', 'e'] then some (.boolean false, rest)
  else if name = ['n', 'u', 'l', 'l'] then some (nullval, rest)
  else none

/-! ## Tables -/

abbrev Scan := Text → Except Failure (Value × Text)

/-- The name, the closing letter and the metatable of a table. -/
structure Shape where
  what : What
  closechar : Char
  jsontype : JsonType

def objectShape : Shape := ⟨.object, '}', .object⟩

def arrayShape : Shape := ⟨.array, ']', .array⟩

/-- A comma behind an entry is passed over; there need not be one. -/
def passComma : Text → Text
  | ',' :: rest => rest
  | rest => rest

section Scan

variable (scanvalue : Scan)

/-- The value behind the colon of an entry, and what is behind the value. -/
def scanpair (shape : Shape) (start : Text) (val1 : Value) (colon : Text) (entries : Entries) :
    Except Failure (Entries × Text) := do
  let some key := val1.key colon.length | throw (.nilIndex colon)
  let some text := scanwhite (colon.drop 1) | throw (.unterminated shape.what start)
  let (val2, text) ← scanvalue text
  let some text := scanwhite text | throw (.unterminated shape.what start)
  return (assign entries key val2, text)

/-- The loop of `scantable`, `n` numbers of entries without a key into it. -/
def scanentries (shape : Shape) (start : Text) :
    Nat → Entries → Nat → Text → Except Failure (Value × Text)
  | 0, _, _, _ => throw .outOfFuel
  | fuel + 1, entries, n, text => do
      let some text := scanwhite text | throw (.unterminated shape.what start)
      if text.head? = some shape.closechar then
        return (.table (some shape.jsontype) entries, text.drop 1)
      let (val1, text) ← scanvalue text
      let some text := scanwhite text | throw (.unterminated shape.what start)
      if text.head? = some ':' then
        let (entries, text) ← scanpair scanvalue shape start val1 text entries
        scanentries shape start fuel entries n (passComma text)
      else
        scanentries shape start fuel (assign entries (.number (n + 1 : Nat)) val1) (n + 1)
          (passComma text)

end Scan

def scanvalue (nullval : Value) : Nat → Scan
  | 0, _ => throw .outOfFuel
  | fuel + 1, text =>
      match scanwhite text with
      | none => throw .reachedEnd
      | some [] => throw .reachedEnd
      | some (char :: rest) =>
          if char = '{' then
            scanentries (scanvalue nullval fuel) objectShape (char :: rest) (rest.length + 1) [] 0
              rest
          else if char = '[' then
            scanentries (scanvalue nullval fuel) arrayShape (char :: rest) (rest.length + 1) [] 0
              rest
          else if char = '"' then
            match letters 0 rest with
            | none => throw (.unterminated .string (char :: rest))
            | some (value, rest) => return (.string value, rest)
          else
            match scannumber (char :: rest) with
            | some read => return read
            | none =>
                match scanname nullval (char :: rest) with
                | some read => return read
                | none => throw (.noValue (char :: rest))

/-- `decode (str, 1, nullval)`: the value and the text behind it. -/
def decode (nullval : Value) (str : Text) : Except Failure (Value × Text) :=
  scanvalue nullval (str.length + 1) str

end TfortisPack.Dkjson
