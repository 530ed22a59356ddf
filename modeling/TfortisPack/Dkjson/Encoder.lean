import Mathlib.Data.Rat.Floor
import TfortisPack.Dkjson.Decoder

/-!
# Encoding (`dkjson.lua`)

`encode` writes a value of Lua as JSON.  How `tostring` prints a number is a
parameter.  Metamethods, an order of the keys and a handler of exceptions, which
no script sets, are left out, and so are the infinities and cycles of
references, which a `Value` does not have.
-/

namespace TfortisPack.Dkjson

open Library

/-! ## Patterns -/

/-- The class of each letter that a pattern matches. -/
abbrev Pattern := List (Char → Bool)

def among (first last : Nat) (letter : Char) : Bool :=
  first ≤ letter.toNat && letter.toNat ≤ last

def fits : Pattern → Text → Bool
  | [], _ => true
  | inClass :: pattern, letter :: text => inClass letter && fits pattern text
  | _ :: _, [] => false

/-- `gsub`, where `skip` letters belong to the last match. -/
def gsub (pattern : Pattern) (repl : Text → Text) : Nat → Text → Text
  | _, [] => []
  | skip + 1, _ :: rest => gsub pattern repl skip rest
  | 0, letter :: rest =>
      if fits pattern (letter :: rest) then
        repl ((letter :: rest).take pattern.length) ++ gsub pattern repl (pattern.length - 1) rest
      else letter :: gsub pattern repl 0 rest

/-! ## Strings -/

def escapecodes : Text → Option Text
  | ['"'] => some ['\\', '"']
  | ['\\'] => some ['\\', '\\']
  | ['\x08'] => some ['\\', 'b']
  | ['\x0c'] => some ['\\', 'f']
  | ['\n'] => some ['\\', 'n']
  | ['\r'] => some ['\\', 'r']
  | ['\t'] => some ['\\', 't']
  | _ => none

def strbyte (uchar : Text) (place : Nat) : Nat :=
  (uchar.getD place '\x00').toNat

/-- `\u%.4x`. -/
def unicode4 (value : Nat) : Text :=
  ['\\', 'u', Nat.digitChar (value / 0x1000 % 16), Nat.digitChar (value / 0x100 % 16),
    Nat.digitChar (value / 0x10 % 16), Nat.digitChar (value % 16)]

/-- The code point of a letter in UTF-8. -/
def utf8Value (a b c d : Nat) : Option Nat :=
  if a ≤ 0x7f then some a
  else if 0xc0 ≤ a ∧ a ≤ 0xdf ∧ b ≥ 0x80 then some ((a - 0xc0) * 0x40 + (b - 0x80))
  else if 0xe0 ≤ a ∧ a ≤ 0xef ∧ b ≥ 0x80 ∧ c ≥ 0x80 then
    some (((a - 0xe0) * 0x40 + (b - 0x80)) * 0x40 + (c - 0x80))
  else if 0xf0 ≤ a ∧ a ≤ 0xf7 ∧ b ≥ 0x80 ∧ c ≥ 0x80 ∧ d ≥ 0x80 then
    some ((((a - 0xf0) * 0x40 + (b - 0x80)) * 0x40 + (c - 0x80)) * 0x40 + (d - 0x80))
  else none

def escapeutf8 (uchar : Text) : Text :=
  match escapecodes uchar with
  | some value => value
  | none =>
      match utf8Value (strbyte uchar 0) (strbyte uchar 1) (strbyte uchar 2) (strbyte uchar 3) with
      | none => []
      | some value =>
          if value ≤ 0xffff then unicode4 value
          else if value ≤ 0x10ffff then
            unicode4 (0xD800 + (value - 0x10000) / 0x400) ++
              unicode4 (0xDC00 + (value - 0x10000) % 0x400)
          else []

/-- `fsub` with `escapeutf8`; a text without a match stays as it is. -/
def fsub (value : Text) (pattern : Pattern) : Text :=
  gsub pattern escapeutf8 0 value

/-- What is escaped in every string. -/
def escapable : Pattern :=
  [fun letter => among 0 31 letter || letter = '"' || letter = '\\' || letter.toNat = 127]

/-- What is escaped besides, letter by letter of its UTF-8 encoding. -/
def unicodePatterns : List Pattern :=
  [[among 194 194, fun letter => among 128 159 letter || letter.toNat = 173],
    [among 216 216, among 128 132],
    [among 220 220, among 143 143],
    [among 225 225, among 158 158, among 180 181],
    [among 226 226, among 128 128, fun letter => among 140 143 letter || among 168 175 letter],
    [among 226 226, among 129 129, among 160 175],
    [among 239 239, among 187 187, among 191 191],
    [among 239 239, among 191 191, among 176 191]]

def leads (letter : Char) : Bool :=
  [194, 216, 220, 225, 226, 239].contains letter.toNat

/-- A string of JSON without its quotes. -/
def quoted (value : Text) : Text :=
  let value := fsub value escapable
  if value.any leads then unicodePatterns.foldl fsub value else value

def quotestring (value : Text) : Text :=
  '"' :: (quoted value ++ ['"'])

/-! ## Arrays -/

/-- The largest index, the length in `n` and the number of indices, where there is no other key. -/
def indices (max arraylen : ℚ) (n : Nat) : Entries → Option (ℚ × ℚ × Nat)
  | [] => some (max, arraylen, n)
  | (.string ['n'], .number value) :: rest =>
      indices (if value > max then value else max) value n rest
  | (.number key, _) :: rest =>
      if key < 1 ∨ (key.floor : ℚ) ≠ key then none
      else indices (if key > max then key else max) arraylen (n + 1) rest
  | _ :: _ => none

/-- The length of the array that the table is written as. -/
def isarray (tbl : Entries) : Option ℚ :=
  match indices 0 0 0 tbl with
  | none => none
  | some (max, arraylen, n) => if max > 10 ∧ max > arraylen ∧ max > n * 2 then none else some max

/-! ## Values -/

section Encode

variable (tostring : ℚ → Text) (indent : Bool)

/-- Only the letters of a number are kept. -/
def num2str (num : ℚ) : Text :=
  (tostring num).filter fun letter => letter.isDigit || ['-', '+', 'e', 'E', '.'].contains letter

def addnewline2 (level : Nat) : Text :=
  '\n' :: List.replicate (2 * level) ' '

def unsupportedKey (kt : Text) : Text :=
  "type '".toList ++ kt ++ "' is not supported as a key by JSON.".toList

def keyText : Key → Except Text Text
  | .string key => .ok (quotestring key)
  | .number key => .ok (quotestring (tostring key))
  | .boolean _ => .error (unsupportedKey "boolean".toList)
  | .table _ => .error (unsupportedKey "table".toList)

/-- The rounds of `for i = 1, n` from the one behind `i` on. -/
def encodeItems (n : ℚ) (item : Nat → Except Text Text) (i : Nat) : Nat → Except Text Text
  | 0 => .ok []
  | rounds + 1 => do
      let text ← item (i + 1)
      let others ← encodeItems n item (i + 1) rounds
      return text ++ ((if ((i + 1 : Nat) : ℚ) < n then [','] else []) ++ others)

/-- The calls of `addpair`, with each value in its text. -/
def addpairs (level : Nat) (prev : Bool) : List (Key × Except Text Text) → Except Text Text
  | [] => .ok []
  | (key, value) :: rest => do
      let name ← keyText tostring key
      let text ← value
      let others ← addpairs level true rest
      return (if prev then [','] else []) ++ ((if indent then addnewline2 level else []) ++
        (name ++ (':' :: (text ++ others))))

/-- `tbl[key]`. -/
def index {α : Type} (tbl : List (Key × α)) (key : Key) : Option α :=
  (tbl.find? fun entry => entry.1 = key).map Prod.snd

def objectText (level : Nat) (entries : List (Key × Except Text Text)) : Except Text Text := do
  let inside ← addpairs tostring indent (level + 1) false entries
  return '{' :: (inside ++ ((if indent then addnewline2 level else []) ++ ['}']))

def arrayText (n : ℚ) (entries : List (Key × Except Text Text)) : Except Text Text := do
  let inside ← encodeItems n
    (fun i => (index entries (.number i)).getD (.ok ['n', 'u', 'l', 'l'])) 0 n.floor.toNat
  return '[' :: (inside ++ [']'])

mutual

def encode2 : Nat → Value → Except Text Text
  | _, .nil => .ok ['n', 'u', 'l', 'l']
  | _, .number value => .ok (num2str tostring value)
  | _, .boolean value => .ok (if value then ['t', 'r', 'u', 'e'] else ['f', 'a', 'l', 's', 'e'])
  | _, .string value => .ok (quotestring value)
  | level, .table jsontype entries =>
      match isarray entries with
      | none => objectText tostring indent level (encodeEntries (level + 1) entries)
      | some n =>
          if n = 0 ∧ jsontype = some .object then
            objectText tostring indent level (encodeEntries (level + 1) entries)
          else arrayText n (encodeEntries (level + 1) entries)

/-- The texts of the values of a table. -/
def encodeEntries : Nat → Entries → List (Key × Except Text Text)
  | _, [] => []
  | level, (key, value) :: rest => (key, encode2 level value) :: encodeEntries level rest

end

end Encode

/-- `encode (value, {indent = indent})`. -/
def encode (tostring : ℚ → Text) (indent : Bool) (value : Value) : Except Text Text :=
  encode2 tostring indent 0 value

end TfortisPack.Dkjson
