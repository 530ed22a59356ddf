import TfortisPack.Library.LuaNumerals

/-!
# JSON texts

The grammar relates a value to every text that stands for it: any white space
between the tokens, any escapes in the strings.  A letter of a text is a byte,
written as the character of that number, and an escaped code point stands for
the bytes of its UTF-8 encoding.  Raw control characters in strings and zeros
in front of a numeral are let in.
-/

namespace TfortisPack.Library

/-- What a run through the list finds of every item. -/
theorem forall_mem_of_all {α : Type} {P : α → Prop} [DecidablePred P] {items : List α}
    (found : (items.all fun item => decide (P item)) = true) : ∀ item ∈ items, P item := by
  simpa using found

/-- A JSON value; a name may occur more than once in an object. -/
inductive Json where
  | null
  | boolean (value : Bool)
  | number (value : ℚ)
  | string (letters : List Char)
  | array (items : List Json)
  | object (members : List (List Char × Json))

namespace Json

/-! ## Tokens -/

def Blanks (text : List Char) : Prop :=
  ∀ letter ∈ text, letter ∈ [' ', '\t', '\n', '\r']

def Digits (text : List Char) : Prop :=
  ∀ letter ∈ text, letter.isDigit = true

/-- The UTF-8 encoding of a code point. -/
def utf8 (code : Nat) : List Char :=
  if code < 0x80 then [Char.ofNat code]
  else if code < 0x800 then
    [Char.ofNat (0xc0 + code / 0x40), Char.ofNat (0x80 + code % 0x40)]
  else if code < 0x10000 then
    [Char.ofNat (0xe0 + code / 0x1000), Char.ofNat (0x80 + code / 0x40 % 0x40),
      Char.ofNat (0x80 + code % 0x40)]
  else
    [Char.ofNat (0xf0 + code / 0x40000), Char.ofNat (0x80 + code / 0x1000 % 0x40),
      Char.ofNat (0x80 + code / 0x40 % 0x40), Char.ofNat (0x80 + code % 0x40)]

/-- The letters that stand for one letter behind a backslash. -/
def escapes : List (Char × Char) :=
  [('"', '"'), ('\\', '\\'), ('/', '/'), ('b', Char.ofNat 8), ('f', Char.ofNat 12), ('n', '\n'),
    ('r', '\r'), ('t', '\t')]

/-- Four hexadecimal digits. -/
inductive Code : List Char → Nat → Prop where
  | digits {first second third fourth : Char} {a b c d : Nat}
      (isFirst : LuaNumerals.hexDigit first = some a)
      (isSecond : LuaNumerals.hexDigit second = some b)
      (isThird : LuaNumerals.hexDigit third = some c)
      (isFourth : LuaNumerals.hexDigit fourth = some d) :
      Code [first, second, third, fourth] (((a * 16 + b) * 16 + c) * 16 + d)

def HighSurrogate (code : Nat) : Prop :=
  0xD800 ≤ code ∧ code ≤ 0xDBFF

def LowSurrogate (code : Nat) : Prop :=
  0xDC00 ≤ code ∧ code ≤ 0xDFFF

/-- What stands between the quotes of a string, and the letters it spells. -/
inductive Spells : List Char → List Char → Prop where
  | nil : Spells [] []
  | plain {letter : Char} {body letters : List Char} (notQuote : letter ≠ '"')
      (notBackslash : letter ≠ '\\') (rest : Spells body letters) :
      Spells (letter :: body) (letter :: letters)
  | escape {name letter : Char} {body letters : List Char} (known : (name, letter) ∈ escapes)
      (rest : Spells body letters) :
      Spells ('\\' :: name :: body) (letter :: letters)
  | code {digits : List Char} {code : Nat} {body letters : List Char} (reads : Code digits code)
      (single : ¬HighSurrogate code) (rest : Spells body letters) :
      Spells ('\\' :: 'u' :: (digits ++ body)) (utf8 code ++ letters)
  | pair {digits lowDigits : List Char} {high low : Nat} {body letters : List Char}
      (reads : Code digits high) (isHigh : HighSurrogate high) (readsLow : Code lowDigits low)
      (isLow : LowSurrogate low) (rest : Spells body letters) :
      Spells ('\\' :: 'u' :: (digits ++ '\\' :: 'u' :: (lowDigits ++ body)))
        (utf8 ((high - 0xD800) * 0x400 + (low - 0xDC00) + 0x10000) ++ letters)

/-- An exponent with its letter, or nothing. -/
inductive Exponent : List Char → Int → Prop where
  | none : Exponent [] 0
  | plain {letter : Char} {digits : List Char} (mark : letter ∈ ['e', 'E']) (some : digits ≠ [])
      (all : Digits digits) :
      Exponent (letter :: digits) (Nat.ofDigitChars 10 digits 0)
  | plus {letter : Char} {digits : List Char} (mark : letter ∈ ['e', 'E']) (some : digits ≠ [])
      (all : Digits digits) :
      Exponent (letter :: '+' :: digits) (Nat.ofDigitChars 10 digits 0)
  | minus {letter : Char} {digits : List Char} (mark : letter ∈ ['e', 'E']) (some : digits ≠ [])
      (all : Digits digits) :
      Exponent (letter :: '-' :: digits) (-(Nat.ofDigitChars 10 digits 0 : Nat))

/-- A fraction with its point, or nothing. -/
inductive Fraction : List Char → List Char → Prop where
  | none : Fraction [] []
  | point {digits : List Char} (some : digits ≠ []) (all : Digits digits) :
      Fraction ('.' :: digits) digits

/-- A numeral without a sign, with its digits and the power of ten they are scaled by. -/
inductive Magnitude : List Char → Nat → Int → Prop where
  | parts {whole fraction digits exponent : List Char} {power : Int} (some : whole ≠ [])
      (all : Digits whole) (behindPoint : Fraction fraction digits)
      (scaled : Exponent exponent power) :
      Magnitude (whole ++ (fraction ++ exponent)) (Nat.ofDigitChars 10 (whole ++ digits) 0)
        (power - digits.length)

inductive Numeral : List Char → ℚ → Prop where
  | plain {text : List Char} {digits : Nat} {power : Int} (magnitude : Magnitude text digits power) :
      Numeral text (LuaNumerals.scale digits power)
  | minus {text : List Char} {digits : Nat} {power : Int} (magnitude : Magnitude text digits power) :
      Numeral ('-' :: text) (-LuaNumerals.scale digits power)

/-! ## Values -/

/-- What the grammar derives. -/
inductive Phrase where
  | value (json : Json)
  /-- What stands between the brackets of an array that is not empty. -/
  | elements (items : List Json)
  /-- What stands between the braces of an object that is not empty. -/
  | members (members : List (List Char × Json))

inductive Writes : Phrase → List Char → Prop where
  | null : Writes (.value .null) ['n', 'u', 'l', 'l']
  | true : Writes (.value (.boolean true)) ['t', 'r', 'u', 'e']
  | false : Writes (.value (.boolean false)) ['f', 'a', 'l', 's', 'e']
  | number {text : List Char} {value : ℚ} (numeral : Numeral text value) :
      Writes (.value (.number value)) text
  | string {body letters : List Char} (spelled : Spells body letters) :
      Writes (.value (.string letters)) ('"' :: (body ++ ['"']))
  | emptyArray {blank : List Char} (blanks : Blanks blank) :
      Writes (.value (.array [])) ('[' :: (blank ++ [']']))
  | array {items : List Json} {body : List Char} (elements : Writes (.elements items) body) :
      Writes (.value (.array items)) ('[' :: (body ++ [']']))
  | emptyObject {blank : List Char} (blanks : Blanks blank) :
      Writes (.value (.object [])) ('{' :: (blank ++ ['}']))
  | object {members : List (List Char × Json)} {body : List Char}
      (inside : Writes (.members members) body) :
      Writes (.value (.object members)) ('{' :: (body ++ ['}']))
  | lastElement {item : Json} {lead text trail : List Char} (before : Blanks lead)
      (written : Writes (.value item) text) (behind : Blanks trail) :
      Writes (.elements [item]) (lead ++ (text ++ trail))
  | element {item : Json} {items : List Json} {lead text trail body : List Char}
      (before : Blanks lead) (written : Writes (.value item) text) (behind : Blanks trail)
      (rest : Writes (.elements items) body) :
      Writes (.elements (item :: items)) (lead ++ (text ++ (trail ++ ',' :: body)))
  | lastMember {name : List Char} {json : Json} {lead spelling gap space text trail : List Char}
      (before : Blanks lead) (spelled : Spells spelling name) (beforeColon : Blanks gap)
      (behindColon : Blanks space) (written : Writes (.value json) text) (behind : Blanks trail) :
      Writes (.members [(name, json)])
        (lead ++ ('"' :: (spelling ++ ('"' :: (gap ++ (':' :: (space ++ (text ++ trail))))))))
  | member {name : List Char} {json : Json} {members : List (List Char × Json)}
      {lead spelling gap space text trail body : List Char}
      (before : Blanks lead) (spelled : Spells spelling name) (beforeColon : Blanks gap)
      (behindColon : Blanks space) (written : Writes (.value json) text) (behind : Blanks trail)
      (rest : Writes (.members members) body) :
      Writes (.members ((name, json) :: members))
        (lead ++ ('"' :: (spelling ++ ('"' :: (gap ++
          (':' :: (space ++ (text ++ (trail ++ ',' :: body)))))))))

/-- A text of a value, with blanks around it. -/
def Text (json : Json) (text : List Char) : Prop :=
  ∃ lead inner trail, Blanks lead ∧ Writes (.value json) inner ∧ Blanks trail ∧
    text = lead ++ (inner ++ trail)

end Json

end TfortisPack.Library
