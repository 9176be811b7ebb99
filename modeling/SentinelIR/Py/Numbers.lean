/-
# Numbers from texts

Which texts `int` and `float` read. Both accept surrounding whitespace, a sign, the
decimal digits of any script and single underscores between digits; `float` also reads
fractions, exponents, infinities and NaN. What neither reads raises `ValueError`. The
value of a float is not represented.
-/

import SentinelIR.Py.Json

namespace SentinelIR.Py

/-- The decimal digits outside ASCII. -/
class UnicodeDigits where
  /-- The value of a code point as a decimal digit. -/
  decimalOf : CodePoint → Option (Fin 10)

/-- Whitespace within ASCII, as both readers skip it. -/
def isAsciiSpace (c : CodePoint) : Bool := (9 ≤ c.val && c.val ≤ 13) || c.val == 32

section Ascii

variable [UnicodeDigits]

/-- A code point as the readers see it: whitespace and digits of any script become ASCII,
and any other code point outside ASCII a question mark. -/
def numeral (c : CodePoint) : CodePoint :=
  if c.val < 127 then c
  else if isSpace c then codePoint ' '
  else match UnicodeDigits.decimalOf c with
    | some d => ⟨48 + d.val, Nat.lt_of_lt_of_le (Nat.add_lt_add_left d.isLt 48) (by decide)⟩
    | none => codePoint '?'

/-- The text to read, without the whitespace around it. -/
def numeralText (text : Str) : Str :=
  (((text.map numeral).dropWhile isAsciiSpace).reverse.dropWhile isAsciiSpace).reverse

end Ascii

/-- The text without its underscores. Each has to stand between two digits. -/
def ungrouped : Option CodePoint → Str → Option Str
  | previous, [] => if previous = some (codePoint '_') then none else some []
  | previous, c :: rest =>
      if c = codePoint '_' then
        if previous.any isDigit then ungrouped (some c) rest else none
      else if previous = some (codePoint '_') ∧ isDigit c = false then none
      else (ungrouped (some c) rest).map (c :: ·)

/-- The text after its sign, and whether it is a minus. -/
def signed : Str → Bool × Str
  | [] => (false, [])
  | c :: rest =>
      if c = codePoint '-' then (true, rest)
      else if c = codePoint '+' then (false, rest)
      else (false, c :: rest)

/-- The most digits `int` reads. -/
def maxIntDigits : Nat := 4300

/-- `int(text)`. -/
def readInt [UnicodeDigits] (text : Str) : Option Int := do
  let (negative, body) := signed (numeralText text)
  let digits ← ungrouped none body
  if digits = [] ∨ digits.all isDigit = false ∨ maxIntDigits < digits.length then none
  else
    let value : Int := digitsValue digits
    return if negative then -value else value

/-- A lower-case letter for a capital one. -/
def asciiLower (c : CodePoint) : CodePoint :=
  if h : 65 ≤ c.val ∧ c.val ≤ 90 then
    ⟨c.val + 32, Nat.lt_of_le_of_lt (Nat.add_le_add_right h.2 32) (by decide)⟩
  else c

/-- The words for infinities and NaN. -/
def floatWords : List Str := ["inf", "infinity", "nan"]

/-- What may follow the digits of a float: nothing, or an exponent. -/
def isExponent : Str → Bool
  | [] => true
  | c :: rest =>
      let digits := (signed rest).2
      (c = codePoint 'e' || c = codePoint 'E') && digits ≠ [] && digits.all isDigit

/-- Digits with an optional fraction and an optional exponent. -/
def isDecimalFloat (text : Str) : Bool :=
  let whole := text.takeWhile isDigit
  match text.dropWhile isDigit with
  | [] => whole ≠ []
  | c :: rest =>
      if c = codePoint '.' then
        whole ++ rest.takeWhile isDigit ≠ [] && isExponent (rest.dropWhile isDigit)
      else whole ≠ [] && isExponent (c :: rest)

/-- `float(text)` does not raise. -/
def readsFloat [UnicodeDigits] (text : Str) : Bool :=
  match ungrouped none (numeralText text) with
  | none => false
  | some body =>
      let unsigned := (signed body).2
      floatWords.contains (unsigned.map asciiLower) || isDecimalFloat unsigned

end SentinelIR.Py
