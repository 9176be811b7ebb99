/-
# JSON

`json.loads` on a text and `json.dumps` on a flat object, as Python's library has
them. The writer escapes everything outside printable ASCII, code points beyond
the basic plane as a pair of surrogate escapes; the reader joins such a pair
again. It cannot tell a pair that was one code point from two surrogates that
stood next to each other, and that is the only thing a text loses on its way.
-/

import SentinelIR.Py.Str

namespace SentinelIR.Py

/-! ## Values -/

/-- What `json.loads` returns. An object keeps its members as they were written;
a `dict` takes the last of those with one key. A float keeps its literal. -/
inductive Json
  | null
  | bool (value : Bool)
  | int (value : Int)
  | float (literal : Str)
  | str (value : Str)
  | arr (items : List Json)
  | obj (members : List (Str × Json))

/-- How `json.loads` fails: `JSONDecodeError`, or the `ValueError` of an integer
with too many digits. -/
inductive LoadError
  | decode
  | value
  deriving DecidableEq

/-- The result of a scanner: a value and the text after it. -/
abbrev Scan (α : Type) := Except LoadError (α × Str)

/-- Go on with the value a scanner found. -/
def Scan.then {α β : Type} (found : Scan α) (next : α → β) : Scan β :=
  found.map fun item => (next item.1, item.2)

/-! ## Strings -/

/-- The value of a hexadecimal digit. -/
def hexValue (c : CodePoint) : Option Nat :=
  if 48 ≤ c.val ∧ c.val ≤ 57 then some (c.val - 48)
  else if 97 ≤ c.val ∧ c.val ≤ 102 then some (c.val - 87)
  else if 65 ≤ c.val ∧ c.val ≤ 70 then some (c.val - 55)
  else none

/-- The value of four hexadecimal digits. -/
def hexFour (a b c d : CodePoint) : Option Nat := do
  return (((← hexValue a) * 16 + (← hexValue b)) * 16 + (← hexValue c)) * 16 + (← hexValue d)

/-- What stands in a string: a code point, or a numeric escape. -/
inductive Piece
  | raw (c : CodePoint)
  | escape (unit : Nat)

/-- The code point a short escape stands for. -/
def shortEscape (c : CodePoint) : Option CodePoint :=
  if c = codePoint '"' then some (codePoint '"')
  else if c = codePoint '\\' then some (codePoint '\\')
  else if c = codePoint '/' then some (codePoint '/')
  else if c = codePoint 'b' then some 8
  else if c = codePoint 'f' then some 12
  else if c = codePoint 'n' then some 10
  else if c = codePoint 'r' then some 13
  else if c = codePoint 't' then some 9
  else none

/-- The pieces of a string, from after its opening quote. -/
def scanPieces : Str → Scan (List Piece)
  | [] => .error .decode
  | c :: rest =>
      if c = codePoint '"' then .ok ([], rest)
      else if c = codePoint '\\' then
        match rest with
        | [] => .error .decode
        | e :: rest =>
            if e = codePoint 'u' then
              match rest with
              | h :: i :: j :: k :: rest =>
                  match hexFour h i j k with
                  | some unit => (scanPieces rest).then (.escape unit :: ·)
                  | none => .error .decode
              | _ => .error .decode
            else
              match shortEscape e with
              | some d => (scanPieces rest).then (.raw d :: ·)
              | none => .error .decode
      else if c.val < 32 then .error .decode
      else (scanPieces rest).then (.raw c :: ·)

/-- The two halves of the surrogate range. -/
def isHigh (unit : Nat) : Bool := 0xd800 ≤ unit && unit ≤ 0xdbff

@[inherit_doc isHigh]
def isLow (unit : Nat) : Bool := 0xdc00 ≤ unit && unit ≤ 0xdfff

/-- `chr`. -/
def chr (n : Nat) : CodePoint := ⟨n % 0x110000, Nat.mod_lt _ (by norm_num)⟩

/-- The code point of a surrogate pair. -/
def joinPair (high low : Nat) : CodePoint := chr (0x10000 + (high - 0xd800) * 0x400 + (low - 0xdc00))

/-- The text of some pieces: an escaped high surrogate joins an escaped low one
that follows it. -/
def pairUp : List Piece → Str
  | [] => []
  | .raw c :: rest => c :: pairUp rest
  | [.escape unit] => [chr unit]
  | .escape unit :: .raw c :: rest => chr unit :: c :: pairUp rest
  | .escape unit :: .escape next :: rest =>
      if isHigh unit && isLow next then joinPair unit next :: pairUp rest
      else chr unit :: pairUp (.escape next :: rest)

/-- `scanstring`, from after the opening quote. -/
def scanString (s : Str) : Scan Str := (scanPieces s).then pairUp

/-! ## Numbers -/

/-- An ASCII digit. -/
def isDigit (c : CodePoint) : Bool := 48 ≤ c.val && c.val ≤ 57

/-- The value of a row of digits. -/
def digitsValue (digits : Str) : Nat := digits.foldl (fun n c => n * 10 + (c.val - 48)) 0

/-- The fraction of a number, if it has one. -/
def scanFraction : Str → Str × Str
  | c :: rest =>
      if c = codePoint '.' ∧ rest.takeWhile isDigit ≠ [] then
        (c :: rest.takeWhile isDigit, rest.dropWhile isDigit)
      else ([], c :: rest)
  | [] => ([], [])

/-- The exponent of a number, if it has one. -/
def scanExponent : Str → Str × Str
  | c :: rest =>
      let signed := rest.takeWhile fun d => d = codePoint '+' ∨ d = codePoint '-'
      let sign := signed.take 1
      let digits := (rest.drop sign.length).takeWhile isDigit
      if (c = codePoint 'e' ∨ c = codePoint 'E') ∧ digits ≠ [] then
        (c :: sign ++ digits, (rest.drop sign.length).dropWhile isDigit)
      else ([], c :: rest)
  | [] => ([], [])

/-- A number without its sign. -/
def scanUnsigned (negative : Bool) (s : Str) : Scan Json :=
  let whole := s.takeWhile isDigit
  match whole with
  | [] => .error .decode
  | first :: _ =>
      -- a leading zero is a number of its own
      let whole := if first = codePoint '0' then [first] else whole
      let fraction := scanFraction (s.drop whole.length)
      let exponent := scanExponent fraction.2
      if fraction.1 = [] ∧ exponent.1 = [] then
        if 4300 < whole.length then .error .value
        else
          let value : Int := digitsValue whole
          .ok (.int (if negative then -value else value), s.drop whole.length)
      else
        let sign := if negative then [codePoint '-'] else []
        .ok (.float (sign ++ whole ++ fraction.1 ++ exponent.1), exponent.2)

/-! ## Values in a text -/

/-- `" \t\n\r"`. -/
def isJsonSpace (c : CodePoint) : Bool := c.val = 32 || c.val = 9 || c.val = 10 || c.val = 13

/-- Skip whitespace. -/
def skipSpace (s : Str) : Str := s.dropWhile isJsonSpace

/-- The items of an array, from its first value on. -/
def scanItems (value : Str → Scan Json) : Nat → Str → Scan (List Json)
  | 0, _ => .error .decode
  | fuel + 1, s =>
      match value s with
      | .error failed => .error failed
      | .ok (item, rest) =>
          match skipSpace rest with
          | c :: rest =>
              if c = codePoint ']' then .ok ([item], rest)
              else if c = codePoint ',' then
                (scanItems value fuel (skipSpace rest)).then (item :: ·)
              else .error .decode
          | [] => .error .decode

/-- The members of an object, from its first key on. -/
def scanMembers (value : Str → Scan Json) : Nat → Str → Scan (List (Str × Json))
  | 0, _ => .error .decode
  | _ + 1, [] => .error .decode
  | fuel + 1, q :: s =>
      if q = codePoint '"' then
        match scanString s with
        | .error failed => .error failed
        | .ok (key, rest) =>
            match skipSpace rest with
            | [] => .error .decode
            | c :: rest =>
                if c = codePoint ':' then
                  match value (skipSpace rest) with
                  | .error failed => .error failed
                  | .ok (item, rest) =>
                      match skipSpace rest with
                      | [] => .error .decode
                      | d :: rest =>
                          if d = codePoint '}' then .ok ([(key, item)], rest)
                          else if d = codePoint ',' then
                            (scanMembers value fuel (skipSpace rest)).then ((key, item) :: ·)
                          else .error .decode
                else .error .decode
      else .error .decode

/-- The words that stand for values. -/
def constants : List (Str × Json) :=
  [("null", .null), ("true", .bool true), ("false", .bool false), ("NaN", .float "NaN"),
    ("Infinity", .float "Infinity"), ("-Infinity", .float "-Infinity")]

/-- A word at the start of the text. -/
def scanConstant (s : Str) : Option (Json × Str) :=
  (constants.find? fun word => word.1.isPrefixOf s).map fun word => (word.2, s.drop word.1.length)

/-- `scan_once`. The fuel bounds the nesting and the length of what is nested;
one more than the length of the text never runs out. -/
def scanValue : Nat → Str → Scan Json
  | 0, _ => .error .decode
  | _ + 1, [] => .error .decode
  | fuel + 1, c :: rest =>
      if c = codePoint '"' then (scanString rest).then .str
      else if c = codePoint '{' then
        match skipSpace rest with
        | [] => .error .decode
        | d :: inner =>
            if d = codePoint '}' then .ok (.obj [], inner)
            else (scanMembers (scanValue fuel) fuel (d :: inner)).then .obj
      else if c = codePoint '[' then
        match skipSpace rest with
        | [] => .error .decode
        | d :: inner =>
            if d = codePoint ']' then .ok (.arr [], inner)
            else (scanItems (scanValue fuel) fuel (d :: inner)).then .arr
      else
        match scanConstant (c :: rest) with
        | some found => .ok found
        | none =>
            if c = codePoint '-' then scanUnsigned true rest else scanUnsigned false (c :: rest)

/-- `json.loads`. A byte order mark is refused. -/
def loads (s : Str) : Except LoadError Json :=
  if s.head? = some ⟨0xfeff, by norm_num⟩ then .error .decode
  else
    match scanValue (s.length + 1) (skipSpace s) with
    | .error failed => .error failed
    | .ok (value, rest) => if skipSpace rest = [] then .ok value else .error .decode

/-! ## Writing a flat object -/

/-- How `json.dumps` writes one code point. -/
def escapePoint (c : CodePoint) : Str :=
  if c = codePoint '"' then lit "\\\""
  else if c = codePoint '\\' then lit "\\\\"
  else if c.val = 10 then lit "\\n"
  else if c.val = 13 then lit "\\r"
  else if c.val = 9 then lit "\\t"
  else if c.val = 12 then lit "\\f"
  else if c.val = 8 then lit "\\b"
  else if 32 ≤ c.val ∧ c.val ≤ 126 then [c]
  else if c.val < 0x10000 then lit "\\u" ++ hexPad 4 c.val
  else
    lit "\\u" ++ hexPad 4 (0xd800 + (c.val - 0x10000) / 0x400) ++
      (lit "\\u" ++ hexPad 4 (0xdc00 + (c.val - 0x10000) % 0x400))

/-- A string, quoted. -/
def dumpsStr (s : Str) : Str := codePoint '"' :: (s.flatMap escapePoint ++ [codePoint '"'])

/-- What `float.__repr__` writes for a finite number: digits, then a fraction or
an exponent or both. -/
structure FloatText where
  negative : Bool
  whole : Nat
  fraction : Str
  /-- The exponent's sign and its digits. -/
  exponent : Option (Bool × Str)
  fraction_digits : ∀ c ∈ fraction, isDigit c = true
  exponent_digits : ∀ e ∈ exponent, e.2 ≠ [] ∧ ∀ c ∈ e.2, isDigit c = true
  float : fraction ≠ [] ∨ exponent.isSome = true

/-- The fraction as it is written. -/
def FloatText.point (text : FloatText) : Str :=
  if text.fraction = [] then [] else codePoint '.' :: text.fraction

/-- The exponent as it is written. -/
def FloatText.power (text : FloatText) : Str :=
  match text.exponent with
  | none => []
  | some (negative, digits) =>
      codePoint 'e' :: codePoint (if negative then '-' else '+') :: digits

/-- The number as it is written. -/
def FloatText.text (text : FloatText) : Str :=
  (if text.negative then [codePoint '-'] else []) ++
    (decimal text.whole ++ (text.point ++ text.power))

/-- What `json.dumps` can write. Other objects become strings first, the
formatter's `default`. An integer whose digits Python refuses to write is none of
these values. -/
inductive Value
  | null
  | bool (value : Bool)
  | int (value : Int) (written : (decimal value.natAbs).length ≤ 4300)
  | float (text : FloatText)
  | nan
  | infinity (negative : Bool)
  | str (value : Str)
  | list (items : List Value)
  | dict (members : List (Str × Value))

mutual

/-- `json.dumps`. -/
def Value.dumps : Value → Str
  | .null => "null"
  | .bool true => "true"
  | .bool false => "false"
  | .int value _ => decimalInt value
  | .float text => text.text
  | .nan => "NaN"
  | .infinity true => "-Infinity"
  | .infinity false => "Infinity"
  | .str value => dumpsStr value
  | .list items => codePoint '[' :: dumpsItems items
  | .dict members => codePoint '{' :: dumpsMembers members

/-- The items of an array, to its closing bracket. -/
def dumpsItems : List Value → Str
  | [] => [codePoint ']']
  | [item] => item.dumps ++ [codePoint ']']
  | item :: next :: rest => item.dumps ++ (lit ", " ++ dumpsItems (next :: rest))

/-- The members of an object, to its closing brace. -/
def dumpsMembers : List (Str × Value) → Str
  | [] => [codePoint '}']
  | [(key, value)] => dumpsStr key ++ (lit ": " ++ (value.dumps ++ [codePoint '}']))
  | (key, value) :: next :: rest =>
      dumpsStr key ++ (lit ": " ++ (value.dumps ++ (lit ", " ++ dumpsMembers (next :: rest))))

end

end SentinelIR.Py
