/-
# Python strings

The part of Python's `str` the model rests on. A string is the list of its code
points, lone surrogates included, because `json.loads` can build them from
escapes; `Char` would silently exclude them. Order is code-point order, as in
Python.

The one thing taken from outside is the Unicode database an interpreter ships:
`repr` asks it which code points beyond ASCII print. It is a class parameter, so
every result holds for every version of that database.
-/

import Mathlib

namespace SentinelIR.Py

/-- A Unicode code point, surrogates included. -/
abbrev CodePoint := Fin 0x110000

/-- Code points may be written as numerals. -/
instance codePoints_neZero : NeZero 0x110000 := ⟨by decide⟩

/-- A Python `str`. -/
abbrev Str := List CodePoint

/-- `==` on strings is equality. -/
instance lawful_str : LawfulBEq Str := inferInstance

/-- The code point of a Lean character. -/
def codePoint (c : Char) : CodePoint :=
  ⟨c.toNat, by
    have valid := c.valid
    simp only [UInt32.isValidChar, Nat.isValidChar] at valid
    simp only [Char.toNat]
    omega⟩

/-- A string literal of the source. -/
def lit (text : String) : Str := text.toList.map codePoint

instance : Coe String Str := ⟨lit⟩

/-- `separator.join(parts)`. -/
def joinWith (separator : Str) (parts : List Str) : Str := separator.intercalate parts

/-- A joined text holds nothing but its separator and its parts. -/
theorem mem_joinWith {separator : Str} {parts : List Str} {c : CodePoint}
    (hc : c ∈ joinWith separator parts) : c ∈ separator ∨ ∃ part ∈ parts, c ∈ part := by
  induction parts with
  | nil => cases hc
  | cons part rest ih =>
      cases rest with
      | nil => exact .inr ⟨part, List.mem_cons_self, by simpa [joinWith] using hc⟩
      | cons next rest =>
          rw [joinWith, List.intercalate_cons_cons] at hc
          rcases List.mem_append.mp hc with front | later
          · rcases List.mem_append.mp front with inside | between
            · exact .inr ⟨part, List.mem_cons_self, inside⟩
            · exact .inl between
          · rcases ih later with between | ⟨other, hother, inside⟩
            · exact .inl between
            · exact .inr ⟨other, List.mem_cons_of_mem part hother, inside⟩

/-- What stands before and after the first separator. -/
theorem append_separator_inj {separator : CodePoint} {first second before after : Str}
    (hfirst : separator ∉ first) (hsecond : separator ∉ second) :
    first ++ separator :: before = second ++ separator :: after ↔
      first = second ∧ before = after := by
  induction first generalizing second with
  | nil =>
      cases second with
      | nil => simp
      | cons d second =>
          have differ : separator ≠ d := fun same => hsecond (same ▸ List.mem_cons_self)
          simp [differ]
  | cons c first ih =>
      have hc : c ≠ separator := fun same => hfirst (same ▸ List.mem_cons_self)
      cases second with
      | nil => simp [hc]
      | cons d second =>
          have rest := ih (fun h => hfirst (List.mem_cons_of_mem c h))
            (fun h => hsecond (List.mem_cons_of_mem d h))
          simp only [List.cons_append, List.cons.injEq, rest, and_assoc]

/-- What stands before and after the last separator. -/
theorem append_separator_inj_right {separator : CodePoint} {first second before after : Str}
    (hfirst : separator ∉ first) (hsecond : separator ∉ second) :
    before ++ separator :: first = after ++ separator :: second ↔
      before = after ∧ first = second := by
  have reversed : first.reverse ++ separator :: before.reverse =
      second.reverse ++ separator :: after.reverse ↔
        first.reverse = second.reverse ∧ before.reverse = after.reverse :=
    append_separator_inj (fun h => hfirst (List.mem_reverse.mp h))
      (fun h => hsecond (List.mem_reverse.mp h))
  rw [← List.reverse_inj]
  simp only [List.reverse_append, List.reverse_cons, List.append_assoc, List.singleton_append,
    reversed, List.reverse_inj]
  exact And.comm

/-- Parts without the separator can be read back from the joined text. -/
theorem joinWith_injective {separator : CodePoint} {parts others : List Str}
    (hparts : ∀ part ∈ parts, separator ∉ part) (hothers : ∀ part ∈ others, separator ∉ part)
    (nonempty : parts ≠ []) (nonempty' : others ≠ [])
    (joined : joinWith [separator] parts = joinWith [separator] others) : parts = others := by
  have split := congrArg (List.splitOn separator) joined
  rwa [joinWith, joinWith, List.splitOn_intercalate separator hparts nonempty,
    List.splitOn_intercalate separator hothers nonempty'] at split

/-! ## Whitespace -/

/-- `str.isspace` on one code point. -/
def isSpace (c : CodePoint) : Bool :=
  (9 ≤ c.val && c.val ≤ 13) || (28 ≤ c.val && c.val ≤ 32) || c.val == 0x85 ||
    c.val == 0xa0 || c.val == 0x1680 || (0x2000 ≤ c.val && c.val ≤ 0x200a) ||
    c.val == 0x2028 || c.val == 0x2029 || c.val == 0x202f || c.val == 0x205f ||
    c.val == 0x3000

/-- `str.strip()`. -/
def strip (s : Str) : Str :=
  ((s.dropWhile isSpace).reverse.dropWhile isSpace).reverse

/-- `not s.strip()`, the test of every "must not be blank" validator. -/
def Blank (s : Str) : Prop := strip s = []

instance (s : Str) : Decidable (Blank s) := inferInstanceAs (Decidable (strip s = []))

/-- What is not to be dropped stays. -/
theorem mem_dropWhile_of_kept {s : Str} {skipped : CodePoint → Bool} {c : CodePoint} (held : c ∈ s)
    (kept : skipped c = false) : c ∈ s.dropWhile skipped := by
  have split : c ∈ s.takeWhile skipped ++ s.dropWhile skipped := by
    rw [List.takeWhile_append_dropWhile]
    exact held
  rcases List.mem_append.mp split with front | back
  · rw [List.mem_takeWhile_imp front] at kept
    cases kept
  · exact back

theorem blank_iff {s : Str} : Blank s ↔ ∀ c ∈ s, isSpace c = true := by
  have twice : Blank s ↔ s.dropWhile isSpace = [] := by
    simp only [Blank, strip, List.reverse_eq_nil_iff, List.dropWhile_eq_nil_iff,
      List.mem_reverse]
    constructor
    · intro trimmed c hc
      by_contra visible
      exact visible (trimmed c (mem_dropWhile_of_kept hc (Bool.eq_false_iff.mpr visible)))
    · intro spaces c hc
      exact spaces c ((List.dropWhile_suffix isSpace).subset hc)
  rw [twice, List.dropWhile_eq_nil_iff]

/-- Stripping takes nothing visible away. -/
theorem blank_strip_iff {s : Str} : Blank (strip s) ↔ Blank s := by
  constructor
  · intro blank
    rw [blank_iff] at blank ⊢
    intro c held
    by_contra visible
    rw [Bool.not_eq_true] at visible
    have left : c ∈ strip s := by
      rw [strip, List.mem_reverse]
      exact mem_dropWhile_of_kept
        (List.mem_reverse.mpr (mem_dropWhile_of_kept held visible)) visible
    rw [blank c left] at visible
    cases visible
  · intro blank
    rw [Blank] at blank
    rw [blank]
    rfl

/-- One visible code point is enough for a text to pass the blank test. -/
theorem not_blank_of_mem {s : Str} {c : CodePoint} (hc : c ∈ s) (visible : isSpace c = false) :
    ¬ Blank s := by
  intro blank
  rw [blank_iff] at blank
  simp [blank c hc] at visible

theorem not_blank_append_left {s t : Str} (visible : ¬ Blank s) : ¬ Blank (s ++ t) := by
  rw [blank_iff] at visible ⊢
  push Not at visible ⊢
  obtain ⟨c, hc, hspace⟩ := visible
  exact ⟨c, List.mem_append_left t hc, hspace⟩

theorem not_blank_append_right {s t : Str} (visible : ¬ Blank t) : ¬ Blank (s ++ t) := by
  rw [blank_iff] at visible ⊢
  push Not at visible ⊢
  obtain ⟨c, hc, hspace⟩ := visible
  exact ⟨c, List.mem_append_right s hc, hspace⟩

/-- One visible character is enough for a literal, too. -/
theorem not_blank_lit {text : String}
    (visible : (text.toList.any fun c => !isSpace (codePoint c)) = true) : ¬ Blank (lit text) := by
  obtain ⟨c, hc, hspace⟩ := List.any_eq_true.mp visible
  exact not_blank_of_mem (List.mem_map_of_mem hc) (by simpa using hspace)

/-! ## Numbers and hexadecimal -/

/-- `str(n)` for a natural number. -/
def decimal (n : Nat) : Str := (Nat.toDigits 10 n).map codePoint

/-- Every code point of `str(n)` is an ASCII digit. -/
theorem mem_decimal {n : Nat} {c : CodePoint} (hc : c ∈ decimal n) :
    48 ≤ c.val ∧ c.val ≤ 57 := by
  obtain ⟨digit, hdigit, rfl⟩ := List.mem_map.mp hc
  have isDigit := Nat.isDigit_of_mem_toDigits (by norm_num) (by norm_num) hdigit
  simp only [Char.isDigit, Bool.and_eq_true, decide_eq_true_eq] at isDigit
  exact ⟨isDigit.1, isDigit.2⟩

theorem decimal_ne_nil (n : Nat) : decimal n ≠ [] := by
  simp [decimal, Nat.toDigits_ne_nil]

/-- `str(n)` for an integer. -/
def decimalInt : Int → Str
  | .ofNat n => decimal n
  | .negSucc n => codePoint '-' :: decimal (n + 1)

/-- The lower-case hexadecimal digit of a value below sixteen. -/
def hexDigit (d : Fin 16) : CodePoint :=
  if d.val < 10 then ⟨48 + d.val, by omega⟩ else ⟨87 + d.val, by omega⟩

/-- `format(n, "0<width>x")`: the low `width` hexadecimal digits of `n`. -/
def hexPad : Nat → Nat → Str
  | 0, _ => []
  | width + 1, n => hexPad width (n / 16) ++ [hexDigit ⟨n % 16, Nat.mod_lt _ (by norm_num)⟩]

@[simp]
theorem length_hexPad (width n : Nat) : (hexPad width n).length = width := by
  induction width generalizing n with
  | zero => rfl
  | succ width ih => simp [hexPad, ih]

/-- `c in "0123456789abcdef"`, the test both identifier validators apply. -/
def isLowerHex (c : CodePoint) : Bool :=
  (48 ≤ c.val && c.val ≤ 57) || (97 ≤ c.val && c.val ≤ 102)

theorem isLowerHex_hexDigit (d : Fin 16) : isLowerHex (hexDigit d) = true := by
  revert d
  decide

theorem mem_hexPad {width n : Nat} {c : CodePoint} (hc : c ∈ hexPad width n) :
    isLowerHex c = true := by
  induction width generalizing n with
  | zero => simp [hexPad] at hc
  | succ width ih =>
      rcases List.mem_append.mp hc with high | low
      · exact ih high
      · rw [List.mem_singleton.mp low]
        exact isLowerHex_hexDigit _

/-! ## Upper case

Only the schema's method check upper-cases a text, and it compares the result
with ASCII words. The code points whose upper case contains an ASCII letter are
therefore listed in full; any other one stays as it is, which leaves a result
with a code point outside ASCII in it either way. -/

/-- `str.upper` on one code point. -/
def upperPoint (c : CodePoint) : Str :=
  if 97 ≤ c.val ∧ c.val ≤ 122 then [⟨c.val - 32, by omega⟩]
  else if c.val = 0xdf then lit "SS"
  else if c.val = 0x131 then lit "I"
  else if c.val = 0x149 then lit "ʼN"
  else if c.val = 0x17f then lit "S"
  else if c.val = 0x1f0 then lit "J̌"
  else if c.val = 0x1e96 then lit "H̱"
  else if c.val = 0x1e97 then lit "T̈"
  else if c.val = 0x1e98 then lit "W̊"
  else if c.val = 0x1e99 then lit "Y̊"
  else if c.val = 0x1e9a then lit "Aʾ"
  else if c.val = 0xfb00 then lit "FF"
  else if c.val = 0xfb01 then lit "FI"
  else if c.val = 0xfb02 then lit "FL"
  else if c.val = 0xfb03 then lit "FFI"
  else if c.val = 0xfb04 then lit "FFL"
  else if c.val = 0xfb05 ∨ c.val = 0xfb06 then lit "ST"
  else [c]

/-- `str.upper()`. -/
def upper (s : Str) : Str := s.flatMap upperPoint

/-! ## Surrogates -/

/-- A code point no UTF-8 text can hold. -/
def isSurrogate (c : CodePoint) : Bool := 0xd800 ≤ c.val && c.val ≤ 0xdfff

/-- `s.encode("utf-8")` succeeds: no lone surrogate occurs. -/
def Encodable (s : Str) : Prop := ∀ c ∈ s, isSurrogate c = false

instance (s : Str) : Decidable (Encodable s) := List.decidableBAll _ s

@[simp]
theorem encodable_nil : Encodable [] := by
  rintro c ⟨⟩

theorem encodable_append {s t : Str} : Encodable (s ++ t) ↔ Encodable s ∧ Encodable t := by
  simp only [Encodable, List.mem_append, or_imp, forall_and]

theorem encodable_cons {c : CodePoint} {s : Str} :
    Encodable (c :: s) ↔ isSurrogate c = false ∧ Encodable s := by
  simp only [Encodable, List.mem_cons, forall_eq_or_imp]

theorem encodable_joinWith {separator : Str} {parts : List Str} (hseparator : Encodable separator)
    (hparts : ∀ part ∈ parts, Encodable part) : Encodable (joinWith separator parts) := by
  intro c hc
  rcases mem_joinWith hc with between | ⟨part, hpart, inside⟩
  · exact hseparator c between
  · exact hparts part hpart c inside

theorem encodable_decimal (n : Nat) : Encodable (decimal n) := by
  intro c hc
  have digit := mem_decimal hc
  simp only [isSurrogate, Bool.and_eq_false_iff, decide_eq_false_iff_not]
  omega

theorem encodable_hexPad (width n : Nat) : Encodable (hexPad width n) := by
  intro c hc
  have hex := mem_hexPad hc
  simp only [isLowerHex, Bool.or_eq_true, Bool.and_eq_true, decide_eq_true_eq] at hex
  simp only [isSurrogate, Bool.and_eq_false_iff, decide_eq_false_iff_not]
  omega

/-- `s.encode("ascii")` succeeds. -/
def Ascii (s : Str) : Prop := ∀ c ∈ s, c.val < 128

instance (s : Str) : Decidable (Ascii s) := List.decidableBAll _ s

/-! ## `repr` -/

/-- The Unicode character database of the running interpreter. -/
class UnicodeDb where
  /-- `str.isprintable` on one code point outside ASCII. -/
  isPrintable : CodePoint → Bool

/-- The code point prints as itself inside a `repr`. -/
def printable [UnicodeDb] (c : CodePoint) : Bool :=
  if c.val < 128 then 32 ≤ c.val && c.val < 127 else UnicodeDb.isPrintable c

/-- How `repr` writes one code point between the given quotes. -/
def reprPoint [UnicodeDb] (quote c : CodePoint) : Str :=
  if c = quote ∨ c = codePoint '\\' then [codePoint '\\', c]
  else if c = codePoint '\t' then lit "\\t"
  else if c = codePoint '\n' then lit "\\n"
  else if c = codePoint '\r' then lit "\\r"
  else if printable c then [c]
  else if c.val < 0x100 then lit "\\x" ++ hexPad 2 c.val
  else if c.val < 0x10000 then lit "\\u" ++ hexPad 4 c.val
  else lit "\\U" ++ hexPad 8 c.val

/-- Python prefers single quotes and takes double ones only when the text holds
a single quote and no double one. -/
def reprQuote (s : Str) : CodePoint :=
  if codePoint '\'' ∈ s ∧ codePoint '"' ∉ s then codePoint '"' else codePoint '\''

/-- `repr(s)`, which an f-string writes as `{s!r}`. -/
def repr [UnicodeDb] (s : Str) : Str :=
  [reprQuote s] ++ s.flatMap (reprPoint (reprQuote s)) ++ [reprQuote s]

end SentinelIR.Py
