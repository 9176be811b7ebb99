/-
# What `json.dumps` writes, `json.loads` reads

Every value is read back from its text, whatever stands after it, except that two
surrogates side by side in a string come back as the one code point they encode.
That loss is a function of its own, `fuse`, so that a text without such a pair is
read back unchanged.
-/

import SentinelIR.Py.Json
import SentinelIR.Py.Datetime

namespace SentinelIR.Py

/-! ## Escapes -/

/-- The text as it is read back: a high surrogate joins a low one after it. -/
def fuse : Str → Str
  | [] => []
  | [c] => [c]
  | c :: d :: rest =>
      if isHigh c.val && isLow d.val then joinPair c.val d.val :: fuse rest
      else c :: fuse (d :: rest)

/-- No high surrogate stands directly before a low one. -/
def Unpaired (s : Str) : Prop := s.IsChain fun c d => (isHigh c.val && isLow d.val) = false

instance (s : Str) : Decidable (Unpaired s) :=
  inferInstanceAs (Decidable (s.IsChain _))

theorem fuse_of_unpaired {s : Str} (unpaired : Unpaired s) : fuse s = s := by
  induction s using fuse.induct with
  | case1 => rfl
  | case2 c => rfl
  | case3 c d rest paired ih =>
      have apart := (List.isChain_cons_cons.mp unpaired).1
      simp [paired] at apart
  | case4 c d rest apart ih =>
      rw [fuse, if_neg apart, ih (List.isChain_cons_cons.mp unpaired).2]

theorem joinPair_val {high low : Nat} (hhigh : isHigh high = true) (hlow : isLow low = true) :
    (joinPair high low).val = 0x10000 + (high - 0xd800) * 0x400 + (low - 0xdc00) := by
  simp only [isHigh, isLow, Bool.and_eq_true, decide_eq_true_eq] at hhigh hlow
  simp only [joinPair, chr]
  omega

/-- What a text loses is visible: a joined pair lies beyond the basic plane. -/
theorem unpaired_of_fuse {s : Str} (basic : ∀ c ∈ fuse s, c.val < 0x10000) : Unpaired s := by
  induction s using fuse.induct with
  | case1 => exact .nil
  | case2 c => exact .singleton c
  | case3 c d rest paired ih =>
      have joined := basic (joinPair c.val d.val) (by simp [fuse, paired])
      rw [Bool.and_eq_true] at paired
      rw [joinPair_val paired.1 paired.2] at joined
      omega
  | case4 c d rest apart ih =>
      refine List.isChain_cons_cons.mpr ⟨by simpa using apart, ih fun e he => basic e ?_⟩
      rw [fuse, if_neg apart]
      exact List.mem_cons_of_mem c he

/-- Only surrogates are ever joined. -/
theorem unpaired_of_encodable {s : Str} (encodable : Encodable s) : Unpaired s := by
  induction s using fuse.induct with
  | case1 => exact .nil
  | case2 c => exact .singleton c
  | case3 c d rest paired ih =>
      have clear := encodable c List.mem_cons_self
      simp only [isHigh, isLow, isSurrogate, Bool.and_eq_true, Bool.and_eq_false_iff,
        decide_eq_true_eq, decide_eq_false_iff_not] at paired clear
      omega
  | case4 c d rest apart ih =>
      exact List.isChain_cons_cons.mpr
        ⟨by simpa using apart, ih fun e he => encodable e (List.mem_cons_of_mem c he)⟩

theorem encodable_of_ascii {s : Str} (ascii : Ascii s) : Encodable s := by
  intro c hc
  have small := ascii c hc
  simp only [isSurrogate, Bool.and_eq_false_iff, decide_eq_false_iff_not]
  omega

/-- A word of ASCII is read back from itself alone. -/
theorem fuse_eq_iff {s word : Str} (ascii : Ascii word) : fuse s = word ↔ s = word := by
  constructor
  · rintro rfl
    have unpaired : Unpaired s := unpaired_of_fuse fun c hc => (ascii c hc).trans (by norm_num)
    exact (fuse_of_unpaired unpaired).symm
  · rintro rfl
    exact fuse_of_unpaired (unpaired_of_encodable (encodable_of_ascii ascii))

/-- The pieces a code point is read back as. -/
def piecesOf (c : CodePoint) : List Piece :=
  if (32 ≤ c.val ∧ c.val ≤ 126) ∨ (8 ≤ c.val ∧ c.val ≤ 13 ∧ c.val ≠ 11) then [.raw c]
  else if c.val < 0x10000 then [.escape c.val]
  else [.escape (0xd800 + (c.val - 0x10000) / 0x400),
    .escape (0xdc00 + (c.val - 0x10000) % 0x400)]

theorem hexValue_hexDigit (d : Fin 16) : hexValue (hexDigit d) = some d.val := by
  revert d
  decide

/-- Four digits hold sixteen bits. -/
theorem hexPad_four (n : Nat) :
    hexPad 4 n = [hexDigit ⟨n / 16 / 16 / 16 % 16, Nat.mod_lt _ (by norm_num)⟩,
      hexDigit ⟨n / 16 / 16 % 16, Nat.mod_lt _ (by norm_num)⟩,
      hexDigit ⟨n / 16 % 16, Nat.mod_lt _ (by norm_num)⟩,
      hexDigit ⟨n % 16, Nat.mod_lt _ (by norm_num)⟩] := rfl

/-- A numeric escape is read back as its unit. -/
theorem scanPieces_unit {n : Nat} (small : n < 0x10000) (rest : Str) :
    scanPieces (lit "\\u" ++ hexPad 4 n ++ rest) = (scanPieces rest).then (.escape n :: ·) := by
  have backslash : lit "\\u" = [codePoint '\\', codePoint 'u'] := rfl
  have four : hexFour (hexDigit ⟨n / 16 / 16 / 16 % 16, Nat.mod_lt _ (by norm_num)⟩)
      (hexDigit ⟨n / 16 / 16 % 16, Nat.mod_lt _ (by norm_num)⟩)
      (hexDigit ⟨n / 16 % 16, Nat.mod_lt _ (by norm_num)⟩)
      (hexDigit ⟨n % 16, Nat.mod_lt _ (by norm_num)⟩) = some n := by
    simp only [hexFour, hexValue_hexDigit, Option.bind_eq_bind, Option.bind_some, Option.pure_def,
      Option.some.injEq]
    omega
  rw [backslash, hexPad_four]
  simp only [List.cons_append, List.nil_append, scanPieces, if_true, four]
  rw [if_neg (by decide)]

theorem scanPieces_escape {e : CodePoint} (letter : e ≠ codePoint 'u') (rest : Str) :
    scanPieces (codePoint '\\' :: e :: rest) =
      match shortEscape e with
      | some d => (scanPieces rest).then (.raw d :: ·)
      | none => .error .decode := by
  rw [scanPieces.eq_def]
  dsimp only
  rw [if_neg (by decide), if_pos rfl]
  exact if_neg letter

/-- A short escape is read back as its code point. -/
theorem scanPieces_short {e : Char} {d : CodePoint} (short : shortEscape (codePoint e) = some d)
    (letter : codePoint e ≠ codePoint 'u') (rest : Str) :
    scanPieces (codePoint '\\' :: codePoint e :: rest) = (scanPieces rest).then (.raw d :: ·) := by
  rw [scanPieces_escape letter, short]

/-- A printable code point other than the two marks stands for itself. -/
theorem scanPieces_raw {c : CodePoint} (visible : 32 ≤ c.val) (quote : c ≠ codePoint '"')
    (backslash : c ≠ codePoint '\\') (rest : Str) :
    scanPieces (c :: rest) = (scanPieces rest).then (.raw c :: ·) := by
  rw [scanPieces.eq_def]
  dsimp only
  rw [if_neg quote, if_neg backslash, if_neg (by omega)]

theorem piecesOf_plain {c : CodePoint}
    (plain : (32 ≤ c.val ∧ c.val ≤ 126) ∨ (8 ≤ c.val ∧ c.val ≤ 13 ∧ c.val ≠ 11)) :
    piecesOf c = [.raw c] := if_pos plain

@[simp]
theorem Scan.then_then {α β γ : Type} (found : Scan α) (first : α → β) (second : β → γ) :
    (found.then first).then second = found.then fun item => second (first item) := by
  cases found <;> rfl

/-- Each code point is read back as its pieces. -/
theorem scanPieces_escapePoint (c : CodePoint) (rest : Str) :
    scanPieces (escapePoint c ++ rest) = (scanPieces rest).then (piecesOf c ++ ·) := by
  have point {n : Nat} (h : n < 0x110000) (hc : c.val = n) : c = ⟨n, h⟩ := Fin.ext hc
  unfold escapePoint
  split_ifs with quote backslash line carriage tab form back visible small
  · subst quote
    exact scanPieces_short (e := '"') rfl (by decide) rest
  · subst backslash
    exact scanPieces_short (e := '\\') rfl (by decide) rest
  · obtain rfl := point (by norm_num) line
    exact scanPieces_short (e := 'n') rfl (by decide) rest
  · obtain rfl := point (by norm_num) carriage
    exact scanPieces_short (e := 'r') rfl (by decide) rest
  · obtain rfl := point (by norm_num) tab
    exact scanPieces_short (e := 't') rfl (by decide) rest
  · obtain rfl := point (by norm_num) form
    exact scanPieces_short (e := 'f') rfl (by decide) rest
  · obtain rfl := point (by norm_num) back
    exact scanPieces_short (e := 'b') rfl (by decide) rest
  · rw [piecesOf_plain (.inl visible)]
    exact scanPieces_raw visible.1 quote backslash rest
  · rw [piecesOf, if_neg (by omega), if_pos small, scanPieces_unit small]
    rfl
  · have bound := c.isLt
    rw [piecesOf, if_neg (by omega), if_neg small, List.append_assoc, List.append_assoc,
      ← List.append_assoc, scanPieces_unit (by omega), scanPieces_unit (by omega), Scan.then_then]
    rfl

/-- A text is read back as the pieces of its code points, to its closing quote. -/
theorem scanPieces_flatMap (s rest : Str) :
    scanPieces (s.flatMap escapePoint ++ codePoint '"' :: rest) =
      .ok (s.flatMap piecesOf, rest) := by
  induction s with
  | nil =>
      rw [scanPieces.eq_def]
      rfl
  | cons c s ih =>
      rw [List.flatMap_cons, List.append_assoc, scanPieces_escapePoint, ih]
      rfl

/-! ## Surrogate pairs -/

theorem chr_val (c : CodePoint) : chr c.val = c := Fin.ext (Nat.mod_eq_of_lt c.isLt)

theorem pairUp_raw (c : CodePoint) (pieces : List Piece) :
    pairUp (.raw c :: pieces) = c :: pairUp pieces := by
  rw [pairUp]

/-- A unit that no low surrogate follows stands alone. -/
theorem pairUp_alone {unit : Nat} {pieces : List Piece}
    (alone : ∀ next rest, pieces = .escape next :: rest → (isHigh unit && isLow next) = false) :
    pairUp (.escape unit :: pieces) = chr unit :: pairUp pieces := by
  cases pieces with
  | nil => rw [pairUp, pairUp]
  | cons piece rest =>
      cases piece with
      | raw c => rw [pairUp, pairUp]
      | escape next =>
          have apart := alone next rest rfl
          rw [pairUp, if_neg (by simp [apart])]

/-- A pair of escapes is read back as the code point it was written for. -/
theorem pairUp_pair {c : CodePoint} (high : 0x10000 ≤ c.val) (pieces : List Piece) :
    pairUp (.escape (0xd800 + (c.val - 0x10000) / 0x400) ::
      .escape (0xdc00 + (c.val - 0x10000) % 0x400) :: pieces) = c :: pairUp pieces := by
  have bound := c.isLt
  have first : isHigh (0xd800 + (c.val - 0x10000) / 0x400) = true := by
    simp only [isHigh, Bool.and_eq_true, decide_eq_true_eq]
    omega
  have second : isLow (0xdc00 + (c.val - 0x10000) % 0x400) = true := by
    simp only [isLow, Bool.and_eq_true, decide_eq_true_eq]
    omega
  have joined : joinPair (0xd800 + (c.val - 0x10000) / 0x400)
      (0xdc00 + (c.val - 0x10000) % 0x400) = c := by
    apply Fin.ext
    rw [joinPair_val first second]
    omega
  rw [pairUp, if_pos (Bool.and_eq_true_iff.mpr ⟨first, second⟩), joined]

/-- Unless it is a high surrogate, a code point is read back whatever follows. -/
theorem pairUp_piecesOf {c : CodePoint} (low : isHigh c.val = false) (pieces : List Piece) :
    pairUp (piecesOf c ++ pieces) = c :: pairUp pieces := by
  unfold piecesOf
  split_ifs with plain small
  · exact pairUp_raw c pieces
  · refine (pairUp_alone fun next rest _ => ?_).trans (by rw [chr_val]; rfl)
    rw [low, Bool.false_and]
  · exact pairUp_pair (by omega) pieces

/-- A surrogate is read back from one escape. -/
theorem piecesOf_surrogate {c : CodePoint} (surrogate : isHigh c.val = true ∨ isLow c.val = true) :
    piecesOf c = [.escape c.val] := by
  simp only [isHigh, isLow, Bool.and_eq_true, decide_eq_true_eq] at surrogate
  rw [piecesOf, if_neg (by omega), if_pos (by omega)]

/-- Only the first piece of a low surrogate is a low unit. -/
theorem isLow_of_piecesOf {c : CodePoint} {unit : Nat} {rest pieces : List Piece}
    (starts : piecesOf c ++ pieces = .escape unit :: rest) (low : isLow unit = true) :
    isLow c.val = true := by
  have bound := c.isLt
  unfold piecesOf at starts
  split_ifs at starts with plain small
  · cases starts
  · cases starts
    exact low
  · cases starts
    simp only [isLow, Bool.and_eq_true, decide_eq_true_eq] at low
    omega

/-- What a text is read back as. -/
theorem pairUp_flatMap (s : Str) : pairUp (s.flatMap piecesOf) = fuse s := by
  induction s using fuse.induct with
  | case1 => rw [List.flatMap_nil, pairUp, fuse]
  | case2 c =>
      rw [List.flatMap_cons, List.flatMap_nil, fuse]
      cases high : isHigh c.val with
      | false => rw [pairUp_piecesOf high, pairUp]
      | true => rw [piecesOf_surrogate (.inl high), List.append_nil, pairUp, chr_val]
  | case3 c d rest paired ih =>
      have both := Bool.and_eq_true_iff.mp paired
      rw [List.flatMap_cons, List.flatMap_cons, piecesOf_surrogate (.inl both.1),
        piecesOf_surrogate (.inr both.2), List.singleton_append, List.singleton_append, pairUp,
        if_pos paired, ih, fuse, if_pos paired]
  | case4 c d rest apart ih =>
      rw [fuse, if_neg apart, ← ih, List.flatMap_cons]
      cases high : isHigh c.val with
      | false => exact pairUp_piecesOf high _
      | true =>
          rw [piecesOf_surrogate (.inl high), List.singleton_append]
          refine (pairUp_alone fun next later starts => ?_).trans (by rw [chr_val])
          rw [List.flatMap_cons] at starts
          by_contra joined
          rw [Bool.not_eq_false, Bool.and_eq_true] at joined
          have low := isLow_of_piecesOf starts joined.2
          exact apart (by rw [high, low]; rfl)

/-- A string is read back to its closing quote. -/
theorem scanString_dumpsStr (s rest : Str) :
    scanString (s.flatMap escapePoint ++ codePoint '"' :: rest) = .ok (fuse s, rest) := by
  rw [scanString, scanPieces_flatMap, ← pairUp_flatMap]
  rfl

/-! ## Numbers -/

/-- Nothing that could go on a number stands at the front. -/
def EndsNumber (rest : Str) : Prop :=
  ∀ c ∈ rest.head?, isDigit c = false ∧ c ≠ codePoint '.' ∧ c ≠ codePoint 'e' ∧ c ≠ codePoint 'E'

theorem takeWhile_digits {digits rest : Str} (all : ∀ c ∈ digits, isDigit c = true)
    (stops : ∀ c ∈ rest.head?, isDigit c = false) :
    (digits ++ rest).takeWhile isDigit = digits ∧ (digits ++ rest).dropWhile isDigit = rest := by
  have front : rest.takeWhile isDigit = [] ∧ rest.dropWhile isDigit = rest := by
    cases rest with
    | nil => exact ⟨rfl, rfl⟩
    | cons c rest =>
        have stop : isDigit c = false := stops c rfl
        simp [stop]
  rw [List.takeWhile_append_of_pos all, List.dropWhile_append_of_pos all, front.1, front.2,
    List.append_nil]
  exact ⟨rfl, rfl⟩

theorem isDigit_of_mem_decimal {n : Nat} {c : CodePoint} (hc : c ∈ decimal n) :
    isDigit c = true := by
  have range := mem_decimal hc
  simp [isDigit, range]

theorem digitsValue_append (digits : Str) (c : CodePoint) :
    digitsValue (digits ++ [c]) = digitsValue digits * 10 + (c.val - 48) := by
  simp [digitsValue]

/-- The digits of a number are read back as the number. -/
theorem digitsValue_decimal (n : Nat) : digitsValue (decimal n) = n := by
  induction n using Nat.strong_induction_on with
  | _ n ih =>
      rw [decimal_eq, digitsValue_append]
      have digit : (asciiDigit n).val - 48 = n % 10 := by simp [asciiDigit]
      rw [digit]
      split
      case isTrue small => simpa [digitsValue] using small
      case isFalse large =>
          rw [ih (n / 10) (by omega)]
          omega

/-- Only zero is written with a leading zero. -/
theorem decimal_of_head {n : Nat} {rest : Str} (zero : decimal n = codePoint '0' :: rest) :
    rest = [] := by
  induction n using Nat.strong_induction_on generalizing rest with
  | _ n ih =>
      rw [decimal_eq] at zero
      split at zero
      case isTrue small => exact (List.cons.inj zero).2.symm
      case isFalse large =>
          cases front : decimal (n / 10) with
          | nil => exact absurd front (decimal_ne_nil _)
          | cons c tail =>
              rw [front, List.cons_append, List.cons.injEq] at zero
              obtain ⟨rfl, -⟩ := zero
              obtain rfl := ih (n / 10) (by omega) front
              have value := digitsValue_decimal (n / 10)
              rw [front] at value
              have none : digitsValue [codePoint '0'] = 0 := by decide
              omega

/-- The fraction and the exponent of a number that has neither. -/
theorem scanFraction_none {rest : Str} (ends : EndsNumber rest) :
    scanFraction rest = ([], rest) := by
  cases rest with
  | nil => rfl
  | cons c rest => rw [scanFraction, if_neg fun h => (ends c rfl).2.1 h.1]

theorem scanExponent_none {rest : Str}
    (stops : ∀ c ∈ rest.head?, c ≠ codePoint 'e' ∧ c ≠ codePoint 'E') :
    scanExponent rest = ([], rest) := by
  cases rest with
  | nil => rfl
  | cons c rest =>
      rw [scanExponent, if_neg]
      rintro ⟨letter | letter, -⟩
      · exact (stops c rfl).1 letter
      · exact (stops c rfl).2 letter

/-- The digits before the point are read back, whatever follows them. -/
theorem scanUnsigned_decimal (negative : Bool) (n : Nat) {rest : Str}
    (stops : ∀ c ∈ rest.head?, isDigit c = false) :
    scanUnsigned negative (decimal n ++ rest) =
      (let fraction := scanFraction rest
      let exponent := scanExponent fraction.2
      if fraction.1 = [] ∧ exponent.1 = [] then
        if 4300 < (decimal n).length then .error .value
        else .ok (.int (if negative then -(n : Int) else n), rest)
      else
        .ok (.float ((if negative then [codePoint '-'] else []) ++ decimal n ++ fraction.1 ++
          exponent.1), exponent.2)) := by
  have all : ∀ c ∈ decimal n, isDigit c = true := fun c hc => isDigit_of_mem_decimal hc
  rw [scanUnsigned, (takeWhile_digits all stops).1]
  cases front : decimal n with
  | nil => exact absurd front (decimal_ne_nil n)
  | cons first tail =>
      have whole : (if first = codePoint '0' then [first] else first :: tail) = first :: tail := by
        split
        case isTrue zero =>
            subst zero
            rw [decimal_of_head front]
        case isFalse => rfl
      have value : digitsValue (first :: tail) = n := by rw [← front, digitsValue_decimal]
      dsimp only
      rw [whole, value, List.drop_left]

theorem endsNumber_cons {c : CodePoint} (rest : Str)
    (ends : isDigit c = false ∧ c ≠ codePoint '.' ∧ c ≠ codePoint 'e' ∧ c ≠ codePoint 'E') :
    EndsNumber (c :: rest) := by
  rintro d ⟨⟩
  exact ends

theorem endsNumber_nil : EndsNumber [] := by
  rintro c ⟨⟩

/-- An integer is read back. -/
theorem scanUnsigned_int {negative : Bool} {n : Nat} (written : (decimal n).length ≤ 4300)
    {rest : Str} (ends : EndsNumber rest) :
    scanUnsigned negative (decimal n ++ rest) =
      .ok (.int (if negative then -(n : Int) else n), rest) := by
  have fraction := scanFraction_none ends
  have exponent := scanExponent_none fun c hc => (ends c hc).2.2
  rw [scanUnsigned_decimal negative n fun c hc => (ends c hc).1]
  simp only [fraction, exponent, and_self, if_true]
  rw [if_neg (by omega)]

/-- A fraction is read back before anything that is neither a digit nor a point. -/
theorem scanFraction_point (text : FloatText) {rest : Str}
    (stops : ∀ c ∈ rest.head?, isDigit c = false ∧ c ≠ codePoint '.') :
    scanFraction (text.point ++ rest) = (text.point, rest) := by
  rw [FloatText.point]
  split
  case isTrue =>
      cases rest with
      | nil => rfl
      | cons c rest => exact if_neg fun h => (stops c rfl).2 h.1
  case isFalse some =>
      obtain ⟨digits, after⟩ := takeWhile_digits text.fraction_digits fun c hc => (stops c hc).1
      rw [List.cons_append, scanFraction, digits, after, if_pos ⟨rfl, some⟩]

/-- An exponent is read back before anything that is no digit. -/
theorem scanExponent_power (text : FloatText) {rest : Str} (ends : EndsNumber rest) :
    scanExponent (text.power ++ rest) = (text.power, rest) := by
  rw [FloatText.power]
  have digits := text.exponent_digits
  cases held : text.exponent with
  | none => exact scanExponent_none fun c hc => (ends c hc).2.2
  | some power =>
      obtain ⟨negative, exponent⟩ := power
      obtain ⟨nonempty, all⟩ := digits _ held
      obtain ⟨same, after⟩ := takeWhile_digits all fun c hc => (ends c hc).1
      have signed : ((codePoint (if negative then '-' else '+') :: (exponent ++ rest)).takeWhile
          fun d => d = codePoint '+' ∨ d = codePoint '-').take 1 =
            [codePoint (if negative then '-' else '+')] := by
        cases negative <;> simp
      simp only [List.cons_append, scanExponent, signed, List.length_singleton, List.drop_one,
        List.tail_cons, same, after]
      rw [if_pos ⟨.inl trivial, nonempty⟩]
      rfl

theorem power_stops (text : FloatText) {rest : Str} (ends : EndsNumber rest) :
    ∀ c ∈ (text.power ++ rest).head?, isDigit c = false ∧ c ≠ codePoint '.' := by
  rw [FloatText.power]
  cases text.exponent with
  | none => exact fun c hc => ⟨(ends c hc).1, (ends c hc).2.1⟩
  | some power =>
      rintro c ⟨⟩
      decide

theorem point_stops (text : FloatText) {rest : Str} (ends : EndsNumber rest) :
    ∀ c ∈ (text.point ++ (text.power ++ rest)).head?, isDigit c = false := by
  rw [FloatText.point]
  split
  case isTrue => exact fun c hc => (power_stops text ends c hc).1
  case isFalse =>
      rintro c ⟨⟩
      decide

/-- A float is read back as its text. -/
theorem scanUnsigned_float (text : FloatText) {rest : Str} (ends : EndsNumber rest) :
    scanUnsigned text.negative (decimal text.whole ++ (text.point ++ (text.power ++ rest))) =
      .ok (.float text.text, rest) := by
  have fraction := scanFraction_point text (power_stops text ends)
  have exponent := scanExponent_power text ends
  have present : ¬ (text.point = [] ∧ text.power = []) := by
    rintro ⟨noFraction, noExponent⟩
    rcases text.float with written | written
    · simp [FloatText.point, written] at noFraction
    · obtain ⟨power, held⟩ := Option.isSome_iff_exists.mp written
      simp [FloatText.power, held] at noExponent
  rw [scanUnsigned_decimal text.negative text.whole (point_stops text ends)]
  simp only [fraction, exponent]
  rw [if_neg present, FloatText.text]
  simp only [List.append_assoc]

/-! ## Words -/

/-- No word that stands for a value starts like a number. -/
theorem scanConstant_number {c : CodePoint} {rest : Str}
    (number : isDigit c = true ∨ c = codePoint '-' ∧ ∀ d ∈ rest.head?, isDigit d = true) :
    scanConstant (c :: rest) = none := by
  have words : ∀ word ∈ constants, (∀ d ∈ word.1.head?, isDigit d = false) ∧
      (word.1.head? = some (codePoint '-') → word.1.tail.head? = some (codePoint 'I')) := by
    intro word hword
    simp only [constants, List.mem_cons, List.not_mem_nil, or_false] at hword
    rcases hword with rfl | rfl | rfl | rfl | rfl | rfl <;>
      exact ⟨by rintro d ⟨⟩; decide, by decide⟩
  rw [scanConstant, Option.map_eq_none_iff, List.find?_eq_none]
  intro word hword starts
  obtain ⟨noDigit, negative⟩ := words word hword
  have nonempty : word.1 ≠ [] := by
    simp only [constants, List.mem_cons, List.not_mem_nil, or_false] at hword
    rcases hword with rfl | rfl | rfl | rfl | rfl | rfl <;> decide
  obtain ⟨tail, text⟩ := List.isPrefixOf_iff_prefix.mp starts
  cases spelled : word.1 with
  | nil => exact nonempty spelled
  | cons first letters =>
      rw [spelled, List.cons_append, List.cons.injEq] at text
      obtain ⟨rfl, text⟩ := text
      rw [spelled] at noDigit negative
      rcases number with digit | ⟨minus, digits⟩
      · exact absurd (noDigit first rfl) (by simp [digit])
      · have letter := negative (by rw [minus]; rfl)
        cases letters with
        | nil => cases letter
        | cons second letters =>
            cases letter
            subst text
            exact absurd (digits _ rfl) (by decide)

/-! ## Values -/

mutual

/-- What a value is read back as. -/
def Value.decoded : Value → Json
  | .null => .null
  | .bool value => .bool value
  | .int value _ => .int value
  | .float text => .float text.text
  | .nan => .float "NaN"
  | .infinity true => .float "-Infinity"
  | .infinity false => .float "Infinity"
  | .str value => .str (fuse value)
  | .list items => .arr (decodedItems items)
  | .dict members => .obj (decodedMembers members)

@[inherit_doc Value.decoded]
def decodedItems : List Value → List Json
  | [] => []
  | item :: rest => item.decoded :: decodedItems rest

@[inherit_doc Value.decoded]
def decodedMembers : List (Str × Value) → List (Str × Json)
  | [] => []
  | (key, value) :: rest => (fuse key, value.decoded) :: decodedMembers rest

end

/-- A text that starts a value: no space and no closing bracket. -/
def StartsValue (s : Str) : Prop :=
  ∃ c rest, s = c :: rest ∧ isJsonSpace c = false ∧ c ≠ codePoint ']'

theorem startsValue_digit {c : CodePoint} (digit : isDigit c = true) (rest : Str) :
    StartsValue (c :: rest) := by
  refine ⟨c, rest, rfl, ?_, ?_⟩
  · simp only [isDigit, Bool.and_eq_true, decide_eq_true_eq] at digit
    simp only [isJsonSpace, Bool.or_eq_false_iff, decide_eq_false_iff_not]
    omega
  · rintro rfl
    exact absurd digit (by decide)

/-- A number starts with a digit. -/
theorem exists_decimal_eq (n : Nat) : ∃ c tail, decimal n = c :: tail ∧ isDigit c = true := by
  obtain ⟨c, tail, front⟩ := List.exists_cons_of_ne_nil (decimal_ne_nil n)
  exact ⟨c, tail, front, isDigit_of_mem_decimal (front ▸ List.mem_cons_self)⟩

theorem startsValue_decimal (n : Nat) (rest : Str) : StartsValue (decimal n ++ rest) := by
  obtain ⟨c, tail, front, digit⟩ := exists_decimal_eq n
  rw [front]
  exact startsValue_digit digit (tail ++ rest)

theorem startsValue_dumps (v : Value) (rest : Str) : StartsValue (v.dumps ++ rest) := by
  cases v with
  | null => exact ⟨_, _, rfl, by decide, by decide⟩
  | bool value => cases value <;> exact ⟨_, _, rfl, by decide, by decide⟩
  | int value written =>
      cases value with
      | ofNat n => exact startsValue_decimal n rest
      | negSucc n => exact ⟨_, _, rfl, by decide, by decide⟩
  | float text =>
      rw [Value.dumps, FloatText.text, List.append_assoc, List.append_assoc]
      cases text.negative with
      | true => exact ⟨_, _, rfl, by decide, by decide⟩
      | false => exact startsValue_decimal _ _
  | nan => exact ⟨_, _, rfl, by decide, by decide⟩
  | infinity negative => cases negative <;> exact ⟨_, _, rfl, by decide, by decide⟩
  | str value => exact ⟨_, _, rfl, by decide, by decide⟩
  | list items => exact ⟨_, _, rfl, by decide, by decide⟩
  | dict members => exact ⟨_, _, rfl, by decide, by decide⟩

theorem skipSpace_of_starts {s : Str} (starts : StartsValue s) : skipSpace s = s := by
  obtain ⟨c, rest, rfl, visible, -⟩ := starts
  exact List.dropWhile_cons_of_neg (by simp [visible])

theorem skipSpace_cons {c : CodePoint} (rest : Str) (visible : isJsonSpace c = false) :
    skipSpace (c :: rest) = c :: rest := List.dropWhile_cons_of_neg (by simp [visible])

theorem skipSpace_space (rest : Str) : skipSpace (codePoint ' ' :: rest) = skipSpace rest := rfl

theorem scanValue_number {fuel : Nat} {c : CodePoint} {rest : Str}
    (number : isDigit c = true ∨ c = codePoint '-' ∧ ∀ d ∈ rest.head?, isDigit d = true) :
    scanValue (fuel + 1) (c :: rest) =
      if c = codePoint '-' then scanUnsigned true rest else scanUnsigned false (c :: rest) := by
  have other {mark : Char} (digit : isDigit (codePoint mark) = false)
      (minus : codePoint mark ≠ codePoint '-') : c ≠ codePoint mark := by
    rintro rfl
    rcases number with found | ⟨found, -⟩
    · simp [digit] at found
    · exact minus found
  rw [scanValue.eq_def]
  dsimp only
  rw [if_neg (other (by decide) (by decide)), if_neg (other (by decide) (by decide)),
    if_neg (other (by decide) (by decide)), scanConstant_number number]

/-- A number is scanned after its sign. -/
theorem scanValue_signed (fuel : Nat) (negative : Bool) (n : Nat) (rest : Str) :
    scanValue (fuel + 1) ((if negative then [codePoint '-'] else []) ++ (decimal n ++ rest)) =
      scanUnsigned negative (decimal n ++ rest) := by
  obtain ⟨c, tail, front, digit⟩ := exists_decimal_eq n
  rw [front]
  cases negative with
  | true =>
      refine (scanValue_number (.inr ⟨rfl, ?_⟩)).trans (if_pos rfl)
      rintro d ⟨⟩
      exact digit
  | false =>
      refine (scanValue_number (.inl digit)).trans (if_neg ?_)
      rintro rfl
      exact absurd digit (by decide)

theorem scanValue_word {fuel : Nat} {word rest : Str} {value : Json} {c : CodePoint} {tail : Str}
    (spelled : word = c :: tail)
    (other : c ≠ codePoint '"' ∧ c ≠ codePoint '{' ∧ c ≠ codePoint '[')
    (found : scanConstant (word ++ rest) = some (value, rest)) :
    scanValue (fuel + 1) (word ++ rest) = .ok (value, rest) := by
  subst spelled
  rw [scanValue.eq_def]
  dsimp only [List.cons_append]
  rw [if_neg other.1, if_neg other.2.1, if_neg other.2.2]
  rw [List.cons_append] at found
  rw [found]

theorem scanValue_str (fuel : Nat) (s rest : Str) :
    scanValue (fuel + 1) (dumpsStr s ++ rest) = .ok (.str (fuse s), rest) := by
  have text : dumpsStr s ++ rest =
      codePoint '"' :: (s.flatMap escapePoint ++ codePoint '"' :: rest) := by
    simp [dumpsStr]
  rw [text, scanValue.eq_def]
  dsimp only
  rw [if_pos rfl, scanString_dumpsStr]
  rfl

/-- An array with items is scanned item by item. -/
theorem scanValue_list {fuel : Nat} {inner : Str} (starts : StartsValue inner) :
    scanValue (fuel + 1) (codePoint '[' :: inner) =
      (scanItems (scanValue fuel) fuel inner).then .arr := by
  have skipped := skipSpace_of_starts starts
  obtain ⟨c, rest, rfl, -, other⟩ := starts
  rw [scanValue.eq_def]
  dsimp only
  rw [if_neg (by decide), if_neg (by decide), if_pos rfl, skipped]
  exact if_neg other

/-- An object with members is scanned member by member. -/
theorem scanValue_dict (fuel : Nat) (inner : Str) :
    scanValue (fuel + 1) (codePoint '{' :: codePoint '"' :: inner) =
      (scanMembers (scanValue fuel) fuel (codePoint '"' :: inner)).then .obj := by
  have skipped := skipSpace_cons (c := codePoint '"') inner (by decide)
  rw [scanValue.eq_def]
  dsimp only
  rw [if_neg (by decide), if_pos rfl, skipped]
  exact if_neg (by decide)

/-- One step of the item scanner. -/
theorem scanItems_cons {value : Str → Scan Json} {fuel : Nat} {s rest : Str} {item : Json}
    {c : CodePoint} (first : value s = .ok (item, c :: rest)) (visible : isJsonSpace c = false) :
    scanItems value (fuel + 1) s =
      if c = codePoint ']' then .ok ([item], rest)
      else if c = codePoint ',' then (scanItems value fuel (skipSpace rest)).then (item :: ·)
      else .error .decode := by
  rw [scanItems.eq_def]
  dsimp only
  rw [first]
  dsimp only
  rw [skipSpace_cons rest visible]

/-- One step of the member scanner. -/
theorem scanMembers_cons {value : Str → Scan Json} {fuel : Nat} {key inner rest : Str} {item : Json}
    {c : CodePoint} (starts : StartsValue inner) (first : value inner = .ok (item, c :: rest))
    (visible : isJsonSpace c = false) :
    scanMembers value (fuel + 1) (dumpsStr key ++ (lit ": " ++ inner)) =
      if c = codePoint '}' then .ok ([(fuse key, item)], rest)
      else if c = codePoint ',' then
        (scanMembers value fuel (skipSpace rest)).then ((fuse key, item) :: ·)
      else .error .decode := by
  have text : dumpsStr key ++ (lit ": " ++ inner) =
      codePoint '"' :: (key.flatMap escapePoint ++
        codePoint '"' :: codePoint ':' :: codePoint ' ' :: inner) := by
    have separator : lit ": " = [codePoint ':', codePoint ' '] := rfl
    simp [dumpsStr, separator]
  rw [text, scanMembers.eq_def]
  dsimp only
  rw [if_pos rfl, scanString_dumpsStr]
  dsimp only
  rw [skipSpace_cons _ (by decide)]
  dsimp only
  rw [if_pos rfl, skipSpace_space, skipSpace_of_starts starts, first]
  dsimp only
  rw [skipSpace_cons rest visible]

theorem startsValue_items (item : Value) (rest : List Value) (after : Str) :
    StartsValue (dumpsItems (item :: rest) ++ after) := by
  cases rest with
  | nil =>
      rw [dumpsItems, List.append_assoc]
      exact startsValue_dumps item _
  | cons next rest =>
      rw [dumpsItems, List.append_assoc]
      exact startsValue_dumps item _

theorem dumpsMembers_cons (member : Str × Value) (rest : List (Str × Value)) :
    ∃ inner, dumpsMembers (member :: rest) = codePoint '"' :: inner := by
  obtain ⟨key, value⟩ := member
  cases rest with
  | nil => exact ⟨_, rfl⟩
  | cons next rest => exact ⟨_, rfl⟩

theorem comma_space (rest : Str) : lit ", " ++ rest = codePoint ',' :: codePoint ' ' :: rest := rfl

/-- The scanner reads this value back, whatever follows it. -/
def Reads (value : Str → Scan Json) (v : Value) : Prop :=
  ∀ rest, EndsNumber rest → value (v.dumps ++ rest) = .ok (v.decoded, rest)

/-- The items of an array are read back to the closing bracket. -/
theorem scanItems_dumps {value : Str → Scan Json} {item : Value} {items : List Value} {steps : Nat}
    (reads : ∀ v ∈ item :: items, Reads value v) (long : (item :: items).length ≤ steps)
    (rest : Str) :
    scanItems value steps (dumpsItems (item :: items) ++ rest) =
      .ok (decodedItems (item :: items), rest) := by
  induction items generalizing item steps with
  | nil =>
      obtain ⟨steps, rfl⟩ : ∃ less, steps = less + 1 := ⟨steps - 1, by grind⟩
      have first := reads item List.mem_cons_self (codePoint ']' :: rest)
        (endsNumber_cons rest (by decide))
      rw [dumpsItems, List.append_assoc]
      apply (scanItems_cons first (by decide)).trans
      rw [if_pos rfl]
      rfl
  | cons next items ih =>
      obtain ⟨steps, rfl⟩ : ∃ less, steps = less + 1 := ⟨steps - 1, by grind⟩
      have first := reads item List.mem_cons_self
        (codePoint ',' :: codePoint ' ' :: (dumpsItems (next :: items) ++ rest))
        (endsNumber_cons _ (by decide))
      have later := ih (fun v hv => reads v (List.mem_cons_of_mem item hv))
        (Nat.le_of_succ_le_succ long)
      rw [dumpsItems, List.append_assoc, List.append_assoc, comma_space]
      apply (scanItems_cons first (by decide)).trans
      rw [if_neg (by decide), if_pos rfl, skipSpace_space,
        skipSpace_of_starts (startsValue_items next items rest), later]
      rfl

/-- The members of an object are read back to the closing brace. -/
theorem scanMembers_dumps {value : Str → Scan Json} {member : Str × Value}
    {members : List (Str × Value)} {steps : Nat}
    (reads : ∀ m ∈ member :: members, Reads value m.2) (long : (member :: members).length ≤ steps)
    (rest : Str) :
    scanMembers value steps (dumpsMembers (member :: members) ++ rest) =
      .ok (decodedMembers (member :: members), rest) := by
  induction members generalizing member steps with
  | nil =>
      obtain ⟨steps, rfl⟩ : ∃ less, steps = less + 1 := ⟨steps - 1, by grind⟩
      obtain ⟨key, v⟩ := member
      have first := reads (key, v) List.mem_cons_self (codePoint '}' :: rest)
        (endsNumber_cons rest (by decide))
      rw [dumpsMembers]
      simp only [List.append_assoc]
      apply (scanMembers_cons (startsValue_dumps v _) first (by decide)).trans
      rw [if_pos rfl]
      rfl
  | cons next members ih =>
      obtain ⟨steps, rfl⟩ : ∃ less, steps = less + 1 := ⟨steps - 1, by grind⟩
      obtain ⟨key, v⟩ := member
      have first := reads (key, v) List.mem_cons_self
        (codePoint ',' :: codePoint ' ' :: (dumpsMembers (next :: members) ++ rest))
        (endsNumber_cons _ (by decide))
      have later := ih (fun m hm => reads m (List.mem_cons_of_mem _ hm))
        (Nat.le_of_succ_le_succ long)
      obtain ⟨inner, text⟩ := dumpsMembers_cons next members
      rw [dumpsMembers]
      simp only [List.append_assoc, comma_space]
      apply (scanMembers_cons (startsValue_dumps v _) first (by decide)).trans
      rw [text, List.cons_append] at later ⊢
      rw [if_neg (by decide), if_pos rfl, skipSpace_space, skipSpace_cons _ (by decide), later]
      rfl

/-- There are no more items than code points, and each is shorter than the whole. -/
theorem dumpsItems_bounds (items : List Value) :
    items.length ≤ (dumpsItems items).length ∧
      ∀ v ∈ items, v.dumps.length < (dumpsItems items).length := by
  induction items with
  | nil => exact ⟨Nat.zero_le _, by rintro v ⟨⟩⟩
  | cons item items ih =>
      cases items with
      | nil =>
          rw [dumpsItems, List.length_append]
          refine ⟨Nat.le_add_left _ _, fun v hv => ?_⟩
          rw [List.mem_singleton.mp hv]
          exact Nat.lt_succ_self _
      | cons next items =>
          rw [dumpsItems, comma_space]
          simp only [List.length_append, List.length_cons] at ih ⊢
          refine ⟨by omega, fun v hv => ?_⟩
          rcases List.mem_cons.mp hv with rfl | later
          · omega
          · have short := ih.2 v later
            omega

@[inherit_doc dumpsItems_bounds]
theorem dumpsMembers_bounds (members : List (Str × Value)) :
    members.length ≤ (dumpsMembers members).length ∧
      ∀ m ∈ members, m.2.dumps.length < (dumpsMembers members).length := by
  induction members with
  | nil => exact ⟨Nat.zero_le _, by rintro m ⟨⟩⟩
  | cons member members ih =>
      obtain ⟨key, value⟩ := member
      cases members with
      | nil =>
          rw [dumpsMembers]
          simp only [List.length_append, List.length_singleton]
          refine ⟨by omega, fun m hm => ?_⟩
          rw [List.mem_singleton.mp hm]
          show value.dumps.length < _
          omega
      | cons next members =>
          rw [dumpsMembers]
          simp only [List.length_append, comma_space, List.length_cons] at ih ⊢
          refine ⟨by omega, fun m hm => ?_⟩
          rcases List.mem_cons.mp hm with rfl | later
          · show value.dumps.length < _
            omega
          · have short := ih.2 m later
            omega

/-- Every value is read back from its text, whatever follows, once there is fuel
for the length of the text. -/
theorem scanValue_dumps {fuel : Nat} {v : Value} (enough : v.dumps.length < fuel) :
    Reads (scanValue fuel) v := by
  induction fuel generalizing v with
  | zero => omega
  | succ fuel ih =>
      intro rest ends
      match v with
      | .null => rw [Value.dumps, Value.decoded]; exact scanValue_word rfl (by decide) rfl
      | .bool true => rw [Value.dumps, Value.decoded]; exact scanValue_word rfl (by decide) rfl
      | .bool false => rw [Value.dumps, Value.decoded]; exact scanValue_word rfl (by decide) rfl
      | .int (.ofNat n) written =>
          rw [Value.dumps, Value.decoded]
          exact (scanValue_signed fuel false n rest).trans (scanUnsigned_int written ends)
      | .int (.negSucc n) written =>
          rw [Value.dumps, Value.decoded]
          exact (scanValue_signed fuel true (n + 1) rest).trans (scanUnsigned_int written ends)
      | .float text =>
          rw [Value.dumps, Value.decoded, FloatText.text, List.append_assoc, List.append_assoc,
            List.append_assoc]
          exact (scanValue_signed fuel text.negative text.whole _).trans
            (scanUnsigned_float text ends)
      | .nan => rw [Value.dumps, Value.decoded]; exact scanValue_word rfl (by decide) rfl
      | .infinity true => rw [Value.dumps, Value.decoded]; exact scanValue_word rfl (by decide) rfl
      | .infinity false => rw [Value.dumps, Value.decoded]; exact scanValue_word rfl (by decide) rfl
      | .str value => rw [Value.dumps, Value.decoded]; exact scanValue_str fuel value rest
      | .list [] => rfl
      | .list (item :: items) =>
          rw [Value.dumps, List.length_cons] at enough
          obtain ⟨long, shorter⟩ := dumpsItems_bounds (item :: items)
          have reads : ∀ v ∈ item :: items, Reads (scanValue fuel) v := by
            intro v hv
            have short := shorter v hv
            exact ih (by omega)
          rw [Value.dumps, Value.decoded, List.cons_append,
            scanValue_list (startsValue_items item items rest), scanItems_dumps reads (by omega)]
          rfl
      | .dict [] => rfl
      | .dict (member :: members) =>
          rw [Value.dumps, List.length_cons] at enough
          obtain ⟨long, shorter⟩ := dumpsMembers_bounds (member :: members)
          have reads : ∀ m ∈ member :: members, Reads (scanValue fuel) m.2 := by
            intro m hm
            have short := shorter m hm
            exact ih (by omega)
          obtain ⟨inner, text⟩ := dumpsMembers_cons member members
          have scanned := scanMembers_dumps reads (show _ ≤ fuel by omega) rest
          rw [text, List.cons_append] at scanned
          rw [Value.dumps, Value.decoded, List.cons_append, text, List.cons_append, scanValue_dict,
            scanned]
          rfl

/-! ## The text as a whole -/

/-- Printable ASCII throughout. -/
def Printable (s : Str) : Prop := ∀ c ∈ s, 32 ≤ c.val ∧ c.val ≤ 126

instance (s : Str) : Decidable (Printable s) := List.decidableBAll _ s

theorem printable_append {s t : Str} : Printable (s ++ t) ↔ Printable s ∧ Printable t :=
  List.forall_mem_append

theorem printable_cons {c : CodePoint} {s : Str} :
    Printable (c :: s) ↔ (32 ≤ c.val ∧ c.val ≤ 126) ∧ Printable s := by
  simp only [Printable, List.mem_cons, forall_eq_or_imp]

theorem printable_hexPad (width n : Nat) : Printable (hexPad width n) := by
  intro c hc
  have hex := mem_hexPad hc
  simp only [isLowerHex, Bool.or_eq_true, Bool.and_eq_true, decide_eq_true_eq] at hex
  omega

theorem printable_escapePoint (c : CodePoint) : Printable (escapePoint c) := by
  unfold escapePoint
  split_ifs with quote backslash line carriage tab form back visible small
  case pos => decide
  case pos => decide
  case pos => decide
  case pos => decide
  case pos => decide
  case pos => decide
  case pos => decide
  case pos => exact printable_cons.mpr ⟨visible, by rintro d ⟨⟩⟩
  case pos => exact printable_append.mpr ⟨by decide, printable_hexPad 4 _⟩
  case neg =>
      exact printable_append.mpr ⟨printable_append.mpr ⟨by decide, printable_hexPad 4 _⟩,
        printable_append.mpr ⟨by decide, printable_hexPad 4 _⟩⟩

theorem printable_dumpsStr (s : Str) : Printable (dumpsStr s) := by
  have inner : Printable (s.flatMap escapePoint) := by
    intro c hc
    obtain ⟨d, -, inside⟩ := List.mem_flatMap.mp hc
    exact printable_escapePoint d c inside
  exact printable_cons.mpr ⟨by decide, printable_append.mpr ⟨inner, by decide⟩⟩

theorem printable_of_digits {s : Str} (digits : ∀ c ∈ s, isDigit c = true) : Printable s := by
  intro c hc
  have digit := digits c hc
  simp only [isDigit, Bool.and_eq_true, decide_eq_true_eq] at digit
  omega

theorem printable_decimal (n : Nat) : Printable (decimal n) :=
  printable_of_digits fun _ hc => isDigit_of_mem_decimal hc

theorem printable_float (text : FloatText) : Printable text.text := by
  have sign : Printable (if text.negative then [codePoint '-'] else []) := by
    split <;> decide
  have point : Printable text.point := by
    rw [FloatText.point]
    split
    case isTrue => decide
    case isFalse => exact printable_cons.mpr ⟨by decide, printable_of_digits text.fraction_digits⟩
  have power : Printable text.power := by
    rw [FloatText.power]
    have digits := text.exponent_digits
    cases held : text.exponent with
    | none => decide
    | some exponent =>
        refine printable_cons.mpr ⟨by decide, printable_cons.mpr ⟨?_, ?_⟩⟩
        · cases exponent.1 <;> decide
        · exact printable_of_digits (digits exponent held).2
  exact printable_append.mpr ⟨sign, printable_append.mpr ⟨printable_decimal _,
    printable_append.mpr ⟨point, power⟩⟩⟩

mutual

/-- `json.dumps` writes printable ASCII, so a line never breaks. -/
theorem printable_dumps (v : Value) : Printable v.dumps := by
  match v with
  | .null => rw [Value.dumps]; decide
  | .bool true => rw [Value.dumps]; decide
  | .bool false => rw [Value.dumps]; decide
  | .int (.ofNat n) written => rw [Value.dumps]; exact printable_decimal n
  | .int (.negSucc n) written =>
      rw [Value.dumps]
      exact printable_cons.mpr ⟨by decide, printable_decimal _⟩
  | .float text => rw [Value.dumps]; exact printable_float text
  | .nan => rw [Value.dumps]; decide
  | .infinity true => rw [Value.dumps]; decide
  | .infinity false => rw [Value.dumps]; decide
  | .str value => rw [Value.dumps]; exact printable_dumpsStr value
  | .list items =>
      rw [Value.dumps]
      exact printable_cons.mpr ⟨by decide, printable_dumpsItems items⟩
  | .dict members =>
      rw [Value.dumps]
      exact printable_cons.mpr ⟨by decide, printable_dumpsMembers members⟩

@[inherit_doc printable_dumps]
theorem printable_dumpsItems (items : List Value) : Printable (dumpsItems items) := by
  match items with
  | [] => decide
  | [item] =>
      rw [dumpsItems]
      exact printable_append.mpr ⟨printable_dumps item, by decide⟩
  | item :: next :: rest =>
      rw [dumpsItems]
      exact printable_append.mpr ⟨printable_dumps item,
        printable_append.mpr ⟨by decide, printable_dumpsItems (next :: rest)⟩⟩

@[inherit_doc printable_dumps]
theorem printable_dumpsMembers (members : List (Str × Value)) :
    Printable (dumpsMembers members) := by
  match members with
  | [] => decide
  | [(key, value)] =>
      rw [dumpsMembers]
      exact printable_append.mpr ⟨printable_dumpsStr key,
        printable_append.mpr ⟨by decide, printable_append.mpr ⟨printable_dumps value, by decide⟩⟩⟩
  | (key, value) :: next :: rest =>
      rw [dumpsMembers]
      exact printable_append.mpr ⟨printable_dumpsStr key,
        printable_append.mpr ⟨by decide, printable_append.mpr ⟨printable_dumps value,
          printable_append.mpr ⟨by decide, printable_dumpsMembers (next :: rest)⟩⟩⟩⟩

end

/-- `json.loads(json.dumps(value))`. -/
theorem loads_dumps (v : Value) : loads v.dumps = .ok v.decoded := by
  have starts := startsValue_dumps v []
  rw [List.append_nil] at starts
  have mark : v.dumps.head? ≠ some ⟨0xfeff, by norm_num⟩ := by
    intro marked
    have visible := printable_dumps v _ (List.mem_of_mem_head? marked)
    exact absurd visible.2 (by decide)
  have scanned := scanValue_dumps (Nat.lt_succ_self v.dumps.length) [] endsNumber_nil
  rw [List.append_nil] at scanned
  rw [loads, if_neg mark, skipSpace_of_starts starts, scanned]
  rfl

end SentinelIR.Py
