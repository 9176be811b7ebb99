/-
# UTC datetimes

Timezone-aware UTC datetimes as Python has them: a calendar date and a time of
day with microseconds, between the years 1 and 9999. Two of them are compared
through the instant they denote, counted in microseconds from the start of the
year 1; a subtraction that would leave the calendar raises `OverflowError`.

`strptime` follows the regular expression Python compiles for the format
`%Y-%m-%dT%H:%M:%SZ`. It is laxer than the format suggests: letters match in
either case, leading zeros may be missing, a day may be padded with a space, and
some positions take any Unicode decimal digit.
-/

import SentinelIR.Py.Str

namespace SentinelIR.Py

/-! ## The calendar -/

/-- The proleptic Gregorian leap-year rule. -/
def isLeap (year : Nat) : Bool :=
  year % 4 == 0 && (year % 100 != 0 || year % 400 == 0)

/-- The number of days of a month. -/
def daysInMonth (year month : Nat) : Nat :=
  if month == 2 then (if isLeap year then 29 else 28)
  else if month == 4 || month == 6 || month == 9 || month == 11 then 30 else 31

/-- The days before January 1st of the year. -/
def daysBeforeYear (year : Nat) : Nat :=
  (year - 1) * 365 + (year - 1) / 4 - (year - 1) / 100 + (year - 1) / 400

/-- The days of the year before the first of the month. -/
def daysBeforeMonth (year month : Nat) : Nat :=
  ((List.range (month - 1)).map fun m => daysInMonth year (m + 1)).sum

/-- The ranges `datetime` checks on construction. -/
def ValidFields (year month day hour minute second microsecond : Nat) : Prop :=
  (1 ≤ year ∧ year ≤ 9999) ∧ (1 ≤ month ∧ month ≤ 12) ∧
    (1 ≤ day ∧ day ≤ daysInMonth year month) ∧ hour < 24 ∧ minute < 60 ∧ second < 60 ∧
      microsecond < 1000000

instance (year month day hour minute second microsecond : Nat) :
    Decidable (ValidFields year month day hour minute second microsecond) :=
  inferInstanceAs (Decidable (_ ∧ _))

/-- An aware UTC `datetime`. -/
structure Datetime where
  year : Nat
  month : Nat
  day : Nat
  hour : Nat
  minute : Nat
  second : Nat
  microsecond : Nat
  /-- The constructor's range checks passed. -/
  valid : ValidFields year month day hour minute second microsecond
  deriving DecidableEq

/-- An instant or a duration, in microseconds; instants count from the year 1. -/
abbrev Micros := Int

/-- `timedelta(minutes=n)`. -/
def minutes (n : Nat) : Micros := (n * 60000000 : Nat)

/-- Minutes and seconds may be written as numerals. -/
instance minute_neZero : NeZero 60 := ⟨by decide⟩

namespace Datetime

/-- The constructor: `none` is its `ValueError`. -/
def mk? (year month day hour minute second : Nat) : Option Datetime :=
  if valid : ValidFields year month day hour minute second 0 then
    some ⟨year, month, day, hour, minute, second, 0, valid⟩
  else none

/-- The instant a datetime denotes. -/
def instant (t : Datetime) : Micros :=
  let days := daysBeforeYear t.year + daysBeforeMonth t.year t.month + (t.day - 1)
  ((((days * 24 + t.hour) * 60 + t.minute) * 60 + t.second) * 1000000 + t.microsecond : Nat)

/-- `t - delta`, as an instant; `none` is the `OverflowError` of a result before
the year 1. -/
def minus (t : Datetime) (delta : Micros) : Option Micros :=
  if delta ≤ t.instant then some (t.instant - delta) else none

theorem minus_of_le {t : Datetime} {delta : Micros} (fits : delta ≤ t.instant) :
    t.minus delta = some (t.instant - delta) := if_pos fits

theorem minus_of_not_le {t : Datetime} {delta : Micros} (early : ¬ delta ≤ t.instant) :
    t.minus delta = none := if_neg early

/-- The datetime with its microseconds dropped. -/
def truncate (t : Datetime) : Datetime :=
  { t with
    microsecond := 0
    valid := by
      obtain ⟨year, month, day, hour, minute, second, -⟩ := t.valid
      exact ⟨year, month, day, hour, minute, second, by decide⟩ }

end Datetime

/-! ## Formatting -/

/-- An ASCII decimal digit. -/
def asciiDigit (d : Nat) : CodePoint := ⟨48 + d % 10, by omega⟩

/-- `%m`, `%d`, `%H`, `%M` and `%S`: two digits. -/
def pad2 (n : Nat) : Str := [asciiDigit (n / 10), asciiDigit n]

/-- `t.strftime("%Y-%m-%dT%H:%M:%SZ")`. The C library does not pad the year. -/
def strftime (t : Datetime) : Str :=
  decimal t.year ++ "-" ++ pad2 t.month ++ "-" ++ pad2 t.day ++ "T" ++ pad2 t.hour ++ ":" ++
    pad2 t.minute ++ ":" ++ pad2 t.second ++ "Z"

/-! ## Parsing -/

/-- The zeros of the Unicode decimal digit blocks (version 14.0). -/
def decimalZeros : List Nat :=
  [0x30, 0x660, 0x6f0, 0x7c0, 0x966, 0x9e6, 0xa66, 0xae6, 0xb66, 0xbe6, 0xc66, 0xce6, 0xd66,
    0xde6, 0xe50, 0xed0, 0xf20, 0x1040, 0x1090, 0x17e0, 0x1810, 0x1946, 0x19d0, 0x1a80, 0x1a90,
    0x1b50, 0x1bb0, 0x1c40, 0x1c50, 0xa620, 0xa8d0, 0xa900, 0xa9d0, 0xa9f0, 0xaa50, 0xabf0,
    0xff10, 0x104a0, 0x10d30, 0x11066, 0x110f0, 0x11136, 0x111d0, 0x112f0, 0x11450, 0x114d0,
    0x11650, 0x116c0, 0x11730, 0x118e0, 0x11950, 0x11c50, 0x11d50, 0x11da0, 0x16a60, 0x16ac0,
    0x16b50, 0x1d7ce, 0x1d7d8, 0x1d7e2, 0x1d7ec, 0x1d7f6, 0x1e140, 0x1e2f0, 0x1e950, 0x1fbf0]

/-- What `\d` matches, with its value. -/
def digitValue (c : CodePoint) : Option Nat :=
  (decimalZeros.find? fun first => first ≤ c.val && c.val < first + 10).map fun first =>
    c.val - first

/-- An ASCII digit between two bounds: the bracket classes of the pattern. -/
def asciiBetween (low high : Nat) (c : CodePoint) : Option Nat :=
  if 48 + low ≤ c.val ∧ c.val ≤ 48 + high then some (c.val - 48) else none

/-- `%Y`: four digits. -/
def yearField : Str → Option Nat
  | [a, b, c, d] => do
      return 1000 * (← digitValue a) + 100 * (← digitValue b) + 10 * (← digitValue c)
        + (← digitValue d)
  | _ => none

/-- `%m`: `1[0-2]|0[1-9]|[1-9]`. -/
def monthField : Str → Option Nat
  | [c] => asciiBetween 1 9 c
  | [a, b] =>
      if a = codePoint '1' then (asciiBetween 0 2 b).map (10 + ·)
      else if a = codePoint '0' then asciiBetween 1 9 b
      else none
  | _ => none

/-- `%d`: `3[0-1]|[1-2]\d|0[1-9]|[1-9]| [1-9]`. -/
def dayField : Str → Option Nat
  | [c] => asciiBetween 1 9 c
  | [a, b] =>
      if a = codePoint '3' then (asciiBetween 0 1 b).map (30 + ·)
      else if a = codePoint '1' then (digitValue b).map (10 + ·)
      else if a = codePoint '2' then (digitValue b).map (20 + ·)
      else if a = codePoint '0' ∨ a = codePoint ' ' then asciiBetween 1 9 b
      else none
  | _ => none

/-- `%H`: `2[0-3]|[0-1]\d|\d`. -/
def hourField : Str → Option Nat
  | [c] => digitValue c
  | [a, b] =>
      if a = codePoint '2' then (asciiBetween 0 3 b).map (20 + ·)
      else do return 10 * (← asciiBetween 0 1 a) + (← digitValue b)
  | _ => none

/-- `%M` and `%S`: `[0-5]\d|\d`. The pattern of `%S` also takes 60 and 61, which
the constructor then refuses. -/
def sixtyField : Str → Option Nat
  | [c] => digitValue c
  | [a, b] => do return 10 * (← asciiBetween 0 5 a) + (← digitValue b)
  | _ => none

/-- Cut a text at the first code point that ends a field. No field holds one, so
the pattern matches exactly when the pieces do. -/
def cutAt (stop : CodePoint → Bool) (s : Str) : Option (Str × Str) :=
  match s.dropWhile fun c => !stop c with
  | [] => none
  | _ :: rest => some (s.takeWhile fun c => !stop c, rest)

/-- The code point is this letter, in either case, or this sign. -/
def isMark (upper lower : Char) (c : CodePoint) : Bool :=
  c == codePoint upper || c == codePoint lower

/-- `datetime.strptime(s, "%Y-%m-%dT%H:%M:%SZ")`; `none` is its `ValueError`. -/
def strptime (s : Str) : Option Datetime := do
  let (year, s) ← cutAt (isMark '-' '-') s
  let (month, s) ← cutAt (isMark '-' '-') s
  let (day, s) ← cutAt (isMark 'T' 't') s
  let (hour, s) ← cutAt (isMark ':' ':') s
  let (minute, s) ← cutAt (isMark ':' ':') s
  let (second, unconverted) ← cutAt (isMark 'Z' 'z') s
  let year ← yearField year
  let month ← monthField month
  let day ← dayField day
  let hour ← hourField hour
  let minute ← sixtyField minute
  let second ← sixtyField second
  if unconverted = [] then Datetime.mk? year month day hour minute second else none

/-! ## Reading back what was formatted -/

/-- Cutting at a mark that the first part does not hold gives the part back. -/
theorem cutAt_append {stop : CodePoint → Bool} {before rest : Str} {mark : CodePoint}
    (clear : ∀ c ∈ before, stop c = false) (found : stop mark = true) :
    cutAt stop (before ++ mark :: rest) = some (before, rest) := by
  have passes : ∀ c ∈ before, (!stop c) = true := fun c hc => by rw [clear c hc]; rfl
  have drop : (before ++ mark :: rest).dropWhile (fun c => !stop c) = mark :: rest := by
    rw [List.dropWhile_append_of_pos passes]
    simp [found]
  have take : (before ++ mark :: rest).takeWhile (fun c => !stop c) = before := by
    rw [List.takeWhile_append_of_pos passes]
    simp [found]
  rw [cutAt, drop, take]

theorem codePoint_digitChar (d : Nat) (small : d < 10) :
    codePoint (Nat.digitChar d) = asciiDigit d := by
  interval_cases d <;> rfl

/-- The last digit comes off the end. -/
theorem decimal_eq (n : Nat) :
    decimal n = (if n < 10 then [] else decimal (n / 10)) ++ [asciiDigit n] := by
  unfold decimal
  rw [Nat.toDigits_eq_if (by omega)]
  split
  · simp [codePoint_digitChar n (by omega)]
  · rw [List.map_append]
    have same : asciiDigit (n % 10) = asciiDigit n := by simp [asciiDigit]
    simp [codePoint_digitChar (n % 10) (Nat.mod_lt _ (by omega)), same]

theorem decimal_year {n : Nat} (low : 1000 ≤ n) (high : n ≤ 9999) :
    decimal n =
      [asciiDigit (n / 1000), asciiDigit (n / 100), asciiDigit (n / 10), asciiDigit n] := by
  rw [decimal_eq n, if_neg (by omega), decimal_eq (n / 10), if_neg (by omega),
    decimal_eq (n / 10 / 10), if_neg (by omega), decimal_eq (n / 10 / 10 / 10), if_pos (by omega)]
  simp [Nat.div_div_eq_div_mul]

theorem digitValue_asciiDigit (d : Nat) : digitValue (asciiDigit d) = some (d % 10) := by
  have small : d % 10 < 10 := Nat.mod_lt d (by omega)
  have same : asciiDigit d = asciiDigit (d % 10) := by simp [asciiDigit]
  rw [same]
  generalize d % 10 = r at small
  interval_cases r <;> decide

theorem yearField_decimal {n : Nat} (low : 1000 ≤ n) (high : n ≤ 9999) :
    yearField (decimal n) = some n := by
  rw [decimal_year low high]
  simp only [yearField, digitValue_asciiDigit, bind, Option.bind, pure]
  congr 1
  omega

theorem monthField_pad2 {n : Nat} (range : 1 ≤ n ∧ n ≤ 12) : monthField (pad2 n) = some n := by
  obtain ⟨low, high⟩ := range
  interval_cases n <;> decide

theorem dayField_pad2 {n : Nat} (low : 1 ≤ n) (high : n ≤ 31) : dayField (pad2 n) = some n := by
  interval_cases n <;> decide

theorem hourField_pad2 {n : Nat} (high : n < 24) : hourField (pad2 n) = some n := by
  interval_cases n <;> decide

theorem sixtyField_pad2 {n : Nat} (high : n < 60) : sixtyField (pad2 n) = some n := by
  interval_cases n <;> decide

theorem daysInMonth_le (year month : Nat) : daysInMonth year month ≤ 31 := by
  unfold daysInMonth
  split
  · split <;> omega
  · split <;> omega

/-- A mark that is no digit is not in a padded number. -/
theorem pad2_clear {stop : CodePoint → Bool} (clear : ∀ d, stop (asciiDigit d) = false) (n : Nat) :
    ∀ c ∈ pad2 n, stop c = false := by
  intro c hc
  rcases List.mem_cons.mp hc with rfl | hc
  · exact clear _
  · rw [List.mem_singleton.mp hc]
    exact clear _

theorem isMark_asciiDigit (first second : Char)
    (noDigit : ∀ d < 10, isMark first second (asciiDigit d) = false) (d : Nat) :
    isMark first second (asciiDigit d) = false := by
  have same : asciiDigit d = asciiDigit (d % 10) := by simp [asciiDigit]
  rw [same]
  exact noDigit _ (Nat.mod_lt d (by omega))

/-- Reading a formatted moment back gives it without its microseconds. -/
theorem strptime_strftime {t : Datetime} (modern : 1000 ≤ t.year) :
    strptime (strftime t) = some t.truncate := by
  obtain ⟨⟨-, year⟩, month, ⟨firstDay, lastDay⟩, hour, minute, second, -⟩ := t.valid
  have dash := isMark_asciiDigit '-' '-' (by decide)
  have colon := isMark_asciiDigit ':' ':' (by decide)
  have tee := isMark_asciiDigit 'T' 't' (by decide)
  have zed := isMark_asciiDigit 'Z' 'z' (by decide)
  have yearClear : ∀ c ∈ decimal t.year, isMark '-' '-' c = false := by
    rw [decimal_year modern year]
    intro c hc
    simp only [List.mem_cons, List.not_mem_nil, or_false] at hc
    rcases hc with rfl | rfl | rfl | rfl <;> exact dash _
  have shape : strftime t = decimal t.year ++ codePoint '-' :: (pad2 t.month ++ codePoint '-' ::
      (pad2 t.day ++ codePoint 'T' :: (pad2 t.hour ++ codePoint ':' :: (pad2 t.minute ++
        codePoint ':' :: (pad2 t.second ++ codePoint 'Z' :: []))))) := by
    simp [strftime, lit]
  have built : Datetime.mk? t.year t.month t.day t.hour t.minute t.second = some t.truncate :=
    dif_pos t.truncate.valid
  rw [shape, strptime, cutAt_append yearClear (by decide)]
  simp only [bind, Option.bind,
    cutAt_append (pad2_clear dash _) (show isMark '-' '-' (codePoint '-') = true by decide),
    cutAt_append (pad2_clear tee _) (show isMark 'T' 't' (codePoint 'T') = true by decide),
    cutAt_append (pad2_clear colon _) (show isMark ':' ':' (codePoint ':') = true by decide),
    cutAt_append (pad2_clear zed _) (show isMark 'Z' 'z' (codePoint 'Z') = true by decide),
    yearField_decimal modern year, monthField_pad2 month,
    dayField_pad2 firstDay (lastDay.trans (daysInMonth_le _ _)), hourField_pad2 hour,
    sixtyField_pad2 minute, sixtyField_pad2 second, if_true, built]

end SentinelIR.Py
