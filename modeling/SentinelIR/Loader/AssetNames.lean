/-
# Assets named in messages

The services write an asset's name into a message as Python's `repr`, and the
loader reads it back with a pattern for one quote shape. What comes back is the
text between the first two single quotes after the word `asset`, so it is the
name exactly when `repr` writes the name unchanged between single quotes.
-/

import SentinelIR.Loader.LoadEvents
import SentinelIR.Services.AssetService
import SentinelIR.Services.IncidentService

namespace SentinelIR.Loader

open SentinelIR.Py SentinelIR.Common SentinelIR.Services LoadEvents

/-! ## Reading a name out of a message -/

/-- No place in the text, nor where it ends, can begin the word `asset`. -/
def clearOfAsset : Str → Bool
  | [] => true
  | [c] => c ≠ codePoint 'a'
  | c :: d :: rest => !(c = codePoint 'a' ∧ d = codePoint 's') && clearOfAsset (d :: rest)

theorem assetAt_eq_none_of_head {c : CodePoint} (other : c ≠ codePoint 'a') (s : Str) :
    assetAt (c :: s) = none := by
  have apart : (lit "asset '").isPrefixOf (c :: s) = false := by
    change (codePoint 'a' == c && _) = false
    rw [beq_eq_false_iff_ne.mpr (Ne.symm other), Bool.false_and]
  rw [assetAt, apart]
  rfl

theorem assetAt_eq_none_of_second {c d : CodePoint} (other : d ≠ codePoint 's') (s : Str) :
    assetAt (c :: d :: s) = none := by
  have apart : (lit "asset '").isPrefixOf (c :: d :: s) = false := by
    change (codePoint 'a' == c && (codePoint 's' == d && _)) = false
    rw [beq_eq_false_iff_ne.mpr (Ne.symm other), Bool.false_and, Bool.and_false]
  rw [assetAt, apart]
  rfl

/-- The search passes over a clear text. -/
theorem assetNamedIn_append {p : Str} (clear : clearOfAsset p = true) (s : Str) :
    assetNamedIn (p ++ s) = assetNamedIn s := by
  induction p using clearOfAsset.induct with
  | case1 => rfl
  | case2 c =>
      have other : c ≠ codePoint 'a' := of_decide_eq_true clear
      change assetNamedIn (c :: s) = _
      rw [assetNamedIn, assetAt_eq_none_of_head other]
  | case3 c d rest ih =>
      rw [clearOfAsset, Bool.and_eq_true] at clear
      have none_here : assetAt (c :: d :: (rest ++ s)) = none := by
        have word : c ≠ codePoint 'a' ∨ d ≠ codePoint 's' := by
          simpa using clear.1
        rcases word with first | second
        · exact assetAt_eq_none_of_head first _
        · exact assetAt_eq_none_of_second second _
      change assetNamedIn (c :: d :: (rest ++ s)) = _
      rw [assetNamedIn, none_here]
      exact ih clear.2

theorem clearOfAsset_append {p q : Str} (first : clearOfAsset p = true)
    (second : clearOfAsset q = true) : clearOfAsset (p ++ q) = true := by
  induction p using clearOfAsset.induct with
  | case1 => exact second
  | case2 c =>
      have other : c ≠ codePoint 'a' := of_decide_eq_true first
      cases q with
      | nil => exact first
      | cons d rest =>
          change (!(c = codePoint 'a' ∧ d = codePoint 's') && clearOfAsset (d :: rest)) = true
          simp [other, second]
  | case3 c d rest ih =>
      rw [clearOfAsset, Bool.and_eq_true] at first
      change (!(c = codePoint 'a' ∧ d = codePoint 's') && clearOfAsset (d :: (rest ++ q))) = true
      rw [Bool.and_eq_true]
      exact ⟨first.1, ih first.2⟩

theorem clearOfAsset_of_forall {p : Str} (clear : ∀ c ∈ p, c ≠ codePoint 'a') :
    clearOfAsset p = true := by
  induction p using clearOfAsset.induct with
  | case1 => rfl
  | case2 c => exact decide_eq_true (clear c List.mem_cons_self)
  | case3 c d rest ih =>
      rw [clearOfAsset, ih fun e he => clear e (List.mem_cons_of_mem _ he)]
      simp [clear c List.mem_cons_self]

/-- A name read where the text begins is the name of the text. -/
theorem assetNamedIn_of_found {s name : Str} (found : assetAt s = some name) :
    assetNamedIn s = some name := by
  cases s with
  | nil => cases found
  | cons c rest => rw [assetNamedIn, found]

/-- A quoted text after the word is read as it stands. -/
theorem assetNamedIn_quoted {quoted : Str} (nonempty : quoted ≠ [])
    (unquoted : ∀ c ∈ quoted, c ≠ quoteMark) (tail : Str) :
    assetNamedIn (lit "asset '" ++ (quoted ++ quoteMark :: tail)) = some quoted := by
  obtain ⟨c, rest, rfl⟩ := List.exists_cons_of_ne_nil nonempty
  have passes : ∀ e ∈ c :: rest, decide (e ≠ quoteMark) = true := fun e he =>
    decide_eq_true (unquoted e he)
  have taken : (c :: rest ++ quoteMark :: tail).takeWhile (· ≠ quoteMark) = c :: rest := by
    rw [List.takeWhile_append_of_pos passes]
    simp
  have dropped : (c :: rest ++ quoteMark :: tail).dropWhile (· ≠ quoteMark) =
      quoteMark :: tail := by
    rw [List.dropWhile_append_of_pos passes]
    simp
  have found : assetAt (lit "asset '" ++ (c :: rest ++ quoteMark :: tail)) = some (c :: rest) := by
    have starts : (lit "asset '").isPrefixOf (lit "asset '" ++ (c :: rest ++ quoteMark :: tail)) =
        true := List.isPrefixOf_iff_prefix.mpr (List.prefix_append _ _)
    rw [assetAt, if_pos starts, List.drop_left]
    simp only [taken, dropped]
  exact assetNamedIn_of_found found

/-- What is read holds no single quote. -/
theorem quoteMark_not_mem {s name : Str} (read : assetNamedIn s = some name) :
    quoteMark ∉ name := by
  induction s with
  | nil => cases read
  | cons c rest ih =>
      rw [assetNamedIn] at read
      split at read
      · next found hfound =>
          obtain rfl := Option.some.inj read
          unfold assetAt at hfound
          split at hfound
          · dsimp only at hfound
            split at hfound
            · next taken _ htaken _ =>
                obtain rfl := Option.some.inj hfound
                intro held
                rw [← htaken] at held
                simpa using List.mem_takeWhile_imp held
            · cases hfound
          · cases hfound
      · exact ih read

/-- A number holds no letter. -/
theorem ne_letter_of_mem_decimalInt {n : Int} {c : CodePoint} (hc : c ∈ decimalInt n) :
    c ≠ codePoint 'a' := by
  have digit {m : Nat} (hm : c ∈ decimal m) : c ≠ codePoint 'a' := by
    rintro rfl
    exact absurd (mem_decimal hm) (by decide)
  cases n with
  | ofNat m => exact digit hc
  | negSucc m =>
      rcases List.mem_cons.mp hc with rfl | hm
      · decide
      · exact digit hm

/-! ## What `repr` writes -/

/-- `repr` writes the code point as itself. -/
def PrintsItself [UnicodeDb] (c : CodePoint) : Prop :=
  c ≠ quoteMark ∧ c ≠ codePoint '\\' ∧ printable c = true

section Repr

variable [UnicodeDb]

theorem length_reprPoint_pos (quote c : CodePoint) : 0 < (reprPoint quote c).length := by
  unfold reprPoint
  split_ifs <;> simp [lit]

theorem not_printable_control {c : CodePoint} (control : c.val < 32) : printable c = false := by
  unfold printable
  rw [if_pos (by omega)]
  simp; omega

theorem reprPoint_of_printsItself {c : CodePoint} (plain : PrintsItself c) :
    reprPoint quoteMark c = [c] := by
  obtain ⟨unquoted, unescaped, prints⟩ := plain
  have control (d : CodePoint) (low : d.val < 32) : c ≠ d := by
    rintro rfl
    rw [not_printable_control low] at prints
    cases prints
  rw [reprPoint, if_neg (by simp [unquoted, unescaped]), if_neg (control _ (by decide)),
    if_neg (control _ (by decide)), if_neg (control _ (by decide)), if_pos prints]

theorem length_reprPoint_of_not {c : CodePoint} (escaped : ¬ PrintsItself c) :
    2 ≤ (reprPoint quoteMark c).length := by
  unfold PrintsItself at escaped
  unfold reprPoint
  split_ifs with quoted tab line carriage prints
  · simp
  · simp [lit]
  · simp [lit]
  · simp [lit]
  · rw [not_or] at quoted
    exact absurd ⟨quoted.1, quoted.2, prints⟩ escaped
  all_goals simp [lit]

/-- Escapes hold no quote but that of a quote itself. -/
theorem not_quote_of_mem_reprPoint {c d : CodePoint} (apart : c ≠ quoteMark)
    (hd : d ∈ reprPoint quoteMark c) : d ≠ quoteMark := by
  have hex {width n : Nat} (he : d ∈ hexPad width n) : d ≠ quoteMark := by
    rintro rfl
    exact absurd (mem_hexPad he) (by decide)
  have escape {first second : CodePoint} (hfirst : first ≠ quoteMark) (hsecond : second ≠ quoteMark)
      (he : d ∈ [first, second]) : d ≠ quoteMark := by
    rcases List.mem_cons.mp he with rfl | he
    · exact hfirst
    · rw [List.mem_singleton.mp he]
      exact hsecond
  unfold reprPoint at hd
  split_ifs at hd
  · exact escape (by decide) apart hd
  · exact escape (by decide) (by decide) hd
  · exact escape (by decide) (by decide) hd
  · exact escape (by decide) (by decide) hd
  · rw [List.mem_singleton.mp hd]
    exact apart
  all_goals
    rcases List.mem_append.mp hd with opening | digits
    · exact escape (by decide) (by decide) opening
    · exact hex digits

/-- Escaping a text changes it exactly when something in it is escaped. -/
theorem flatMap_reprPoint_eq_iff (name : Str) :
    name.flatMap (reprPoint quoteMark) = name ↔ ∀ c ∈ name, PrintsItself c := by
  have grows (s : Str) : s.length ≤ (s.flatMap (reprPoint quoteMark)).length := by
    induction s with
    | nil => exact le_rfl
    | cons c s ih =>
        rw [List.flatMap_cons, List.length_append, List.length_cons]
        have := length_reprPoint_pos quoteMark c
        omega
  induction name with
  | nil => simp
  | cons c name ih =>
      rw [List.flatMap_cons, List.forall_mem_cons]
      constructor
      · intro same
        by_cases plain : PrintsItself c
        · rw [reprPoint_of_printsItself plain] at same
          exact ⟨plain, ih.mp (List.cons.inj same).2⟩
        · exfalso
          have lengths := congrArg List.length same
          rw [List.length_append, List.length_cons] at lengths
          have := length_reprPoint_of_not plain
          have := grows name
          omega
      · rintro ⟨plain, rest⟩
        rw [reprPoint_of_printsItself plain, ih.mpr rest]
        rfl

end Repr

/-! ## The round trip -/

section RoundTrip

variable [UnicodeDb]

/-- A name written after a clear text comes back exactly when it is written as it
stands. -/
theorem assetNamedIn_repr_iff {before : Str} (clear : clearOfAsset before = true) {name : Str}
    (nonempty : name ≠ []) (tail : Str) :
    assetNamedIn (before ++ (lit "asset " ++ (Py.repr name ++ tail))) = some name ↔
      ∀ c ∈ name, PrintsItself c := by
  by_cases quoted : quoteMark ∈ name
  · apply iff_of_false (fun read => quoteMark_not_mem read quoted)
    intro plain
    exact (plain quoteMark quoted).1 rfl
  · have mark : reprQuote name = quoteMark := if_neg fun both => quoted both.1
    have unescaped : ∀ c ∈ name.flatMap (reprPoint quoteMark), c ≠ quoteMark := by
      intro c hc
      obtain ⟨d, hd, hc⟩ := List.mem_flatMap.mp hc
      have apart : d ≠ quoteMark := fun same => quoted (same ▸ hd)
      exact not_quote_of_mem_reprPoint apart hc
    have visible : name.flatMap (reprPoint quoteMark) ≠ [] := by
      obtain ⟨c, rest, rfl⟩ := List.exists_cons_of_ne_nil nonempty
      apply List.ne_nil_of_length_pos
      rw [List.flatMap_cons, List.length_append]
      have := length_reprPoint_pos quoteMark c
      omega
    have written : lit "asset " ++ (Py.repr name ++ tail) =
        lit "asset '" ++ (name.flatMap (reprPoint quoteMark) ++ quoteMark :: tail) := by
      rw [Py.repr, mark]
      simp only [List.append_assoc]
      rfl
    rw [assetNamedIn_append clear, written, assetNamedIn_quoted visible unescaped,
      Option.some.injEq, flatMap_reprPoint_eq_iff]

/-- Exactly the snapshots `repr` writes as they stand come back from the message of a
created incident. -/
theorem assetNamedIn_created_iff (incident : Incident) (correlationId : Str)
    (nonempty : incident.assetNameSnapshot ≠ []) :
    assetNamedIn (IncidentService.createdFields incident correlationId).message =
        some incident.assetNameSnapshot ↔
      ∀ c ∈ incident.assetNameSnapshot, PrintsItself c := by
  have digits : clearOfAsset (decimalInt incident.id) = true :=
    clearOfAsset_of_forall fun c hc => ne_letter_of_mem_decimalInt hc
  have severity : clearOfAsset incident.severity.value = true := by
    cases incident.severity <;> decide
  have clear : clearOfAsset (lit "Incident " ++ decimalInt incident.id ++
      lit " created with severity " ++ incident.severity.value ++ lit " for ") = true :=
    clearOfAsset_append (clearOfAsset_append (clearOfAsset_append
      (clearOfAsset_append (by decide) digits) (by decide)) severity) (by decide)
  have message : (IncidentService.createdFields incident correlationId).message =
      (lit "Incident " ++ decimalInt incident.id ++ lit " created with severity " ++
        incident.severity.value ++ lit " for ") ++
          (lit "asset " ++ (Py.repr incident.assetNameSnapshot ++ lit ".")) := by
    simp only [IncidentService.createdFields, List.append_assoc]
    rfl
  rw [message]
  exact assetNamedIn_repr_iff clear nonempty (lit ".")

/-- Exactly the names `repr` writes as they stand come back from both messages. -/
theorem named_asset_iff (name : AssetName) (incident : Incident) (assetId : Int)
    (correlationId : Str) (snapshot : incident.assetNameSnapshot = name.text) :
    (assetNamedIn (IncidentService.createdFields incident correlationId).message = some name.text ∧
      assetNamedIn (AssetService.criticalAccessFields assetId name.text correlationId).message =
        some name.text) ↔
      ∀ c ∈ name.text, PrintsItself c := by
  have nonempty : name.text ≠ [] := List.ne_nil_of_length_pos name.admitted.1
  have created := assetNamedIn_created_iff incident correlationId (by rw [snapshot]; exact nonempty)
  have read := assetNamedIn_repr_iff (show clearOfAsset (lit "Critical ") = true by decide) nonempty
    (lit " was read.")
  have message : (AssetService.criticalAccessFields assetId name.text correlationId).message =
      lit "Critical " ++ (lit "asset " ++ (Py.repr name.text ++ lit " was read.")) := by
    simp only [AssetService.criticalAccessFields, List.append_assoc]
    rfl
  rw [snapshot] at created
  rw [created, message, read, and_self_iff]

end RoundTrip

/-! ## A name with a quote -/

/-- An asset whose name holds a single quote. -/
def quotedName : AssetName := ⟨"O'Brien's laptop", by decide⟩

/-- An incident on it. -/
def quotedIncident : Incident where
  id := 1
  title := "Lost device"
  description := "The laptop was left on a train."
  severity := .high
  status := .opened
  reportedBy := "analyst"
  assetId := 1
  assetNameSnapshot := quotedName.text

/-- The name does not come back from the incident's message. -/
theorem quotedName_lost : letI : UnicodeDb := ⟨fun _ => true⟩
    ¬ ∀ (name : AssetName) (incident : Incident) (assetId : Int) (correlationId : Str),
      incident.assetNameSnapshot = name.text →
        assetNamedIn (IncidentService.createdFields incident correlationId).message =
            some name.text ∧
          assetNamedIn (AssetService.criticalAccessFields assetId name.text correlationId).message =
            some name.text := by
  let _ : UnicodeDb := ⟨fun _ => true⟩
  intro back
  exact quoteMark_not_mem (back quotedName quotedIncident 1 "corr-000000000001" rfl).1
    (show quoteMark ∈ quotedName.text by decide)

/-- A plain name comes back. -/
theorem named_asset_iff_plain : letI : UnicodeDb := ⟨fun _ => true⟩
    assetNamedIn (IncidentService.createdFields
        { quotedIncident with assetNameSnapshot := "core-auth-db" } "corr-000000000001").message =
      some (lit "core-auth-db") := by
  let _ : UnicodeDb := ⟨fun _ => true⟩
  have plain : ∀ c ∈ lit "core-auth-db", PrintsItself c := by
    have each : ((lit "core-auth-db").all fun c =>
        c ≠ quoteMark && c ≠ codePoint '\\' && printable c) = true := by decide
    intro c hc
    simpa [PrintsItself, and_assoc] using List.all_eq_true.mp each c hc
  exact ((named_asset_iff ⟨"core-auth-db", by decide⟩
    { quotedIncident with assetNameSnapshot := "core-auth-db" } 1 "corr-000000000001" rfl).mpr
      plain).1

end SentinelIR.Loader
