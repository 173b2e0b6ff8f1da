import SqlDialects.Json.Printer
import SqlDialects.Json.Reader
import SqlDialects.Proofs.Text.Digits
import Mathlib.Data.List.TakeWhile
import Mathlib.Tactic.SplitIfs

/-! Cutting printed JSON into tokens. A number ends at the first character that cannot belong to
it, and a string at its closing quote, whatever comes after. -/

namespace SqlDialects

namespace Text

theorem endsDigits_append {text rest : List Char} (htext : EndsDigits text)
    (hrest : EndsDigits rest) : EndsDigits (text ++ rest) := by
  cases text with
  | nil => exact hrest
  | cons c tail => exact endsDigits_cons (htext c rfl)

theorem spanDigits_eq_iff {text digits rest : List Char} : spanDigits text = (digits, rest) ↔
    text = digits ++ rest ∧ (∀ c ∈ digits, c.isDigit = true) ∧ EndsDigits rest := by
  constructor
  · intro h
    rw [spanDigits, List.span_eq_takeWhile_dropWhile, Prod.mk.injEq] at h
    obtain ⟨rfl, rfl⟩ := h
    refine ⟨List.takeWhile_append_dropWhile.symm, fun c => List.mem_takeWhile_imp, fun c hc => ?_⟩
    have hhead := List.head?_dropWhile_not Char.isDigit text
    rw [Option.mem_def.1 hc] at hhead
    exact hhead
  · rintro ⟨rfl, hdigits, hrest⟩
    exact spanDigits_append hdigits hrest

/-- Digits that end within the text end there with more text after it too. -/
theorem spanDigits_append_right {text digits after rest : List Char}
    (h : spanDigits text = (digits, after)) (hrest : EndsDigits rest) :
    spanDigits (text ++ rest) = (digits, after ++ rest) := by
  obtain ⟨rfl, hdigits, hafter⟩ := spanDigits_eq_iff.1 h
  rw [List.append_assoc]
  exact spanDigits_append hdigits (endsDigits_append hafter hrest)

end Text

namespace Json.Token

open Text

/-- Whether a number before the text would end there. -/
def EndsNumber (rest : List Char) : Prop :=
  ∀ c ∈ rest.head?, c.isDigit = false ∧ c ≠ '.' ∧ c ≠ 'e' ∧ c ≠ 'E'

theorem endsNumber_nil : EndsNumber [] := fun _ h => by cases h

theorem EndsNumber.endsDigits {rest : List Char} (h : EndsNumber rest) : EndsDigits rest :=
  fun c hc => (h c hc).1

theorem scanWhole_of_head_ne {text : List Char} (h : text.head? ≠ some '0') :
    scanWhole text =
      match spanDigits text with
      | ([], _) => none
      | found => some found := by
  unfold scanWhole
  split
  · exact absurd rfl h
  · rfl

theorem scanWhole_append {text whole after rest : List Char}
    (h : scanWhole text = some (whole, after)) (hrest : EndsDigits rest) :
    scanWhole (text ++ rest) = some (whole, after ++ rest) := by
  by_cases hzero : text.head? = some '0'
  · obtain ⟨tail, rfl⟩ : ∃ tail, text = '0' :: tail := List.head?_eq_some_iff.1 hzero
    cases h
    rfl
  · rw [scanWhole_of_head_ne hzero] at h
    cases hspan : spanDigits text with
    | mk digits stop =>
      rw [hspan] at h
      cases digits with
      | nil => cases h
      | cons c tail =>
        cases h
        obtain ⟨rfl, -, -⟩ := spanDigits_eq_iff.1 hspan
        have hhead : (c :: tail ++ after ++ rest).head? ≠ some '0' := hzero
        rw [scanWhole_of_head_ne hhead, spanDigits_append_right hspan hrest]

theorem scanFraction_of_head_ne {text : List Char} (h : text.head? ≠ some '.') :
    scanFraction text = some (none, text) := by
  unfold scanFraction
  split
  · exact absurd rfl h
  · rfl

theorem scanFraction_append {text after rest : List Char} {fraction : Option (List Char)}
    (h : scanFraction text = some (fraction, after)) (hrest : EndsNumber rest) :
    scanFraction (text ++ rest) = some (fraction, after ++ rest) := by
  by_cases hpoint : text.head? = some '.'
  · obtain ⟨tail, rfl⟩ : ∃ tail, text = '.' :: tail := List.head?_eq_some_iff.1 hpoint
    simp only [List.cons_append, scanFraction] at h ⊢
    cases hspan : spanDigits tail with
    | mk digits stop =>
      rw [hspan] at h
      cases digits with
      | nil => cases h
      | cons c tail =>
        cases h
        rw [spanDigits_append_right hspan hrest.endsDigits]
  · rw [scanFraction_of_head_ne hpoint] at h
    cases h
    refine scanFraction_of_head_ne fun hhead => ?_
    cases text with
    | nil => exact (hrest '.' hhead).2.1 rfl
    | cons c tail => exact hpoint hhead

/-- The digits of an exponent after its sign. -/
def exponentDigits (negative : Bool) (text : List Char) : Option (Int × List Char) :=
  match spanDigits text with
  | ([], _) => none
  | (digits, rest) =>
    some (if negative then -(decimalValue digits : Int) else decimalValue digits, rest)

theorem exponentDigits_append {negative : Bool} {text after rest : List Char} {n : Int}
    (h : exponentDigits negative text = some (n, after)) (hrest : EndsDigits rest) :
    exponentDigits negative (text ++ rest) = some (n, after ++ rest) := by
  unfold exponentDigits at h ⊢
  cases hspan : spanDigits text with
  | mk digits stop =>
    rw [hspan] at h
    cases digits with
    | nil => cases h
    | cons c tail =>
      cases h
      rw [spanDigits_append_right hspan hrest]

theorem scanExponent_cons (c : Char) (text : List Char) :
    scanExponent (c :: text) =
      if c = '+' then exponentDigits false text
      else if c = '-' then exponentDigits true text
      else exponentDigits false (c :: text) := by
  by_cases hplus : c = '+'
  · subst hplus; rfl
  · by_cases hminus : c = '-'
    · subst hminus; rfl
    · cases hspan : spanDigits (c :: text) with
      | mk digits rest =>
        cases digits <;> simp [scanExponent, exponentDigits, hplus, hminus, hspan]

theorem scanExponent_append {text after rest : List Char} {n : Int}
    (h : scanExponent text = some (n, after)) (hrest : EndsDigits rest) :
    scanExponent (text ++ rest) = some (n, after ++ rest) := by
  cases text with
  | nil => cases h
  | cons c tail =>
    rw [List.cons_append, scanExponent_cons]
    rw [scanExponent_cons] at h
    by_cases hplus : c = '+'
    · rw [if_pos hplus] at h ⊢
      exact exponentDigits_append h hrest
    · rw [if_neg hplus] at h ⊢
      by_cases hminus : c = '-'
      · rw [if_pos hminus] at h ⊢
        exact exponentDigits_append h hrest
      · rw [if_neg hminus] at h ⊢
        exact exponentDigits_append h hrest

/-- The exponent of a number, if the text goes on with its letter. -/
def scanScale : List Char → Option (Option Int × List Char)
  | [] => some (none, [])
  | c :: text =>
    if c = 'e' ∨ c = 'E' then (scanExponent text).map fun (n, rest) => (some n, rest)
    else some (none, c :: text)

/-- The value of a number from its parts. -/
def numberOfParts? (negative : Bool) (whole : List Char) :
    Option (List Char) → Option Int → Option Json
  | none, none => wholeNumber? negative whole
  | fraction, exponent =>
    (doubleOfParts? negative whole (fraction.getD []) (exponent.getD 0)).map .double

theorem scanNumber_eq (negative : Bool) (text : List Char) :
    scanNumber negative text =
      (scanWhole text).bind fun (whole, text) => (scanFraction text).bind fun (fraction, text) =>
        (scanScale text).bind fun (exponent, text) =>
          (numberOfParts? negative whole fraction exponent).map fun j => (j, text) := by
  unfold scanNumber
  simp only [Option.bind_eq_bind]
  congr 1
  funext ⟨whole, text⟩
  congr 1
  funext ⟨fraction, text⟩
  dsimp only
  have hparts (scale : Option (Option Int × List Char)) :
      (scale.bind fun (exponent, text) =>
        match fraction, exponent with
        | none, none => (wholeNumber? negative whole).bind fun value => pure (value, text)
        | _, _ =>
          (doubleOfParts? negative whole (fraction.getD []) (exponent.getD 0)).bind fun value =>
            pure (Json.double value, text)) =
        scale.bind fun (exponent, text) =>
          (numberOfParts? negative whole fraction exponent).map fun j => (j, text) := by
    congr 1
    funext ⟨exponent, text⟩
    cases fraction with
    | none =>
      cases exponent with
      | none => dsimp only [numberOfParts?]; cases wholeNumber? negative whole <;> rfl
      | some n => dsimp only [numberOfParts?]; cases doubleOfParts? negative whole _ _ <;> rfl
    | some digits => dsimp only [numberOfParts?]; cases doubleOfParts? negative whole _ _ <;> rfl
  rw [← hparts]
  cases text with
  | nil => rfl
  | cons c tail =>
    by_cases hletter : c = 'e' ∨ c = 'E'
    · have hscale : scanScale (c :: tail) =
          (scanExponent tail).map fun (n, rest) => (some n, rest) := if_pos hletter
      rw [hscale]
      exact if_pos hletter
    · have hscale : scanScale (c :: tail) = some (none, c :: tail) := if_neg hletter
      rw [hscale]
      exact if_neg hletter

theorem scanScale_append {text after rest : List Char} {exponent : Option Int}
    (h : scanScale text = some (exponent, after)) (hrest : EndsNumber rest) :
    scanScale (text ++ rest) = some (exponent, after ++ rest) := by
  cases text with
  | nil =>
    cases h
    cases rest with
    | nil => rfl
    | cons c tail =>
      obtain ⟨-, -, hlower, hupper⟩ := hrest c rfl
      simp [scanScale, hlower, hupper]
  | cons c tail =>
    simp only [List.cons_append, scanScale] at h ⊢
    by_cases hletter : c = 'e' ∨ c = 'E'
    · rw [if_pos hletter] at h ⊢
      obtain ⟨⟨n, stop⟩, hexponent, hn⟩ := Option.map_eq_some_iff.1 h
      cases hn
      rw [scanExponent_append hexponent hrest.endsDigits, Option.map_some]
    · rw [if_neg hletter] at h ⊢
      cases h
      rfl

theorem scanNumber_append {negative : Bool} {text after rest : List Char} {j : Json}
    (h : scanNumber negative text = some (j, after)) (hrest : EndsNumber rest) :
    scanNumber negative (text ++ rest) = some (j, after ++ rest) := by
  rw [scanNumber_eq] at h ⊢
  obtain ⟨⟨whole, text⟩, hwhole, h⟩ := Option.bind_eq_some_iff.1 h
  obtain ⟨⟨fraction, text⟩, hfraction, h⟩ := Option.bind_eq_some_iff.1 h
  obtain ⟨⟨exponent, text⟩, hscale, h⟩ := Option.bind_eq_some_iff.1 h
  obtain ⟨value, hvalue, h⟩ := Option.map_eq_some_iff.1 h
  cases h
  simp only [scanWhole_append hwhole hrest.endsDigits, Option.bind_some,
    scanFraction_append hfraction hrest, scanScale_append hscale hrest, hvalue, Option.map_some]

/-! Strings. -/

theorem hex4?_lowerHex : ∀ n < 32, hex4? '0' '0' (lowerHex (n / 16)) (lowerHex n) = some n := by
  decide

/-- The content of a string from its first character and the rest of it. -/
def prepend (c : Char) (scanned : Option (List Char × List Char)) :
    Option (List Char × List Char) :=
  scanned.map fun (content, after) => (c :: content, after)

theorem scanString_short {letter c : Char} (h : shortEscape? letter = some c) (rest : List Char) :
    scanString ('\\' :: letter :: rest) = prepend c (scanString rest) := by
  have hletter : letter ≠ 'u' := fun hu => by
    subst hu
    cases h
  cases hrest : scanString rest <;> simp [scanString, hletter, h, hrest, prepend]

theorem scanString_unicode {a b c d : Char} {n : Nat} (h : hex4? a b c d = some n)
    (hn : n < 0xD800) (rest : List Char) :
    scanString ('\\' :: 'u' :: a :: b :: c :: d :: rest) =
      prepend (Char.ofNat n) (scanString rest) := by
  have hlow : ¬ (0xD800 ≤ n ∧ n < 0xDC00) := by omega
  have hhigh : ¬ (0xDC00 ≤ n ∧ n < 0xE000) := by omega
  cases hrest : scanString rest <;> simp [scanString, h, hlow, hhigh, hrest, prepend]

theorem scanString_plain {c : Char} (hquote : c ≠ '"') (hbackslash : c ≠ '\\')
    (hcontrol : ¬ c.toNat < 0x20) (rest : List Char) :
    scanString (c :: rest) = prepend c (scanString rest) := by
  cases hrest : scanString rest <;> simp [scanString, hbackslash, hcontrol, hrest, prepend]

/-- The escape of a character reads back as the character. -/
theorem scanString_escapeChar (c : Char) (rest : List Char) :
    scanString (escapeChar c ++ rest) = prepend c (scanString rest) := by
  unfold escapeChar
  split_ifs with hquote hbackslash hbackspace htab hnewline hfeed hreturn hcontrol
  · subst hquote; exact scanString_short rfl rest
  · subst hbackslash; exact scanString_short rfl rest
  · subst hbackspace; exact scanString_short rfl rest
  · subst htab; exact scanString_short rfl rest
  · subst hnewline; exact scanString_short rfl rest
  · subst hfeed; exact scanString_short rfl rest
  · subst hreturn; exact scanString_short rfl rest
  · have hread := scanString_unicode (hex4?_lowerHex c.toNat hcontrol)
      (Nat.lt_trans hcontrol (by decide)) rest
    rwa [Char.ofNat_toNat] at hread
  · exact scanString_plain hquote hbackslash hcontrol rest

theorem scanString_escaped (content rest : List Char) :
    scanString (content.flatMap escapeChar ++ '"' :: rest) = some (content, rest) := by
  induction content with
  | nil => rfl
  | cons c tail ih =>
    rw [List.flatMap_cons, List.append_assoc, scanString_escapeChar, ih]
    rfl

theorem scan_stringText (s : String) (rest : List Char) :
    scan ((stringText s).toList ++ rest) = some (.string s, rest) := by
  have htext : (stringText s).toList ++ rest =
      '"' :: (s.toList.flatMap escapeChar ++ '"' :: rest) := by
    simp [stringText]
  have hscan (text : List Char) : scan ('"' :: text) =
      (scanString text).map fun (s, rest) => (.string (String.ofList s), rest) := rfl
  rw [htext, hscan, scanString_escaped, Option.map_some]
  dsimp only
  rw [String.ofList_toList]

/-! Numbers. -/

theorem scan_of_isDigit {c : Char} (h : c.isDigit = true) (text : List Char) :
    scan (c :: text) = (scanNumber false (c :: text)).map fun (n, rest) => (.scalar n, rest) := by
  unfold scan
  split <;> first | rfl | (next heq => cases heq; exact absurd h (by decide))

theorem scan_minus (text : List Char) :
    scan ('-' :: text) = (scanNumber true text).map fun (n, rest) => (.scalar n, rest) := rfl

theorem scanWhole_toDigits (n : Nat) :
    scanWhole (Nat.toDigits 10 n) = some (Nat.toDigits 10 n, []) := by
  rcases Nat.eq_zero_or_pos n with rfl | hpos
  · rfl
  · have hdigits : ∀ c ∈ Nat.toDigits 10 n, c.isDigit = true := fun _ => isDigit_of_mem_toDigits
    have hspan := spanDigits_append hdigits endsDigits_nil
    rw [List.append_nil] at hspan
    rw [scanWhole_of_head_ne (head_toDigits_ne_zero hpos), hspan]
    obtain ⟨c, rest, hcons, -⟩ := exists_toDigits_eq_cons n
    rw [hcons]

theorem scanNumber_toDigits (negative : Bool) (n : Nat) :
    scanNumber negative (Nat.toDigits 10 n) =
      (wholeNumber? negative (Nat.toDigits 10 n)).map fun j => (j, []) := by
  rw [scanNumber_eq, scanWhole_toDigits]
  rfl

theorem wholeNumber?_toDigits {n : Nat} (h : n ≤ significandLimit) :
    wholeNumber? false (Nat.toDigits 10 n) = some (.int n) := by
  unfold wholeNumber?
  rw [decimalValue_toDigits, if_neg Bool.false_ne_true, if_pos h]

theorem wholeNumber?_negative_toDigits {n : Nat} (h : 0 < n ∧ n ≤ Nat.pow 2 63) :
    wholeNumber? true (Nat.toDigits 10 n) = some (.int (-n)) := by
  unfold wholeNumber?
  rw [decimalValue_toDigits, if_pos rfl, if_pos h]

/-- Whether the reader gives the integer as an integer. -/
def IntInRange (n : Int) : Prop := -2 ^ 63 ≤ n ∧ n < 2 ^ 64

/-- The text of an integer of 64 bits is the token of it. -/
theorem scan_int {n : Int} (h : IntInRange n) {rest : List Char} (hrest : EndsNumber rest) :
    scan ((toString n).toList ++ rest) = some (.scalar (.int n), rest) := by
  obtain ⟨hlow, hhigh⟩ := h
  cases n with
  | ofNat n =>
    have hlimit : n ≤ significandLimit := by
      have hnat : n < 2 ^ 64 := by
        rw [Int.ofNat_eq_natCast] at hhigh
        omega
      exact Nat.le_sub_one_of_lt hnat
    have hnumber : scanNumber false (Nat.toDigits 10 n ++ rest) = some (.int n, rest) :=
      scanNumber_append
        (by rw [scanNumber_toDigits, wholeNumber?_toDigits hlimit, Option.map_some]) hrest
    obtain ⟨c, tail, hdigits, hc⟩ := exists_toDigits_eq_cons n
    rw [hdigits, List.cons_append] at hnumber
    rw [toList_toString_ofNat, hdigits, List.cons_append, scan_of_isDigit hc, hnumber]
    rfl
  | negSucc n =>
    have hle : n + 1 ≤ 2 ^ 63 := by omega
    have hlimit : 0 < n + 1 ∧ n + 1 ≤ Nat.pow 2 63 := ⟨Nat.succ_pos n, hle⟩
    have hnumber : scanNumber true (Nat.toDigits 10 (n + 1) ++ rest) =
        some (.int (-(n + 1 : Nat)), rest) :=
      scanNumber_append
        (by rw [scanNumber_toDigits, wholeNumber?_negative_toDigits hlimit, Option.map_some]) hrest
    rw [toList_toString_negSucc, List.cons_append, scan_minus, hnumber]
    rfl

end Json.Token

end SqlDialects
