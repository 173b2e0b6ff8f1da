import SqlDialects.Text.Digits
import SqlDialects.Text.Reader
import Mathlib.Algebra.Group.Int.Defs
import Mathlib.Algebra.Group.Nat.Defs
import Mathlib.Data.List.TakeDrop

/-! Decimal digits and the number that they denote. The digits of a number read back as it, with or
without zeros in front, and a reader of digits stops at the first other character. -/

namespace SqlDialects.Text

/-- Whether a text does not go on with a digit. -/
def EndsDigits (rest : List Char) : Prop := ∀ c ∈ rest.head?, c.isDigit = false

theorem endsDigits_nil : EndsDigits [] := fun _ h => by cases h

theorem endsDigits_cons {c : Char} {rest : List Char} (h : c.isDigit = false) :
    EndsDigits (c :: rest) := by
  intro d hd
  cases hd
  exact h

theorem digit?_of_isDigit {c : Char} (h : c.isDigit = true) :
    (digit? c).getD 0 = c.toNat - '0'.toNat := by
  simp [digit?, h]

/-- A digit has a value, and a run of digits the value that they have in turn. -/
theorem decimalValue_eq_ofDigitChars {digits : List Char} (h : ∀ c ∈ digits, c.isDigit = true) :
    decimalValue digits = Nat.ofDigitChars 10 digits 0 := by
  have hfrom (value : Nat) : digits.foldl (fun value c => 10 * value + (digit? c).getD 0) value =
      Nat.ofDigitChars 10 digits value := by
    induction digits generalizing value with
    | nil => rfl
    | cons c rest ih =>
      rw [List.foldl_cons, Nat.ofDigitChars_cons, digit?_of_isDigit (h c List.mem_cons_self)]
      exact ih (fun d hd => h d (List.mem_cons_of_mem c hd)) _
  exact hfrom 0

theorem isDigit_of_mem_toDigits {n : Nat} {c : Char} (h : c ∈ Nat.toDigits 10 n) :
    c.isDigit = true :=
  Nat.isDigit_of_mem_toDigits (by decide) (by decide) h

theorem exists_toDigits_eq_cons (n : Nat) :
    ∃ c rest, Nat.toDigits 10 n = c :: rest ∧ c.isDigit = true := by
  cases hdigits : Nat.toDigits 10 n with
  | nil => exact absurd hdigits Nat.toDigits_ne_nil
  | cons c rest => exact ⟨c, rest, rfl, isDigit_of_mem_toDigits (hdigits ▸ List.mem_cons_self)⟩

theorem toList_toString_ofNat (n : Nat) :
    (toString (Int.ofNat n)).toList = Nat.toDigits 10 n := by
  rw [show toString (Int.ofNat n) = toString n from rfl, Nat.toString_eq_ofList_toDigits,
    String.toList_ofList]

theorem toList_toString_negSucc (n : Nat) :
    (toString (Int.negSucc n)).toList = '-' :: Nat.toDigits 10 (n + 1) := by
  rw [show toString (Int.negSucc n) = "-" ++ toString (n + 1) from rfl, String.toList_append,
    Nat.toString_eq_ofList_toDigits, String.toList_ofList]
  simp

theorem decimalValue_toDigits (n : Nat) : decimalValue (Nat.toDigits 10 n) = n := by
  rw [decimalValue_eq_ofDigitChars fun _ => isDigit_of_mem_toDigits]
  exact Nat.ofDigitChars_ten_toDigits

theorem isDigit_of_mem_paddedDecimal {width n : Nat} {c : Char} (h : c ∈ paddedDecimal width n) :
    c.isDigit = true := by
  rcases List.mem_append.1 h with hzero | hdigit
  · rw [List.eq_of_mem_replicate hzero]
    rfl
  · exact isDigit_of_mem_toDigits hdigit

theorem decimalValue_paddedDecimal (width n : Nat) : decimalValue (paddedDecimal width n) = n := by
  rw [decimalValue_eq_ofDigitChars fun _ => isDigit_of_mem_paddedDecimal, paddedDecimal,
    Nat.ofDigitChars_append, Nat.ofDigitChars_replicate_zero, Nat.mul_zero]
  exact Nat.ofDigitChars_ten_toDigits

theorem length_paddedDecimal {width n : Nat} (hwidth : 0 < width) (h : n < 10 ^ width) :
    (paddedDecimal width n).length = width := by
  have hlength : (Nat.toDigits 10 n).length ≤ width :=
    (Nat.length_toDigits_le_iff (by decide) hwidth).2 h
  rw [paddedDecimal, List.length_append, List.length_replicate]
  omega

theorem paddedDecimal_ne_nil (width n : Nat) : paddedDecimal width n ≠ [] := fun h =>
  Nat.toDigits_ne_nil (List.append_eq_nil_iff.1 h).2

/-- Only zero starts with the digit zero. -/
theorem head_toDigits_ne_zero {n : Nat} (h : 0 < n) : (Nat.toDigits 10 n).head? ≠ some '0' := by
  induction n using Nat.strongRecOn with
  | ind n ih =>
    rw [Nat.toDigits_eq_if (by decide)]
    split
    · next hlt =>
      have hdigit : ∀ m < 10, 0 < m → m.digitChar ≠ '0' := by decide
      simpa using hdigit n hlt h
    · next hge =>
      have hfront : (Nat.toDigits 10 (n / 10)).head? ≠ some '0' :=
        ih (n / 10) (Nat.div_lt_self h (by decide)) (Nat.div_pos (Nat.le_of_not_lt hge) (by decide))
      cases hdigits : Nat.toDigits 10 (n / 10) with
      | nil => exact absurd hdigits Nat.toDigits_ne_nil
      | cons c rest => rwa [hdigits] at hfront

theorem spanDigits_append {digits rest : List Char} (hdigits : ∀ c ∈ digits, c.isDigit = true)
    (hrest : EndsDigits rest) : spanDigits (digits ++ rest) = (digits, rest) := by
  have hnone : rest.takeWhile Char.isDigit = [] ∧ rest.dropWhile Char.isDigit = rest := by
    cases rest with
    | nil => exact ⟨rfl, rfl⟩
    | cons c tail => simp [hrest c rfl]
  rw [spanDigits, List.span_eq_takeWhile_dropWhile, List.takeWhile_append_of_pos hdigits,
    List.dropWhile_append_of_pos hdigits, hnone.1, hnone.2, List.append_nil]

namespace Reader

/-- Digits are taken up to the width or to the first other character. -/
theorem takeDigits_append {width : Nat} {digits rest : List Char}
    (hdigits : ∀ c ∈ digits, c.isDigit = true) (hlength : digits.length ≤ width)
    (hrest : digits.length = width ∨ EndsDigits rest) :
    takeDigits width (digits ++ rest) = (digits, rest) := by
  induction digits generalizing width with
  | nil =>
    cases width with
    | zero => rfl
    | succ width =>
      cases rest with
      | nil => rfl
      | cons c tail =>
        have hc : c.isDigit = false := (hrest.resolve_left (by simp)) c rfl
        simp [takeDigits, hc]
  | cons c tail ih =>
    obtain ⟨width, rfl⟩ : ∃ w, width = w + 1 :=
      ⟨width - 1, by rw [List.length_cons] at hlength; omega⟩
    have htail : takeDigits width (tail ++ rest) = (tail, rest) :=
      ih (fun d hd => hdigits d (List.mem_cons_of_mem c hd)) (Nat.le_of_succ_le_succ hlength)
        (hrest.imp_left Nat.succ.inj)
    simp only [List.cons_append, takeDigits, hdigits c List.mem_cons_self, if_true, htail]

theorem digits_append {width : Nat} {found rest : List Char} (hne : found ≠ [])
    (hdigits : ∀ c ∈ found, c.isDigit = true) (hlength : found.length ≤ width)
    (hrest : found.length = width ∨ EndsDigits rest) :
    digits width (found ++ rest) = some (found, rest) := by
  rw [digits, takeDigits_append hdigits hlength hrest]
  cases found with
  | nil => exact absurd rfl hne
  | cons c tail => rfl

end Reader

end SqlDialects.Text
