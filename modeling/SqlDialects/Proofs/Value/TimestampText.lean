import SqlDialects.Proofs.Text.Reading
import SqlDialects.Value.Timestamp

/-! The exact text of a timestamp reads back as the timestamp. -/

namespace SqlDialects

namespace Text

theorem isBlank_of_isDigit {c : Char} (h : c.isDigit = true) : isBlank c = false := by
  have hrange : 48 ≤ c.toNat ∧ c.toNat ≤ 57 := by
    simp only [Char.isDigit, Bool.and_eq_true, decide_eq_true_eq] at h
    exact h
  simp only [isBlank, Bool.or_eq_false_iff, Bool.and_eq_false_iff, decide_eq_false_iff_not,
    beq_eq_false_iff_ne]
  omega

/-- Whether a text does not start with white space. -/
def StartsFilled (text : List Char) : Prop := ∀ c ∈ text.head?, isBlank c = false

namespace Reader

theorem skipBlanks_of_startsFilled {text : List Char} (h : StartsFilled text) :
    skipBlanks text = some ((), text) := by
  have htrim : trimStart text = text := by
    cases text with
    | nil => rfl
    | cons c rest => simp [trimStart, h c rfl]
  rw [skipBlanks, htrim]

theorem exactly_cons (c : Char) (rest : List Char) : exactly c (c :: rest) = some ((), rest) := by
  simp [exactly]

theorem optionally_cons (c : Char) (rest : List Char) :
    optionally c (c :: rest) = some (true, rest) := by
  simp [optionally]

theorem optionally_of_head_ne {c : Char} {text : List Char} (h : ∀ d ∈ text.head?, d ≠ c) :
    optionally c text = some (false, text) := by
  cases text with
  | nil => rfl
  | cons d rest => simp [optionally, h d rfl]

end Reader

theorem isDigit_of_head_paddedDecimal {width n : Nat} {rest : List Char} :
    ∀ c ∈ (paddedDecimal width n ++ rest).head?, c.isDigit = true := by
  intro c h
  cases hdigits : paddedDecimal width n with
  | nil => exact absurd hdigits (paddedDecimal_ne_nil width n)
  | cons d tail =>
    rw [hdigits] at h
    cases h
    exact isDigit_of_mem_paddedDecimal (hdigits ▸ List.mem_cons_self)

theorem startsFilled_paddedDecimal (width n : Nat) (rest : List Char) :
    StartsFilled (paddedDecimal width n ++ rest) :=
  fun c h => isBlank_of_isDigit (isDigit_of_head_paddedDecimal c h)

theorem startsFilled_cons {c : Char} (rest : List Char) (h : isBlank c = false) :
    StartsFilled (c :: rest) := by
  intro d hd
  cases hd
  exact h

end Text

namespace Timestamp

open Text

theorem readField_paddedDecimal {n : Nat} (h : n < 100) (rest : List Char) :
    readField (paddedDecimal 2 n ++ rest) = some (n, rest) := by
  have hlength : (paddedDecimal 2 n).length = 2 := length_paddedDecimal (by decide) h
  unfold readField
  rw [Reader.bind_of_eq (Reader.skipBlanks_of_startsFilled (startsFilled_paddedDecimal 2 n rest)),
    Reader.bind_of_eq (Reader.digits_append (paddedDecimal_ne_nil 2 n)
      (fun _ => isDigit_of_mem_paddedDecimal) (Nat.le_of_eq hlength) (.inl hlength)),
    decimalValue_paddedDecimal]
  rfl

theorem readMark_cons {c : Char} (h : isBlank c = false) (rest : List Char) :
    readMark c (c :: rest) = some ((), rest) := by
  unfold readMark
  rw [Reader.bind_of_eq (Reader.skipBlanks_of_startsFilled (startsFilled_cons rest h))]
  exact Reader.exactly_cons c rest

/-- The year ends where the mark after it stands. -/
theorem readYear_yearText (year : Int) {rest : List Char} (hrest : EndsDigits rest) :
    readYear (yearText year ++ rest) = some (year, rest) := by
  have hdigits : ∀ c ∈ paddedDecimal 4 year.natAbs, c.isDigit = true :=
    fun _ => isDigit_of_mem_paddedDecimal
  have hall := Reader.allDigits_append (paddedDecimal_ne_nil 4 year.natAbs) hdigits hrest
  unfold yearText readYear
  by_cases hplain : 0 ≤ year ∧ year ≤ 9999
  · have hlength : (paddedDecimal 4 year.natAbs).length = 4 :=
      length_paddedDecimal (by decide) (by omega)
    have hne (c : Char) (hc : c.isDigit = false) :
        Reader.optionally c (paddedDecimal 4 year.natAbs ++ rest) =
          some (false, paddedDecimal 4 year.natAbs ++ rest) :=
      Reader.optionally_of_head_ne fun d hd hdc => by
        rw [← hdc, isDigit_of_head_paddedDecimal d hd] at hc
        cases hc
    simp only [if_pos hplain]
    rw [Reader.bind_of_eq (hne '-' rfl)]
    simp only [Bool.false_eq_true, if_false]
    rw [Reader.bind_of_eq (hne '+' rfl)]
    simp only [Bool.false_eq_true, if_false]
    rw [Reader.bind_of_eq (Reader.digits_append (paddedDecimal_ne_nil 4 year.natAbs) hdigits
      (Nat.le_of_eq hlength) (.inl hlength)), decimalValue_paddedDecimal,
      Int.natAbs_of_nonneg hplain.1]
    rfl
  · simp only [if_neg hplain]
    by_cases hnegative : year < 0
    · simp only [if_pos hnegative, List.cons_append]
      rw [Reader.bind_of_eq (Reader.optionally_cons '-' _)]
      simp only [if_true]
      rw [Reader.bind_of_eq hall, decimalValue_paddedDecimal]
      exact congrArg (fun y => some (y, rest)) (by omega)
    · simp only [if_neg hnegative, List.cons_append]
      rw [Reader.bind_of_eq (Reader.optionally_of_head_ne (by simp))]
      simp only [Bool.false_eq_true, if_false]
      rw [Reader.bind_of_eq (Reader.optionally_cons '+' _)]
      simp only [if_true]
      rw [Reader.bind_of_eq hall, decimalValue_paddedDecimal]
      exact congrArg (fun y => some (y, rest)) (by omega)

theorem readFraction_nil : readFraction [] = some (0, []) := rfl

/-- A fraction of at most nine digits at the end of the text. -/
theorem readFraction_paddedDecimal {width n : Nat} (hpos : 0 < width) (hwidth : width ≤ 9)
    (h : n < 10 ^ width) :
    readFraction ('.' :: paddedDecimal width n) = some (n * Nat.pow 10 (9 - width), []) := by
  have hlength := length_paddedDecimal hpos h
  have hdigits : Reader.digits 9 (paddedDecimal width n) = some (paddedDecimal width n, []) := by
    have hfew : (paddedDecimal width n).length ≤ 9 := Nat.le_trans (Nat.le_of_eq hlength) hwidth
    have hread := Reader.digits_append (paddedDecimal_ne_nil width n)
      (fun _ => isDigit_of_mem_paddedDecimal) hfew (.inr endsDigits_nil)
    rwa [List.append_nil] at hread
  have hskip : Reader.skipDigits [] = some ((), []) := rfl
  unfold readFraction
  rw [Reader.bind_of_eq (Reader.optionally_cons '.' _)]
  simp only [if_true]
  rw [Reader.bind_of_eq hdigits, Reader.bind_of_eq hskip, decimalValue_paddedDecimal, hlength]
  rfl

theorem readFraction_fractionText (t : Timestamp) :
    readFraction (fractionText t) = some (t.nanosecond, []) := by
  have hbound := t.time_bounds.2.2.2
  unfold fractionText
  split
  · next hzero => rw [readFraction_nil, hzero]
  · split
    · next hmilli =>
      rw [readFraction_paddedDecimal (by decide) (by decide) (by omega)]
      exact congrArg (fun n => some (n, [])) (Nat.div_mul_cancel (Nat.dvd_of_mod_eq_zero hmilli))
    · split
      · next hmicro =>
        rw [readFraction_paddedDecimal (by decide) (by decide) (by omega)]
        exact congrArg (fun n => some (n, [])) (Nat.div_mul_cancel (Nat.dvd_of_mod_eq_zero hmicro))
      · rw [readFraction_paddedDecimal (by decide) (by decide) hbound]
        exact congrArg (fun n => some (n, [])) (Nat.mul_one _)

theorem startsFilled_yearText (year : Int) (rest : List Char) :
    StartsFilled (yearText year ++ rest) := by
  unfold yearText
  split
  · exact startsFilled_paddedDecimal _ _ _
  · split <;> exact startsFilled_cons _ rfl

theorem day_le (t : Timestamp) : t.day ≤ 31 := by
  refine Nat.le_trans t.day_bounds.2 ?_
  unfold Calendar.daysInMonth
  split
  · split <;> decide
  all_goals decide

theorem make?_self (t : Timestamp) :
    make? t.year t.month t.day t.hour t.minute t.second t.nanosecond = some t :=
  dif_pos ⟨t.year_bounds, t.month_bounds, t.day_bounds, t.time_bounds⟩

theorem ofText?_isoText (t : Timestamp) : ofText? t.isoText = some t := by
  obtain ⟨hhour, hminute, hsecond, -⟩ := t.time_bounds
  have hmonth := t.month_bounds.2
  have hday := t.day_le
  have hskip : Reader.skipBlanks [] = some ((), []) := rfl
  have hread : reader t.isoText = some (t, []) := by
    unfold reader isoText dateText clockText
    simp only [List.append_assoc, List.cons_append]
    rw [Reader.bind_of_eq (Reader.skipBlanks_of_startsFilled (startsFilled_yearText t.year _)),
      Reader.bind_of_eq (readYear_yearText t.year (endsDigits_cons rfl)),
      Reader.bind_of_eq (readMark_cons rfl _),
      Reader.bind_of_eq (readField_paddedDecimal (by omega) _),
      Reader.bind_of_eq (readMark_cons rfl _),
      Reader.bind_of_eq (readField_paddedDecimal (by omega) _),
      Reader.bind_of_eq (readMark_cons rfl _),
      Reader.bind_of_eq (readField_paddedDecimal (by omega) _),
      Reader.bind_of_eq (readMark_cons rfl _),
      Reader.bind_of_eq (readField_paddedDecimal (by omega) _),
      Reader.bind_of_eq (readMark_cons rfl _),
      Reader.bind_of_eq (readField_paddedDecimal (by omega) _),
      Reader.bind_of_eq (readFraction_fractionText t),
      Reader.bind_of_eq hskip, make?_self]
    rfl
  have hrun : reader.run t.isoText = some (t, []) := hread
  rw [ofText?, Reader.readAll, hrun]

end Timestamp

end SqlDialects
