import SqlDialects.Proofs.Text.Digits
import SqlDialects.Text.Separated

/-! Readers put together from readers: phrases, numbers, and what comes several times. A reader of
an item that stops where its text ends reads a list of items as they are written one after the
other. -/

namespace SqlDialects.Text

theorem toList_join_cons (separator first : String) (rest : List String) :
    (join separator (first :: rest)).toList =
      first.toList ++ rest.flatMap fun part => separator.toList ++ part.toList := by
  induction rest generalizing first with
  | nil => simp [join]
  | cons next rest ih =>
    rw [join, String.toList_append, ih, List.flatMap_cons, String.toList_append]
    simp only [List.append_assoc]

namespace Reader

/-- A reader that goes on with another one. -/
theorem bind_of_eq {x : Reader α} {next : α → Reader β} {text rest : List Char} {a : α}
    (h : x text = some (a, rest)) : (x >>= next) text = next a rest := by
  simp only [bind, StateT.bind, h, Option.bind_some]

theorem bind_of_eq_none {x : Reader α} {next : α → Reader β} {text : List Char}
    (h : x text = none) : (x >>= next) text = none := by
  simp only [bind, StateT.bind, h, Option.bind_none]

/-- Whether a phrase is at the front of the text. It is then consumed. -/
def takes (phrase : String) : Reader Bool := fun text =>
  if phrase.toList.isPrefixOf text then some (true, text.drop phrase.toList.length)
  else some (false, text)

/-- A phrase and no other. -/
def expect (phrase : String) : Reader Unit := do
  guard (← takes phrase)

/-- One reader for each of some phrases: behind the first phrase that the text starts with, its
reader goes on. -/
def behind (table : List (String × Reader α)) : Reader α := fun text =>
  match table.find? fun (phrase, _) => phrase.toList.isPrefixOf text with
  | some (phrase, reader) => reader (text.drop phrase.toList.length)
  | none => none

/-- A number in decimal digits. -/
def number : Reader Nat := do
  return decimalValue (← allDigits)

/-- An item as often as it comes, at most `most` times. -/
def upTo (item : Reader α) : Nat → Reader (List α)
  | 0, text => some ([], text)
  | most + 1, text =>
    match item text with
    | none => some ([], text)
    | some (first, rest) => (upTo item most rest).map fun (items, after) => (first :: items, after)

/-- An item as often as it comes. Every item takes a character at least. -/
def several (item : Reader α) : Reader (List α) := fun text => upTo item text.length text

theorem takes_append (phrase : String) (rest : List Char) :
    takes phrase (phrase.toList ++ rest) = some (true, rest) := by
  rw [takes, if_pos (by simp), List.drop_left]

theorem takes_of_not_isPrefixOf {phrase : String} {text : List Char}
    (h : phrase.toList.isPrefixOf text = false) : takes phrase text = some (false, text) := by
  rw [takes, if_neg (by simp [h])]

theorem ite_takes_append (phrase : String) (found missed : Reader α) (rest : List Char) :
    (takes phrase >>= fun taken => if taken then found else missed) (phrase.toList ++ rest) =
      found rest := by
  rw [bind_of_eq (takes_append phrase rest), if_pos rfl]

theorem ite_takes_of_missed {phrase : String} {text : List Char}
    (h : takes phrase text = some (false, text)) (found missed : Reader α) :
    (takes phrase >>= fun taken => if taken then found else missed) text = missed text := by
  rw [bind_of_eq h, if_neg Bool.false_ne_true]

theorem expect_append (phrase : String) (rest : List Char) :
    expect phrase (phrase.toList ++ rest) = some ((), rest) := by
  rw [expect, bind_of_eq (takes_append phrase rest)]
  rfl

theorem expect_bind_of_not_isPrefixOf {phrase : String} {next : Unit → Reader α}
    {text : List Char} (h : phrase.toList.isPrefixOf text = false) :
    (expect phrase >>= next) text = none := by
  have hmissed : expect phrase text = none := by
    rw [expect, bind_of_eq (takes_of_not_isPrefixOf h)]
    rfl
  exact bind_of_eq_none hmissed

theorem behind_append {table : List (String × Reader α)} {phrase : String} {reader : Reader α}
    {rest : List Char}
    (h : table.find? (fun (phrase', _) => phrase'.toList.isPrefixOf (phrase.toList ++ rest)) =
      some (phrase, reader)) :
    behind table (phrase.toList ++ rest) = reader rest := by
  simp only [behind, h, List.drop_left]

theorem allDigits_append {found rest : List Char} (hne : found ≠ [])
    (hdigits : ∀ c ∈ found, c.isDigit = true) (hrest : EndsDigits rest) :
    allDigits (found ++ rest) = some (found, rest) :=
  digits_append hne hdigits (by rw [List.length_append]; omega) (.inr hrest)

theorem number_append (n : Nat) {rest : List Char} (hrest : EndsDigits rest) :
    number ((toString n).toList ++ rest) = some (n, rest) := by
  rw [Nat.toString_eq_ofList_toDigits, String.toList_ofList, number,
    bind_of_eq (allDigits_append Nat.toDigits_ne_nil (fun _ => isDigit_of_mem_toDigits) hrest),
    decimalValue_toDigits]
  rfl

/-- Items are read up to the first text that is none. -/
theorem upTo_append {item : Reader α} {ofItem : β → List Char} {read : β → α} {items : List β}
    {rest : List Char} {most : Nat} (hmost : items.length ≤ most)
    (hitem : ∀ before a after, items = before ++ a :: after →
      item (ofItem a ++ (after.flatMap ofItem ++ rest)) =
        some (read a, after.flatMap ofItem ++ rest))
    (hrest : item rest = none) :
    upTo item most (items.flatMap ofItem ++ rest) = some (items.map read, rest) := by
  induction items generalizing most with
  | nil =>
    rw [List.flatMap_nil, List.nil_append]
    cases most with
    | zero => rfl
    | succ most => rw [upTo, hrest, List.map_nil]
  | cons a items ih =>
    obtain ⟨most, rfl⟩ : ∃ m, most = m + 1 :=
      ⟨most - 1, by rw [List.length_cons] at hmost; omega⟩
    have hfirst := hitem [] a items rfl
    have hitems := ih (Nat.le_of_succ_le_succ hmost) fun before b after h =>
      hitem (a :: before) b after (by rw [h]; rfl)
    rw [List.flatMap_cons, List.append_assoc, upTo, hfirst]
    simp only [hitems]
    rfl

theorem several_append {item : Reader α} {ofItem : β → List Char} {read : β → α} {items : List β}
    {rest : List Char} (hne : ∀ a ∈ items, ofItem a ≠ [])
    (hitem : ∀ before a after, items = before ++ a :: after →
      item (ofItem a ++ (after.flatMap ofItem ++ rest)) =
        some (read a, after.flatMap ofItem ++ rest))
    (hrest : item rest = none) :
    several item (items.flatMap ofItem ++ rest) = some (items.map read, rest) := by
  refine upTo_append ?_ hitem hrest
  clear hitem
  induction items with
  | nil => exact Nat.zero_le _
  | cons a items ih =>
    obtain ⟨ha, hitems⟩ := List.forall_mem_cons.mp hne
    have hlength : 0 < (ofItem a).length := List.length_pos_iff.mpr ha
    have hrest := ih hitems
    simp only [List.flatMap_cons, List.length_append, List.length_cons] at hrest ⊢
    omega

end Reader

end SqlDialects.Text
