import SqlDialects.Proofs.Grouping.Reading

/-! Text read as tokens. The leaves are known, in order and each as it is written, and are read as
atoms; parentheses and connectives are all that may stand around them. The reader does not look for
what a leaf is made of, so a parenthesis or a connective in a leaf is none of the text. -/

namespace SqlDialects

namespace Token

/-- What is written for a token that is no leaf. -/
def phrase : Token α → String
  | .atom _ => ""
  | .link .and => " AND "
  | .link .or => " OR "
  | .opening => "("
  | .closing => ")"

theorem phrase_link (connective : Connective) :
    (link connective : Token α).phrase = " " ++ connective.sql ++ " " := by
  cases connective <;> rfl

/-- A token as it is written in SQL, given the texts of leaves. -/
def write (text : String → γ) (ofLeaf : α → List γ) : Token α → List γ
  | .atom a => ofLeaf a
  | mark => [text mark.phrase]

def isMark : Token α → Bool
  | .atom _ => false
  | _ => true

theorem write_of_isMark {mark : Token α} (h : mark.isMark = true) (text : String → γ)
    (ofLeaf : α → List γ) : mark.write text ofLeaf = [text mark.phrase] := by
  cases mark with
  | atom => cases h
  | _ => rfl

/-- The leaves of tokens. -/
def atoms : List (Token α) → List α
  | [] => []
  | .atom a :: rest => a :: atoms rest
  | _ :: rest => atoms rest

theorem atoms_append (first second : List (Token α)) :
    atoms (first ++ second) = atoms first ++ atoms second := by
  induction first with
  | nil => rfl
  | cons token rest ih => cases token <;> simp [atoms, ih]

theorem atoms_link (first : Bool) (connective : Connective) :
    atoms (if first then [] else [.link connective] : List (Token α)) = [] := by
  cases first <;> rfl

/-- The parentheses and connectives up to the place that `stop` finds, and the text behind it. -/
def marksUpTo (stop : List Char → Option (List Char)) (text : List Char) :
    Option (List (Token α) × List Char) :=
  match stop text with
  | some rest => some ([], rest)
  | none =>
    match text with
    | '(' :: rest => (marksUpTo stop rest).map fun (marks, after) => (.opening :: marks, after)
    | ')' :: rest => (marksUpTo stop rest).map fun (marks, after) => (.closing :: marks, after)
    | ' ' :: 'A' :: 'N' :: 'D' :: ' ' :: rest =>
      (marksUpTo stop rest).map fun (marks, after) => (.link .and :: marks, after)
    | ' ' :: 'O' :: 'R' :: ' ' :: rest =>
      (marksUpTo stop rest).map fun (marks, after) => (.link .or :: marks, after)
    | _ => none

/-- The text behind a leaf that it starts with. -/
def behindLeaf (written text : List Char) : Option (List Char) :=
  if written.isPrefixOf text then some (text.drop written.length) else none

def atEnd (text : List Char) : Option (List Char) :=
  if text.isEmpty then some [] else none

/-- The tokens of a text in which the leaves stand in this order, each as it is written. -/
def ofText? : List (α × List Char) → List Char → Option (List (Token α))
  | [], text => (marksUpTo atEnd text).map Prod.fst
  | (leaf, written) :: leaves, text =>
    (marksUpTo (behindLeaf written) text).bind fun (marks, rest) =>
      (ofText? leaves rest).map fun tokens => marks ++ .atom leaf :: tokens

example : ofText? [('x', "a".toList), ('y', "(b)".toList)] "a AND ((b))".toList =
    some [.atom 'x', .link .and, .opening, .atom 'y', .closing] := rfl

example : ofText? [('x', "a".toList), ('y', "b".toList)] "b OR a".toList = none := rfl

theorem marksUpTo_mark {stop : List Char → Option (List Char)} {mark : Token α}
    (hmark : mark.isMark = true) {text : List Char}
    (hstop : stop (mark.phrase.toList ++ text) = none) :
    marksUpTo stop (mark.phrase.toList ++ text) =
      (marksUpTo stop text).map fun (marks, after) => (mark :: marks, after) := by
  rw [marksUpTo.eq_def, hstop]
  cases mark with
  | atom => cases hmark
  | link connective => cases connective <;> simp [phrase]
  | opening | closing => simp [phrase]

/-- Whether a character can stand outside of leaves. -/
def isMarkChar (c : Char) : Bool := "() ANDOR".toList.contains c

theorem all_isMarkChar_phrase (token : Token α) : token.phrase.toList.all isMarkChar = true := by
  cases token with
  | link connective => cases connective <;> simp [phrase, isMarkChar]
  | _ => simp [phrase, isMarkChar]

theorem phrase_toList_ne_nil {mark : Token α} (h : mark.isMark = true) :
    mark.phrase.toList ≠ [] := by
  cases mark with
  | atom => cases h
  | link connective => cases connective <;> simp [phrase]
  | opening | closing => simp [phrase]

theorem takeWhile_append_of_all_eq_false {written : List Char} {p : Char → Bool}
    (h : written.all p = false) (rest : List Char) :
    (written ++ rest).takeWhile p = written.takeWhile p := by
  rw [List.takeWhile_append, if_neg]
  intro hlength
  have hall : written.takeWhile p = written := (List.takeWhile_prefix p).eq_of_length hlength
  rw [← hall, List.all_takeWhile] at h
  cases h

/-- A leaf does not start before its place: the text up to its first character that is none of
parentheses and connectives would be longer than it is. -/
theorem not_prefix_of_marks {marks written : List Char} (hmarks : marks.all isMarkChar = true)
    (hne : marks ≠ []) (hwritten : written.all isMarkChar = false) (rest : List Char) :
    ¬ written <+: marks ++ (written ++ rest) := by
  rintro ⟨more, htext⟩
  have hlead : written.takeWhile isMarkChar = marks ++ written.takeWhile isMarkChar :=
    calc written.takeWhile isMarkChar
        = (written ++ more).takeWhile isMarkChar :=
          (takeWhile_append_of_all_eq_false hwritten more).symm
      _ = (marks ++ (written ++ rest)).takeWhile isMarkChar := by rw [htext]
      _ = marks ++ (written ++ rest).takeWhile isMarkChar :=
          List.takeWhile_append_of_pos (List.all_eq_true.mp hmarks)
      _ = marks ++ written.takeWhile isMarkChar := by
          rw [takeWhile_append_of_all_eq_false hwritten]
  exact hne (List.self_eq_append_left.mp hlead)

/-- Tokens that are laid out as a text with these leaves, none of which is made of parentheses and
connectives only. -/
inductive Laid : List (Token α) → List (α × List Char) → List Char → Prop
  | nil : Laid [] [] []
  | atom {tokens : List (Token α)} {leaves : List (α × List Char)} {text : List Char} (leaf : α)
      {written : List Char} (hwritten : written.all isMarkChar = false)
      (rest : Laid tokens leaves text) :
      Laid (.atom leaf :: tokens) ((leaf, written) :: leaves) (written ++ text)
  | mark {tokens : List (Token α)} {leaves : List (α × List Char)} {text : List Char}
      {mark : Token α} (hmark : mark.isMark = true) (rest : Laid tokens leaves text) :
      Laid (mark :: tokens) leaves (mark.phrase.toList ++ text)

/-- What is looked for behind parentheses and connectives: the next leaf, or the end. -/
def stopOf : List (α × List Char) → List Char → Option (List Char)
  | [] => atEnd
  | (_, written) :: _ => behindLeaf written

namespace Laid

variable {tokens : List (Token α)} {leaves : List (α × List Char)} {text : List Char}

theorem stopOf_eq_none (h : Laid tokens leaves text) {marks : List Char}
    (hmarks : marks.all isMarkChar = true) (hne : marks ≠ []) :
    stopOf leaves (marks ++ text) = none := by
  induction h generalizing marks with
  | nil => simp [stopOf, atEnd, hne]
  | @atom _ _ text leaf written hwritten rest =>
    have hprefix := not_prefix_of_marks hmarks hne hwritten text
    rw [stopOf, behindLeaf, if_neg (by rwa [List.isPrefixOf_iff_prefix])]
  | @mark _ _ text mark hmark rest ih =>
    have hmore : (marks ++ mark.phrase.toList).all isMarkChar = true := by
      rw [List.all_append, hmarks, all_isMarkChar_phrase]
      rfl
    rw [← List.append_assoc]
    exact ih hmore (List.append_ne_nil_of_left_ne_nil hne _)

/-- Tokens are read off the text that they are laid out as. -/
theorem ofText?_eq (h : Laid tokens leaves text) : ofText? leaves text = some tokens := by
  induction h with
  | nil => rfl
  | @atom tokens leaves text leaf written hwritten rest ih =>
    have hstop : behindLeaf written (written ++ text) = some text := by
      rw [behindLeaf, if_pos (List.isPrefixOf_iff_prefix.mpr (List.prefix_append _ _)),
        List.drop_left]
    rw [ofText?, marksUpTo.eq_def, hstop]
    simp only [Option.bind_some, ih, Option.map_some, List.nil_append]
  | @mark tokens leaves text mark hmark rest ih =>
    have hnone := rest.stopOf_eq_none (all_isMarkChar_phrase mark) (phrase_toList_ne_nil hmark)
    cases leaves with
    | nil =>
      have hstop : atEnd (mark.phrase.toList ++ text) = none := hnone
      rw [ofText?, marksUpTo_mark hmark hstop, Option.map_map]
      rw [ofText?, Option.map_eq_some_iff] at ih
      obtain ⟨⟨marks, after⟩, hmarks, rfl⟩ := ih
      rw [hmarks]
      rfl
    | cons entry leaves =>
      have hstop : behindLeaf entry.2 (mark.phrase.toList ++ text) = none := hnone
      rw [ofText?, marksUpTo_mark hmark hstop, Option.bind_map]
      rw [ofText?, Option.bind_eq_some_iff] at ih
      obtain ⟨⟨marks, after⟩, hmarks, htokens⟩ := ih
      obtain ⟨more, hmore, rfl⟩ := Option.map_eq_some_iff.mp htokens
      rw [hmarks]
      simp [hmore]

end Laid

end Token

namespace Grouped

mutual

theorem atoms_tokens : (node : Grouped α) → Token.atoms node.tokens = node.leaves
  | .leaf a => by simp only [tokens, leaves, Token.atoms]
  | .group items => by
    simp only [tokens, leaves, List.cons_append, Token.atoms, Token.atoms_append, List.append_nil,
      atoms_tokensOf items true]

/-- The tokens of a level have all of its leaves. -/
theorem atoms_tokensOf : (items : List (Connective × Grouped α)) → (first : Bool) →
    Token.atoms (tokensOf first items) = leavesOf items
  | [], _ => by simp only [tokensOf, leavesOf, Token.atoms]
  | (connective, node) :: rest, first => by
    by_cases hempty : node = .group []
    · subst hempty
      simp only [tokensOf, leavesOf, leaves, List.nil_append]
      exact atoms_tokensOf rest first
    · simp only [tokensOf_cons hempty, leavesOf, Token.atoms_append, Token.atoms_link,
        List.nil_append, atoms_tokens node, atoms_tokensOf rest false]

end

end Grouped

end SqlDialects
