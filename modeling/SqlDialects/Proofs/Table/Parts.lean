import SqlDialects.Proofs.Identifier.Path
import SqlDialects.Proofs.Lexing.Spelling
import SqlDialects.Proofs.Result
import SqlDialects.Proofs.Text.Reading
import SqlDialects.Table.Plan

/-! The parts of statements that define tables, as they are read off their text: lists of names,
literals, and the definition of a column as its name, its type and the clauses behind them. In
quotes, a quote is written twice and every other character stands for itself, as in the dialect with
backslash escapes where these are turned off. -/

namespace SqlDialects

namespace Text.Reader

/-- The characters of a class that the text starts with. -/
def span (p : Char → Bool) : Reader (List Char) := fun text =>
  some (text.takeWhile p, text.dropWhile p)

/-- A text up to its closing quote. A quote that is written twice belongs to the text. -/
def insideQuotes : Reader (List Char)
  | [] => none
  | c :: rest =>
    if c = '\'' then
      match rest with
      | [] => some ([], [])
      | d :: more =>
        if d = '\'' then (insideQuotes more).map fun (text, after) => ('\'' :: text, after)
        else some ([], d :: more)
    else (insideQuotes rest).map fun (text, after) => (c :: text, after)

theorem span_append {p : Char → Bool} {text rest : List Char} (htext : ∀ c ∈ text, p c)
    (hrest : ∀ c ∈ rest.head?, p c = false) : span p (text ++ rest) = some (text, rest) := by
  have hstop : rest.takeWhile p = [] ∧ rest.dropWhile p = rest := by
    cases rest with
    | nil => exact ⟨rfl, rfl⟩
    | cons c more => simp [hrest c rfl]
  rw [span, List.takeWhile_append_of_pos htext, List.dropWhile_append_of_pos htext, hstop.1,
    hstop.2, List.append_nil]

theorem insideQuotes_cons_of_ne {c : Char} (h : c ≠ '\'') (rest : List Char) :
    insideQuotes (c :: rest) =
      (insideQuotes rest).map fun (text, after) => (c :: text, after) := by
  cases rest <;> simp [insideQuotes, h]

/-- A text with its quotes doubled is read back, unless a quote follows the closing one. -/
theorem insideQuotes_double (text : List Char) {rest : List Char} (hrest : '\'' ∉ rest.head?) :
    insideQuotes (Text.double '\'' text ++ '\'' :: rest) = some (text, rest) := by
  induction text with
  | nil =>
    cases rest with
    | nil => rfl
    | cons c more =>
      have hc : c ≠ '\'' := by simpa using hrest
      simp [insideQuotes, hc]
  | cons c text ih =>
    by_cases hc : c = '\''
    · subst hc
      simp [Text.double, insideQuotes, ih]
    · rw [Text.double, if_neg hc, List.cons_append, insideQuotes_cons_of_ne hc, ih]
      rfl

end Text.Reader

open Text.Reader

theorem Text.intercalate_append (separator : List Char) {first second : List (List Char)}
    (hfirst : first ≠ []) (hsecond : second ≠ []) :
    separator.intercalate (first ++ second) =
      separator.intercalate first ++ (separator ++ separator.intercalate second) := by
  induction first with
  | nil => exact absurd rfl hfirst
  | cons part first ih =>
    cases first with
    | nil =>
      obtain ⟨next, second, rfl⟩ := List.exists_cons_of_ne_nil hsecond
      rw [List.cons_append, List.nil_append, List.intercalate_cons_cons,
        List.intercalate_singleton, List.append_assoc]
    | cons next first =>
      rw [List.cons_append, List.cons_append, List.intercalate_cons_cons, ← List.cons_append,
        ih (List.cons_ne_nil next first), List.intercalate_cons_cons]
      simp only [List.append_assoc]

theorem Text.split_append_cons (separator : Char) (first second : List Char) :
    split separator (first ++ separator :: second) =
      split separator first ++ split separator second := by
  induction first with
  | nil => simp [split]
  | cons c first ih =>
    by_cases hc : c = separator
    · rw [List.cons_append, split, split, if_pos hc, if_pos hc, ih, List.cons_append]
    · rw [List.cons_append, split, split, if_neg hc, if_neg hc, ih]
      obtain ⟨run, runs, hruns⟩ := List.exists_cons_of_ne_nil (split_ne_nil separator first)
      rw [hruns]
      rfl

namespace Identifier

variable {dialect : Dialect} {rest : List Char}

/-- The path to something inside of something else. -/
theorem quote_dot (first second : String) :
    quote dialect (first ++ "." ++ second) =
      quote dialect first ++ "." ++ quote dialect second := by
  have hsplit : Text.split '.' (first ++ "." ++ second).toList =
      Text.split '.' first.toList ++ Text.split '.' second.toList := by
    rw [← Text.split_append_cons, String.toList_append, String.toList_append, List.append_assoc]
    rfl
  have hne (name : String) :
      (Text.split '.' name.toList).map (quotePart dialect) ≠ [] := fun h =>
    Text.split_ne_nil '.' name.toList (List.map_eq_nil_iff.mp h)
  apply String.toList_injective
  rw [quote, hsplit, List.map_append, Text.intercalate_append ['.'] (hne first) (hne second),
    String.toList_append, String.toList_append, quote, quote]
  simp only [String.toList_ofList, List.append_assoc]
  rfl

/-- The name that a path spells. -/
def readName (dialect : Dialect) : Text.Reader String := do
  return String.ofList (List.intercalate ['.'] ((← readPath dialect).map PathPart.text))

def readNextName (dialect : Dialect) : Text.Reader String := do
  expect ", "
  readName dialect

/-- Names with commas between them, up to a closing parenthesis. -/
def readNames (dialect : Dialect) : Text.Reader (List String) := do
  if ← takes ")" then return []
  let first ← readName dialect
  let others ← several (readNextName dialect)
  expect ")"
  return first :: others

theorem readName_quote (name : String) (hrest : EndsPath dialect rest) :
    readName dialect ((quote dialect name).toList ++ rest) = some (name, rest) := by
  have hname : String.ofList (List.intercalate ['.'] (name.toList.splitOn '.')) = name := by
    rw [List.intercalate_splitOn, String.ofList_toList]
  rw [readName, bind_of_eq (readPath_quote name hrest), map_text_pathPart, hname]
  rfl

theorem endsPath_blank (phrase : String) (h : phrase.toList.head? = some ' ') (rest : List Char) :
    EndsPath dialect (phrase.toList ++ rest) := by
  obtain ⟨more, hmore⟩ := List.head?_eq_some_iff.mp h
  rw [hmore]
  exact endsPath_cons (.inl rfl) _

/-- A parenthesis belongs to no bare part. -/
theorem takes_paren_quote (name : String) (hrest : EndsPath dialect rest) :
    takes ")" ((quote dialect name).toList ++ rest) =
      some (false, (quote dialect name).toList ++ rest) := by
  refine takes_quote_of_readPath name hrest fun more hread => ?_
  have hnone : readPath dialect (")".toList ++ more) = none := by cases dialect <;> rfl
  cases hnone.symm.trans hread

theorem readNextName_quote (name : String) (hrest : EndsPath dialect rest) :
    readNextName dialect (", ".toList ++ (quote dialect name).toList ++ rest) =
      some (name, rest) := by
  rw [List.append_assoc, readNextName, bind_of_eq (expect_append ", " _)]
  exact readName_quote name hrest

/-- A list of names is read back. -/
theorem readNames_quoteList (names : List String) (rest : List Char) :
    readNames dialect ((quoteList dialect names).toList ++ (")".toList ++ rest)) =
      some (names, rest) := by
  cases names with
  | nil =>
    show readNames dialect (")".toList ++ rest) = _
    rw [readNames, ite_takes_append]
    rfl
  | cons name names =>
    have hends (others : List String) : EndsPath dialect
        (others.flatMap (fun name => ", ".toList ++ (quote dialect name).toList) ++
          (")".toList ++ rest)) := by
      cases others with
      | nil => exact endsPath_cons (.inr (.inr rfl)) rest
      | cons _ _ => exact endsPath_cons (.inr (.inl rfl)) _
    have htext : (quoteList dialect (name :: names)).toList ++ (")".toList ++ rest) =
        (quote dialect name).toList ++
          (names.flatMap (fun name => ", ".toList ++ (quote dialect name).toList) ++
            (")".toList ++ rest)) := by
      rw [quoteList, List.map_cons, Text.toList_join_cons, List.flatMap_map, List.append_assoc]
    have hothers : several (readNextName dialect)
        (names.flatMap (fun name => ", ".toList ++ (quote dialect name).toList) ++
          (")".toList ++ rest)) = some (names.map id, ")".toList ++ rest) := by
      refine several_append (fun _ _ => List.cons_ne_nil _ _) ?_ ?_
      · intro before other after _
        exact readNextName_quote other (hends after)
      · exact expect_bind_of_not_isPrefixOf rfl
    rw [htext, readNames, ite_takes_of_missed (takes_paren_quote name (hends names)),
      bind_of_eq (readName_quote name (hends names)), bind_of_eq hothers, List.map_id,
      bind_of_eq (expect_append ")" rest)]
    rfl

end Identifier

/-- Whether a word or a literal can end in front of a text. -/
def EndsPart (rest : List Char) : Prop :=
  ∀ c ∈ rest.head?, c = ' ' ∨ c = '(' ∨ c = ',' ∨ c = '\n'

/-- A value as it is written in a definition. -/
inductive Literal where
  /-- A key word or a number. -/
  | word (text : List Char)
  | quoted (text : List Char)
  | bytes (digits : List Char)
deriving DecidableEq, Repr

namespace Literal

def isWordChar (c : Char) : Bool := c.isAlphanum || c = '.' || c = '-'

def read : Text.Reader Literal := do
  if ← takes "'" then return .quoted (← insideQuotes)
  if ← takes "X'" then return .bytes (← insideQuotes)
  return .word (← span isWordChar)

def toText : Literal → List Char
  | word text => text
  | quoted text => '\'' :: (Text.double '\'' text ++ ['\''])
  | bytes digits => 'X' :: '\'' :: (Text.double '\'' digits ++ ['\''])

/-- Whether the literal, if it is a word, has no other characters in it than words have. -/
def IsPlain : Literal → Prop
  | word text => ∀ c ∈ text, isWordChar c
  | _ => True

end Literal

/-- The literal of a value. -/
def Value.written (dialect : Dialect) : Value → Literal
  | .string s => .quoted s.toList
  | .bytes content => .bytes (content.flatMap Text.hexPair)
  | .timestamp t => .quoted t.sqlText
  | value => .word (value.literal dialect).toList

section

variable {rest : List Char}

theorem EndsPart.quote_notMem (h : EndsPart rest) : '\'' ∉ rest.head? := fun hquote =>
  absurd (h '\'' hquote) (by decide)

theorem EndsPart.isWordChar_eq_false (h : EndsPart rest) :
    ∀ c ∈ rest.head?, Literal.isWordChar c = false := by
  intro c hc
  rcases h c hc with rfl | rfl | rfl | rfl <;> decide

namespace Literal

theorem isWordChar_of_isDigit {c : Char} (h : c.isDigit) : isWordChar c := by
  simp [isWordChar, Char.isAlphanum, h]

/-- A word holds no quote, so it starts neither a text nor bytes. -/
theorem takes_opening_word (opening : String) {text : List Char}
    (hopening : ∀ c ∈ opening.toList, c = 'X' ∨ c = '\'') (hquote : '\'' ∈ opening.toList)
    (htext : ∀ c ∈ text, isWordChar c) (hrest : EndsPart rest) :
    takes opening (text ++ rest) = some (false, text ++ rest) := by
  have hnone : '\'' ∉ text := fun hmem => absurd (htext '\'' hmem) (by decide)
  apply takes_of_not_isPrefixOf
  rw [← Bool.not_eq_true, List.isPrefixOf_iff_prefix]
  intro hprefix
  rcases List.prefix_or_prefix_of_prefix hprefix (List.prefix_append text rest) with h | h
  · exact hnone (h.subset hquote)
  · obtain ⟨more, hmore⟩ := h
    rw [← hmore, List.prefix_append_right_inj] at hprefix
    cases more with
    | nil => exact hnone (by rwa [← hmore, List.append_nil] at hquote)
    | cons c more =>
      obtain ⟨after, rfl⟩ := hprefix
      have hc := hopening c (hmore ▸ List.mem_append_right text List.mem_cons_self)
      rcases hrest c rfl with rfl | rfl | rfl | rfl <;> exact absurd hc (by decide)

theorem read_word {text : List Char} (htext : ∀ c ∈ text, isWordChar c) (hrest : EndsPart rest) :
    read (text ++ rest) = some (.word text, rest) := by
  have htexts := takes_opening_word "'" (by simp) (by simp) htext hrest
  have hbytes := takes_opening_word "X'" (by simp) (by simp) htext hrest
  rw [read, ite_takes_of_missed htexts, ite_takes_of_missed hbytes,
    bind_of_eq (span_append htext hrest.isWordChar_eq_false)]
  rfl

/-- A literal is read back. -/
theorem read_toText {literal : Literal} (h : literal.IsPlain) (hrest : EndsPart rest) :
    read (literal.toText ++ rest) = some (literal, rest) := by
  cases literal with
  | word text => exact read_word h hrest
  | quoted text =>
    have htext : (quoted text).toText ++ rest =
        "'".toList ++ (Text.double '\'' text ++ '\'' :: rest) := by simp [toText]
    rw [htext, read, ite_takes_append, bind_of_eq (insideQuotes_double text hrest.quote_notMem)]
    rfl
  | bytes digits =>
    have htext : (bytes digits).toText ++ rest =
        "X'".toList ++ (Text.double '\'' digits ++ '\'' :: rest) := by simp [toText]
    have hquote : takes "'" ("X'".toList ++ (Text.double '\'' digits ++ '\'' :: rest)) =
        some (false, "X'".toList ++ (Text.double '\'' digits ++ '\'' :: rest)) :=
      takes_of_not_isPrefixOf rfl
    rw [htext, read, ite_takes_of_missed hquote, ite_takes_append,
      bind_of_eq (insideQuotes_double digits hrest.quote_notMem)]
    rfl

end Literal

end

namespace Value

theorem toText_written (dialect : Dialect) (value : Value) :
    (value.written dialect).toText = (value.literal dialect).toList := by
  cases value with
  | string s => simp [written, Literal.toText, literal, quoteString]
  | timestamp t => simp [written, Literal.toText, literal, quoteString]
  | bytes content =>
    have hquote : '\'' ∉ content.flatMap Text.hexPair := fun hmem => by
      obtain ⟨byte, -, hbyte⟩ := List.mem_flatMap.mp hmem
      exact Text.not_mem_hexPair (.inr rfl) hbyte
    simp [written, Literal.toText, literal, double_of_not_mem hquote]
  | _ => rfl

/-- A double is written in digits, with a sign and a point at most. -/
theorem isWordChar_of_mem_write {x : Double} {c : Char}
    (h : c ∈ (NumberLayout.plain.write x).toList) : Literal.isWordChar c := by
  have hdigits {digits : List Char} {point : Int} (hall : ∀ d ∈ digits, d.isDigit)
      (h : c ∈ NumberLayout.plain.positional digits point) : Literal.isWordChar c := by
    rcases NumberLayout.mem_positional h with h | rfl | rfl
    · exact Literal.isWordChar_of_isDigit (hall c h)
    · decide
    · decide
  rw [NumberLayout.write, String.toList_ofList] at h
  rcases List.mem_append.mp h with h | h
  · split at h
    · rw [List.mem_singleton.mp h]
      decide
    · exact absurd h List.not_mem_nil
  · split at h
    · exact hdigits (fun d hd => by rw [List.mem_singleton.mp hd]; decide) h
    · exact hdigits (fun d hd => Text.isDigit_of_mem_toDigits hd) h

theorem isPlain_written (dialect : Dialect) (value : Value) : (value.written dialect).IsPlain := by
  cases value with
  | null => exact List.all_eq_true.mp (rfl : "NULL".toList.all Literal.isWordChar = true)
  | bool b => cases dialect <;> cases b <;> exact List.all_eq_true.mp rfl
  | int n =>
    show ∀ c ∈ (toString n.toInt).toList, Literal.isWordChar c
    intro c hc
    cases hn : n.toInt with
    | ofNat n =>
      rw [hn, Text.toList_toString_ofNat] at hc
      exact Literal.isWordChar_of_isDigit (Text.isDigit_of_mem_toDigits hc)
    | negSucc n =>
      rw [hn, Text.toList_toString_negSucc] at hc
      rcases List.mem_cons.mp hc with rfl | hc
      · decide
      · exact Literal.isWordChar_of_isDigit (Text.isDigit_of_mem_toDigits hc)
  | float x => exact fun c hc => isWordChar_of_mem_write hc
  | _ => trivial

end Value

end SqlDialects
