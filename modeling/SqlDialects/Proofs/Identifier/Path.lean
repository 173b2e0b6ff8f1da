import SqlDialects.Identifier
import SqlDialects.Proofs.Text.Reading
import SqlDialects.Text.Reader

/-! Paths as a dialect reads them: parts with dots between them, each of them a star, a bare word or
a text between delimiters. Every name reads back as the path of its parts, whatever they are made
of, so no two names are written alike. -/

namespace SqlDialects.Identifier

/-- A part of a path as it is read. -/
inductive PathPart where
  | star
  | word (text : List Char)
  | delimited (text : List Char)
deriving DecidableEq, Repr

/-- The name that a part stands for. -/
def PathPart.text : PathPart → List Char
  | star => ['*']
  | word text => text
  | delimited text => text

/-- A letter or an underscore that no folding of case changes. -/
def isWordStart (dialect : Dialect) (c : Char) : Bool :=
  (c.isAlpha || c = '_') && !(foldsCase dialect && c.isUpper)

def isWordChar (dialect : Dialect) (c : Char) : Bool := isWordStart dialect c || c.isDigit

/-- What the reader of a path is at when it comes to a character. -/
inductive PathMode where
  | start
  | star
  | word (text : List Char)
  | inside (text : List Char)
  /-- Behind a closing delimiter, the first of two if another one follows. -/
  | closed (text : List Char)
deriving DecidableEq, Repr

namespace PathMode

/-- The mode after a character that belongs to the same part. -/
def extend? (dialect : Dialect) : PathMode → Char → Option PathMode
  | start, c =>
    if c = '*' then some star
    else if isWordStart dialect c then some (word [c])
    else if c = (delimiters dialect).1 then some (inside [])
    else none
  | star, _ => none
  | word text, c => if isWordChar dialect c then some (word (text ++ [c])) else none
  | inside text, c =>
    if c = (delimiters dialect).2 then some (closed text) else some (inside (text ++ [c]))
  | closed text, c => if c = (delimiters dialect).2 then some (inside (text ++ [c])) else none

/-- The part that may end here. -/
def ended? : PathMode → Option PathPart
  | start => none
  | star => some .star
  | word text => some (.word text)
  | inside _ => none
  | closed text => some (.delimited text)

end PathMode

/-- The parts of a path that is being read, and what follows it. -/
def readPathFrom (dialect : Dialect) : PathMode → Text.Reader (List PathPart)
  | mode, [] => mode.ended?.map fun part => ([part], [])
  | mode, c :: rest =>
    match mode.extend? dialect c with
    | some next => readPathFrom dialect next rest
    | none =>
      match mode.ended? with
      | none => none
      | some part =>
        if c = '.' then
          (readPathFrom dialect .start rest).map fun (parts, after) => (part :: parts, after)
        else some ([part], c :: rest)

/-- The longest path at the front of a text. -/
def readPath (dialect : Dialect) : Text.Reader (List PathPart) := readPathFrom dialect .start

example : readPath .sqlServer "a.[b]].c].* = 1".toList =
    some ([.word ['a'], .delimited ['b', ']', '.', 'c'], .star], [' ', '=', ' ', '1']) := by
  decide

/-- Whether a path does not go on with a text. -/
def EndsPath (dialect : Dialect) (rest : List Char) : Prop :=
  ∀ c ∈ rest.head?, c ≠ '.' ∧ isWordChar dialect c = false ∧ c ≠ (delimiters dialect).2

theorem endsPath_nil (dialect : Dialect) : EndsPath dialect [] := fun _ h => by cases h

/-- A part of a name, as it is read. -/
def pathPart (dialect : Dialect) (part : List Char) : PathPart :=
  if part = ['*'] then .star
  else if needsQuotes dialect part then .delimited part
  else .word part

theorem text_pathPart (dialect : Dialect) (part : List Char) :
    (pathPart dialect part).text = part := by
  unfold pathPart
  split
  case isTrue h => exact h.symm
  case isFalse => split <;> rfl

/-- A word that is reserved is never bare. -/
theorem not_isReserved_of_pathPart {dialect : Dialect} {part word : List Char}
    (h : pathPart dialect part = .word word) : isReserved word = false := by
  unfold pathPart at h
  split at h
  case isTrue => cases h
  case isFalse =>
    split at h
    case isTrue => cases h
    case isFalse hquotes =>
      cases h
      simp only [needsQuotes, Bool.or_eq_true, not_or] at hquotes
      simpa using hquotes.1.1.1.2

/-- The mode behind a part. -/
def PathPart.mode : PathPart → PathMode
  | star => .star
  | word text => .word text
  | delimited text => .closed text

theorem PathPart.ended?_mode (part : PathPart) : part.mode.ended? = some part := by
  cases part <;> rfl

section

variable {dialect : Dialect} {text part rest : List Char}

theorem readPathFrom_of_extend? {mode next : PathMode} {c : Char}
    (h : mode.extend? dialect c = some next) :
    readPathFrom dialect mode (c :: rest) = readPathFrom dialect next rest := by
  rw [readPathFrom, h]

/-- A bare word goes on as long as there are characters of words. -/
theorem readPathFrom_word (h : ∀ c ∈ part, isWordChar dialect c) :
    readPathFrom dialect (.word text) (part ++ rest) =
      readPathFrom dialect (.word (text ++ part)) rest := by
  induction part generalizing text with
  | nil => simp
  | cons c part ih =>
    obtain ⟨hc, hpart⟩ := List.forall_mem_cons.mp h
    have hextend : PathMode.extend? dialect (.word text) c = some (.word (text ++ [c])) :=
      if_pos hc
    rw [List.cons_append, readPathFrom_of_extend? hextend, ih hpart, List.append_assoc]
    rfl

/-- Inside delimiters, a text with its closing delimiter doubled is read as the text. -/
theorem readPathFrom_inside :
    readPathFrom dialect (.inside text)
        (Text.double (delimiters dialect).2 part ++ (delimiters dialect).2 :: rest) =
      readPathFrom dialect (.closed (text ++ part)) rest := by
  have hclose (text : List Char) :
      PathMode.extend? dialect (.inside text) (delimiters dialect).2 = some (.closed text) :=
    if_pos rfl
  induction part generalizing text with
  | nil =>
    rw [Text.double_nil, List.nil_append, List.append_nil, readPathFrom_of_extend? (hclose text)]
  | cons c part ih =>
    by_cases hc : c = (delimiters dialect).2
    · subst hc
      have hagain : PathMode.extend? dialect (.closed text) (delimiters dialect).2 =
          some (.inside (text ++ [(delimiters dialect).2])) := if_pos rfl
      rw [Text.double, if_pos rfl, List.cons_append, List.cons_append,
        readPathFrom_of_extend? (hclose text), readPathFrom_of_extend? hagain, ih,
        List.append_assoc]
      rfl
    · have hinside : PathMode.extend? dialect (.inside text) c = some (.inside (text ++ [c])) :=
        if_neg hc
      rw [Text.double, if_neg hc, List.cons_append, readPathFrom_of_extend? hinside, ih,
        List.append_assoc]
      rfl

/-- A part that needs no quotes is a word. -/
theorem isWord_of_not_needsQuotes (h : needsQuotes dialect part = false) :
    ∃ c tail, part = c :: tail ∧ isWordStart dialect c ∧ ∀ d ∈ tail, isWordChar dialect d := by
  simp only [needsQuotes, Bool.or_eq_false_iff, List.isEmpty_eq_false_iff] at h
  obtain ⟨⟨⟨⟨hne, -⟩, hbare⟩, hdigit⟩, hfold⟩ := h
  have hchar : ∀ d ∈ part, isWordChar dialect d := by
    intro d hd
    have hd' : isBareChar d := by simpa using List.any_eq_false.mp hbare d hd
    have hupper : (foldsCase dialect && d.isUpper) = false := by
      cases hfolds : foldsCase dialect with
      | false => rfl
      | true =>
        rw [hfolds] at hfold
        simpa using List.any_eq_false.mp hfold d hd
    simp only [isBareChar, Char.isAlphanum, Bool.or_eq_true] at hd'
    simp only [isWordChar, isWordStart, hupper]
    grind
  obtain ⟨c, tail, rfl⟩ := List.exists_cons_of_ne_nil hne
  obtain ⟨hc, htail⟩ := List.forall_mem_cons.mp hchar
  have hdigit' : c.isDigit = false := hdigit
  exact ⟨c, tail, rfl, by simpa [isWordChar, hdigit'] using hc, htail⟩

/-- A part as it is written takes the reader behind it. -/
theorem readPathFrom_quotePart :
    readPathFrom dialect .start (quotePart dialect part ++ rest) =
      readPathFrom dialect (pathPart dialect part).mode rest := by
  unfold quotePart pathPart
  by_cases hstar : part = ['*']
  · subst hstar
    rfl
  cases hquotes : needsQuotes dialect part with
  | true =>
    have hopen : PathMode.extend? dialect .start (delimiters dialect).1 = some (.inside []) := by
      cases dialect <;> rfl
    rw [if_neg (by simp [hstar]), if_neg hstar, if_pos rfl]
    simp only [delimit, List.cons_append, List.append_assoc, List.nil_append]
    rw [readPathFrom_of_extend? hopen, readPathFrom_inside]
    rfl
  | false =>
    obtain ⟨c, tail, rfl, hc, htail⟩ := isWord_of_not_needsQuotes hquotes
    have hne : c ≠ '*' := by
      rintro rfl
      exact absurd hc (by simp [isWordStart])
    have hstart : PathMode.extend? dialect .start c = some (.word [c]) := by
      rw [PathMode.extend?, if_neg hne, if_pos hc]
    rw [if_pos (.inr rfl), if_neg hstar, if_neg Bool.false_ne_true, List.cons_append,
      readPathFrom_of_extend? hstart, readPathFrom_word htail]
    rfl

theorem extend?_mode_eq_none {c : Char} (hword : isWordChar dialect c = false)
    (hclosing : c ≠ (delimiters dialect).2) (part : PathPart) :
    part.mode.extend? dialect c = none := by
  cases part <;> simp [PathPart.mode, PathMode.extend?, hword, hclosing]

theorem readPathFrom_of_endsPath (h : EndsPath dialect rest) (part : PathPart) :
    readPathFrom dialect part.mode rest = some ([part], rest) := by
  cases rest with
  | nil => rw [readPathFrom, part.ended?_mode, Option.map_some]
  | cons c rest =>
    obtain ⟨hdot, hword, hclosing⟩ := h c rfl
    simp only [readPathFrom, extend?_mode_eq_none hword hclosing, part.ended?_mode, if_neg hdot]

theorem readPathFrom_dot (part : PathPart) :
    readPathFrom dialect part.mode ('.' :: rest) =
      (readPathFrom dialect .start rest).map fun (parts, after) => (part :: parts, after) := by
  have hword : isWordChar dialect '.' = false := by cases dialect <;> decide
  have hclosing : '.' ≠ (delimiters dialect).2 := by cases dialect <;> decide
  simp only [readPathFrom, extend?_mode_eq_none hword hclosing, part.ended?_mode, if_true]

/-- Parts with dots between them are read one after the other. -/
theorem readPath_intercalate {parts : List (List Char)} (hparts : parts ≠ [])
    (hrest : EndsPath dialect rest) :
    readPath dialect (List.intercalate ['.'] (parts.map (quotePart dialect)) ++ rest) =
      some (parts.map (pathPart dialect), rest) := by
  induction parts with
  | nil => exact absurd rfl hparts
  | cons part parts ih =>
    cases parts with
    | nil =>
      rw [List.map_singleton, List.intercalate_singleton, readPath, readPathFrom_quotePart,
        readPathFrom_of_endsPath hrest]
      rfl
    | cons next parts =>
      have hnext := ih (List.cons_ne_nil next parts)
      rw [readPath, List.map_cons] at hnext
      rw [List.map_cons, List.map_cons, List.intercalate_cons_cons, readPath, List.append_assoc,
        List.append_assoc, readPathFrom_quotePart, List.singleton_append, readPathFrom_dot, hnext]
      rfl

end

theorem split_eq_splitOn (separator : Char) (text : List Char) :
    Text.split separator text = text.splitOn separator := by
  induction text with
  | nil => rw [Text.split, List.splitOn_nil]
  | cons c rest ih =>
    rw [List.splitOn, List.splitOnP_cons_eq_if_modifyHead, ← List.splitOn, Text.split, ih]
    by_cases h : c = separator
    · rw [if_pos h, if_pos (by simpa using h)]
    · rw [if_neg h, if_neg (by simpa using h)]
      obtain ⟨run, runs, hruns⟩ :=
        List.exists_cons_of_ne_nil (ih ▸ Text.split_ne_nil separator rest)
      rw [hruns]
      rfl

theorem readPath_quote (name : String) {rest : List Char} {dialect : Dialect}
    (hrest : EndsPath dialect rest) :
    readPath dialect ((quote dialect name).toList ++ rest) =
      some ((name.toList.splitOn '.').map (pathPart dialect), rest) := by
  rw [quote, String.toList_ofList, split_eq_splitOn]
  exact readPath_intercalate (split_eq_splitOn '.' _ ▸ Text.split_ne_nil '.' _) hrest

section

variable {dialect : Dialect} {rest : List Char}

/-- What ends a path in every dialect. -/
theorem endsPath_cons {c : Char} (h : c = ' ' ∨ c = ',' ∨ c = ')') (rest : List Char) :
    EndsPath dialect (c :: rest) := by
  intro d hd
  cases hd
  rcases h with rfl | rfl | rfl <;> cases dialect <;> decide

/-- No name starts like a text in front of which no path stands. -/
theorem takes_quote_of_readPath {phrase : String} (name : String) (hrest : EndsPath dialect rest)
    (h : ∀ more, readPath dialect (phrase.toList ++ more) ≠
      some ((name.toList.splitOn '.').map (pathPart dialect), rest)) :
    Text.Reader.takes phrase ((quote dialect name).toList ++ rest) =
      some (false, (quote dialect name).toList ++ rest) := by
  apply Text.Reader.takes_of_not_isPrefixOf
  rw [← Bool.not_eq_true, List.isPrefixOf_iff_prefix]
  rintro ⟨more, hmore⟩
  apply h more
  rw [hmore]
  exact readPath_quote name hrest

/-- No name is written like a reserved word in capitals with a blank behind it. -/
theorem takes_reserved_quote {phrase : String} (word : List Char) (name : String)
    (hrest : EndsPath dialect rest) (hreserved : isReserved word)
    (hphrase : ∀ more, readPath dialect (phrase.toList ++ more) = none ∨
      ∃ after, readPath dialect (phrase.toList ++ more) = some ([.word word], after)) :
    Text.Reader.takes phrase ((quote dialect name).toList ++ rest) =
      some (false, (quote dialect name).toList ++ rest) := by
  refine takes_quote_of_readPath name hrest fun more hread => ?_
  rcases hphrase more with hnone | ⟨after, hword⟩
  · cases hnone.symm.trans hread
  · have hparts := (Prod.mk.inj (Option.some.inj (hword.symm.trans hread))).1
    obtain ⟨part, -, hpart⟩ := List.mem_map.mp (hparts ▸ List.mem_singleton_self _)
    cases hreserved.symm.trans (not_isReserved_of_pathPart hpart)

end

theorem map_text_pathPart (dialect : Dialect) (parts : List (List Char)) :
    (parts.map (pathPart dialect)).map PathPart.text = parts := by
  rw [List.map_map]
  exact List.map_id'' (text_pathPart dialect) _

/-- Every name reads back as the path of its parts, which are what stands between its dots, alone
and in front of any text that a path does not go on with. A reserved word is not bare in it,
whatever its case. So names that are written alike are the same. -/
theorem path_reads_back (dialect : Dialect) :
    (∀ name, ∃ parts,
      (readPath dialect).readAll (quote dialect name).toList = some parts ∧
      (∀ rest, EndsPath dialect rest →
        readPath dialect ((quote dialect name).toList ++ rest) = some (parts, rest)) ∧
      parts.map PathPart.text = name.toList.splitOn '.' ∧
      ∀ word, .word word ∈ parts → String.ofList (word.map Char.toLower) ∉ reservedWords) ∧
    Function.Injective (quote dialect) := by
  have halone (name : String) : readPath dialect (quote dialect name).toList =
      some ((name.toList.splitOn '.').map (pathPart dialect), []) := by
    have h := readPath_quote name (endsPath_nil dialect)
    rwa [List.append_nil] at h
  refine ⟨fun name => ⟨_, ?_, fun rest => readPath_quote name, map_text_pathPart dialect _, ?_⟩, ?_⟩
  · rw [Text.Reader.readAll, StateT.run, halone]
  · intro word hword
    obtain ⟨part, _, hpart⟩ := List.mem_map.mp hword
    simpa [isReserved] using not_isReserved_of_pathPart hpart
  · intro first second h
    have hsame := halone first
    rw [h, halone second] at hsame
    have hparts := congrArg (fun read => read.map fun (parts, _) => parts.map PathPart.text) hsame
    simp only [Option.map_some, map_text_pathPart, Option.some.injEq] at hparts
    apply String.toList_injective
    calc first.toList
        = ['.'].intercalate (first.toList.splitOn '.') := (List.intercalate_splitOn '.').symm
      _ = ['.'].intercalate (second.toList.splitOn '.') := by rw [hparts]
      _ = second.toList := List.intercalate_splitOn '.'

/-- A reserved word in capitals, a closing delimiter and a star, in front of a comparison. -/
theorem path_reads_back_of_reserved :
    quote .sqlServer "Order.a]b.*" = "[Order].[a]]b].*" ∧ EndsPath .sqlServer [' ', '=', ' ', '1'] ∧
    ∃ parts, readPath .sqlServer ("[Order].[a]]b].*".toList ++ [' ', '=', ' ', '1']) =
        some (parts, [' ', '=', ' ', '1']) ∧
      parts.map PathPart.text = [['O', 'r', 'd', 'e', 'r'], ['a', ']', 'b'], ['*']] := by
  have hends : EndsPath .sqlServer [' ', '=', ' ', '1'] := by
    simp [EndsPath, isWordChar, isWordStart, delimiters]
  have hquote : quote .sqlServer "Order.a]b.*" = "[Order].[a]]b].*" := by rfl
  obtain ⟨parts, -, hread, htexts, -⟩ := (path_reads_back .sqlServer).1 "Order.a]b.*"
  refine ⟨hquote, hends, parts, ?_, htexts.trans (by rfl)⟩
  rw [← hquote]
  exact hread _ hends

end SqlDialects.Identifier
