import SqlDialects.Proofs.Lexing.Spelling
import SqlDialects.Proofs.Sql.Template
import SqlDialects.Query.Render

/-! The placeholders that are read in SQL. Each is a lexeme by itself as long as a break stands
behind it, so the placeholders of SQL that is put together are those of its parts, one after the
other. -/

namespace SqlDialects

/-- The number that a placeholder shows. -/
def Dialect.shownNumber : Dialect → Nat → Option Nat
  | .mysql, _ | .sqlite, _ => none
  | .postgres, n | .sqlServer, n => some n

/-- The placeholders that are read in a text, by the numbers that they show. -/
def placeholders? (dialect : Dialect) (text : String) : Option (List (Option Nat)) :=
  (lex dialect text).map (List.filterMap Lexeme.placeholder?)

/-- From any number on, the placeholders that are read are those of the values. -/
def Numbered (dialect : Dialect) (sql : Sql) : Prop :=
  ∀ next, placeholders? dialect (sql.write dialect next) =
    some ((List.range' next sql.values.length).map dialect.shownNumber)

/-- SQL that may stand behind any other. -/
structure NumberedBehind (dialect : Dialect) (sql : Sql) : Prop where
  numbered : Numbered dialect sql
  startsApart : ∀ next, StartsApart (sql.write dialect next).toList

section

variable {dialect : Dialect} {first second sql : Sql}

theorem placeholders?_append {text more : String} {numbers others : List (Option Nat)}
    (htext : placeholders? dialect text = some numbers)
    (hmore : placeholders? dialect more = some others)
    (hapart : EndsApart text.toList ∨ StartsApart more.toList) :
    placeholders? dialect (text ++ more) = some (numbers ++ others) := by
  obtain ⟨lexemes, hlex, rfl⟩ := Option.map_eq_some_iff.mp htext
  obtain ⟨lexemes', hlex', rfl⟩ := Option.map_eq_some_iff.mp hmore
  have happend : lex dialect (text ++ more) = some (lexemes ++ lexemes') := by
    rw [lex, String.toList_append]
    exact lexFrom_append hlex hlex' hapart
  rw [placeholders?, happend, Option.map_some, List.filterMap_append]

theorem placeholders?_of_inert {text : String} (h : Inert dialect text) :
    placeholders? dialect text = some [] := by
  obtain ⟨lexemes, more, hlex, -, hmatches⟩ := h
  have hnone : lexemes.filterMap Lexeme.placeholder? = [] := by
    clear hlex
    induction hmatches with
    | nil => rfl
    | cons hhead _ ih =>
      cases hhead with
      | same hnone => rw [List.filterMap_cons, hnone, ih]
      | text h => exact h.elim
  rw [placeholders?, hlex, Option.map_some, hnone]

theorem lexFrom_sign_digits (h : dialect.numbersSigns) {before digits : List Char}
    (hdigits : ∀ c ∈ digits, c.isDigit) :
    lexFrom dialect (.sign before) digits = some [.ofSign dialect (before ++ digits)] := by
  induction digits generalizing before with
  | nil => simp [lexFrom, LexerMode.ended?]
  | cons c rest ih =>
    obtain ⟨hc, hrest⟩ := List.forall_mem_cons.mp hdigits
    simp only [lexFrom, LexerMode.extend?, h, hc, Bool.and_true, if_true]
    rw [ih hrest, List.append_assoc]
    rfl

theorem lexFrom_word_digits {before digits : List Char} (hdigits : ∀ c ∈ digits, c.isDigit) :
    lexFrom dialect (.word before) digits = some [.ofWord (before ++ digits)] := by
  induction digits generalizing before with
  | nil => simp [lexFrom, LexerMode.ended?]
  | cons c rest ih =>
    obtain ⟨hc, hrest⟩ := List.forall_mem_cons.mp hdigits
    have hcontinues : dialect.continuesWord c := by
      simp [Dialect.continuesWord, Dialect.startsWord, Char.isAlphanum, hc]
    simp only [lexFrom, LexerMode.extend?, hcontinues, if_true]
    rw [ih hrest, List.append_assoc]
    rfl

/-- A placeholder by itself is one lexeme, which shows its number. -/
theorem placeholders?_placeholder (dialect : Dialect) (n : Nat) :
    placeholders? dialect (dialect.placeholder n) = some [dialect.shownNumber n] := by
  obtain ⟨c, rest, htext, hc⟩ := Text.exists_toDigits_eq_cons n
  have hdigits : ∀ d ∈ c :: rest, d.isDigit := fun d hd =>
    Text.isDigit_of_mem_toDigits (htext ▸ hd)
  have hvalue : Text.decimalValue (c :: rest) = n := by
    rw [← htext, Text.decimalValue_toDigits]
  have hnumber : (toString n).toList = c :: rest := by
    rw [Nat.toString_eq_ofList_toDigits, String.toList_ofList, htext]
  cases dialect with
  | mysql =>
    have hsign : placeholders? .mysql "?" = some [none] := by decide
    exact hsign
  | sqlite =>
    have hsign : placeholders? .sqlite "?" = some [none] := by decide
    exact hsign
  | postgres =>
    have hlist : (Dialect.postgres.placeholder n).toList = '$' :: c :: rest := by
      rw [Dialect.placeholder, String.toList_append, hnumber]
      rfl
    have hlex : lexFrom .postgres (.sign []) (c :: rest) = some [.placeholder (some n)] := by
      rw [lexFrom_sign_digits rfl hdigits, List.nil_append, Lexeme.ofSign, hvalue]
    have hbegin : beginLexeme .postgres '$' = ([], .sign []) := by decide
    rw [placeholders?, lex, hlist, lexFrom]
    simp only [LexerMode.extend?, LexerMode.ended?, hbegin, hlex]
    rfl
  | sqlServer =>
    have hlist : (Dialect.sqlServer.placeholder n).toList = '@' :: 'p' :: c :: rest := by
      rw [Dialect.placeholder, String.toList_append, hnumber]
      rfl
    have hall : (c :: rest).all Char.isDigit := List.all_eq_true.mpr hdigits
    have hlex : lexFrom .sqlServer (.word ['@', 'p']) (c :: rest) =
        some [.placeholder (some n)] := by
      rw [lexFrom_word_digits hdigits]
      simp only [List.cons_append, List.nil_append, Lexeme.ofWord, hall, if_true, hvalue]
    have hbegin : beginLexeme .sqlServer '@' = ([], .word ['@']) := by decide
    have hp : Dialect.sqlServer.continuesWord 'p' := by decide
    rw [placeholders?, lex, hlist, lexFrom]
    simp only [LexerMode.extend?, LexerMode.ended?, hbegin]
    rw [lexFrom]
    simp only [LexerMode.extend?, hp, if_true, List.cons_append, List.nil_append, hlex]
    rfl

namespace Numbered

theorem nil : Numbered dialect [] := fun _ => placeholders?_of_inert .empty

theorem text {s : String} (h : Inert dialect s) : Numbered dialect (Sql.text s) := by
  intro next
  rw [Sql.write_text, placeholders?_of_inert h]
  rfl

theorem bind (v : Value) : Numbered dialect [.bind v] := by
  intro next
  have hwrite : Sql.write dialect next [.bind v] = dialect.placeholder next := String.append_empty
  rw [hwrite, placeholders?_placeholder]
  rfl

theorem append (h : Numbered dialect first) (hnext : Numbered dialect second)
    (hapart : ∀ next after, EndsApart (first.write dialect next).toList ∨
      StartsApart (second.write dialect after).toList) : Numbered dialect (first ++ second) := by
  intro next
  rw [Sql.write_append, placeholders?_append (h next) (hnext _) (hapart _ _), Sql.values_append,
    List.length_append, ← List.range'_append_1, List.map_append]

/-- Behind a text that ends in a break. -/
theorem lead {s : String} (hs : Leads dialect s) (h : Numbered dialect sql) :
    Numbered dialect (.text s :: sql) := by
  refine (text hs.inert).append h fun next _ => .inl ?_
  rw [Sql.write_text]
  exact hs.endsApart

theorem follow (h : Numbered dialect first) (hnext : NumberedBehind dialect second) :
    Numbered dialect (first ++ second) :=
  h.append hnext.numbered fun _ after => .inr (hnext.startsApart after)

end Numbered

namespace NumberedBehind

theorem nil : NumberedBehind dialect [] :=
  ⟨.nil, fun _ => by simp [StartsApart, Sql.write]⟩

theorem text {s : String} (h : Follows dialect (fun _ _ => False) s s) :
    NumberedBehind dialect (Sql.text s) := by
  refine ⟨.text h.readAlike, fun next => ?_⟩
  rw [Sql.write_text]
  exact h.left

theorem glue {s : String} (hs : Glues dialect s) (h : Numbered dialect sql) :
    NumberedBehind dialect (.text s :: sql) := by
  refine ⟨h.lead hs.toLeads, fun next => ?_⟩
  rw [Sql.write, String.toList_append]
  exact hs.startsApart_append _

theorem append (h : NumberedBehind dialect first) (hnext : NumberedBehind dialect second) :
    NumberedBehind dialect (first ++ second) := by
  refine ⟨h.numbered.follow hnext, fun next => ?_⟩
  rw [Sql.write_append, String.toList_append]
  exact (h.startsApart next).append (hnext.startsApart _)

end NumberedBehind

namespace Numbered

/-- At both ends of a text. -/
theorem glue (h : Numbered dialect first) {s : String} (hs : Glues dialect s)
    (hnext : Numbered dialect second) : Numbered dialect (first ++ .text s :: second) :=
  h.follow (.glue hs hnext)

theorem trail (h : Numbered dialect sql) {s : String} (hs : Trails dialect s) :
    Numbered dialect (sql ++ Sql.text s) :=
  h.follow (.text (.literal hs))

theorem parens (h : Numbered dialect sql) : Numbered dialect sql.parens :=
  (h.trail (.of rfl)).lead (.of rfl)

/-- The same with the first text and the one between in one fragment. -/
theorem glueText {text : String} (htext : Inert dialect text) {s : String} (hs : Glues dialect s)
    (h : Numbered dialect sql) : Numbered dialect (Sql.text (text ++ s) ++ sql) := by
  refine (Numbered.text (htext.trail hs.toTrails)).append h fun _ _ => .inl ?_
  rw [Sql.write_text, String.toList_append]
  exact hs.endsApart_append _

theorem join {separator : String} (hs : Glues dialect separator) {parts : List Sql}
    (h : ∀ part ∈ parts, Numbered dialect part) : Numbered dialect (Sql.join separator parts) := by
  fun_induction Sql.join separator parts with
  | case1 => exact nil
  | case2 part => exact h part List.mem_cons_self
  | case3 part next rest ih =>
    obtain ⟨hpart, hrest⟩ := List.forall_mem_cons.mp h
    exact hpart.glue hs (ih hrest)

end Numbered

theorem NumberedBehind.conditionClause {keyword : String} (hs : Glues dialect keyword)
    (h : Numbered dialect sql) : NumberedBehind dialect (conditionClause keyword sql) := by
  unfold SqlDialects.conditionClause
  split
  · exact .nil
  · exact .glue hs h

end

end SqlDialects
