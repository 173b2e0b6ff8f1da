import SqlDialects.Dialect
import SqlDialects.Text.Digits

/-! SQL text as lexemes, by the rules of each dialect: words, string literals, quoted names,
placeholders and single marks. Inside quotes a closing delimiter that is written twice stands for
itself; comments are not known. Two texts can be read one after the other where a break stands
between them. -/

namespace SqlDialects

/-- The pairs of delimiters. -/
inductive Quote where
  | single
  | double
  | backtick
  | bracket
deriving DecidableEq, Repr

/-- What stands between delimiters. -/
inductive QuoteKind where
  | string
  | name
deriving DecidableEq, Repr

inductive Lexeme where
  /-- A key word, a bare name or a number. -/
  | word (text : List Char)
  | quoted (kind : QuoteKind) (content : List Char)
  | placeholder (number : Option Nat)
  | mark (c : Char)
deriving DecidableEq, Repr

/-- What the lexer is at when it comes to a character. -/
inductive LexerMode where
  | between
  | word (text : List Char)
  /-- Behind the sign of a placeholder. -/
  | sign (digits : List Char)
  | inside (quote : Quote) (content : List Char)
  /-- Behind a backslash that takes the next character with it. -/
  | escaped (quote : Quote) (content : List Char)
  /-- Behind a closing delimiter, the first of two if another one follows. -/
  | closed (quote : Quote) (content : List Char)
deriving DecidableEq, Repr

namespace Quote

def closing : Quote → Char
  | single => '\''
  | double => '"'
  | backtick => '\x60'
  | bracket => ']'

def kind : Dialect → Quote → QuoteKind
  | _, single => .string
  | .mysql, double => .string
  | _, _ => .name

/-- The delimiters that a character opens. -/
def openedBy? : Dialect → Char → Option Quote
  | _, '\'' => some single
  | _, '"' => some double
  | .mysql, '\x60' => some backtick
  | .sqlServer, '[' => some bracket
  | _, _ => none

/-- Whether a backslash takes the next character with it. -/
def escapes (dialect : Dialect) (quote : Quote) : Bool :=
  dialect = .mysql && quote.kind .mysql = .string

/-- What a character stands for behind a backslash. Before the wildcards of patterns the backslash
stays. -/
def unescape : Char → List Char
  | '0' => ['\x00']
  | 'b' => ['\x08']
  | 'n' => ['\n']
  | 'r' => ['\r']
  | 't' => ['\t']
  | 'Z' => ['\x1a']
  | '%' => ['\\', '%']
  | '_' => ['\\', '_']
  | c => [c]

end Quote

namespace Dialect

/-- Whether a character is the sign of a placeholder. The variables of SQL Server are words. -/
def isSign : Dialect → Char → Bool
  | .mysql, c => c = '?'
  | .postgres, c => c = '$'
  | .sqlite, c => c = '?'
  | .sqlServer, _ => false

/-- Whether digits behind the sign of a placeholder are its number. -/
def numbersSigns : Dialect → Bool
  | .mysql => false
  | _ => true

def startsWord (dialect : Dialect) (c : Char) : Bool :=
  c.isAlphanum || c = '_' || 128 ≤ c.toNat || dialect = .sqlServer && (c = '@' || c = '#')

def continuesWord (dialect : Dialect) (c : Char) : Bool := dialect.startsWord c || c = '$'

end Dialect

namespace Lexeme

/-- A word, or a placeholder if it is the variable of one. -/
def ofWord : List Char → Lexeme
  | '@' :: 'p' :: digit :: digits =>
    if (digit :: digits).all Char.isDigit then
      placeholder (some (Text.decimalValue (digit :: digits)))
    else word ('@' :: 'p' :: digit :: digits)
  | text => word text

/-- The sign of a placeholder with the digits behind it. A dollar alone is none. -/
def ofSign : Dialect → List Char → Lexeme
  | .postgres, [] => mark '$'
  | _, [] => placeholder none
  | _, digit :: digits => placeholder (some (Text.decimalValue (digit :: digits)))

/-- The number of a placeholder, which may have none. -/
def placeholder? : Lexeme → Option (Option Nat)
  | placeholder number => some number
  | _ => none

end Lexeme

namespace LexerMode

/-- The mode after a character that belongs to the same lexeme. -/
def extend? (dialect : Dialect) : LexerMode → Char → Option LexerMode
  | between, _ => none
  | word text, c => if dialect.continuesWord c then some (word (text ++ [c])) else none
  | sign digits, c =>
    if dialect.numbersSigns && c.isDigit then some (sign (digits ++ [c])) else none
  | inside quote content, c =>
    if c = quote.closing then some (closed quote content)
    else if c = '\\' && quote.escapes dialect then some (escaped quote content)
    else some (inside quote (content ++ [c]))
  | escaped quote content, c => some (inside quote (content ++ Quote.unescape c))
  | closed quote content, c =>
    if c = quote.closing then some (inside quote (content ++ [c])) else none

/-- The lexeme that may end here, if one was begun. None may end inside quotes. -/
def ended? (dialect : Dialect) : LexerMode → Option (List Lexeme)
  | between => some []
  | word text => some [.ofWord text]
  | sign digits => some [.ofSign dialect digits]
  | inside _ _ => none
  | escaped _ _ => none
  | closed quote content => some [.quoted (quote.kind dialect) content]

end LexerMode

/-- A character that begins something new. Blanks are skipped. -/
def beginLexeme (dialect : Dialect) (c : Char) : List Lexeme × LexerMode :=
  match Quote.openedBy? dialect c with
  | some quote => ([], .inside quote [])
  | none =>
    if dialect.isSign c then ([], .sign [])
    else if dialect.startsWord c then ([], .word [c])
    else if c.isWhitespace then ([], .between)
    else ([.mark c], .between)

/-- The lexemes of a text in some mode, if its last quotes are closed. -/
def lexFrom (dialect : Dialect) : LexerMode → List Char → Option (List Lexeme)
  | mode, [] => mode.ended? dialect
  | mode, c :: rest =>
    match mode.extend? dialect c with
    | some next => lexFrom dialect next rest
    | none => do
      let ended ← mode.ended? dialect
      let (marks, next) := beginLexeme dialect c
      let more ← lexFrom dialect next rest
      return ended ++ (marks ++ more)

def lex (dialect : Dialect) (text : String) : Option (List Lexeme) :=
  lexFrom dialect .between text.toList

theorem lex_ofList (dialect : Dialect) (text : List Char) :
    lex dialect (String.ofList text) = lexFrom dialect .between text := by
  rw [lex, String.toList_ofList]

example : lex .postgres "a <> $12, 'it''s $1' \"x\"\"y\"" =
    some [.word ['a'], .mark '<', .mark '>', .placeholder (some 12), .mark ',',
      .quoted .string ['i', 't', '\'', 's', ' ', '$', '1'], .quoted .name ['x', '"', 'y']] := by
  decide

/-- Whether no lexeme goes on over a character, in any dialect and outside quotes. -/
def isBreak (c : Char) : Bool := [' ', ',', '(', ')', '.', '\n'].contains c

/-- The lexemes of a break alone. -/
def breakMarks (c : Char) : List Lexeme := if c.isWhitespace then [] else [.mark c]

/-- Nothing, or text that ends in a break. -/
def EndsApart (text : List Char) : Prop := ∀ c ∈ text.getLast?, isBreak c

/-- Nothing, or text that starts with a break. -/
def StartsApart (text : List Char) : Prop := ∀ c ∈ text.head?, isBreak c

theorem isBreak_cases {c : Char} (h : isBreak c) :
    c = ' ' ∨ c = ',' ∨ c = '(' ∨ c = ')' ∨ c = '.' ∨ c = '\n' := by
  simpa [isBreak] using h

section

variable {dialect : Dialect} {mode : LexerMode} {c : Char} {first second rest : List Char}
  {lexemes more ended : List Lexeme}

theorem beginLexeme_of_isBreak (h : isBreak c) :
    beginLexeme dialect c = (breakMarks c, .between) := by
  rcases isBreak_cases h with rfl | rfl | rfl | rfl | rfl | rfl <;> cases dialect <;> decide

theorem extend?_of_isBreak (h : isBreak c) (hended : mode.ended? dialect = some ended) :
    mode.extend? dialect c = none := by
  have hword : dialect.continuesWord c = false ∧ c.isDigit = false := by
    rcases isBreak_cases h with rfl | rfl | rfl | rfl | rfl | rfl <;> cases dialect <;> decide
  have hclosing (quote : Quote) : c ≠ quote.closing := by
    rcases isBreak_cases h with rfl | rfl | rfl | rfl | rfl | rfl <;> cases quote <;> decide
  cases mode with
  | between => rfl
  | word text => simp [LexerMode.extend?, hword]
  | sign digits => simp [LexerMode.extend?, hword]
  | inside quote content => cases hended
  | escaped quote content => cases hended
  | closed quote content => simp [LexerMode.extend?, hclosing]

/-- Quotes that are open stay open over a break. -/
theorem ended?_extend?_of_isBreak (h : isBreak c) (hended : mode.ended? dialect = none) :
    ∃ next, mode.extend? dialect c = some next ∧ next.ended? dialect = none := by
  have hplain (quote : Quote) : c ≠ quote.closing ∧ c ≠ '\\' := by
    rcases isBreak_cases h with rfl | rfl | rfl | rfl | rfl | rfl <;> cases quote <;> decide
  cases mode with
  | inside quote content =>
    have hinside : LexerMode.extend? dialect (.inside quote content) c =
        some (.inside quote (content ++ [c])) := by
      simp [LexerMode.extend?, (hplain quote).1, (hplain quote).2]
    exact ⟨_, hinside, rfl⟩
  | escaped quote content => exact ⟨_, rfl, rfl⟩
  | _ => cases hended

theorem lexFrom_break (h : isBreak c) (hended : mode.ended? dialect = some ended) :
    lexFrom dialect mode (c :: rest) =
      (lexFrom dialect .between rest).map fun more => ended ++ (breakMarks c ++ more) := by
  simp only [lexFrom, extend?_of_isBreak h hended, hended, beginLexeme_of_isBreak h]
  cases lexFrom dialect .between rest <;> rfl

/-- In front of a break, a text has the lexemes that it has alone. -/
theorem lexFrom_append_break (h : isBreak c) (hfirst : lexFrom dialect mode first = some lexemes) :
    lexFrom dialect mode (first ++ c :: rest) =
      (lexFrom dialect .between rest).map fun more => lexemes ++ (breakMarks c ++ more) := by
  induction first generalizing mode lexemes with
  | nil => exact lexFrom_break h hfirst
  | cons d first ih =>
    simp only [lexFrom, List.cons_append] at hfirst ⊢
    cases hextend : mode.extend? dialect d with
    | some next =>
      simp only [hextend] at hfirst ⊢
      exact ih hfirst
    | none =>
      simp only [hextend] at hfirst ⊢
      obtain ⟨ended, hended, hfirst⟩ := Option.bind_eq_some_iff.mp hfirst
      obtain ⟨more, hmore, hfirst⟩ := Option.bind_eq_some_iff.mp hfirst
      cases hfirst
      rw [hended]
      simp only [ih hmore]
      cases lexFrom dialect .between rest <;> simp

/-- A text that can be read up to a break behind it can be read without the break. -/
theorem exists_lexFrom_of_break (h : isBreak c)
    (hfirst : lexFrom dialect mode (first ++ [c]) = some lexemes) :
    ∃ before, lexFrom dialect mode first = some before ∧ lexemes = before ++ breakMarks c := by
  induction first generalizing mode lexemes with
  | nil =>
    cases hended : mode.ended? dialect with
    | some ended =>
      rw [List.nil_append, lexFrom_break h hended] at hfirst
      exact ⟨ended, hended, by simpa [lexFrom, LexerMode.ended?, eq_comm] using hfirst⟩
    | none =>
      obtain ⟨next, hnext, hopen⟩ := ended?_extend?_of_isBreak h hended
      simp [lexFrom, hnext, hopen] at hfirst
  | cons d first ih =>
    simp only [lexFrom, List.cons_append] at hfirst ⊢
    cases hextend : mode.extend? dialect d with
    | some next =>
      simp only [hextend] at hfirst ⊢
      exact ih hfirst
    | none =>
      simp only [hextend] at hfirst ⊢
      obtain ⟨ended, hended, hfirst⟩ := Option.bind_eq_some_iff.mp hfirst
      obtain ⟨more, hmore, hfirst⟩ := Option.bind_eq_some_iff.mp hfirst
      obtain ⟨before, hbefore, rfl⟩ := ih hmore
      cases hfirst
      refine ⟨ended ++ ((beginLexeme dialect d).1 ++ before), ?_, by simp⟩
      rw [hended, hbefore]
      rfl

/-- Behind a break, a text is read as if it stood alone. -/
theorem lexFrom_append_of_endsApart (hends : EndsApart first)
    (hfirst : lexFrom dialect .between first = some lexemes) :
    lexFrom dialect .between (first ++ second) =
      (lexFrom dialect .between second).map fun more => lexemes ++ more := by
  cases hlast : first.getLast? with
  | none =>
    rw [List.getLast?_eq_none_iff] at hlast
    subst hlast
    cases hfirst
    simp
  | some c =>
    have hbreak := hends c hlast
    obtain ⟨init, rfl⟩ := List.getLast?_eq_some_iff.mp hlast
    obtain ⟨before, hbefore, rfl⟩ := exists_lexFrom_of_break hbreak hfirst
    rw [List.append_assoc, List.singleton_append, lexFrom_append_break hbreak hbefore]
    simp only [List.append_assoc]

/-- In front of a break, a text is read as if it stood alone. -/
theorem lexFrom_append_of_startsApart (hstarts : StartsApart second)
    (hfirst : lexFrom dialect mode first = some lexemes)
    (hsecond : lexFrom dialect .between second = some more) :
    lexFrom dialect mode (first ++ second) = some (lexemes ++ more) := by
  cases second with
  | nil =>
    cases hsecond
    simpa using hfirst
  | cons c rest =>
    have hbreak := hstarts c rfl
    have hbetween : LexerMode.between.ended? dialect = some [] := rfl
    rw [lexFrom_append_break hbreak hfirst]
    rw [lexFrom_break hbreak hbetween] at hsecond
    obtain ⟨last, hlast, rfl⟩ := Option.map_eq_some_iff.mp hsecond
    simp [hlast]

/-- Texts with a break between them are read one after the other. -/
theorem lexFrom_append (hfirst : lexFrom dialect .between first = some lexemes)
    (hsecond : lexFrom dialect .between second = some more)
    (hapart : EndsApart first ∨ StartsApart second) :
    lexFrom dialect .between (first ++ second) = some (lexemes ++ more) := by
  rcases hapart with hends | hstarts
  · rw [lexFrom_append_of_endsApart hends hfirst, hsecond]
    rfl
  · exact lexFrom_append_of_startsApart hstarts hfirst hsecond

theorem EndsApart.append (hfirst : EndsApart first) (hsecond : EndsApart second) :
    EndsApart (first ++ second) := by
  intro c hc
  rw [List.getLast?_append] at hc
  cases hlast : second.getLast? with
  | none => exact hfirst c (by simpa [hlast] using hc)
  | some d => exact hsecond c (by simpa [hlast] using hc)

theorem StartsApart.append (hfirst : StartsApart first) (hsecond : StartsApart second) :
    StartsApart (first ++ second) := by
  intro c hc
  rw [List.head?_append] at hc
  cases hhead : first.head? with
  | none => exact hsecond c (by simpa [hhead] using hc)
  | some d => exact hfirst c (by simpa [hhead] using hc)

end

end SqlDialects
