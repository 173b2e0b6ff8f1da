import Mathlib.Data.List.Induction
import SqlDialects.Proofs.Lexing.Spelling

/-! String literals that are read back as their texts. Quotes are doubled, backslashes are not:
where backslashes escape, a literal is read as its text exactly if each backslash stands before a
wildcard. -/

namespace SqlDialects

/-- The length of a text in halves of a character, where a quote counts half. -/
def weight : List Char → Nat
  | [] => 0
  | c :: rest => (if c = '\'' then 1 else 2) + weight rest

section

variable {c : Char} {text rest : List Char}

@[simp] theorem weight_append (first second : List Char) :
    weight (first ++ second) = weight first + weight second := by
  induction first with
  | nil => simp [weight]
  | cons c rest ih => simp [weight, ih, Nat.add_assoc]

/-- Doubled quotes count like any other character. -/
theorem weight_double (text : List Char) : weight (Text.double '\'' text) = 2 * text.length := by
  induction text with
  | nil => rfl
  | cons c rest ih =>
    by_cases h : c = '\'' <;> simp [Text.double, weight, h, ih] <;> omega

theorem keepsBackslashes_cons_of_ne (h : c ≠ '\\') :
    keepsBackslashes (c :: rest) = keepsBackslashes rest := by
  rw [keepsBackslashes.eq_4 c rest (fun _ hc => absurd hc h) fun _ hc => absurd hc h]
  simp [h]

theorem keepsBackslashes_wildcard (h : c = '%' ∨ c = '_') :
    keepsBackslashes ('\\' :: c :: rest) = keepsBackslashes rest := by
  rcases h with rfl | rfl <;> rfl

theorem keepsBackslashes_backslash (h : ∀ c ∈ text.head?, ¬(c = '%' ∨ c = '_')) :
    keepsBackslashes ('\\' :: text) = false := by
  rw [keepsBackslashes.eq_4]
  · rfl
  · rintro rest - rfl
    exact h '%' rfl (.inl rfl)
  · rintro rest - rfl
    exact h '_' rfl (.inr rfl)

theorem head?_double (h : c ∈ (Text.double '\'' text ++ ['\'']).head?) :
    c ∈ text.head? ∨ c = '\'' := by
  cases text with
  | nil => exact .inr (by simpa [eq_comm] using h)
  | cons d rest =>
    rw [Text.double] at h
    split at h
    · exact .inl (by simpa using h)
    · exact .inl (by simpa using h)

/-- Doubling quotes neither adds a wildcard behind a backslash nor takes one away. -/
theorem keepsBackslashes_double (text : List Char) :
    keepsBackslashes (Text.double '\'' text ++ ['\'']) = keepsBackslashes text := by
  induction text using keepsBackslashes.induct with
  | case1 => rfl
  | case2 text ih => exact ih
  | case3 text ih => exact ih
  | case4 c text hpercent hunderscore ih =>
    by_cases hquote : c = '\''
    · subst hquote
      have hne : '\'' ≠ '\\' := by decide
      rw [Text.double, if_pos rfl, List.cons_append, List.cons_append,
        keepsBackslashes_cons_of_ne hne, keepsBackslashes_cons_of_ne hne,
        keepsBackslashes_cons_of_ne hne, ih]
    rw [Text.double, if_neg hquote, List.cons_append]
    by_cases hbackslash : c = '\\'
    · subst hbackslash
      have htext : ∀ d ∈ text.head?, ¬(d = '%' ∨ d = '_') := by
        intro d hd
        obtain ⟨rest, rfl⟩ := List.head?_eq_some_iff.mp hd
        rintro (rfl | rfl)
        · exact hpercent rest rfl rfl
        · exact hunderscore rest rfl rfl
      have hdouble : ∀ d ∈ (Text.double '\'' text ++ ['\'']).head?, ¬(d = '%' ∨ d = '_') := by
        intro d hd
        rcases head?_double hd with hd | rfl
        · exact htext d hd
        · decide
      rw [keepsBackslashes_backslash htext, keepsBackslashes_backslash hdouble]
    · rw [keepsBackslashes_cons_of_ne hbackslash, keepsBackslashes_cons_of_ne hbackslash, ih]

theorem Quote.length_unescape (h : ¬(c = '%' ∨ c = '_')) : (Quote.unescape c).length = 1 := by
  unfold Quote.unescape
  split <;> simp_all

end

section

variable {content written result : List Char}

theorem lexFrom_inside_close {dialect : Dialect} {quote : Quote} :
    lexFrom dialect (.inside quote content) (quote.closing :: written) =
      lexFrom dialect (.closed quote content) written := by
  simp only [lexFrom, LexerMode.extend?, if_pos]

/-- Behind a closing delimiter that is not doubled, the literal is over. -/
theorem eq_of_lexFrom_closed {dialect : Dialect} {quote : Quote} {kind : QuoteKind} {c : Char}
    (hc : c ≠ quote.closing)
    (h : lexFrom dialect (.closed quote content) (c :: written) = some [.quoted kind result]) :
    result = content := by
  simp only [lexFrom, LexerMode.extend?, if_neg hc, LexerMode.ended?] at h
  obtain ⟨ended, hended, h⟩ := Option.bind_eq_some_iff.mp h
  obtain ⟨more, _, h⟩ := Option.bind_eq_some_iff.mp h
  cases hended
  have hhead := (List.cons.inj (Option.some.inj h)).1
  exact (Lexeme.quoted.inj hhead).2.symm

/-- With the quote that closes it, the text that is read weighs no more than what it is read from
and what was read before, and it weighs less unless all backslashes are kept. -/
def Outweighs (content written result : List Char) : Prop :=
  2 * result.length + 1 ≤ 2 * content.length + weight written ∧
    (keepsBackslashes written ∨ 2 * result.length + 1 < 2 * content.length + weight written)

namespace Outweighs

theorem last : Outweighs content ['\''] content := ⟨by simp [weight], .inl rfl⟩

/-- The literal ends before the text does. -/
theorem early {c : Char} (hquote : c ≠ '\'') :
    Outweighs content ('\'' :: c :: written) content := by
  simp only [Outweighs, weight, if_pos, if_neg hquote]
  exact ⟨by omega, .inr (by omega)⟩

theorem ordinary {c : Char} (hquote : c ≠ '\'') (hbackslash : c ≠ '\\')
    (h : Outweighs (content ++ [c]) written result) : Outweighs content (c :: written) result := by
  obtain ⟨hle, hkeeps⟩ := h
  simp only [Outweighs, keepsBackslashes_cons_of_ne hbackslash, List.length_append,
    List.length_singleton, weight, if_neg hquote] at hle hkeeps ⊢
  exact ⟨by omega, hkeeps.imp_right fun hlt => by omega⟩

theorem doubled (h : Outweighs (content ++ ['\'']) written result) :
    Outweighs content ('\'' :: '\'' :: written) result := by
  obtain ⟨hle, hkeeps⟩ := h
  have hne : '\'' ≠ '\\' := by decide
  simp only [Outweighs, keepsBackslashes_cons_of_ne hne, List.length_append, List.length_singleton,
    weight, if_pos] at hle hkeeps ⊢
  exact ⟨by omega, hkeeps.imp_right fun hlt => by omega⟩

theorem wildcard {c : Char} (hc : c = '%' ∨ c = '_')
    (h : Outweighs (content ++ Quote.unescape c) written result) :
    Outweighs content ('\\' :: c :: written) result := by
  obtain ⟨hle, hkeeps⟩ := h
  have hlength : (Quote.unescape c).length = 2 ∧ c ≠ '\'' := by rcases hc with rfl | rfl <;> decide
  have hne : '\\' ≠ '\'' := by decide
  simp only [Outweighs, keepsBackslashes_wildcard hc, List.length_append, hlength.1, weight,
    if_neg hlength.2, if_neg hne] at hle hkeeps ⊢
  exact ⟨by omega, hkeeps.imp_right fun hlt => by omega⟩

/-- Where a backslash escapes, weight is lost. -/
theorem escape {c : Char} (hc : ¬(c = '%' ∨ c = '_'))
    (h : Outweighs (content ++ Quote.unescape c) written result) :
    Outweighs content ('\\' :: c :: written) result := by
  obtain ⟨hle, -⟩ := h
  have hweight : 1 ≤ if c = '\'' then 1 else 2 := by split <;> decide
  have hne : '\\' ≠ '\'' := by decide
  simp only [List.length_append, Quote.length_unescape hc] at hle
  simp only [Outweighs, weight, if_neg hne]
  exact ⟨by omega, .inr (by omega)⟩

end Outweighs

/-- A literal outweighs the text that is read from it. -/
theorem outweighs_of_lexFrom_inside
    (h : lexFrom .mysql (.inside .single content) written = some [.quoted .string result]) :
    Outweighs content written result := by
  have hclosing : Quote.single.closing = '\'' := rfl
  have hkind : Quote.single.kind .mysql = .string := rfl
  induction written using List.twoStepInduction generalizing content with
  | nil => simp [lexFrom, LexerMode.ended?] at h
  | singleton c =>
    by_cases hquote : c = '\''
    · subst hquote
      have hresult : content = result := by
        simpa [lexFrom, LexerMode.extend?, LexerMode.ended?, hclosing, hkind] using h
      subst hresult
      exact .last
    by_cases hbackslash : c = '\\'
    · subst hbackslash
      cases h
    · rw [lexFrom_inside_of_ne hquote fun hc => absurd hc hbackslash] at h
      simp [lexFrom, LexerMode.ended?] at h
  | cons_cons c d rest ih ih' =>
    by_cases hquote : c = '\''
    · subst hquote
      by_cases hdouble : d = '\''
      · subst hdouble
        rw [← hclosing, lexFrom_inside_closing] at h
        exact (ih h).doubled
      · rw [← hclosing, lexFrom_inside_close] at h
        rw [eq_of_lexFrom_closed hdouble h]
        exact .early hdouble
    by_cases hbackslash : c = '\\'
    · subst hbackslash
      rw [lexFrom_inside_backslash rfl] at h
      by_cases hwildcard : d = '%' ∨ d = '_'
      · exact (ih h).wildcard hwildcard
      · exact (ih h).escape hwildcard
    · rw [lexFrom_inside_of_ne hquote fun hc => absurd hc hbackslash] at h
      exact (ih' d h).ordinary hquote hbackslash

end

/-- What is written between quotes is read back as the text exactly if it keeps its backslashes. -/
theorem lexFrom_inside_iff (text : List Char) :
    lexFrom .mysql (.inside .single []) (Text.double '\'' text ++ ['\'']) =
      some [.quoted .string text] ↔ keepsBackslashes text := by
  constructor
  · intro h
    obtain ⟨-, hkeeps⟩ := outweighs_of_lexFrom_inside h
    rw [keepsBackslashes_double, weight_append, weight_double] at hkeeps
    exact hkeeps.resolve_right (by simp [weight])
  · intro h
    have hkeeps : Quote.single.Keeps .mysql text := fun _ => h
    exact lexFrom_inside_quoted hkeeps

theorem toList_national (text : String) : ("N" ++ quoteString text).toList =
    'N' :: '\'' :: (Text.double '\'' text.toList ++ ['\'']) := by
  have hletter : "N".toList = ['N'] := by decide
  rw [String.toList_append, hletter, quoteString, String.toList_ofList]
  rfl

/-- A literal of a text with the lexemes that it should have, by itself or with the letter of
national characters in front of it. -/
inductive IsLiteral (text : String) : String → List Lexeme → Prop
  | plain : IsLiteral text (quoteString text) [.quoted .string text.toList]
  | national : IsLiteral text ("N" ++ quoteString text) [.word ['N'], .quoted .string text.toList]

namespace IsLiteral

variable {text literal : String} {lexemes : List Lexeme}

theorem lex_eq {dialect : Dialect} (h : IsLiteral text literal lexemes)
    (hkeeps : Quote.single.Keeps dialect text.toList) : lex dialect literal = some lexemes := by
  cases h with
  | plain => exact lex_quoteString hkeeps
  | national =>
    rw [lex, toList_national]
    exact lexFrom_marked (.inl rfl) hkeeps

/-- A literal is read as its text exactly if the text keeps its backslashes. -/
theorem lex_eq_iff (h : IsLiteral text literal lexemes) :
    lex .mysql literal = some lexemes ↔ keepsBackslashes text.toList := by
  rw [← lexFrom_inside_iff]
  cases h with
  | plain => rw [quoteString, lex_ofList, List.cons_append, lexFrom_opening rfl]
  | national =>
    rw [lex, toList_national, lexFrom_letter (.inl rfl)]
    simp

end IsLiteral

/-- A literal of the text stands apart in the SQL, and the lexer that comes to it reads it as one
string, which is the text. -/
def ReadsBack (dialect : Dialect) (sql text : String) : Prop :=
  ∃ before literal after lexemes more, sql = before ++ literal ++ after ∧
    IsLiteral text literal more ∧ EndsApart before.toList ∧ StartsApart after.toList ∧
    lex dialect before = some lexemes ∧ lex dialect (before ++ literal) = some (lexemes ++ more)

/-- A literal is read back wherever it stands or nowhere. -/
theorem ReadsBack.keepsBackslashes {sql text : String} (h : ReadsBack .mysql sql text) :
    keepsBackslashes text.toList := by
  obtain ⟨before, literal, after, lexemes, more, -, hliteral, hends, -, hbefore, hread⟩ := h
  rw [lex, String.toList_append, lexFrom_append_of_endsApart hends hbefore] at hread
  obtain ⟨read, hlex, happend⟩ := Option.map_eq_some_iff.mp hread
  rw [← hliteral.lex_eq_iff, lex, hlex, List.append_cancel_left happend]

namespace ReadsBack

variable {dialect : Dialect} {R : String → String → Prop} {sql text : String}

theorem of_isLiteral {literal : String} {lexemes : List Lexeme}
    (hliteral : IsLiteral text literal lexemes) (h : Quote.single.Keeps dialect text.toList) :
    ReadsBack dialect literal text := by
  refine ⟨"", literal, "", [], lexemes, ?_, hliteral, ?_, ?_, rfl, ?_⟩
  · simp
  · simp [EndsApart]
  · simp [StartsApart]
  · rw [String.empty_append]
    exact hliteral.lex_eq h

theorem literal (h : Quote.single.Keeps dialect text.toList) :
    ReadsBack dialect (quoteString text) text :=
  of_isLiteral .plain h

/-- Behind a text that can be read and ends in a break. -/
theorem behind {first : String} (hfirst : ReadAlike dialect R first first)
    (hends : EndsApart first.toList) (h : ReadsBack dialect sql text) :
    ReadsBack dialect (first ++ sql) text := by
  obtain ⟨lexemes, -, hlexemes, -, -⟩ := hfirst
  obtain ⟨before, literal, after, earlier, more, rfl, hliteral, hbefore, hafter, hlex, hread⟩ := h
  have happend (second : String) : lex dialect (first ++ second) =
      (lex dialect second).map fun more => lexemes ++ more := by
    rw [lex, String.toList_append]
    exact lexFrom_append_of_endsApart hends hlexemes
  refine ⟨first ++ before, literal, after, lexemes ++ earlier, more, ?_, hliteral, ?_, hafter,
    ?_, ?_⟩
  · simp only [String.append_assoc]
  · rw [String.toList_append]
    exact hends.append hbefore
  · rw [happend, hlex]
    rfl
  · rw [String.append_assoc, happend, hread, Option.map_some, List.append_assoc]

theorem lead {s : String} (hs : Leads dialect s) (h : ReadsBack dialect sql text) :
    ReadsBack dialect (s ++ sql) text :=
  h.behind hs.inert hs.endsApart

/-- Behind a text that can be read, with a glue between. -/
theorem glue {first s : String} (hfirst : ReadAlike dialect R first first) (hs : Glues dialect s)
    (h : ReadsBack dialect sql text) : ReadsBack dialect (first ++ s ++ sql) text := by
  refine h.behind (hfirst.trail hs.toTrails) ?_
  rw [String.toList_append]
  exact hs.endsApart_append _

/-- In front of a text that starts with a break. -/
theorem before (h : ReadsBack dialect sql text) {last : String}
    (hstarts : StartsApart last.toList) : ReadsBack dialect (sql ++ last) text := by
  obtain ⟨before, literal, after, lexemes, more, rfl, hliteral, hbefore, hafter, hread⟩ := h
  refine ⟨before, literal, after ++ last, lexemes, more, ?_, hliteral, hbefore, ?_, hread⟩
  · simp only [String.append_assoc]
  · rw [String.toList_append]
    exact hafter.append hstarts

theorem trail (h : ReadsBack dialect sql text) {s : String} (hs : Trails dialect s) :
    ReadsBack dialect (sql ++ s) text :=
  h.before hs.startsApart

/-- In front of whatever stands behind a text that starts with a break. -/
theorem ahead (h : ReadsBack dialect sql text) {s : String} (hs : Trails dialect s)
    (last : String) : ReadsBack dialect (sql ++ s ++ last) text := by
  rw [String.append_assoc]
  refine h.before ?_
  rw [String.toList_append]
  exact hs.startsApart_append _

theorem join {separator : String} (hs : Glues dialect separator) {items : List String}
    (hitems : ∀ item ∈ items, ReadAlike dialect R item item) (hmem : sql ∈ items)
    (h : ReadsBack dialect sql text) : ReadsBack dialect (Text.join separator items) text := by
  induction items with
  | nil => exact absurd hmem List.not_mem_nil
  | cons head tail ih =>
    obtain ⟨hhead, htail⟩ := List.forall_mem_cons.mp hitems
    cases tail with
    | nil =>
      rw [List.mem_singleton.mp hmem] at h
      exact h
    | cons next rest =>
      rcases List.mem_cons.mp hmem with rfl | hmem
      · exact h.ahead hs.toTrails _
      · exact glue hhead hs (ih htail hmem)

end ReadsBack

end SqlDialects
