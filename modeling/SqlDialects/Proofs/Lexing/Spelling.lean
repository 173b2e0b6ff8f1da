import SqlDialects.Identifier
import SqlDialects.Proofs.Lexing.Alike
import SqlDialects.Proofs.Text.Digits
import SqlDialects.Value.Basic

/-! How names and literals are read. A text between delimiters is one lexeme whatever it is made of,
except that backslashes in string literals are not what they seem in the dialect that escapes with
them. -/

namespace SqlDialects

/-- Whether every backslash stands before a wildcard of patterns, where it is kept. -/
def keepsBackslashes : List Char → Bool
  | [] => true
  | '\\' :: '%' :: rest => keepsBackslashes rest
  | '\\' :: '_' :: rest => keepsBackslashes rest
  | c :: rest => c ≠ '\\' && keepsBackslashes rest

example : keepsBackslashes ['5', '0', '\\', '%', '\''] = true ∧
    keepsBackslashes ['C', ':', '\\'] = false := by decide

/-- The text stands for itself inside the quotes. -/
def Quote.Keeps (dialect : Dialect) (quote : Quote) (text : List Char) : Prop :=
  quote.escapes dialect → keepsBackslashes text

/-- Where backslashes escape nothing, every text does. -/
theorem Quote.keeps_of_ne {dialect : Dialect} (h : dialect ≠ .mysql) (quote : Quote)
    (text : List Char) : quote.Keeps dialect text := by
  intro hescapes
  simp [escapes, h] at hescapes

theorem keepsBackslashes_of_not_mem {text : List Char} (h : '\\' ∉ text) :
    keepsBackslashes text := by
  induction text using keepsBackslashes.induct with
  | case1 => rfl
  | case2 text _ => exact absurd List.mem_cons_self h
  | case3 text _ => exact absurd List.mem_cons_self h
  | case4 c text hpercent hunderscore ih =>
    obtain ⟨hc, htext⟩ := not_or.mp (List.mem_cons.not.mp h)
    rw [keepsBackslashes.eq_4 c text hpercent hunderscore, Bool.and_eq_true, decide_eq_true_eq]
    exact ⟨Ne.symm hc, ih htext⟩

theorem double_of_not_mem {c : Char} {text : List Char} (h : c ∉ text) :
    Text.double c text = text := by
  induction text with
  | nil => rfl
  | cons d rest ih =>
    obtain ⟨hd, hrest⟩ := not_or.mp (List.mem_cons.not.mp h)
    rw [Text.double, if_neg (Ne.symm hd), ih hrest]

section

variable {dialect : Dialect} {quote : Quote} {content text rest : List Char}

theorem Quote.closing_ne (quote : Quote) :
    quote.closing ≠ '\\' ∧ quote.closing ≠ '%' ∧ quote.closing ≠ '_' := by
  cases quote <;> decide

/-- A delimiter that is written twice. -/
theorem lexFrom_inside_closing :
    lexFrom dialect (.inside quote content) (quote.closing :: quote.closing :: rest) =
      lexFrom dialect (.inside quote (content ++ [quote.closing])) rest := by
  simp [lexFrom, LexerMode.extend?]

theorem lexFrom_inside_of_ne {c : Char} (hclosing : c ≠ quote.closing)
    (hescape : c = '\\' → quote.escapes dialect = false) :
    lexFrom dialect (.inside quote content) (c :: rest) =
      lexFrom dialect (.inside quote (content ++ [c])) rest := by
  by_cases h : c = '\\'
  · simp [lexFrom, LexerMode.extend?, hclosing, hescape h]
  · simp [lexFrom, LexerMode.extend?, hclosing, h]

theorem lexFrom_inside_backslash {c : Char} (hescapes : quote.escapes dialect) :
    lexFrom dialect (.inside quote content) ('\\' :: c :: rest) =
      lexFrom dialect (.inside quote (content ++ Quote.unescape c)) rest := by
  simp [lexFrom, LexerMode.extend?, Ne.symm quote.closing_ne.1, hescapes]

theorem lexFrom_inside_wildcard {c : Char} (hescapes : quote.escapes dialect)
    (hc : c = '%' ∨ c = '_') :
    lexFrom dialect (.inside quote content) ('\\' :: c :: rest) =
      lexFrom dialect (.inside quote (content ++ ['\\', c])) rest := by
  rw [lexFrom_inside_backslash hescapes]
  rcases hc with rfl | rfl <;> rfl

/-- A character as it is written between delimiters. -/
theorem lexFrom_inside_double_singleton {c : Char}
    (h : c = '\\' → quote.escapes dialect = false) :
    lexFrom dialect (.inside quote content) (Text.double quote.closing [c] ++ rest) =
      lexFrom dialect (.inside quote (content ++ [c])) rest := by
  by_cases hclosing : c = quote.closing
  · subst hclosing
    rw [Text.double, if_pos rfl]
    exact lexFrom_inside_closing
  · rw [Text.double, if_neg hclosing]
    exact lexFrom_inside_of_ne hclosing h

/-- A text with its closing delimiter doubled stays inside the quotes. -/
theorem lexFrom_inside_double (h : quote.Keeps dialect text) :
    lexFrom dialect (.inside quote content) (Text.double quote.closing text ++ rest) =
      lexFrom dialect (.inside quote (content ++ text)) rest := by
  cases hescapes : quote.escapes dialect with
  | false =>
    induction text generalizing content with
    | nil => simp
    | cons c text ih =>
      have hsplit : c :: text = [c] ++ text := rfl
      rw [hsplit, Text.double_append, List.append_assoc,
        lexFrom_inside_double_singleton fun _ => hescapes, ih (by simp [Quote.Keeps, hescapes]),
        List.append_assoc]
  | true =>
    have hkeeps : keepsBackslashes text := h hescapes
    have hwildcard {c : Char} (hc : c = '%' ∨ c = '_') (text : List Char) :
        Text.double quote.closing ('\\' :: c :: text) =
          '\\' :: c :: Text.double quote.closing text := by
      obtain ⟨hbackslash, hpercent, hunderscore⟩ := quote.closing_ne
      rcases hc with rfl | rfl <;> simp [Text.double, Ne.symm, *]
    clear h
    induction text using keepsBackslashes.induct generalizing content with
    | case1 => simp
    | case2 text ih =>
      rw [hwildcard (.inl rfl), List.cons_append, List.cons_append,
        lexFrom_inside_wildcard hescapes (.inl rfl), ih hkeeps, List.append_assoc]
      rfl
    | case3 text ih =>
      rw [hwildcard (.inr rfl), List.cons_append, List.cons_append,
        lexFrom_inside_wildcard hescapes (.inr rfl), ih hkeeps, List.append_assoc]
      rfl
    | case4 c text hpercent hunderscore ih =>
      rw [keepsBackslashes.eq_4 c text hpercent hunderscore, Bool.and_eq_true,
        decide_eq_true_eq] at hkeeps
      have hsplit : c :: text = [c] ++ text := rfl
      rw [hsplit, Text.double_append, List.append_assoc,
        lexFrom_inside_double_singleton fun hc => absurd hc hkeeps.1, ih hkeeps.2,
        List.append_assoc]

theorem lexFrom_opening {c : Char} (h : Quote.openedBy? dialect c = some quote) :
    lexFrom dialect .between (c :: rest) = lexFrom dialect (.inside quote []) rest := by
  have hbegin : beginLexeme dialect c = ([], .inside quote []) := by simp [beginLexeme, h]
  simp only [lexFrom, LexerMode.extend?, LexerMode.ended?, hbegin]
  cases lexFrom dialect (.inside quote []) rest <;> rfl

/-- A text between delimiters is read back. -/
theorem lexFrom_inside_quoted (h : quote.Keeps dialect text) :
    lexFrom dialect (.inside quote []) (Text.double quote.closing text ++ [quote.closing]) =
      some [.quoted (quote.kind dialect) text] := by
  rw [lexFrom_inside_double h]
  simp [lexFrom, LexerMode.extend?, LexerMode.ended?]

theorem lexFrom_quoted {c : Char} (hopening : Quote.openedBy? dialect c = some quote)
    (h : quote.Keeps dialect text) :
    lexFrom dialect .between (c :: Text.double quote.closing text ++ [quote.closing]) =
      some [.quoted (quote.kind dialect) text] := by
  rw [List.cons_append, lexFrom_opening hopening]
  exact lexFrom_inside_quoted h

end

theorem isOrdinary_of_isDigit {c : Char} (h : c.isDigit) : isOrdinary c := by
  rw [isOrdinary_iff]
  refine ⟨?_, ?_, ?_, ?_, ?_, ?_, ?_, ?_⟩ <;>
    · rintro rfl
      exact absurd h (by decide)

namespace Identifier

theorem isOrdinary_of_isBareChar {c : Char} (h : isBareChar c) : isOrdinary c := by
  rw [isOrdinary_iff]
  refine ⟨?_, ?_, ?_, ?_, ?_, ?_, ?_, ?_⟩ <;>
    · rintro rfl
      exact absurd h (by decide)

/-- Whatever a part is made of, it is one name between its delimiters. -/
theorem lex_delimit (dialect : Dialect) (part : List Char) :
    lex dialect (String.ofList (delimit dialect part)) = some [.quoted .name part] := by
  have hkeeps (quote : Quote) (h : quote.escapes dialect = false) : quote.Keeps dialect part :=
    fun hescapes => absurd hescapes (by simp [h])
  rw [lex_ofList]
  cases dialect with
  | mysql => exact lexFrom_quoted rfl (hkeeps .backtick rfl)
  | postgres => exact lexFrom_quoted rfl (hkeeps .double rfl)
  | sqlite => exact lexFrom_quoted rfl (hkeeps .double rfl)
  | sqlServer => exact lexFrom_quoted rfl (hkeeps .bracket rfl)

section

variable (dialect : Dialect) (R : String → String → Prop)

theorem readAlike_quotePart (part : List Char) :
    ReadAlike dialect R (String.ofList (quotePart dialect part))
      (String.ofList (quotePart dialect part)) := by
  unfold quotePart
  split
  case isTrue h =>
    refine ReadAlike.ordinary fun c hc => ?_
    rw [String.toList_ofList] at hc
    rcases h with rfl | h
    · rw [List.mem_singleton.mp hc]
      decide
    · simp only [needsQuotes, Bool.or_eq_false_iff, List.any_eq_false, Bool.not_eq_true',
        Bool.not_eq_false] at h
      exact isOrdinary_of_isBareChar (h.1.1.2 c hc)
  case isFalse =>
    refine ReadAlike.of_lex (lex_delimit dialect part) fun lexeme hmem => ?_
    rw [List.mem_singleton.mp hmem]
    rfl

/-- A name is read without placeholders, whatever it is. -/
theorem readAlike_quote (name : String) :
    ReadAlike dialect R (quote dialect name) (quote dialect name) := by
  have hjoin (parts : List (List Char)) : String.ofList (List.intercalate ['.'] parts) =
      Text.join "." (parts.map String.ofList) := by
    induction parts with
    | nil => rfl
    | cons part rest ih =>
      cases rest with
      | nil => simp [Text.join]
      | cons next rest =>
        rw [List.intercalate_cons_cons, String.ofList_append, ih]
        simp [Text.join]
  rw [quote, hjoin, List.map_map]
  refine ReadAlike.joinSame (.of rfl) fun text hmem => ?_
  obtain ⟨part, _, rfl⟩ := List.mem_map.mp hmem
  exact readAlike_quotePart dialect R part

theorem readAlike_quoteList (names : List String) :
    ReadAlike dialect R (quoteList dialect names) (quoteList dialect names) := by
  refine ReadAlike.joinSame (.of rfl) fun text hmem => ?_
  obtain ⟨name, _, rfl⟩ := List.mem_map.mp hmem
  exact readAlike_quote dialect R name

end

end Identifier

/-- A natural number, which consists of digits. -/
theorem readAlike_nat (dialect : Dialect) (R : String → String → Prop) (n : Nat) :
    ReadAlike dialect R (toString n) (toString n) := by
  refine ReadAlike.ordinary fun c hc => ?_
  rw [Nat.toString_eq_ofList_toDigits, String.toList_ofList] at hc
  exact isOrdinary_of_isDigit (Text.isDigit_of_mem_toDigits hc)

theorem readAlike_int (dialect : Dialect) (R : String → String → Prop) (n : Int) :
    ReadAlike dialect R (toString n) (toString n) := by
  refine ReadAlike.ordinary fun c hc => ?_
  cases n with
  | ofNat n =>
    rw [Text.toList_toString_ofNat] at hc
    exact isOrdinary_of_isDigit (Text.isDigit_of_mem_toDigits hc)
  | negSucc n =>
    rw [Text.toList_toString_negSucc] at hc
    rcases List.mem_cons.mp hc with rfl | hc
    · decide
    · exact isOrdinary_of_isDigit (Text.isDigit_of_mem_toDigits hc)

namespace NumberLayout

theorem mem_positional {layout : NumberLayout} {digits : List Char} {point : Int} {c : Char}
    (h : c ∈ layout.positional digits point) : c ∈ digits ∨ c = '0' ∨ c = '.' := by
  unfold positional at h
  split at h
  · simp only [List.mem_cons, List.mem_append, List.mem_replicate] at h
    tauto
  split at h
  · split at h <;>
      simp only [List.mem_append, List.mem_replicate, List.mem_cons, List.not_mem_nil] at h <;>
      tauto
  · simp only [List.mem_append, List.mem_cons] at h
    rcases h with h | h | h
    · exact .inl (List.mem_of_mem_take h)
    · exact .inr (.inr h)
    · exact .inl (List.mem_of_mem_drop h)

/-- A number without an exponent. -/
theorem readAlike_write (dialect : Dialect) (R : String → String → Prop) (x : Double) :
    ReadAlike dialect R (plain.write x) (plain.write x) := by
  have hdigits {digits : List Char} {point : Int} {c : Char}
      (hall : ∀ d ∈ digits, d.isDigit) (h : c ∈ plain.positional digits point) : isOrdinary c := by
    rcases mem_positional h with h | rfl | rfl
    · exact isOrdinary_of_isDigit (hall c h)
    · decide
    · decide
  refine ReadAlike.ordinary fun c hc => ?_
  rw [write, String.toList_ofList] at hc
  rcases List.mem_append.mp hc with hc | hc
  · split at hc
    · rw [List.mem_singleton.mp hc]
      decide
    · exact absurd hc List.not_mem_nil
  · split at hc
    · exact hdigits (fun d hd => by rw [List.mem_singleton.mp hd]; decide) hc
    · exact hdigits (fun d hd => Text.isDigit_of_mem_toDigits hd) hc

end NumberLayout

section

variable {dialect : Dialect} {R : String → String → Prop} {first second s : String}

theorem lex_quoteString (h : Quote.single.Keeps dialect s.toList) :
    lex dialect (quoteString s) = some [.quoted .string s.toList] := by
  have hopening : Quote.openedBy? dialect '\'' = some .single := by cases dialect <;> rfl
  have hkind : Quote.single.kind dialect = .string := by cases dialect <;> rfl
  rw [quoteString, lex_ofList, ← hkind]
  exact lexFrom_quoted hopening h

/-- A letter in front of a string literal is a word of its own. -/
theorem lexFrom_letter {letter : Char} {rest : List Char} (hletter : letter = 'N' ∨ letter = 'X') :
    lexFrom dialect .between (letter :: '\'' :: rest) =
      (lexFrom dialect (.inside .single []) rest).map fun more => .word [letter] :: more := by
  have hletter' : beginLexeme dialect letter = ([], .word [letter]) ∧
      Lexeme.ofWord [letter] = .word [letter] := by
    rcases hletter with rfl | rfl <;> cases dialect <;> decide
  have hstop : dialect.continuesWord '\'' = false := by cases dialect <;> decide
  have hquote : beginLexeme dialect '\'' = ([], .inside .single []) := by cases dialect <;> rfl
  simp only [lexFrom, LexerMode.extend?, LexerMode.ended?, hstop, hletter', hquote]
  cases lexFrom dialect (.inside .single []) rest <;> rfl

theorem lexFrom_marked {letter : Char} {text : List Char} (hletter : letter = 'N' ∨ letter = 'X')
    (h : Quote.single.Keeps dialect text) :
    lexFrom dialect .between (letter :: '\'' :: Text.double '\'' text ++ ['\'']) =
      some [.word [letter], .quoted .string text] := by
  have hkind : Quote.single.kind dialect = .string := by cases dialect <;> rfl
  have hinside : lexFrom dialect (.inside .single []) (Text.double '\'' text ++ ['\'']) =
      some [.quoted .string text] := by
    rw [← hkind]
    exact lexFrom_inside_quoted h
  rw [List.cons_append, List.cons_append, lexFrom_letter hletter, hinside]
  rfl

theorem readAlike_quoteString (h : R first second)
    (hfirst : Quote.single.Keeps dialect first.toList)
    (hsecond : Quote.single.Keeps dialect second.toList) :
    ReadAlike dialect R (quoteString first) (quoteString second) :=
  ⟨_, _, lex_quoteString hfirst, lex_quoteString hsecond, .cons (.text h) .nil⟩

end

theorem Text.not_mem_hexPair {byte : UInt8} {c : Char} (hc : c = '\\' ∨ c = '\'') :
    c ∉ Text.hexPair byte := by
  have hdigit : ∀ n < 16, "0123456789ABCDEF".toList.getD n '0' ≠ c := by
    rcases hc with rfl | rfl <;> decide
  intro hmem
  simp only [hexPair, List.mem_cons, List.not_mem_nil, or_false] at hmem
  rcases hmem with h | h
  · exact hdigit _ (Nat.mod_lt _ (by decide)) h.symm
  · exact hdigit _ (Nat.mod_lt _ (by decide)) h.symm

theorem Timestamp.backslash_not_mem_sqlText (t : Timestamp) : '\\' ∉ t.sqlText := by
  have hpadded (width n : Nat) : '\\' ∉ Text.paddedDecimal width n := fun h =>
    absurd (Text.isDigit_of_mem_paddedDecimal h) (by decide)
  have hyear : '\\' ∉ yearText t.year := by
    unfold yearText
    split
    · exact hpadded _ _
    · split <;> simp [hpadded]
  simp [sqlText, dateText, clockText, hpadded, hyear]

/-- The literal of any value but a string is read as it is, in every dialect. -/
theorem Value.readAlike_literal {value : Value} (h : ∀ s, value ≠ .string s) (dialect : Dialect)
    (R : String → String → Prop) :
    ReadAlike dialect R (value.literal dialect) (value.literal dialect) := by
  cases value with
  | null => cases dialect <;> exact .word rfl
  | bool b => cases dialect <;> cases b <;> exact .word rfl
  | int n => exact readAlike_int dialect R n.toInt
  | float x => exact NumberLayout.readAlike_write dialect R x
  | string s => exact absurd rfl (h s)
  | bytes content =>
    have hmem {c : Char} (hc : c = '\\' ∨ c = '\'') : c ∉ content.flatMap Text.hexPair := by
      intro hmem
      obtain ⟨byte, _, hbyte⟩ := List.mem_flatMap.mp hmem
      exact Text.not_mem_hexPair hc hbyte
    have hkeeps : Quote.single.Keeps dialect (content.flatMap Text.hexPair) := fun _ =>
      keepsBackslashes_of_not_mem (hmem (.inl rfl))
    have hlex := lexFrom_marked (.inr rfl) hkeeps
    rw [double_of_not_mem (hmem (.inr rfl)), ← lex_ofList] at hlex
    exact .of_lex hlex (by simp [NoPlaceholder, Lexeme.placeholder?])
  | timestamp t =>
    have hkeeps : Quote.single.Keeps dialect (String.ofList t.sqlText).toList := fun _ => by
      rw [String.toList_ofList]
      exact keepsBackslashes_of_not_mem t.backslash_not_mem_sqlText
    exact .of_lex (lex_quoteString hkeeps) (by simp [NoPlaceholder, Lexeme.placeholder?])

end SqlDialects
