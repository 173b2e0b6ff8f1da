import Mathlib.Data.List.Forall2
import SqlDialects.Proofs.Lexing.Lexeme
import SqlDialects.Text.Separated

/-! Texts that are read alike: lexeme for lexeme the same, except for string literals whose contents
may differ. Texts are put together with breaks between them, and what is read of the whole is what
is read of its parts. -/

namespace SqlDialects

/-- Two lexemes in the same place of two texts: the same one, which is no placeholder, or string
literals with related contents. -/
inductive Lexeme.Matches (R : String → String → Prop) : Lexeme → Lexeme → Prop
  | same {lexeme : Lexeme} (h : lexeme.placeholder? = none) : Matches R lexeme lexeme
  | text {first second : String} (h : R first second) :
    Matches R (.quoted .string first.toList) (.quoted .string second.toList)

/-- Both texts can be read, and they differ in the contents of string literals only. -/
def ReadAlike (dialect : Dialect) (R : String → String → Prop) (first second : String) : Prop :=
  ∃ lexemes more, lex dialect first = some lexemes ∧ lex dialect second = some more ∧
    List.Forall₂ (Lexeme.Matches R) lexemes more

/-- The text can be read and has no placeholders. -/
abbrev Inert (dialect : Dialect) (text : String) : Prop :=
  ReadAlike dialect (fun _ _ => False) text text

/-- Whether a character begins neither quotes nor a placeholder, in any dialect. -/
def isOrdinary (c : Char) : Bool :=
  !(['\'', '"', '\x60', '[', ']', '?', '$', '@'].contains c)

theorem isOrdinary_iff {c : Char} :
    isOrdinary c ↔ c ≠ '\'' ∧ c ≠ '"' ∧ c ≠ '\x60' ∧ c ≠ '[' ∧ c ≠ ']' ∧ c ≠ '?' ∧ c ≠ '$' ∧
      c ≠ '@' := by
  simp [isOrdinary]

theorem isOrdinary_of_mem {text : List Char} (h : text.all isOrdinary) :
    ∀ c ∈ (String.ofList text).toList, isOrdinary c := by
  rw [String.toList_ofList]
  exact List.all_eq_true.mp h

/-- Between lexemes, or in a word that is no variable. -/
def LexerMode.IsPlain : LexerMode → Prop
  | between => True
  | word text => text.head? ≠ some '@'
  | _ => False

/-- The lexemes have no placeholder among them. -/
def NoPlaceholder (lexemes : List Lexeme) : Prop := ∀ lexeme ∈ lexemes, lexeme.placeholder? = none

theorem Lexeme.placeholder?_ofWord {text : List Char} (h : text.head? ≠ some '@') :
    (ofWord text).placeholder? = none := by
  unfold ofWord
  split
  · exact absurd rfl h
  · rfl

theorem LexerMode.IsPlain.exists_ended {mode : LexerMode} (h : mode.IsPlain) (dialect : Dialect) :
    ∃ ended, mode.ended? dialect = some ended ∧ NoPlaceholder ended := by
  cases mode with
  | between => exact ⟨[], rfl, fun _ h => absurd h List.not_mem_nil⟩
  | word text =>
    refine ⟨[.ofWord text], rfl, fun lexeme hmem => ?_⟩
    rw [List.mem_singleton.mp hmem]
    exact Lexeme.placeholder?_ofWord h
  | _ => exact h.elim

theorem beginLexeme_of_isOrdinary {c : Char} (h : isOrdinary c) (dialect : Dialect) :
    ∃ marks next, beginLexeme dialect c = (marks, next) ∧ next.IsPlain ∧ NoPlaceholder marks := by
  obtain ⟨hsingle, hdouble, hbacktick, hopening, -, hquestion, hdollar, hat⟩ :=
    isOrdinary_iff.mp h
  have hquote : Quote.openedBy? dialect c = none := by
    unfold Quote.openedBy?
    split <;> simp_all
  have hsign : dialect.isSign c = false := by
    cases dialect <;> simp [Dialect.isSign, hquestion, hdollar]
  have hnone : NoPlaceholder [] := fun _ hmem => absurd hmem List.not_mem_nil
  simp only [beginLexeme, hquote, hsign]
  by_cases hword : dialect.startsWord c
  · exact ⟨[], .word [c], by simp [hword], by simpa [LexerMode.IsPlain] using hat, hnone⟩
  by_cases hblank : c.isWhitespace
  · exact ⟨[], .between, by simp [hword, hblank], trivial, hnone⟩
  · refine ⟨[.mark c], .between, by simp [hword, hblank], trivial, fun lexeme hmem => ?_⟩
    rw [List.mem_singleton.mp hmem]
    rfl

theorem LexerMode.IsPlain.extend {dialect : Dialect} {mode next : LexerMode} {c : Char}
    (h : mode.IsPlain) (hc : isOrdinary c) (hextend : mode.extend? dialect c = some next) :
    next.IsPlain := by
  cases mode with
  | between => cases hextend
  | word text =>
    simp only [extend?] at hextend
    split at hextend
    · cases hextend
      have hat : c ≠ '@' := (isOrdinary_iff.mp hc).2.2.2.2.2.2.2
      cases text with
      | nil => simpa [IsPlain] using hat
      | cons d rest => exact h
    · cases hextend
  | _ => exact h.elim

/-- Ordinary text can be read, and there is no placeholder in it. -/
theorem lexFrom_of_isOrdinary (dialect : Dialect) {mode : LexerMode} {text : List Char}
    (hmode : mode.IsPlain) (h : ∀ c ∈ text, isOrdinary c) :
    ∃ lexemes, lexFrom dialect mode text = some lexemes ∧ NoPlaceholder lexemes := by
  induction text generalizing mode with
  | nil => exact hmode.exists_ended dialect
  | cons c rest ih =>
    obtain ⟨hc, hrest⟩ := List.forall_mem_cons.mp h
    cases hextend : mode.extend? dialect c with
    | some next =>
      simp only [lexFrom, hextend]
      exact ih (hmode.extend hc hextend) hrest
    | none =>
      obtain ⟨ended, hended, hplain⟩ := hmode.exists_ended dialect
      obtain ⟨marks, next, hbegin, hnext, hmarks⟩ := beginLexeme_of_isOrdinary hc dialect
      obtain ⟨more, hmore, hnone⟩ := ih hnext hrest
      refine ⟨ended ++ (marks ++ more), ?_, ?_⟩
      · simp only [lexFrom, hextend, hended, hbegin, hmore]
        rfl
      · intro lexeme hmem
        rcases List.mem_append.mp hmem with hmem | hmem
        · exact hplain lexeme hmem
        rcases List.mem_append.mp hmem with hmem | hmem
        · exact hmarks lexeme hmem
        · exact hnone lexeme hmem

namespace ReadAlike

variable {dialect : Dialect} {R : String → String → Prop} {first second third fourth : String}

/-- A fixed text, by its lexemes. -/
theorem of_lex {text : String} {lexemes : List Lexeme} (h : lex dialect text = some lexemes)
    (hnone : NoPlaceholder lexemes) : ReadAlike dialect R text text :=
  ⟨lexemes, lexemes, h, h, List.forall₂_same.mpr fun lexeme hmem => .same (hnone lexeme hmem)⟩

theorem ordinary {text : String} (h : ∀ c ∈ text.toList, isOrdinary c) :
    ReadAlike dialect R text text := by
  have hbetween : LexerMode.between.IsPlain := trivial
  obtain ⟨lexemes, hlex, hnone⟩ := lexFrom_of_isOrdinary dialect hbetween h
  exact of_lex hlex hnone

theorem word {text : List Char} (h : text.all isOrdinary) :
    ReadAlike dialect R (String.ofList text) (String.ofList text) :=
  ordinary (isOrdinary_of_mem h)

/-- A fixed text that quotes and all can be read by running the lexer. -/
theorem lexed {text : List Char}
    (h : (lexFrom dialect .between text).any fun lexemes =>
      lexemes.all fun lexeme => lexeme.placeholder? = none) :
    ReadAlike dialect R (String.ofList text) (String.ofList text) := by
  obtain ⟨lexemes, hlex, hall⟩ := (Option.any_eq_true _ _).mp h
  rw [← lex_ofList] at hlex
  exact of_lex hlex fun lexeme hmem => by simpa using List.all_eq_true.mp hall lexeme hmem

theorem empty : ReadAlike dialect R "" "" := word rfl

theorem mono {S : String → String → Prop} (h : ReadAlike dialect R first second)
    (hmono : ∀ a b, R a b → S a b) : ReadAlike dialect S first second := by
  obtain ⟨lexemes, more, hfirst, hsecond, hmatches⟩ := h
  refine ⟨lexemes, more, hfirst, hsecond, hmatches.imp fun l m hlm => ?_⟩
  cases hlm with
  | same hnone => exact .same hnone
  | text htext => exact .text (hmono _ _ htext)

theorem append (h : ReadAlike dialect R first second) (hnext : ReadAlike dialect R third fourth)
    (hleft : EndsApart first.toList ∨ StartsApart third.toList)
    (hright : EndsApart second.toList ∨ StartsApart fourth.toList) :
    ReadAlike dialect R (first ++ third) (second ++ fourth) := by
  obtain ⟨lexemes, more, hfirst, hsecond, hmatches⟩ := h
  obtain ⟨lexemes', more', hthird, hfourth, hmatches'⟩ := hnext
  refine ⟨lexemes ++ lexemes', more ++ more', ?_, ?_, List.rel_append hmatches hmatches'⟩
  · rw [lex, String.toList_append]
    exact lexFrom_append hfirst hthird hleft
  · rw [lex, String.toList_append]
    exact lexFrom_append hsecond hfourth hright

end ReadAlike

/-- Fixed text that ends in a break. -/
structure Leads (dialect : Dialect) (s : String) : Prop where
  inert : Inert dialect s
  last : ∃ c ∈ s.toList.getLast?, isBreak c

/-- Fixed text that starts with a break. -/
structure Trails (dialect : Dialect) (s : String) : Prop where
  inert : Inert dialect s
  head : ∃ c ∈ s.toList.head?, isBreak c

/-- Fixed text with breaks at both ends. -/
structure Glues (dialect : Dialect) (s : String) : Prop extends Leads dialect s, Trails dialect s

section

variable {dialect : Dialect} {text : List Char} {s : String}

theorem ReadAlike.of_inert {R : String → String → Prop} (h : Inert dialect s) :
    ReadAlike dialect R s s :=
  h.mono fun _ _ h => h.elim

theorem Leads.of_inert (hinert : Inert dialect (String.ofList text))
    (h : text.getLast?.any isBreak) : Leads dialect (String.ofList text) := by
  refine ⟨hinert, ?_⟩
  rw [String.toList_ofList]
  exact (Option.any_eq_true _ _).mp h

theorem Trails.of_inert (hinert : Inert dialect (String.ofList text))
    (h : text.head?.any isBreak) : Trails dialect (String.ofList text) := by
  refine ⟨hinert, ?_⟩
  rw [String.toList_ofList]
  exact (Option.any_eq_true _ _).mp h

theorem Glues.of_inert (hinert : Inert dialect (String.ofList text))
    (h : text.getLast?.any isBreak && text.head?.any isBreak) :
    Glues dialect (String.ofList text) := by
  obtain ⟨hlast, hhead⟩ := Bool.and_eq_true_iff.mp h
  exact ⟨.of_inert hinert hlast, (Trails.of_inert hinert hhead).head⟩

theorem Leads.of (h : text.all isOrdinary && text.getLast?.any isBreak) :
    Leads dialect (String.ofList text) := by
  obtain ⟨hall, hlast⟩ := Bool.and_eq_true_iff.mp h
  exact .of_inert (.word hall) hlast

theorem Trails.of (h : text.all isOrdinary && text.head?.any isBreak) :
    Trails dialect (String.ofList text) := by
  obtain ⟨hall, hhead⟩ := Bool.and_eq_true_iff.mp h
  exact .of_inert (.word hall) hhead

theorem Glues.of
    (h : text.all isOrdinary && (text.getLast?.any isBreak && text.head?.any isBreak)) :
    Glues dialect (String.ofList text) := by
  obtain ⟨hall, hbreaks⟩ := Bool.and_eq_true_iff.mp h
  exact .of_inert (.word hall) hbreaks

end

section

variable {dialect : Dialect} {s : String}

theorem Leads.endsApart_append (h : Leads dialect s) (before : List Char) :
    EndsApart (before ++ s.toList) := by
  obtain ⟨c, hlast, hbreak⟩ := h.last
  intro d hd
  rw [List.getLast?_append, hlast] at hd
  cases hd
  exact hbreak

theorem Trails.startsApart_append (h : Trails dialect s) (behind : List Char) :
    StartsApart (s.toList ++ behind) := by
  obtain ⟨c, hhead, hbreak⟩ := h.head
  intro d hd
  rw [List.head?_append, hhead] at hd
  cases hd
  exact hbreak

theorem Leads.endsApart (h : Leads dialect s) : EndsApart s.toList := by
  simpa using h.endsApart_append []

theorem Trails.startsApart (h : Trails dialect s) : StartsApart s.toList := by
  simpa using h.startsApart_append []

end

namespace ReadAlike

variable {dialect : Dialect} {R : String → String → Prop} {first second third fourth : String}

/-- Behind a text that ends in a break. -/
theorem lead {s : String} (hs : Leads dialect s) (h : ReadAlike dialect R first second) :
    ReadAlike dialect R (s ++ first) (s ++ second) :=
  have hends := hs.endsApart
  (of_inert hs.inert).append h (.inl hends) (.inl hends)

/-- In front of a text that starts with a break. -/
theorem trail (h : ReadAlike dialect R first second) {s : String} (hs : Trails dialect s) :
    ReadAlike dialect R (first ++ s) (second ++ s) :=
  have hstarts := hs.startsApart
  h.append (of_inert hs.inert) (.inr hstarts) (.inr hstarts)

/-- At both ends of a text. -/
theorem glue (h : ReadAlike dialect R first second) {s : String} (hs : Glues dialect s)
    (hnext : ReadAlike dialect R third fourth) :
    ReadAlike dialect R (first ++ s ++ third) (second ++ s ++ fourth) := by
  have hends (text : String) : EndsApart (text ++ s).toList := by
    rw [String.toList_append]
    exact hs.endsApart_append _
  exact (h.trail hs.toTrails).append hnext (.inl (hends first)) (.inl (hends second))

theorem join {separator : String} (hs : Glues dialect separator) {firsts seconds : List String}
    (h : List.Forall₂ (ReadAlike dialect R) firsts seconds) :
    ReadAlike dialect R (Text.join separator firsts) (Text.join separator seconds) := by
  induction h with
  | nil => exact empty
  | cons hhead htail ih =>
    cases htail with
    | nil => exact hhead
    | cons _ _ => exact hhead.glue hs ih

theorem joinSame {separator : String} (hs : Glues dialect separator) {texts : List String}
    (h : ∀ text ∈ texts, ReadAlike dialect R text text) :
    ReadAlike dialect R (Text.join separator texts) (Text.join separator texts) :=
  join hs (List.forall₂_same.mpr h)

end ReadAlike

/-- A word between blanks. -/
theorem Glues.around {dialect : Dialect} {word : String} (h : Inert dialect word) :
    Glues dialect (" " ++ word ++ " ") := by
  have hblank : Glues dialect " " := .of rfl
  have htext : (" " ++ word ++ " ").toList = ' ' :: word.toList ++ [' '] := by
    rw [String.toList_append, String.toList_append]
    rfl
  have hinert : Inert dialect (" " ++ word ++ " ") := (h.lead hblank.toLeads).trail hblank.toTrails
  refine ⟨⟨hinert, ' ', ?_, rfl⟩, ' ', ?_, rfl⟩ <;> rw [htext]
  · exact List.getLast?_concat
  · rfl

/-- Texts that may stand behind any others. -/
structure Follows (dialect : Dialect) (R : String → String → Prop) (first second : String) :
    Prop where
  readAlike : ReadAlike dialect R first second
  left : StartsApart first.toList
  right : StartsApart second.toList

theorem ReadAlike.follow {dialect : Dialect} {R : String → String → Prop}
    {first second third fourth : String} (h : ReadAlike dialect R first second)
    (hnext : Follows dialect R third fourth) :
    ReadAlike dialect R (first ++ third) (second ++ fourth) :=
  h.append hnext.readAlike (.inr hnext.left) (.inr hnext.right)

namespace Follows

variable {dialect : Dialect} {R : String → String → Prop} {first second third fourth : String}

theorem empty : Follows dialect R "" "" :=
  have hstarts : StartsApart "".toList := by simp [StartsApart]
  ⟨.empty, hstarts, hstarts⟩

theorem literal {s : String} (hs : Trails dialect s) : Follows dialect R s s :=
  have hstarts := hs.startsApart
  ⟨.of_inert hs.inert, hstarts, hstarts⟩

theorem glue {s : String} (hs : Glues dialect s) (h : ReadAlike dialect R first second) :
    Follows dialect R (s ++ first) (s ++ second) := by
  have hstarts (text : String) : StartsApart (s ++ text).toList := by
    rw [String.toList_append]
    exact hs.startsApart_append _
  exact ⟨h.lead hs.toLeads, hstarts first, hstarts second⟩

theorem append (h : Follows dialect R first second) (hnext : Follows dialect R third fourth) :
    Follows dialect R (first ++ third) (second ++ fourth) := by
  refine ⟨h.readAlike.follow hnext, ?_, ?_⟩ <;> rw [String.toList_append]
  · exact h.left.append hnext.left
  · exact h.right.append hnext.right

theorem join {texts : List String} (h : ∀ text ∈ texts, Follows dialect R text text) :
    Follows dialect R (String.join texts) (String.join texts) := by
  induction texts with
  | nil => exact empty
  | cons text rest ih =>
    obtain ⟨htext, hrest⟩ := List.forall_mem_cons.mp h
    rw [String.join_cons]
    exact htext.append (ih hrest)

end Follows

end SqlDialects
