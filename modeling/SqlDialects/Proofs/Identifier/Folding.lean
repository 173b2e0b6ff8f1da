import SqlDialects.Catalog
import SqlDialects.Proofs.Identifier.Path

/-! Names that PostgreSQL reads out of a value. There, other than in a statement, a part without
quotes is everything up to a dot or a blank, in lower case, and blanks around a part do not count. A
name as it is quoted in statements is read alike in both places; the bare name is not. -/

namespace SqlDialects.Identifier

/-- What separates words in PostgreSQL. -/
def isScannerBlank (c : Char) : Bool :=
  [' ', '\t', '\n', '\x0b', '\x0c', '\r'].contains c

/-- What the reader of a name is at when it comes to a character. -/
inductive NameMode where
  | start
  | bare (text : List Char)
  | inside (text : List Char)
  /-- Behind a quote, the first of two if another one follows. -/
  | closed (text : List Char)
  | behind (text : List Char)
deriving DecidableEq, Repr

namespace NameMode

/-- The mode after a character that belongs to the same part or to the blanks around it. -/
def extend? : NameMode → Char → Option NameMode
  | start, c =>
    if isScannerBlank c then some start
    else if c = '"' then some (inside [])
    else if c = '.' then none
    else some (bare [c.toLower])
  | bare text, c =>
    if c = '.' then none
    else if isScannerBlank c then some (behind text)
    else some (bare (text ++ [c.toLower]))
  | inside text, c => if c = '"' then some (closed text) else some (inside (text ++ [c]))
  | closed text, c =>
    if c = '"' then some (inside (text ++ [c]))
    else if isScannerBlank c then some (behind text)
    else none
  | behind text, c => if isScannerBlank c then some (behind text) else none

/-- What is read of the part. -/
def text : NameMode → List Char
  | start => []
  | bare text => text
  | inside text => text
  | closed text => text
  | behind text => text

/-- The part that may end here. -/
def ended? : NameMode → Option (List Char)
  | start => none
  | bare text => some text
  | inside _ => none
  | closed text => some text
  | behind text => some text

theorem text_of_ended? {mode : NameMode} {part : List Char} (h : mode.ended? = some part) :
    mode.text = part := by
  cases mode with
  | start | inside => cases h
  | bare | closed | behind => exact Option.some.inj h

/-- No character gives more than one character of the part. -/
theorem length_text_of_extend? {mode next : NameMode} {c : Char} (h : mode.extend? c = some next) :
    next.text.length ≤ mode.text.length + 1 := by
  have hmore : next.text = [] ∨ next.text = mode.text ∨
      ∃ d, next.text = mode.text ++ [d] := by
    cases mode <;> grind [extend?, text]
  rcases hmore with hnone | hsame | ⟨d, hone⟩
  · simp [hnone]
  · simp [hsame]
  · simp [hone]

end NameMode

/-- The parts of a name that is being read. -/
def foldFrom : NameMode → List Char → Option (List (List Char))
  | mode, [] => mode.ended?.map fun part => [part]
  | mode, c :: rest =>
    match mode.extend? c with
    | some next => foldFrom next rest
    | none =>
      match mode.ended? with
      | none => none
      | some part => if c = '.' then (foldFrom .start rest).map (part :: ·) else none

/-- The parts of the name that PostgreSQL reads a value as. -/
def foldedPath? (value : String) : Option (List (List Char)) := foldFrom .start value.toList

example : foldedPath? "App . \"My \"\"Users\"" = some ["app".toList, "My \"Users".toList] := by
  decide

/-- Whether a part is read bare where a value has it as it is. -/
structure IsBare (part : List Char) : Prop where
  ne_nil : part ≠ []
  head : '"' ∉ part.head?
  inner : ∀ c ∈ part, c ≠ '.' ∧ isScannerBlank c = false

/-- Whether a part is read bare and stays as it is. -/
structure IsFolded (part : List Char) : Prop extends IsBare part where
  upper : ∀ c ∈ part, c.isUpper = false

theorem toLower_eq_self_iff {c : Char} : c.toLower = c ↔ c.isUpper = false := by
  unfold Char.toLower Char.isUpper
  grind

theorem map_eq_self_iff {f : α → α} {items : List α} :
    items.map f = items ↔ ∀ item ∈ items, f item = item := by
  have hmap := List.map_eq_map_iff (l := items) (f := f) (g := id)
  rwa [List.map_id] at hmap

theorem IsBare.isFolded_iff {part : List Char} (h : IsBare part) :
    IsFolded part ↔ part.map Char.toLower = part := by
  rw [map_eq_self_iff]
  simp only [toLower_eq_self_iff]
  exact ⟨fun hfolded => hfolded.upper, fun hupper => ⟨h, hupper⟩⟩

section

variable {text part rest : List Char} {parts : List (List Char)} {mode : NameMode}

theorem foldFrom_of_extend? {next : NameMode} {c : Char} (h : mode.extend? c = some next) :
    foldFrom mode (c :: rest) = foldFrom next rest := by
  rw [foldFrom, h]

/-- A dot behind a part. -/
theorem foldFrom_dot (hended : mode.ended? = some part) (hextend : mode.extend? '.' = none) :
    foldFrom mode ('.' :: rest) = (foldFrom .start rest).map (part :: ·) := by
  simp only [foldFrom, hextend, hended, if_true]

theorem foldFrom_nil (hended : mode.ended? = some part) : foldFrom mode [] = some [part] := by
  rw [foldFrom, hended, Option.map_some]

/-- A bare part goes on up to a dot or a blank. -/
theorem foldFrom_bare (h : ∀ c ∈ part, c ≠ '.' ∧ isScannerBlank c = false) :
    foldFrom (.bare text) (part ++ rest) =
      foldFrom (.bare (text ++ part.map Char.toLower)) rest := by
  induction part generalizing text with
  | nil => simp
  | cons c part ih =>
    obtain ⟨⟨hdot, hblank⟩, hpart⟩ := List.forall_mem_cons.mp h
    have hextend : NameMode.extend? (.bare text) c = some (.bare (text ++ [c.toLower])) := by
      rw [NameMode.extend?, if_neg hdot, hblank, if_neg Bool.false_ne_true]
    rw [List.cons_append, foldFrom_of_extend? hextend, ih hpart, List.append_assoc]
    rfl

theorem foldFrom_start (h : IsBare part) :
    foldFrom .start (part ++ rest) = foldFrom (.bare (part.map Char.toLower)) rest := by
  obtain ⟨c, tail, rfl⟩ := List.exists_cons_of_ne_nil h.ne_nil
  obtain ⟨⟨hdot, hblank⟩, htail⟩ := List.forall_mem_cons.mp h.inner
  have hquote : c ≠ '"' := fun heq => h.head (by simp [heq])
  have hextend : NameMode.extend? .start c = some (.bare [c.toLower]) := by
    rw [NameMode.extend?, hblank, if_neg Bool.false_ne_true, if_neg hquote, if_neg hdot]
  rw [List.cons_append, foldFrom_of_extend? hextend, foldFrom_bare htail]
  rfl

theorem foldFrom_bare_dot :
    foldFrom (.bare part) ('.' :: rest) = (foldFrom .start rest).map (part :: ·) :=
  foldFrom_dot rfl rfl

/-- A name of bare parts is read as its parts in lower case. -/
theorem foldFrom_intercalate_of_isBare (hne : parts ≠ []) (hbare : ∀ part ∈ parts, IsBare part) :
    foldFrom .start (['.'].intercalate parts) = some (parts.map (List.map Char.toLower)) := by
  induction parts with
  | nil => exact absurd rfl hne
  | cons part parts ih =>
    obtain ⟨hpart, hparts⟩ := List.forall_mem_cons.mp hbare
    cases parts with
    | nil =>
      rw [List.intercalate_singleton, ← List.append_nil part, foldFrom_start hpart,
        foldFrom_nil rfl, List.append_nil]
      rfl
    | cons next parts =>
      rw [List.intercalate_cons_cons, List.append_assoc, foldFrom_start hpart,
        List.singleton_append, foldFrom_bare_dot, ih (List.cons_ne_nil next parts) hparts]
      rfl

theorem length_intercalate_cons_le (part : List Char) (parts : List (List Char)) :
    (['.'].intercalate (part :: parts)).length ≤
      part.length + 1 + (['.'].intercalate parts).length := by
  cases parts with
  | nil => simp
  | cons next parts => simp only [List.intercalate_cons_cons, List.length_append,
      List.length_singleton, Nat.le_refl]

/-- What is read is no longer than the text. -/
theorem length_le_of_foldFrom (h : foldFrom mode text = some parts) :
    (['.'].intercalate parts).length ≤ mode.text.length + text.length := by
  induction text generalizing mode parts with
  | nil =>
    obtain ⟨part, hended, rfl⟩ := Option.map_eq_some_iff.mp h
    rw [List.intercalate_singleton, NameMode.text_of_ended? hended]
    exact Nat.le_refl _
  | cons c rest ih =>
    rw [List.length_cons]
    cases hextend : mode.extend? c with
    | some next =>
      rw [foldFrom_of_extend? hextend] at h
      have hnext := NameMode.length_text_of_extend? hextend
      have hrest := ih h
      omega
    | none =>
      simp only [foldFrom, hextend] at h
      cases hended : mode.ended? with
      | none => simp [hended] at h
      | some part =>
        simp only [hended] at h
        split at h
        case isFalse => cases h
        case isTrue =>
          obtain ⟨more, hmore, rfl⟩ := Option.map_eq_some_iff.mp h
          have hjoined := length_intercalate_cons_le part more
          have hrest : (['.'].intercalate more).length ≤ 0 + rest.length := ih hmore
          rw [NameMode.text_of_ended? hended]
          omega

/-- A blank behind a part or in front of it. -/
theorem exists_foldFrom_blank {c : Char} (hc : isScannerBlank c) (h : part = [] ∨ IsBare part) :
    ∃ mode : NameMode, mode.text.length = part.length ∧
      ∀ rest, foldFrom .start (part ++ c :: rest) = foldFrom mode rest := by
  rcases h with rfl | hbare
  · exact ⟨.start, rfl, fun rest => foldFrom_of_extend? (if_pos hc)⟩
  · have hdot : c ≠ '.' := by
      rintro rfl
      cases hc
    have hextend : NameMode.extend? (.bare (part.map Char.toLower)) c =
        some (.behind (part.map Char.toLower)) := by
      rw [NameMode.extend?, if_neg hdot, if_pos hc]
    refine ⟨.behind (part.map Char.toLower), List.length_map _, fun rest => ?_⟩
    rw [foldFrom_start hbare, foldFrom_of_extend? hextend]

/-- A part that is not read bare, other than for a quote at its start, has a first blank. -/
theorem exists_first_blank (hne : part ≠ []) (hquote : '"' ∉ part.head?)
    (hdot : ∀ c ∈ part, c ≠ '.') (hbare : ¬IsBare part) :
    ∃ before c after, part = before ++ c :: after ∧ isScannerBlank c ∧
      (before = [] ∨ IsBare before) := by
  have hblank : ∃ c ∈ part, isScannerBlank c := by
    by_contra hnone
    exact hbare ⟨hne, hquote, fun c hc =>
      ⟨hdot c hc, Bool.eq_false_iff.mpr fun hblank => hnone ⟨c, hc, hblank⟩⟩⟩
  obtain ⟨c, hfind⟩ := Option.isSome_iff_exists.mp (List.find?_isSome.mpr hblank)
  obtain ⟨hc, before, after, rfl, hbefore⟩ := List.find?_eq_some_iff_append.mp hfind
  refine ⟨before, c, after, rfl, hc, ?_⟩
  cases before with
  | nil => exact .inl rfl
  | cons d before =>
    exact .inr ⟨List.cons_ne_nil d before, hquote, fun e he =>
      ⟨hdot e (List.mem_append_left _ he), by simpa using hbefore e he⟩⟩

/-- Where a part is not read bare, quotes or blanks are lost. -/
theorem length_lt_of_not_isBare (hdot : ∀ c ∈ part, c ≠ '.') (hbare : ¬IsBare part)
    (hrest : ∀ c ∈ rest.head?, c = '.') (h : foldFrom .start (part ++ rest) = some parts) :
    (['.'].intercalate parts).length < (part ++ rest).length := by
  by_cases hne : part = []
  · -- Nothing can be read where a part is empty.
    subst hne
    cases rest with
    | nil => cases h
    | cons c rest =>
      cases hrest c rfl
      cases h
  by_cases hquote : '"' ∈ part.head?
  · -- Whatever the quotes enclose, the first of them is not read.
    obtain ⟨tail, rfl⟩ := List.head?_eq_some_iff.mp hquote
    have hread : foldFrom (.inside []) (tail ++ rest) = some parts := h
    have hle : (['.'].intercalate parts).length ≤ 0 + (tail ++ rest).length :=
      length_le_of_foldFrom hread
    rw [List.cons_append, List.length_cons]
    omega
  · obtain ⟨before, c, after, rfl, hc, hfront⟩ := exists_first_blank hne hquote hdot hbare
    obtain ⟨mode, hlength, hread⟩ := exists_foldFrom_blank hc hfront
    rw [List.append_assoc, List.cons_append, hread] at h
    have hle := length_le_of_foldFrom h
    simp only [List.length_append, List.length_cons] at hle ⊢
    omega

/-- Only a name of bare parts is read as its parts. -/
theorem isBare_of_foldFrom (hdots : ∀ part ∈ parts, ∀ c ∈ part, c ≠ '.')
    (h : foldFrom .start (['.'].intercalate parts) = some parts) :
    ∀ part ∈ parts, IsBare part := by
  induction parts with
  | nil => exact List.forall_mem_nil _
  | cons part parts ih =>
    obtain ⟨hpart, hparts⟩ := List.forall_mem_cons.mp hdots
    have hjoined : ∃ rest, ['.'].intercalate (part :: parts) = part ++ rest ∧
        ∀ c ∈ rest.head?, c = '.' := by
      cases parts with
      | nil => exact ⟨[], by simp, by simp⟩
      | cons next parts => exact ⟨'.' :: ['.'].intercalate (next :: parts), by simp, by simp⟩
    obtain ⟨rest, hrest, hhead⟩ := hjoined
    -- A text that is read as its parts has lost nothing.
    have hbare : IsBare part := by
      by_contra hnot
      have hlt := length_lt_of_not_isBare hpart hnot hhead (hrest ▸ h)
      rw [hrest] at hlt
      exact Nat.lt_irrefl _ hlt
    refine List.forall_mem_cons.mpr ⟨hbare, ?_⟩
    cases parts with
    | nil => exact List.forall_mem_nil _
    | cons next parts =>
      rw [List.intercalate_cons_cons, List.append_assoc, foldFrom_start hbare,
        List.singleton_append, foldFrom_bare_dot] at h
      obtain ⟨more, hmore, heq⟩ := Option.map_eq_some_iff.mp h
      cases (List.cons.inj heq).2
      exact ih hparts hmore

theorem foldFrom_intercalate_eq_iff (hne : parts ≠ [])
    (hdots : ∀ part ∈ parts, ∀ c ∈ part, c ≠ '.') :
    foldFrom .start (['.'].intercalate parts) = some parts ↔ ∀ part ∈ parts, IsFolded part := by
  have hiff (hbare : ∀ part ∈ parts, IsBare part) :
      foldFrom .start (['.'].intercalate parts) = some parts ↔ ∀ part ∈ parts, IsFolded part := by
    rw [foldFrom_intercalate_of_isBare hne hbare, Option.some.injEq, map_eq_self_iff]
    exact forall₂_congr fun part hpart => (hbare part hpart).isFolded_iff.symm
  exact ⟨fun h => (hiff (isBare_of_foldFrom hdots h)).mp h,
    fun h => (hiff fun part hpart => (h part hpart).toIsBare).mpr h⟩

/-- Inside quotes, a text with its quotes doubled is read as the text. -/
theorem foldFrom_inside :
    foldFrom (.inside text) (Text.double '"' part ++ '"' :: rest) =
      foldFrom (.closed (text ++ part)) rest := by
  have hclose (text : List Char) : NameMode.extend? (.inside text) '"' = some (.closed text) := rfl
  induction part generalizing text with
  | nil =>
    rw [Text.double_nil, List.nil_append, List.append_nil, foldFrom_of_extend? (hclose text)]
  | cons c part ih =>
    by_cases hc : c = '"'
    · subst hc
      have hagain : NameMode.extend? (.closed text) '"' = some (.inside (text ++ ['"'])) :=
        rfl
      rw [Text.double, if_pos rfl, List.cons_append, List.cons_append,
        foldFrom_of_extend? (hclose text), foldFrom_of_extend? hagain, ih, List.append_assoc]
      rfl
    · have hinside : NameMode.extend? (.inside text) c = some (.inside (text ++ [c])) := if_neg hc
      rw [Text.double, if_neg hc, List.cons_append, foldFrom_of_extend? hinside, ih,
        List.append_assoc]
      rfl

/-- A character of a bare word is nothing that the reader of a value stops at. -/
theorem isBareChar_inner {c : Char} (h : isBareChar c) :
    c ≠ '"' ∧ c ≠ '.' ∧ isScannerBlank c = false := by
  have hne (d : Char) (hd : isBareChar d = false) : c ≠ d := by
    rintro rfl
    cases h.symm.trans hd
  refine ⟨hne '"' (by decide), hne '.' (by decide), ?_⟩
  simp [isScannerBlank, hne ' ' (by decide), hne '\t' (by decide), hne '\n' (by decide),
    hne '\x0b' (by decide), hne '\x0c' (by decide), hne '\r' (by decide)]

theorem isFolded_of_not_needsQuotes (h : needsQuotes .postgres part = false) : IsFolded part := by
  simp only [needsQuotes, Bool.or_eq_false_iff, List.isEmpty_eq_false_iff, List.any_eq_false,
    Bool.not_eq_true, Bool.not_eq_false'] at h
  obtain ⟨⟨⟨⟨hne, -⟩, hchar⟩, -⟩, hupper⟩ := h
  have hinner : ∀ c ∈ part, c ≠ '"' ∧ c ≠ '.' ∧ isScannerBlank c = false := fun c hc =>
    isBareChar_inner (hchar c hc)
  exact {
    ne_nil := hne
    head := fun hquote => (hinner '"' (List.mem_of_mem_head? hquote)).1 rfl
    inner := fun c hc => (hinner c hc).2
    upper := fun c hc => by simpa using List.any_eq_false.mp hupper c hc }

/-- A part as it is written takes the reader behind it. -/
theorem exists_foldFrom_quotePart (part : List Char) :
    ∃ mode : NameMode, mode.ended? = some part ∧ mode.extend? '.' = none ∧
      ∀ rest, foldFrom .start (quotePart .postgres part ++ rest) = foldFrom mode rest := by
  unfold quotePart
  by_cases hbare : part = ['*'] ∨ needsQuotes .postgres part = false
  · have hfolded : IsFolded part := by
      rcases hbare with rfl | hword
      · exact ⟨⟨by decide, by decide, List.forall_mem_singleton.mpr (by decide)⟩,
          List.forall_mem_singleton.mpr (by decide)⟩
      · exact isFolded_of_not_needsQuotes hword
    refine ⟨.bare part, rfl, rfl, fun rest => ?_⟩
    rw [if_pos hbare, foldFrom_start hfolded.toIsBare, hfolded.isFolded_iff.mp hfolded]
  · refine ⟨.closed part, rfl, rfl, fun rest => ?_⟩
    have hopen : NameMode.extend? .start '"' = some (.inside []) := rfl
    have hdelimited : delimit .postgres part ++ rest =
        '"' :: (Text.double '"' part ++ '"' :: rest) := by
      simp [delimit, delimiters]
    rw [if_neg hbare, hdelimited, foldFrom_of_extend? hopen, foldFrom_inside, List.nil_append]

/-- Quoted parts are read as they are. -/
theorem foldFrom_quoteParts (hne : parts ≠ []) :
    foldFrom .start (['.'].intercalate (parts.map (quotePart .postgres))) = some parts := by
  induction parts with
  | nil => exact absurd rfl hne
  | cons part parts ih =>
    obtain ⟨mode, hended, hdot, hread⟩ := exists_foldFrom_quotePart part
    cases parts with
    | nil =>
      rw [List.map_singleton, List.intercalate_singleton, ← List.append_nil (quotePart _ _), hread,
        foldFrom_nil hended]
    | cons next parts =>
      have hnext := ih (List.cons_ne_nil next parts)
      rw [List.map_cons] at hnext
      rw [List.map_cons, List.map_cons, List.intercalate_cons_cons, List.append_assoc, hread,
        List.singleton_append, foldFrom_dot hended hdot, hnext]
      rfl

end

theorem foldedPath?_quote (name : String) :
    foldedPath? (quote .postgres name) = some (name.toList.splitOn '.') := by
  rw [foldedPath?, quote, String.toList_ofList, split_eq_splitOn]
  exact foldFrom_quoteParts (List.splitOn_ne_nil _ _)

/-- The runs of a text have no separators in them. -/
theorem ne_of_mem_splitOn {separator : Char} {text run : List Char}
    (h : run ∈ text.splitOn separator) : ∀ c ∈ run, c ≠ separator := by
  induction text generalizing run with
  | nil =>
    cases List.mem_singleton.mp h
    exact List.forall_mem_nil _
  | cons d text ih =>
    rw [List.splitOn_cons_eq_if_modifyHead] at h
    split at h
    case isTrue =>
      rcases List.mem_cons.mp h with rfl | hrun
      · exact List.forall_mem_nil _
      · exact ih hrun
    case isFalse hd =>
      obtain ⟨first, others, hruns⟩ :=
        List.exists_cons_of_ne_nil (List.splitOn_ne_nil separator text)
      rw [hruns] at h ih
      rcases List.mem_cons.mp h with rfl | hrun
      · exact List.forall_mem_cons.mpr ⟨by simpa using hd, ih List.mem_cons_self⟩
      · exact ih (List.mem_cons_of_mem _ hrun)

/-- In PostgreSQL, the names of tables are quoted in statements so that they are read as they are,
but the catalog is asked for the columns of a table with its bare name as the value. That is read as
another name, or as none, unless each part of it is read bare and stays as it is; a name of bare
parts is read in lower case. -/
theorem catalog_reads_table_iff (database table : String) :
    foldedPath? (quote .postgres table) = some (table.toList.splitOn '.') ∧
    ∃ parameter, ((Catalog.columns .postgres database table).compile .postgres).params =
        [.string parameter] ∧
      (foldedPath? parameter = foldedPath? (quote .postgres table) ↔
        ∀ part ∈ table.toList.splitOn '.', IsFolded part) ∧
      ((∀ part ∈ table.toList.splitOn '.', IsBare part) →
        foldedPath? parameter =
          some ((table.toList.splitOn '.').map (List.map Char.toLower))) := by
  have hname : foldedPath? table =
      foldFrom .start (['.'].intercalate (table.toList.splitOn '.')) := by
    rw [foldedPath?, List.intercalate_splitOn]
  have hne : table.toList.splitOn '.' ≠ [] := List.splitOn_ne_nil _ _
  refine ⟨foldedPath?_quote table, table, rfl, ?_, fun hbare => ?_⟩
  · rw [foldedPath?_quote, hname]
    exact foldFrom_intercalate_eq_iff hne fun part => ne_of_mem_splitOn
  · rw [hname]
    exact foldFrom_intercalate_of_isBare hne hbare

/-- A table in capitals is looked up in lower case. -/
theorem catalog_misses_table_in_capitals :
    ((Catalog.columns .postgres "app" "Users").compile .postgres).params = [.string "Users"] ∧
      foldedPath? "Users" = some ["users".toList] ∧
      quote .postgres "Users" = "\"Users\"" ∧ foldedPath? "\"Users\"" = some ["Users".toList] :=
  ⟨rfl, by decide, by rfl, by decide⟩

end SqlDialects.Identifier
