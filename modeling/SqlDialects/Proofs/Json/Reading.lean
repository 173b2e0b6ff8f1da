import SqlDialects.Proofs.Json.Scanning

/-! Printed JSON reads back: the text of a value is cut into the tokens of the value, and the
machine that takes these tokens builds the value again, no matter what is open around it. -/

namespace SqlDialects

namespace Json

/-- Induction over values, with a hypothesis for each element of a container. -/
@[elab_as_elim]
theorem induct {motive : Json → Prop} (null : motive .null) (bool : ∀ b, motive (.bool b))
    (int : ∀ n, motive (.int n)) (double : ∀ x, motive (.double x))
    (string : ∀ s, motive (.string s))
    (array : ∀ elements, (∀ j ∈ elements, motive j) → motive (.array elements))
    (object : ∀ entries, (∀ entry ∈ entries, motive entry.2) → motive (.object entries)) :
    ∀ j, motive j
  | .null => null
  | .bool b => bool b
  | .int n => int n
  | .double x => double x
  | .string s => string s
  | .array elements => array elements fun j hmem =>
    have : sizeOf j < sizeOf elements := List.sizeOf_lt_of_mem hmem
    induct null bool int double string array object j
  | .object entries => object entries fun (key, j) hmem =>
    have : sizeOf (key, j) < sizeOf entries := List.sizeOf_lt_of_mem hmem
    induct null bool int double string array object j
termination_by j => sizeOf j
decreasing_by
  · simp only [Json.array.sizeOf_spec]; omega
  · simp only [Json.object.sizeOf_spec, Prod.mk.sizeOf_spec] at this ⊢; omega

theorem depth_le_depthList {j : Json} {elements : List Json} (h : j ∈ elements) :
    j.depth ≤ depthList elements := by
  induction elements with
  | nil => cases h
  | cons head rest ih =>
    rw [depthList]
    rcases List.mem_cons.1 h with rfl | hrest
    · exact Nat.le_max_left _ _
    · exact Nat.le_trans (ih hrest) (Nat.le_max_right _ _)

theorem depth_le_depthEntries {entry : String × Json} {entries : List (String × Json)}
    (h : entry ∈ entries) : entry.2.depth ≤ depthEntries entries := by
  induction entries with
  | nil => cases h
  | cons head rest ih =>
    rw [depthEntries]
    rcases List.mem_cons.1 h with rfl | hrest
    · exact Nat.le_max_left _ _
    · exact Nat.le_trans (ih hrest) (Nat.le_max_right _ _)

theorem depth_lt_of_mem_array {j : Json} {elements : List Json} (h : j ∈ elements) :
    j.depth < (Json.array elements).depth := by
  rw [depth]
  exact Nat.lt_succ_of_le (depth_le_depthList h)

theorem depth_lt_of_mem_fields (name : String) {j : Json} {fields : List (String × Json)}
    (h : (name, j) ∈ fields) : j.depth < (Json.object fields).depth := by
  rw [depth]
  exact Nat.lt_succ_of_le (depth_le_depthEntries h)

mutual

/-- The literals, numbers and strings of a value in order, without the keys. -/
def scalars : Json → List Json
  | .array elements => scalarsList elements
  | .object entries => scalarsEntries entries
  | j => [j]

def scalarsList : List Json → List Json
  | [] => []
  | j :: rest => j.scalars ++ scalarsList rest

def scalarsEntries : List (String × Json) → List Json
  | [] => []
  | (_, j) :: rest => j.scalars ++ scalarsEntries rest

end

/-- The doubles of a value in order. -/
def doubles (j : Json) : List Double :=
  j.scalars.filterMap fun
    | .double x => some x
    | _ => none

theorem mem_doubles {x : Double} {j : Json} : x ∈ j.doubles ↔ .double x ∈ j.scalars := by
  rw [doubles, List.mem_filterMap]
  constructor
  · rintro ⟨scalar, hscalar, hx⟩
    cases scalar with
    | double y => cases hx; exact hscalar
    | _ => cases hx
  · exact fun h => ⟨.double x, h, rfl⟩

mutual

/-- The tokens of a value. -/
def tokens : Json → List Token
  | .string s => [.string s]
  | .array elements => .openArray :: ((tokensList elements).tail ++ [.closeArray])
  | .object entries => .openObject :: ((tokensEntries entries).tail ++ [.closeObject])
  | j => [.scalar j]

/-- The tokens of several elements, each after a comma. -/
def tokensList : List Json → List Token
  | [] => []
  | j :: rest => .comma :: (j.tokens ++ tokensList rest)

/-- The tokens of several entries, each after a comma. -/
def tokensEntries : List (String × Json) → List Token
  | [] => []
  | (key, j) :: rest => .comma :: .string key :: .colon :: (j.tokens ++ tokensEntries rest)

end

/-! The machine. -/

namespace Machine

theorem run_cons {machine next : Machine} {token : Token} (h : machine.step token = some next)
    (rest : List Token) : machine.run (token :: rest) = next.run rest := by
  rw [run, h, Option.bind_some]

/-- The first element of an array is read like any other value. -/
theorem run_elementOrClose (stack : List Frame) (j : Json) (rest : List Token) :
    run ⟨stack, .elementOrClose⟩ (j.tokens ++ rest) = run ⟨stack, .value⟩ (j.tokens ++ rest) := by
  cases j <;> simp only [tokens, List.cons_append] <;> rfl

/-- Whether the machine takes the tokens of a value as the value. -/
def Takes (j : Json) : Prop :=
  ∀ stack rest, stack.length + j.depth ≤ maxDepth →
    run ⟨stack, .value⟩ (j.tokens ++ rest) = run (complete j stack) rest

theorem run_elements {elements : List Json} (h : ∀ j ∈ elements, Takes j) {stack : List Frame}
    (hdepth : stack.length + 1 + depthList elements ≤ maxDepth) (done : List Json)
    (rest : List Token) :
    run ⟨.array done :: stack, .separator⟩ (tokensList elements ++ .closeArray :: rest) =
      run (complete (.array (done.reverse ++ elements)) stack) rest := by
  induction elements generalizing done with
  | nil =>
    rw [List.append_nil]
    exact run_cons rfl rest
  | cons j tail ih =>
    rw [depthList] at hdepth
    have hj : run ⟨.array done :: stack, .value⟩
        (j.tokens ++ (tokensList tail ++ .closeArray :: rest)) =
          run ⟨.array (j :: done) :: stack, .separator⟩ (tokensList tail ++ .closeArray :: rest) :=
      h j List.mem_cons_self (.array done :: stack) _ (by rw [List.length_cons]; omega)
    rw [tokensList, List.cons_append, List.append_assoc, run_cons rfl, hj,
      ih (fun k hk => h k (List.mem_cons_of_mem j hk)) (by omega)]
    simp

theorem run_entries {entries : List (String × Json)} (h : ∀ entry ∈ entries, Takes entry.2)
    {stack : List Frame} (hdepth : stack.length + 1 + depthEntries entries ≤ maxDepth)
    (done : List (String × Json)) (rest : List Token) :
    run ⟨.object done :: stack, .separator⟩ (tokensEntries entries ++ .closeObject :: rest) =
      run (complete (.object (done.reverse ++ entries)) stack) rest := by
  induction entries generalizing done with
  | nil =>
    rw [List.append_nil]
    exact run_cons rfl rest
  | cons entry tail ih =>
    obtain ⟨key, j⟩ := entry
    rw [depthEntries] at hdepth
    have hj : run ⟨.entry done key :: stack, .value⟩
        (j.tokens ++ (tokensEntries tail ++ .closeObject :: rest)) =
          run ⟨.object ((key, j) :: done) :: stack, .separator⟩
            (tokensEntries tail ++ .closeObject :: rest) :=
      h (key, j) List.mem_cons_self (.entry done key :: stack) _
        (by rw [List.length_cons]; dsimp only; omega)
    rw [tokensEntries, List.cons_append, List.cons_append, List.cons_append, List.append_assoc,
      run_cons rfl, run_cons rfl, run_cons rfl, hj,
      ih (fun k hk => h k (List.mem_cons_of_mem _ hk)) (by omega)]
    simp

theorem openFrame_of_lt {frame : Frame} {expect : Expect} {stack : List Frame}
    (h : stack.length < maxDepth) : openFrame frame expect stack = some ⟨frame :: stack, expect⟩ :=
  if_pos h

/-- The machine takes the tokens of a value as the value, whatever is open around it. -/
theorem takes (j : Json) : Takes j := by
  induction j using Json.induct with
  | null => exact fun stack rest _ => run_cons rfl rest
  | bool b => exact fun stack rest _ => run_cons rfl rest
  | int n => exact fun stack rest _ => run_cons rfl rest
  | double x => exact fun stack rest _ => run_cons rfl rest
  | string s => exact fun stack rest _ => run_cons rfl rest
  | array elements ih =>
    intro stack rest hdepth
    rw [depth] at hdepth
    have hopen : step ⟨stack, .value⟩ .openArray = some ⟨.array [] :: stack, .elementOrClose⟩ :=
      openFrame_of_lt (show stack.length < maxDepth by omega)
    rw [tokens, List.cons_append, List.append_assoc, run_cons hopen]
    cases elements with
    | nil => exact run_cons rfl rest
    | cons j tail =>
      rw [depthList] at hdepth
      rw [tokensList, List.tail_cons, List.append_assoc, run_elementOrClose,
        ih j List.mem_cons_self (.array [] :: stack) _ (by rw [List.length_cons]; omega)]
      exact run_elements (fun k hk => ih k (List.mem_cons_of_mem j hk)) (by omega) [j] rest
  | object entries ih =>
    intro stack rest hdepth
    rw [depth] at hdepth
    have hopen : step ⟨stack, .value⟩ .openObject = some ⟨.object [] :: stack, .keyOrClose⟩ :=
      openFrame_of_lt (show stack.length < maxDepth by omega)
    rw [tokens, List.cons_append, List.append_assoc, run_cons hopen]
    cases entries with
    | nil => exact run_cons rfl rest
    | cons entry tail =>
      obtain ⟨key, j⟩ := entry
      rw [depthEntries] at hdepth
      rw [tokensEntries, List.tail_cons, List.cons_append, List.cons_append, List.append_assoc,
        run_cons rfl, run_cons rfl,
        ih (key, j) List.mem_cons_self (.entry [] key :: stack) _
          (by rw [List.length_cons]; dsimp only; omega)]
      exact run_entries (fun k hk => ih k (List.mem_cons_of_mem _ hk)) (by omega) [(key, j)] rest

end Machine

/-! The text. -/

namespace Token

/-- Whether a text is cut into these tokens. -/
def Scans (text : List Char) (tokens : List Token) : Prop :=
  ∀ fuel, text.length ≤ fuel → scanAll fuel text = some tokens

namespace Scans

theorem nil : Scans [] [] := fun fuel _ => by cases fuel <;> rfl

theorem space {c : Char} {text : List Char} {tokens : List Token} (hc : isSpace c = true)
    (h : Scans text tokens) : Scans (c :: text) tokens := by
  intro fuel hfuel
  cases fuel with
  | zero => cases hfuel
  | succ fuel =>
    rw [scanAll, if_pos hc]
    exact h fuel (Nat.le_of_succ_le_succ hfuel)

theorem spaces {blank text : List Char} {tokens : List Token}
    (hblank : ∀ c ∈ blank, isSpace c = true) (h : Scans text tokens) :
    Scans (blank ++ text) tokens := by
  induction blank with
  | nil => exact h
  | cons c rest ih =>
    exact space (hblank c List.mem_cons_self) (ih fun d hd => hblank d (List.mem_cons_of_mem c hd))

theorem cons {c : Char} {text after : List Char} {token : Token} {tokens : List Token}
    (hc : isSpace c = false) (hscan : scan (c :: text) = some (token, after))
    (hlength : after.length ≤ text.length) (h : Scans after tokens) :
    Scans (c :: text) (token :: tokens) := by
  intro fuel hfuel
  cases fuel with
  | zero => cases hfuel
  | succ fuel =>
    rw [scanAll, hc, hscan]
    have hrest := h fuel (Nat.le_trans hlength (Nat.le_of_succ_le_succ hfuel))
    simp [hrest]

end Scans

/-- A text of which no token is left is blank. -/
theorem blank_of_scanAll {fuel : Nat} {text : List Char} (h : scanAll fuel text = some []) :
    (∀ c ∈ text, isSpace c = true) ∧ text.length ≤ fuel := by
  induction fuel generalizing text with
  | zero =>
    cases text with
    | nil => simp
    | cons c rest => cases h
  | succ fuel ih =>
    cases text with
    | nil => simp
    | cons c rest =>
      rw [scanAll] at h
      cases hc : isSpace c with
      | true =>
        rw [if_pos hc] at h
        obtain ⟨hblank, hlength⟩ := ih h
        exact ⟨List.forall_mem_cons.2 ⟨hc, hblank⟩, Nat.succ_le_succ hlength⟩
      | false =>
        rw [hc] at h
        obtain ⟨⟨token, after⟩, -, h⟩ := Option.bind_eq_some_iff.1 h
        obtain ⟨tokens, -, h⟩ := Option.bind_eq_some_iff.1 h
        cases h

/-- Whether a text starts like a number. -/
def StartsNumber (text : List Char) : Prop :=
  ∃ c rest, text = c :: rest ∧ (c = '-' ∨ c.isDigit = true)

theorem StartsNumber.isSpace {c : Char} {text : List Char} (h : StartsNumber (c :: text)) :
    isSpace c = false := by
  obtain ⟨d, rest, htext, hd⟩ := h
  obtain ⟨rfl, rfl⟩ := List.cons.inj htext
  rcases hd with rfl | hdigit
  · rfl
  · have hne {space : Char} (hspace : space.isDigit = false) : ¬ c = space := fun hc => by
      rw [hc, hspace] at hdigit
      cases hdigit
    simp only [Token.isSpace, hne (show ' '.isDigit = false from rfl),
      hne (show '\n'.isDigit = false from rfl), hne (show '\t'.isDigit = false from rfl),
      hne (show '\r'.isDigit = false from rfl), decide_false, Bool.or_self]

/-- A text that starts like a number is scanned as one, which ends where it ends. -/
theorem scan_append_of_startsNumber {text after rest : List Char} {token : Token}
    (h : StartsNumber text) (hscan : scan text = some (token, after)) (hrest : EndsNumber rest) :
    (∃ j, token = .scalar j) ∧ scan (text ++ rest) = some (token, after ++ rest) := by
  obtain ⟨c, tail, rfl, rfl | hdigit⟩ := h
  · rw [scan_minus] at hscan
    obtain ⟨⟨j, stop⟩, hnumber, hj⟩ := Option.map_eq_some_iff.1 hscan
    cases hj
    rw [List.cons_append, scan_minus, scanNumber_append hnumber hrest]
    exact ⟨⟨j, rfl⟩, rfl⟩
  · rw [scan_of_isDigit hdigit] at hscan
    obtain ⟨⟨j, stop⟩, hnumber, hj⟩ := Option.map_eq_some_iff.1 hscan
    cases hj
    have happend := scanNumber_append hnumber hrest
    rw [List.cons_append] at happend ⊢
    rw [scan_of_isDigit hdigit, happend]
    exact ⟨⟨j, rfl⟩, rfl⟩

theorem startsNumber_toString (n : Int) : StartsNumber (toString n).toList := by
  cases n with
  | ofNat n =>
    obtain ⟨c, tail, hdigits, hc⟩ := Text.exists_toDigits_eq_cons n
    exact ⟨c, tail, (Text.toList_toString_ofNat n).trans hdigits, .inr hc⟩
  | negSucc n =>
    exact ⟨'-', Nat.toDigits 10 (n + 1), Text.toList_toString_negSucc n, .inl rfl⟩

end Token

end Json

namespace NumberLayout

/-- The digits of a number come first in all its forms. -/
theorem body_startsNumber (layout : NumberLayout) {digits : List Char} (hne : digits ≠ [])
    (hdigits : ∀ c ∈ digits, c.isDigit = true) (point : Int) :
    Json.Token.StartsNumber (layout.positional digits point) ∧
      Json.Token.StartsNumber (layout.scientific digits point) := by
  cases digits with
  | nil => exact absurd rfl hne
  | cons c tail =>
    have hc : c = '-' ∨ c.isDigit = true := .inr (hdigits c List.mem_cons_self)
    constructor
    · unfold positional
      split
      · exact ⟨'0', _, rfl, .inr rfl⟩
      · next hpos =>
        split
        · exact ⟨c, _, rfl, hc⟩
        · obtain ⟨n, hn⟩ : ∃ n, point.toNat = n + 1 := ⟨point.toNat - 1, by omega⟩
          rw [hn]
          exact ⟨c, _, rfl, hc⟩
    · unfold scientific
      cases tail with
      | nil => exact ⟨c, _, rfl, hc⟩
      | cons d rest => exact ⟨c, _, rfl, hc⟩

theorem startsNumber_write (layout : NumberLayout) (x : Double) :
    Json.Token.StartsNumber (layout.write x).toList := by
  unfold write
  rw [String.toList_ofList]
  cases x.negative with
  | true => exact ⟨'-', _, rfl, .inl rfl⟩
  | false =>
    have hdigits (n : Nat) (point : Int) :
        Json.Token.StartsNumber (layout.positional (Nat.toDigits 10 n) point) ∧
          Json.Token.StartsNumber (layout.scientific (Nat.toDigits 10 n) point) :=
      layout.body_startsNumber Nat.toDigits_ne_nil (fun _ => Text.isDigit_of_mem_toDigits) point
    dsimp only
    rw [if_neg Bool.false_ne_true, List.nil_append]
    split
    · exact (hdigits 0 1).1
    · split
      · exact (hdigits _ _).1
      · exact (hdigits _ _).2

end NumberLayout

/-- Whether the text of a double reads back as the double. -/
def Double.ReadsBack (x : Double) : Prop :=
  Json.ofText? (Json.double x).compact = some (.double x)

instance (x : Double) : Decidable x.ReadsBack :=
  match h : Json.ofText? (Json.double x).compact with
  | some (.double y) =>
    if hxy : y = x then .isTrue (by rw [Double.ReadsBack, h, hxy])
    else .isFalse fun hx => hxy (Json.double.inj (Option.some.inj (h.symm.trans hx)))
  | none | some .null | some (.bool _) | some (.int _) | some (.string _) | some (.array _)
  | some (.object _) => .isFalse fun hx => by cases h.symm.trans hx

namespace Json

open Token

theorem Machine.run_nothing {j : Json} {tokens : List Token} {machine : Machine}
    (h : run ⟨[], .nothing j⟩ tokens = some machine) :
    tokens = [] ∧ machine = ⟨[], .nothing j⟩ := by
  cases tokens with
  | nil => exact ⟨rfl, (Option.some.inj h).symm⟩
  | cons token rest =>
    have hstep : step ⟨[], .nothing j⟩ token = none := by cases token <;> rfl
    rw [run, hstep] at h
    cases h

/-- A double that reads back is the only token of its text. -/
theorem scan_double {x : Double} (h : x.ReadsBack) : ∃ after,
    scan (NumberLayout.json.write x).toList = some (.scalar (.double x), after) ∧
      (∀ c ∈ after, isSpace c = true) ∧
        after.length < (NumberLayout.json.write x).toList.length := by
  have hstarts := NumberLayout.json.startsNumber_write x
  unfold Double.ReadsBack at h
  rw [compact, ofText?, ofChars?] at h
  obtain ⟨tokens, htokens, h⟩ := Option.bind_eq_some_iff.1 h
  obtain ⟨machine, hmachine, h⟩ := Option.bind_eq_some_iff.1 h
  obtain ⟨c, tail, htext, hc⟩ := id hstarts
  rw [htext] at htokens hstarts ⊢
  rw [Token.ofText?, List.length_cons, scanAll, hstarts.isSpace] at htokens
  obtain ⟨⟨token, after⟩, hscan, htokens⟩ := Option.bind_eq_some_iff.1 htokens
  obtain ⟨rest, hrest, htokens⟩ := Option.bind_eq_some_iff.1 htokens
  cases htokens
  obtain ⟨⟨j, rfl⟩, -⟩ := scan_append_of_startsNumber hstarts hscan endsNumber_nil
  have hstart : Machine.start.step (.scalar j) = some ⟨[], .nothing j⟩ := rfl
  rw [Machine.run_cons hstart] at hmachine
  obtain ⟨rfl, rfl⟩ := Machine.run_nothing hmachine
  cases h
  obtain ⟨hblank, hlength⟩ := blank_of_scanAll hrest
  exact ⟨after, hscan, hblank, Nat.lt_succ_of_le hlength⟩

/-- Whether all numbers of a value read back from their texts. -/
structure Readable (j : Json) : Prop where
  ints : ∀ n, .int n ∈ j.scalars → IntInRange n
  doubles : ∀ x ∈ j.doubles, x.ReadsBack

theorem mem_scalarsList {scalar : Json} {elements : List Json} :
    scalar ∈ scalarsList elements ↔ ∃ j ∈ elements, scalar ∈ j.scalars := by
  induction elements with
  | nil => simp [scalarsList]
  | cons j rest ih => simp [scalarsList, ih]

theorem mem_scalarsEntries {scalar : Json} {entries : List (String × Json)} :
    scalar ∈ scalarsEntries entries ↔ ∃ entry ∈ entries, scalar ∈ entry.2.scalars := by
  induction entries with
  | nil => simp [scalarsEntries]
  | cons entry rest ih => simp [scalarsEntries, ih]

theorem mem_scalars_array {scalar : Json} {elements : List Json} :
    scalar ∈ (array elements).scalars ↔ ∃ j ∈ elements, scalar ∈ j.scalars :=
  mem_scalarsList

theorem mem_scalars_object {scalar : Json} {entries : List (String × Json)} :
    scalar ∈ (object entries).scalars ↔ ∃ entry ∈ entries, scalar ∈ entry.2.scalars :=
  mem_scalarsEntries

theorem Readable.element {elements : List Json} (h : Readable (.array elements)) {j : Json}
    (hj : j ∈ elements) : Readable j where
  ints n hn := h.ints n (mem_scalars_array.2 ⟨j, hj, hn⟩)
  doubles x hx := h.doubles x (mem_doubles.2 (mem_scalars_array.2 ⟨j, hj, mem_doubles.1 hx⟩))

theorem Readable.entry {entries : List (String × Json)} (h : Readable (.object entries))
    {entry : String × Json} (hentry : entry ∈ entries) : Readable entry.2 where
  ints n hn := h.ints n (mem_scalars_object.2 ⟨entry, hentry, hn⟩)
  doubles x hx :=
    h.doubles x (mem_doubles.2 (mem_scalars_object.2 ⟨entry, hentry, mem_doubles.1 hx⟩))

/-- Whether the text of a value is cut into the tokens of the value, in front of any text that
ends a number. -/
def Prints (j : Json) : Prop :=
  ∀ rest tokens, EndsNumber rest → Scans rest tokens →
    Scans (j.compact.toList ++ rest) (j.tokens ++ tokens)

/-- The texts of several parts, each after a comma. -/
def afterCommas (parts : List String) : List Char := parts.flatMap fun part => ',' :: part.toList

theorem afterCommas_cons (part : String) (parts : List String) :
    afterCommas (part :: parts) = ',' :: (part.toList ++ afterCommas parts) := rfl

theorem toList_join_comma (parts : List String) :
    (Text.join "," parts).toList = (afterCommas parts).tail := by
  fun_induction Text.join "," parts with
  | case1 => rfl
  | case2 part => simp [afterCommas]
  | case3 part next rest ih =>
    rw [String.toList_append, String.toList_append, ih]
    simp [afterCommas]

theorem endsNumber_cons {c : Char} (h : c.isDigit = false ∧ c ≠ '.' ∧ c ≠ 'e' ∧ c ≠ 'E')
    (rest : List Char) : EndsNumber (c :: rest) := by
  intro d hd
  cases hd
  exact h

theorem endsNumber_afterCommas {parts : List String} {rest : List Char} (hrest : EndsNumber rest) :
    EndsNumber (afterCommas parts ++ rest) := by
  cases parts with
  | nil => exact hrest
  | cons part tail => exact endsNumber_cons (by decide) _

theorem scans_word {c : Char} {word : List Char} {token : Token}
    (hscan : ∀ rest, scan (c :: (word ++ rest)) = some (token, rest)) (hc : isSpace c = false)
    {text : List Char} {tokens : List Token} (h : Scans text tokens) :
    Scans (c :: (word ++ text)) (token :: tokens) := by
  refine .cons hc (hscan text) ?_ h
  rw [List.length_append]
  exact Nat.le_add_left _ _

theorem scans_mark {c : Char} {token : Token}
    (hscan : ∀ rest, scan (c :: rest) = some (token, rest)) (hc : isSpace c = false)
    {text : List Char} {tokens : List Token} (h : Scans text tokens) :
    Scans (c :: text) (token :: tokens) :=
  .cons hc (hscan text) (Nat.le_refl _) h

theorem scans_stringText (s : String) {rest : List Char} {tokens : List Token}
    (h : Scans rest tokens) : Scans ((stringText s).toList ++ rest) (.string s :: tokens) := by
  have hscan := scan_stringText s rest
  have htext : (stringText s).toList ++ rest =
      '"' :: (s.toList.flatMap escapeChar ++ '"' :: rest) := by
    simp [stringText]
  rw [htext] at hscan ⊢
  exact .cons rfl hscan (by simp only [List.length_append, List.length_cons]; omega) h

theorem scans_number {text after : List Char} {token : Token} (hstarts : StartsNumber text)
    (hscan : scan text = some (token, after)) (hblank : ∀ c ∈ after, isSpace c = true)
    (hlength : after.length < text.length) {rest : List Char} {tokens : List Token}
    (hrest : EndsNumber rest) (h : Scans rest tokens) :
    Scans (text ++ rest) (token :: tokens) := by
  have happend := (scan_append_of_startsNumber hstarts hscan hrest).2
  obtain ⟨c, tail, rfl, -⟩ := id hstarts
  have htotal : (after ++ rest).length ≤ (tail ++ rest).length := by
    simp only [List.length_append, List.length_cons] at hlength ⊢
    omega
  exact .cons hstarts.isSpace happend htotal (.spaces hblank h)

theorem scans_elements {elements : List Json} (h : ∀ j ∈ elements, Prints j) {rest : List Char}
    {tokens : List Token} (hrest : EndsNumber rest) (hscans : Scans rest tokens) :
    Scans (afterCommas (compactList elements) ++ rest) (tokensList elements ++ tokens) := by
  induction elements with
  | nil => exact hscans
  | cons j tail ih =>
    have htail := ih fun k hk => h k (List.mem_cons_of_mem j hk)
    have hj := h j List.mem_cons_self _ _ (endsNumber_afterCommas hrest) htail
    rw [compactList, tokensList, List.cons_append, List.append_assoc]
    have hcomma := scans_mark (c := ',') (fun _ => rfl) rfl hj
    simpa [afterCommas] using hcomma

theorem scans_entries {entries : List (String × Json)} (h : ∀ entry ∈ entries, Prints entry.2)
    {rest : List Char} {tokens : List Token} (hrest : EndsNumber rest)
    (hscans : Scans rest tokens) :
    Scans (afterCommas (compactEntries entries) ++ rest) (tokensEntries entries ++ tokens) := by
  induction entries with
  | nil => exact hscans
  | cons entry tail ih =>
    obtain ⟨key, j⟩ := entry
    have htail := ih fun k hk => h k (List.mem_cons_of_mem _ hk)
    have hj := h (key, j) List.mem_cons_self _ _ (endsNumber_afterCommas hrest) htail
    have hcolon := scans_mark (c := ':') (fun _ => rfl) rfl hj
    have hcomma := scans_mark (c := ',') (fun _ => rfl) rfl (scans_stringText key hcolon)
    rw [compactEntries, tokensEntries]
    simpa [afterCommas] using hcomma

theorem scans_comma_iff {text : List Char} {tokens : List Token} :
    Scans (',' :: text) (.comma :: tokens) ↔ Scans text tokens := by
  constructor
  · intro h fuel hfuel
    have hcomma := h (fuel + 1) (Nat.succ_le_succ hfuel)
    rw [scanAll, if_neg (by decide)] at hcomma
    obtain ⟨_, hscan, hcomma⟩ := Option.bind_eq_some_iff.1 hcomma
    cases hscan
    obtain ⟨found, hfound, hcomma⟩ := Option.bind_eq_some_iff.1 hcomma
    cases hcomma
    exact hfound
  · exact scans_mark (fun _ => rfl) rfl

/-- The text of a value is cut into its tokens if its numbers read back. -/
theorem prints {j : Json} (h : j.Readable) : j.Prints := by
  induction j using Json.induct with
  | null =>
    intro rest tokens _ hscans
    have htext : "null".toList = 'n' :: ['u', 'l', 'l'] := by decide
    rw [compact, htext]
    exact scans_word (fun _ => rfl) rfl hscans
  | bool b =>
    intro rest tokens _ hscans
    cases b with
    | true =>
      have htext : "true".toList = 't' :: ['r', 'u', 'e'] := by decide
      rw [compact, htext]
      exact scans_word (fun _ => rfl) rfl hscans
    | false =>
      have htext : "false".toList = 'f' :: ['a', 'l', 's', 'e'] := by decide
      rw [compact, htext]
      exact scans_word (fun _ => rfl) rfl hscans
  | int n =>
    intro rest tokens hrest hscans
    have hstarts := startsNumber_toString n
    have hscan := scan_int (h.ints n List.mem_cons_self) endsNumber_nil
    rw [List.append_nil] at hscan
    rw [compact]
    refine scans_number hstarts hscan (fun _ h => by cases h) ?_ hrest hscans
    obtain ⟨c, tail, htext, -⟩ := hstarts
    rw [htext]
    exact Nat.succ_pos _
  | double x =>
    intro rest tokens hrest hscans
    have hx : x.ReadsBack := h.doubles x (mem_doubles.2 List.mem_cons_self)
    obtain ⟨after, hscan, hblank, hlength⟩ := scan_double hx
    rw [compact]
    exact scans_number (NumberLayout.json.startsNumber_write x) hscan hblank hlength hrest hscans
  | string s =>
    intro rest tokens _ hscans
    rw [compact]
    exact scans_stringText s hscans
  | array elements ih =>
    intro rest tokens _ hscans
    have hclose : Scans (']' :: rest) (.closeArray :: tokens) :=
      scans_mark (fun _ => rfl) rfl hscans
    have helements : Scans ((afterCommas (compactList elements)).tail ++ ']' :: rest)
        ((tokensList elements).tail ++ .closeArray :: tokens) := by
      have hall := scans_elements (fun j hj => ih j hj (h.element hj))
        (endsNumber_cons (by decide) rest) hclose
      cases elements with
      | nil => exact hclose
      | cons j tail =>
        rw [compactList, afterCommas_cons, tokensList] at hall ⊢
        exact scans_comma_iff.1 hall
    have hopen := scans_mark (c := '[') (fun _ => rfl) rfl helements
    rw [compact, Json.tokens]
    simpa [toList_join_comma] using hopen
  | object entries ih =>
    intro rest tokens _ hscans
    have hclose : Scans ('\x7d' :: rest) (.closeObject :: tokens) :=
      scans_mark (fun _ => rfl) rfl hscans
    have hentries : Scans ((afterCommas (compactEntries entries)).tail ++ '\x7d' :: rest)
        ((tokensEntries entries).tail ++ .closeObject :: tokens) := by
      have hall := scans_entries (fun entry hentry => ih entry hentry (h.entry hentry))
        (endsNumber_cons (by decide) rest) hclose
      cases entries with
      | nil => exact hclose
      | cons entry tail =>
        obtain ⟨key, j⟩ := entry
        rw [compactEntries, afterCommas_cons, tokensEntries] at hall ⊢
        exact scans_comma_iff.1 hall
    have hopen := scans_mark (c := '\x7b') (fun _ => rfl) rfl hentries
    rw [compact, Json.tokens]
    simpa [toList_join_comma] using hopen

/-- The text of a value reads back as the value, if its numbers do and it is not nested deeper than
the reader goes. -/
theorem ofText?_compact {j : Json} (h : j.Readable) (hdepth : j.depth ≤ maxDepth) :
    ofText? j.compact = some j := by
  have hscans := prints h [] [] endsNumber_nil .nil
  rw [List.append_nil, List.append_nil] at hscans
  have hrun := Machine.takes j [] [] (by rw [List.length_nil, Nat.zero_add]; exact hdepth)
  rw [List.append_nil] at hrun
  unfold ofText? ofChars? Token.ofText?
  rw [hscans _ (Nat.le_refl _)]
  show (Machine.start.run j.tokens).bind _ = some j
  rw [show Machine.start.run j.tokens = some ⟨[], .nothing j⟩ from hrun]
  rfl

end Json

end SqlDialects
