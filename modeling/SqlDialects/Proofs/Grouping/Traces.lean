import SqlDialects.Proofs.Grouping.Skeleton

/-! Where groups without a leaf leave a trace. A tree is written less its groups without items, or
with all of its groups. Either way, what is written has an empty pair of parentheses in it exactly
if one of the groups that are written has no leaf, and without such a pair a clause is there exactly
if it has a leaf. -/

namespace SqlDialects

/-- Two parentheses with nothing between them. -/
def Token.HasEmptyPair (tokens : List (Token α)) : Prop := [.opening, .closing] <:+: tokens

theorem Token.hasEmptyPair_cons (token : Token α) (rest : List (Token α)) :
    HasEmptyPair (token :: rest) ↔
      (token = .opening ∧ rest.head? = some .closing) ∨ HasEmptyPair rest := by
  unfold HasEmptyPair
  rw [List.infix_cons_iff, List.cons_prefix_cons, eq_comm (a := Token.opening)]
  cases rest with
  | nil => simp
  | cons next more => simp [List.cons_prefix_cons, eq_comm (a := Token.closing)]

namespace Grouped

mutual

/-- The tokens of a tree with all of its groups, those without items too. -/
def allTokens : Grouped α → List (Token α)
  | .leaf a => [.atom a]
  | .group items => .opening :: allTokensOf true items ++ [.closing]

/-- The tokens of a level; `first` says that none stands before them. -/
def allTokensOf (first : Bool) : List (Connective × Grouped α) → List (Token α)
  | [] => []
  | (connective, node) :: rest =>
    (if first then [] else [.link connective]) ++ node.allTokens ++ allTokensOf false rest

end

mutual

theorem tokens_eq_allTokens : (node : Grouped α) →
    node.tokens = (node.fold leaf group).allTokens
  | .leaf a => by simp only [tokens, fold, allTokens]
  | .group items => by
    simp only [tokens, fold, allTokens, tokensOf_eq_allTokensOf items true]

/-- What is written of a tree without its groups that have no items is all of what is left. -/
theorem tokensOf_eq_allTokensOf : (items : List (Connective × Grouped α)) → (first : Bool) →
    tokensOf first items = allTokensOf first (foldItems leaf group first items)
  | [], _ => by simp only [tokensOf, foldItems, allTokensOf]
  | (connective, node) :: rest, first => by
    by_cases hempty : node = .group []
    · subst hempty
      simp only [tokensOf, foldItems]
      exact tokensOf_eq_allTokensOf rest first
    · simp only [tokensOf_cons hempty, foldItems_cons hempty, allTokensOf,
        tokens_eq_allTokens node, tokensOf_eq_allTokensOf rest false]
      cases first <;> rfl

end

mutual

theorem hasLeaf_fold : (node : Grouped α) → (node.fold leaf group).hasLeaf = node.hasLeaf
  | .leaf _ => by simp only [fold, hasLeaf]
  | .group items => by simp only [fold, hasLeaf, anyLeaf_foldItems items true]

theorem anyLeaf_foldItems : (items : List (Connective × Grouped α)) → (first : Bool) →
    anyLeaf (foldItems leaf group first items) = anyLeaf items
  | [], _ => by simp only [foldItems, anyLeaf]
  | (connective, node) :: rest, first => by
    by_cases hempty : node = .group []
    · subst hempty
      simp only [foldItems, anyLeaf, hasLeaf, Bool.false_or]
      exact anyLeaf_foldItems rest first
    · simp only [foldItems_cons hempty, anyLeaf, hasLeaf_fold node, anyLeaf_foldItems rest false]

end

mutual

theorem everyGroup_fold : (node : Grouped α) → node ≠ .group [] →
    (node.fold leaf group).everyGroup anyLeaf = node.everyGroup emptyOrLeafy
  | .leaf _, _ => by simp only [fold, everyGroup]
  | .group items, hne => by
    have hitems : items.isEmpty = false := by
      cases items with
      | nil => exact absurd rfl hne
      | cons _ _ => rfl
    simp only [fold, everyGroup, emptyOrLeafy, hitems, Bool.false_or, anyLeaf_foldItems,
      everyGroupIn_foldItems items true]

/-- Without its groups that have no items, a tree has a leaf in every group if it had one in every
group with items. -/
theorem everyGroupIn_foldItems : (items : List (Connective × Grouped α)) → (first : Bool) →
    everyGroupIn anyLeaf (foldItems leaf group first items) = everyGroupIn emptyOrLeafy items
  | [], _ => by simp only [foldItems, everyGroupIn]
  | (connective, node) :: rest, first => by
    by_cases hempty : node = .group []
    · subst hempty
      simp only [foldItems, everyGroupIn, everyGroup, emptyOrLeafy, List.isEmpty_nil,
        Bool.true_or, Bool.true_and]
      exact everyGroupIn_foldItems rest first
    · simp only [foldItems_cons hempty, everyGroupIn, everyGroup_fold node hempty,
        everyGroupIn_foldItems rest false]

end

/-- Where every group has a leaf, a level without a leaf is a level without items. -/
theorem anyLeaf_iff_ne_nil {items : List (Connective × Grouped α)}
    (h : everyGroupIn anyLeaf items) : anyLeaf items ↔ items ≠ [] := by
  cases items with
  | nil => simp [anyLeaf]
  | cons item rest =>
    obtain ⟨connective, node⟩ := item
    have hleaf : node.hasLeaf = true := by
      cases node with
      | leaf a => simp only [hasLeaf]
      | group inner =>
        simp only [everyGroupIn, everyGroup, Bool.and_eq_true] at h
        simpa only [hasLeaf] using h.1.1
    simp [anyLeaf, hleaf]

/-- A tree does not start with the end of a group. -/
theorem head?_allTokens_append (node : Grouped α) (rest : List (Token α)) :
    (node.allTokens ++ rest).head? ≠ some .closing := by
  cases node <;> simp [allTokens]

theorem head?_allTokensOf_append (items : List (Connective × Grouped α)) (rest : List (Token α)) :
    (allTokensOf true items ++ .closing :: rest).head? = some .closing ↔ items = [] := by
  cases items with
  | nil => simp [allTokensOf]
  | cons item more =>
    have hhead := head?_allTokens_append item.2 (allTokensOf false more ++ .closing :: rest)
    simpa [allTokensOf, List.append_assoc] using hhead

mutual

theorem hasEmptyPair_allTokens : (node : Grouped α) → (rest : List (Token α)) →
    (Token.HasEmptyPair (node.allTokens ++ rest) ↔
      ¬ node.everyGroup anyLeaf ∨ Token.HasEmptyPair rest)
  | .leaf a, rest => by
    simp [allTokens, everyGroup, Token.hasEmptyPair_cons]
  | .group items, rest => by
    have hitems := hasEmptyPair_allTokensOf items true (.closing :: rest)
    have hgroup : (group items).everyGroup anyLeaf ↔
        items ≠ [] ∧ everyGroupIn anyLeaf items := by
      simp only [everyGroup, Bool.and_eq_true]
      exact and_congr_left anyLeaf_iff_ne_nil
    simp only [allTokens, List.cons_append, List.append_assoc, List.nil_append,
      Token.hasEmptyPair_cons .opening, head?_allTokensOf_append, hitems, hgroup,
      Token.hasEmptyPair_cons .closing, reduceCtorEq, true_and, false_and, false_or,
      Classical.not_and_iff_not_or_not, Classical.not_not, or_assoc]

/-- An empty pair is written exactly where a group has no leaf: the innermost of such groups has
nothing between its parentheses. -/
theorem hasEmptyPair_allTokensOf : (items : List (Connective × Grouped α)) → (first : Bool) →
    (rest : List (Token α)) →
    (Token.HasEmptyPair (allTokensOf first items ++ rest) ↔
      ¬ everyGroupIn anyLeaf items ∨ Token.HasEmptyPair rest)
  | [], _, rest => by simp [allTokensOf, everyGroupIn]
  | (connective, node) :: more, first, rest => by
    have hnode := hasEmptyPair_allTokens node (allTokensOf false more ++ rest)
    have hmore := hasEmptyPair_allTokensOf more false rest
    have hlink : Token.HasEmptyPair (allTokensOf first ((connective, node) :: more) ++ rest) ↔
        Token.HasEmptyPair (node.allTokens ++ (allTokensOf false more ++ rest)) := by
      cases first <;> simp [allTokensOf, List.append_assoc, Token.hasEmptyPair_cons]
    rw [hlink, hnode, hmore]
    simp only [everyGroupIn, Bool.and_eq_true, Classical.not_and_iff_not_or_not, or_assoc]

end

end Grouped

namespace Token

/-- A clause of which no groups without a leaf leave a trace: it is there exactly if its tree has a
leaf, and no parentheses in it are empty. -/
structure Traceless (clause : Option (List (Token α))) (items : List (Connective × Grouped α)) :
    Prop where
  isSome_iff : clause.isSome ↔ Grouped.anyLeaf items
  no_empty_pair : ∀ tokens ∈ clause, ¬ HasEmptyPair tokens

/-- The clause that is read off a text: none, or the tokens behind its keyword. -/
def ofClause? (keyword : String) (leaves : List (α × List Char)) (text : String) :
    Option (Option (List (Token α))) :=
  if text = "" then some none
  else if keyword.toList.isPrefixOf text.toList then
    (ofText? leaves (text.toList.drop keyword.toList.length)).map some
  else none

/-- The clause of tokens, if there are any. -/
def clauseOf (tokens : List (Token α)) : Option (List (Token α)) :=
  if tokens.isEmpty then none else some tokens

/-- The clause of tokens is read off its text. -/
theorem Laid.ofClause?_eq {tokens : List (Token α)} {leaves : List (α × List Char)} {text : String}
    (h : Laid tokens leaves text.toList) {keyword : String} (hkeyword : keyword ≠ "") :
    ofClause? keyword leaves (if tokens.isEmpty then "" else keyword ++ text) =
      some (clauseOf tokens) := by
  unfold clauseOf
  cases tokens with
  | nil => simp [ofClause?]
  | cons token rest =>
    have hne : keyword ++ text ≠ "" := by simp [String.append_eq_empty_iff, hkeyword]
    have hprefix : keyword.toList.isPrefixOf (keyword ++ text).toList = true := by
      simp [String.toList_append]
    rw [List.isEmpty_cons, if_neg Bool.false_ne_true, if_neg Bool.false_ne_true, ofClause?,
      if_neg hne, if_pos hprefix, String.toList_append, List.drop_left, h.ofText?_eq,
      Option.map_some]

theorem hasEmptyPair_iff_mem_clauseOf (tokens : List (Token α)) :
    (∀ written ∈ clauseOf tokens, ¬ HasEmptyPair written) ↔ ¬ HasEmptyPair tokens := by
  cases tokens <;> simp [clauseOf, HasEmptyPair]

theorem isSome_clauseOf (tokens : List (Token α)) : (clauseOf tokens).isSome ↔ tokens ≠ [] := by
  cases tokens <;> simp [clauseOf]

end Token

namespace Grouped

theorem allTokensOf_ne_nil_iff (items : List (Connective × Grouped α)) :
    allTokensOf true items ≠ [] ↔ items ≠ [] := by
  cases items with
  | nil => simp [allTokensOf]
  | cons item rest =>
    obtain ⟨connective, node⟩ := item
    cases node <;> simp [allTokensOf, allTokens]

/-- With all groups written, every group needs a leaf. -/
theorem traceless_allTokensOf_iff (items : List (Connective × Grouped α)) :
    Token.Traceless (Token.clauseOf (allTokensOf true items)) items ↔
      everyGroupIn anyLeaf items := by
  have hpair := hasEmptyPair_allTokensOf items true []
  have hnil : ¬ Token.HasEmptyPair ([] : List (Token α)) := by simp [Token.HasEmptyPair]
  rw [List.append_nil, or_iff_left hnil] at hpair
  constructor
  · intro h
    have hfree := (Token.hasEmptyPair_iff_mem_clauseOf _).mp h.no_empty_pair
    exact Classical.not_not.mp fun hgroups => hfree (hpair.mpr hgroups)
  · intro h
    constructor
    · rw [Token.isSome_clauseOf, allTokensOf_ne_nil_iff]
      exact (anyLeaf_iff_ne_nil h).symm
    · rw [Token.hasEmptyPair_iff_mem_clauseOf]
      exact fun hempty => hpair.mp hempty h

/-- With groups without items left out, a group needs a leaf only if it has items. -/
theorem traceless_tokensOf_iff (items : List (Connective × Grouped α)) :
    Token.Traceless (Token.clauseOf (tokensOf true items)) items ↔
      everyGroupIn emptyOrLeafy items := by
  rw [← everyGroupIn_foldItems items true, ← traceless_allTokensOf_iff,
    ← tokensOf_eq_allTokensOf]
  constructor
  · intro h
    exact ⟨by rw [anyLeaf_foldItems]; exact h.isSome_iff, h.no_empty_pair⟩
  · intro h
    exact ⟨by rw [← anyLeaf_foldItems items true]; exact h.isSome_iff, h.no_empty_pair⟩

mutual

theorem atoms_allTokens : (node : Grouped α) → Token.atoms node.allTokens = node.leaves
  | .leaf a => by simp only [allTokens, leaves, Token.atoms]
  | .group items => by
    simp only [allTokens, leaves, List.cons_append, Token.atoms, Token.atoms_append,
      List.append_nil, atoms_allTokensOf items true]

theorem atoms_allTokensOf : (items : List (Connective × Grouped α)) → (first : Bool) →
    Token.atoms (allTokensOf first items) = leavesOf items
  | [], _ => by simp only [allTokensOf, leavesOf, Token.atoms]
  | (connective, node) :: rest, first => by
    simp only [allTokensOf, leavesOf, Token.atoms_append, Token.atoms_link, List.nil_append,
      atoms_allTokens node, atoms_allTokensOf rest false]

end

end Grouped

end SqlDialects
