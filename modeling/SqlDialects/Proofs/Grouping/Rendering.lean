import SqlDialects.Proofs.Grouping.Skeleton
import SqlDialects.Proofs.Rows.Problem

/-! Conditions and join conditions, read off their texts. What is written is what the tokens of the
tree spell, each leaf as it is written by itself; so the reader of texts finds the tokens of the
tree, and they are read back as the tree. -/

namespace SqlDialects

mutual

def ConditionNode.grouped : ConditionNode → Grouped ConditionNode
  | .test condition => .leaf (.test condition)
  | .exists negated query => .leaf (.exists negated query)
  | .group items => .group (ConditionNode.groupedItems items)

def ConditionNode.groupedItems :
    List (Connective × ConditionNode) → List (Connective × Grouped ConditionNode)
  | [] => []
  | (connective, node) :: rest => (connective, node.grouped) :: ConditionNode.groupedItems rest

end

mutual

def JoinNode.grouped : JoinNode → Grouped JoinNode
  | .columns left comparison right => .leaf (.columns left comparison right)
  | .group items => .group (JoinNode.groupedItems items)

def JoinNode.groupedItems : List (Connective × JoinNode) → List (Connective × Grouped JoinNode)
  | [] => []
  | (connective, node) :: rest => (connective, node.grouped) :: JoinNode.groupedItems rest

end

/-- Whether this text is read as a tree, less its groups without items, when these leaves are read
as atoms; and whether it has the truth value of the tree under every assignment to the leaves. -/
structure ReadsAs (leaves : List (α × List Char)) (text : String)
    (items : List (Connective × Grouped α)) : Prop where
  parse_eq : (Token.ofText? leaves text.toList).bind Token.parse = some (Grouped.pruned items)
  truth_eq : ∀ assign : α → Truth,
    (Token.ofText? leaves text.toList).bind (Token.truth assign) = some (Grouped.truth assign items)

/-- A text that is read as the tokens of a tree is read as the tree. -/
theorem Grouped.readsAs_of_tokensOf {leaves : List (α × List Char)} {text : String}
    {items : List (Connective × Grouped α)} (hgroups : everyGroupIn emptyOrLeafy items)
    (h : Token.ofText? leaves text.toList = some (tokensOf true items)) :
    ReadsAs leaves text items := by
  constructor
  · rw [h, Option.bind_some]
    exact read_tokensOf leaf group hgroups
  · intro assign
    rw [h, Option.bind_some, Token.truth, read_tokensOf assign Truth.level hgroups]
    rfl

/-- The SQL of a leaf, where it has one. -/
def ConditionNode.sql (dialect : Dialect) (leaf : ConditionNode) : Sql :=
  match leaf.render dialect with
  | .ok sql => sql
  | .error _ => []

/-- The texts of leaves that are written one after the other, with placeholders numbered from `next`
on. -/
def ConditionNode.written (dialect : Dialect) (next : Nat) :
    List ConditionNode → List (ConditionNode × List Char)
  | [] => []
  | leaf :: rest =>
    (leaf, ((leaf.sql dialect).write dialect next).toList) ::
      written dialect (next + (leaf.sql dialect).values.length) rest

def ConditionNode.isLeaf : ConditionNode → Bool
  | .group _ => false
  | _ => true

/-- Tokens that spell this SQL, with atoms that are leaves and all have a rendering. -/
structure Spells (dialect : Dialect) (tokens : List (Token ConditionNode)) (sql : Sql) :
    Prop where
  leaves : ∀ leaf, .atom leaf ∈ tokens →
    leaf.isLeaf = true ∧ leaf.render dialect = .ok (leaf.sql dialect)
  text : sql = tokens.flatMap (Token.write .text (ConditionNode.sql dialect))

namespace Spells

variable {dialect : Dialect} {tokens more : List (Token ConditionNode)} {sql rest : Sql}

theorem nil : Spells dialect [] [] := ⟨fun _ h => absurd h List.not_mem_nil, rfl⟩

theorem append (h : Spells dialect tokens sql) (hrest : Spells dialect more rest) :
    Spells dialect (tokens ++ more) (sql ++ rest) := by
  constructor
  · intro leaf hleaf
    rcases List.mem_append.mp hleaf with hl | hr
    · exact h.leaves leaf hl
    · exact hrest.leaves leaf hr
  · rw [List.flatMap_append, ← h.text, ← hrest.text]

theorem atom {leaf : ConditionNode} (hleaf : leaf.isLeaf = true)
    (h : leaf.render dialect = .ok sql) : Spells dialect [.atom leaf] sql := by
  have hsql : leaf.sql dialect = sql := by
    unfold ConditionNode.sql
    rw [h]
  constructor
  · intro other hother
    cases List.mem_singleton.mp hother
    exact ⟨hleaf, by rw [h, hsql]⟩
  · simp [Token.write, hsql]

theorem link (connective : Connective) :
    Spells dialect [.link connective] (Sql.text (" " ++ connective.sql ++ " ")) :=
  ⟨fun _ h => (nomatch List.mem_singleton.mp h), by simp [Token.write, Token.phrase_link, Sql.text]⟩

theorem parens (h : Spells dialect tokens sql) :
    Spells dialect (.opening :: tokens ++ [.closing]) sql.parens := by
  have hopening : Spells dialect [.opening] [.text "("] :=
    ⟨fun _ h => (nomatch List.mem_singleton.mp h), rfl⟩
  have hclosing : Spells dialect [.closing] [.text ")"] :=
    ⟨fun _ h => (nomatch List.mem_singleton.mp h), rfl⟩
  exact (hopening.append h).append hclosing

end Spells

/-- The text of a leaf is more than parentheses and connectives. -/
theorem ConditionNode.all_isMarkChar_write {dialect : Dialect} {leaf : ConditionNode} {sql : Sql}
    (hleaf : leaf.isLeaf = true) (h : leaf.render dialect = .ok sql) (next : Nat) :
    (sql.write dialect next).toList.all Token.isMarkChar = false := by
  cases leaf with
  | test condition =>
    simp only [render] at h
    unfold Condition.render at h
    split at h
    · cases h
      simp [Sql.text, Sql.write, Token.isMarkChar]
    · cases h
      simp [Sql.text, Sql.write, Token.isMarkChar]
    · rename_i comparison _ _ _
      obtain ⟨left, _, h⟩ := bind_eq_ok_iff.mp h
      obtain ⟨right, _, h⟩ := bind_eq_ok_iff.mp h
      cases h
      have hsql : comparison.sql.toList.all Token.isMarkChar = false := by
        cases comparison <;> simp [Comparison.sql, Token.isMarkChar]
      simp only [Sql.write_append, Sql.write, String.toList_append, List.all_append, hsql,
        Bool.and_false, Bool.false_and]
  | «exists» negated query =>
    simp only [render] at h
    obtain ⟨inner, _, h⟩ := bind_eq_ok_iff.mp h
    cases h
    cases negated <;> simp [Sql.write, Token.isMarkChar]
  | group items => cases hleaf

/-- Tokens are read off the text of the SQL that they spell. -/
theorem Spells.laid {dialect : Dialect} {tokens : List (Token ConditionNode)} {sql : Sql}
    (h : Spells dialect tokens sql) (next : Nat) :
    Token.Laid tokens (ConditionNode.written dialect next (Token.atoms tokens))
      (sql.write dialect next).toList := by
  obtain ⟨hleaves, rfl⟩ := h
  induction tokens generalizing next with
  | nil => exact .nil
  | cons token rest ih =>
    have hrest (next : Nat) := ih next fun leaf hmem => hleaves leaf (List.mem_cons_of_mem _ hmem)
    rw [List.flatMap_cons, Sql.write_append, String.toList_append]
    cases token with
    | atom leaf =>
      obtain ⟨hleaf, hrender⟩ := hleaves leaf List.mem_cons_self
      exact .atom leaf (ConditionNode.all_isMarkChar_write hleaf hrender next) (hrest _)
    | _ =>
      rw [Token.write_of_isMark rfl, Sql.write, Sql.write, String.append_empty]
      exact .mark rfl (hrest next)

theorem ConditionNode.grouped_eq_empty_iff (node : ConditionNode) :
    node.grouped = .group [] ↔ node = .group [] := by
  cases node with
  | group items => cases items <;> simp [grouped, groupedItems]
  | _ => simp [grouped]

mutual

theorem ConditionNode.render_spells (dialect : Dialect) : (node : ConditionNode) → (sql : Sql) →
    node.render dialect = .ok sql → Spells dialect node.grouped.tokens sql
  | .test condition, sql, h => by
    simp only [ConditionNode.grouped, Grouped.tokens]
    exact Spells.atom rfl h
  | .exists negated query, sql, h => by
    simp only [ConditionNode.grouped, Grouped.tokens]
    exact Spells.atom rfl h
  | .group items, sql, h => by
    simp only [ConditionNode.render] at h
    simp only [ConditionNode.grouped, Grouped.tokens]
    obtain ⟨inner, hinner, h⟩ := bind_eq_ok_iff.mp h
    cases h
    exact (ConditionNode.renderItems_spells dialect items true inner hinner).parens

theorem ConditionNode.renderItems_spells (dialect : Dialect) :
    (items : List (Connective × ConditionNode)) → (first : Bool) → (sql : Sql) →
    ConditionNode.renderItems dialect first items = .ok sql →
    Spells dialect (Grouped.tokensOf first (ConditionNode.groupedItems items)) sql
  | [], first, sql, h => by
    simp only [ConditionNode.renderItems] at h
    cases h
    simp only [ConditionNode.groupedItems, Grouped.tokensOf]
    exact Spells.nil
  | (connective, node) :: rest, first, sql, h => by
    by_cases hempty : node = .group []
    · subst hempty
      simp only [ConditionNode.renderItems] at h
      simp only [ConditionNode.groupedItems, ConditionNode.grouped, Grouped.tokensOf]
      exact ConditionNode.renderItems_spells dialect rest first sql h
    · have hgrouped : node.grouped ≠ .group [] := fun h =>
        hempty (node.grouped_eq_empty_iff.mp h)
      rw [ConditionNode.renderItems_cons hempty] at h
      simp only [ConditionNode.groupedItems, Grouped.tokensOf_cons hgrouped]
      obtain ⟨part, hpart, h⟩ := bind_eq_ok_iff.mp h
      obtain ⟨more, hmore, h⟩ := bind_eq_ok_iff.mp h
      cases h
      have hlink : Spells dialect (if first then [] else [.link connective])
          (if first then [] else Sql.text (" " ++ connective.sql ++ " ")) := by
        cases first
        · exact Spells.link connective
        · exact Spells.nil
      exact (hlink.append (ConditionNode.render_spells dialect node part hpart)).append
        (ConditionNode.renderItems_spells dialect rest false more hmore)

end

/-- The texts of comparisons of columns. -/
def JoinNode.written (dialect : Dialect) (leaves : List JoinNode) : List (JoinNode × List Char) :=
  leaves.map fun leaf => (leaf, (leaf.render dialect).toList)

def JoinNode.isLeaf : JoinNode → Bool
  | .group _ => false
  | _ => true

mutual

theorem JoinNode.isLeaf_of_mem_leaves : (node : JoinNode) →
    ∀ leaf ∈ node.grouped.leaves, leaf.isLeaf = true
  | .columns left comparison right, leaf, hleaf => by
    simp only [JoinNode.grouped, Grouped.leaves, List.mem_singleton] at hleaf
    rw [hleaf]
    rfl
  | .group items, leaf, hleaf => by
    simp only [JoinNode.grouped, Grouped.leaves] at hleaf
    exact JoinNode.isLeaf_of_mem_leavesOf items leaf hleaf

theorem JoinNode.isLeaf_of_mem_leavesOf : (items : List (Connective × JoinNode)) →
    ∀ leaf ∈ Grouped.leavesOf (JoinNode.groupedItems items), leaf.isLeaf = true
  | [], leaf, hleaf => by simp [JoinNode.groupedItems, Grouped.leavesOf] at hleaf
  | (_, node) :: rest, leaf, hleaf => by
    simp only [JoinNode.groupedItems, Grouped.leavesOf, List.mem_append] at hleaf
    rcases hleaf with hnode | hrest
    · exact JoinNode.isLeaf_of_mem_leaves node leaf hnode
    · exact JoinNode.isLeaf_of_mem_leavesOf rest leaf hrest

end

theorem JoinNode.all_isMarkChar_render (dialect : Dialect) {leaf : JoinNode}
    (h : leaf.isLeaf = true) : (leaf.render dialect).toList.all Token.isMarkChar = false := by
  cases leaf with
  | columns left comparison right =>
    have hsql : comparison.sql.toList.all Token.isMarkChar = false := by
      cases comparison <;> simp [Comparison.sql, Token.isMarkChar]
    simp only [render, String.toList_append, List.all_append, hsql, Bool.and_false, Bool.false_and]
  | group items => cases h

/-- The text of the tokens of a join condition, each comparison as it is rendered by itself. -/
def JoinNode.spell (dialect : Dialect) (tokens : List (Token JoinNode)) : String :=
  String.join (tokens.flatMap (Token.write id fun leaf => [leaf.render dialect]))

theorem JoinNode.spell_append (dialect : Dialect) (first second : List (Token JoinNode)) :
    spell dialect (first ++ second) = spell dialect first ++ spell dialect second := by
  simp only [spell, List.flatMap_append, String.join_append]

theorem JoinNode.spell_cons (dialect : Dialect) (token : Token JoinNode)
    (rest : List (Token JoinNode)) :
    spell dialect (token :: rest) = spell dialect [token] ++ spell dialect rest :=
  spell_append dialect [token] rest

theorem JoinNode.spell_mark (dialect : Dialect) {mark : Token JoinNode} (h : mark.isMark = true) :
    spell dialect [mark] = mark.phrase := by
  simp [spell, Token.write_of_isMark h]

theorem JoinNode.spell_parens (dialect : Dialect) (tokens : List (Token JoinNode)) :
    spell dialect (.opening :: tokens ++ [.closing]) = "(" ++ spell dialect tokens ++ ")" := by
  have hopening : spell dialect [.opening] = "(" := spell_mark dialect rfl
  have hclosing : spell dialect [.closing] = ")" := spell_mark dialect rfl
  rw [spell_append, spell_cons, hopening, hclosing]

theorem JoinNode.spell_link (dialect : Dialect) (first : Bool) (connective : Connective) :
    spell dialect (if first then [] else [.link connective]) =
      if first then "" else " " ++ connective.sql ++ " " := by
  cases first with
  | false => exact (spell_mark dialect rfl).trans (Token.phrase_link connective)
  | true => rfl

/-- Tokens are read off the text that they spell. -/
theorem JoinNode.laid (dialect : Dialect) {tokens : List (Token JoinNode)}
    (h : ∀ leaf ∈ Token.atoms tokens, leaf.isLeaf = true) :
    Token.Laid tokens (JoinNode.written dialect (Token.atoms tokens))
      (JoinNode.spell dialect tokens).toList := by
  induction tokens with
  | nil => exact .nil
  | cons token rest ih =>
    rw [spell_cons, String.toList_append]
    cases token with
    | atom leaf =>
      obtain ⟨hleaf, hrest⟩ := List.forall_mem_cons.mp h
      have hspell : spell dialect [.atom leaf] = leaf.render dialect := by simp [spell, Token.write]
      rw [hspell]
      exact .atom leaf (all_isMarkChar_render dialect hleaf) (ih hrest)
    | _ =>
      rw [spell_mark dialect rfl]
      exact .mark rfl (ih h)

theorem JoinNode.grouped_ne_empty {node : JoinNode} (h : node.grouped.everyGroup Grouped.anyLeaf) :
    node.grouped ≠ .group [] := by
  intro hempty
  rw [hempty] at h
  cases h

mutual

theorem JoinNode.spell_tokens (dialect : Dialect) : (node : JoinNode) →
    node.grouped.everyGroup Grouped.anyLeaf →
    JoinNode.spell dialect node.grouped.tokens = node.render dialect
  | .columns left comparison right, _ => by
    simp only [JoinNode.grouped, Grouped.tokens, JoinNode.spell, List.flatMap_cons, Token.write,
      List.flatMap_nil, List.append_nil, String.join_cons, String.join_nil, String.append_empty]
  | .group items, h => by
    simp only [JoinNode.grouped, Grouped.everyGroup, Bool.and_eq_true] at h
    simp only [JoinNode.grouped, Grouped.tokens, JoinNode.render, JoinNode.spell_parens,
      JoinNode.spell_tokensOf dialect items true h.2]

/-- No group is left out where every one of them has a comparison. -/
theorem JoinNode.spell_tokensOf (dialect : Dialect) :
    (items : List (Connective × JoinNode)) → (first : Bool) →
    Grouped.everyGroupIn Grouped.anyLeaf (JoinNode.groupedItems items) →
    JoinNode.spell dialect (Grouped.tokensOf first (JoinNode.groupedItems items)) =
      JoinNode.renderItems dialect first items
  | [], _, _ => by
    simp only [JoinNode.groupedItems, Grouped.tokensOf, JoinNode.renderItems]
    rfl
  | (connective, node) :: rest, first, h => by
    simp only [JoinNode.groupedItems, Grouped.everyGroupIn, Bool.and_eq_true] at h
    obtain ⟨hnode, hrest⟩ := h
    simp only [JoinNode.groupedItems, Grouped.tokensOf_cons (JoinNode.grouped_ne_empty hnode),
      JoinNode.renderItems, JoinNode.spell_append, JoinNode.spell_link]
    rw [JoinNode.spell_tokens dialect node hnode, JoinNode.spell_tokensOf dialect rest false hrest]

end

/-- The leaves of a tree of conditions, each as it is written by itself. -/
def ConditionTree.writtenLeaves (dialect : Dialect) (next : Nat) (items : ConditionTree) :
    List (ConditionNode × List Char) :=
  ConditionNode.written dialect next (Grouped.leavesOf (ConditionNode.groupedItems items))

/-- The comparisons of a join condition, each as it is written by itself. -/
def JoinTree.writtenLeaves (dialect : Dialect) (items : JoinTree) : List (JoinNode × List Char) :=
  JoinNode.written dialect (Grouped.leavesOf (JoinNode.groupedItems items))

/-- The text of a tree of conditions is read as the tokens of the tree. -/
theorem ConditionTree.ofText?_write {dialect : Dialect} {items : ConditionTree} {sql : Sql}
    (h : ConditionTree.render dialect items = .ok sql) (next : Nat) :
    Token.ofText? (ConditionTree.writtenLeaves dialect next items)
        (sql.write dialect next).toList =
      some (Grouped.tokensOf true (ConditionNode.groupedItems items)) := by
  have hlaid := (ConditionNode.renderItems_spells dialect items true sql h).laid next
  rw [Grouped.atoms_tokensOf] at hlaid
  exact hlaid.ofText?_eq

/-- In every dialect, conditions and join conditions are written so that their grouping can be read
back. The text of a condition, whatever number its placeholders start with, is read as the tree of
the condition if groups in it have no items or a leaf at some depth. The same holds of a join
condition in which every group has a comparison at some depth. -/
theorem grouping_read_back (dialect : Dialect) :
    (∀ (items : ConditionTree) (sql : Sql) (next : Nat),
      ConditionTree.render dialect items = .ok sql →
      Grouped.everyGroupIn Grouped.emptyOrLeafy (ConditionNode.groupedItems items) →
      ReadsAs (ConditionTree.writtenLeaves dialect next items) (sql.write dialect next)
        (ConditionNode.groupedItems items)) ∧
    ∀ items : JoinTree,
      Grouped.everyGroupIn Grouped.anyLeaf (JoinNode.groupedItems items) →
      ReadsAs (JoinTree.writtenLeaves dialect items) (JoinNode.renderItems dialect true items)
        (JoinNode.groupedItems items) := by
  constructor
  · intro items sql next hrender hgroups
    exact Grouped.readsAs_of_tokensOf hgroups (ConditionTree.ofText?_write hrender next)
  · intro items hgroups
    have hlaid := JoinNode.laid dialect (Grouped.atoms_tokensOf (JoinNode.groupedItems items) true ▸
      JoinNode.isLeaf_of_mem_leavesOf items)
    rw [Grouped.atoms_tokensOf, JoinNode.spell_tokensOf dialect items true hgroups] at hlaid
    exact Grouped.readsAs_of_tokensOf (Grouped.everyGroupIn_of_anyLeaf _ hgroups) hlaid.ofText?_eq

/-- An empty group before the first condition and one at the start of a group are not read back, and
do not take a connective with them. -/
theorem grouping_read_back_of_empty_groups :
    let a : ConditionNode := .test ⟨.column "a", .eq, .value (.int 1)⟩
    let b : ConditionNode := .test ⟨.column "b", .isNull, .nothing⟩
    let items : ConditionTree := [(.and, .group []), (.or, a),
      (.or, .group [(.and, .group []), (.or, b), (.and, a)]), (.and, b)]
    let on : JoinTree := [(.or, .group [(.or, .columns "x" .eq "y"), (.or, .columns "x" .lt "z")]),
      (.and, .columns "y" .ne "z")]
    let text := "a = $3 OR (b IS NULL AND a = $4) AND b IS NULL"
    (ConditionTree.render .postgres items).map (Sql.write .postgres 3) = .ok text ∧
    (Token.ofText? [(a, "a = $3".toList), (b, "b IS NULL".toList), (a, "a = $4".toList),
        (b, "b IS NULL".toList)] text.toList).bind Token.parse =
      some [(.and, .leaf a), (.or, .group [(.and, .leaf b), (.and, .leaf a)]), (.and, .leaf b)] ∧
    ReadsAs (JoinTree.writtenLeaves .postgres on) "(x = y OR x < z) AND y != z"
      (JoinNode.groupedItems on) := by
  intro a b items on text
  obtain ⟨hconditions, hjoins⟩ := grouping_read_back .postgres
  refine ⟨rfl, ?_, hjoins on rfl⟩
  exact (hconditions items _ 3 rfl rfl).parse_eq

end SqlDialects
