import SqlDialects.Query.Basic

/-! Nested groups of items with connectives, the tokens that they are written as, and a reader that
takes tokens back to groups. The reader shifts what it meets onto the level that is open, and folds
the level when its parenthesis is closed. -/

namespace SqlDialects

/-- The truth values of SQL, in which a comparison with null is unknown. -/
inductive Truth where
  | false
  | unknown
  | true
deriving DecidableEq, Repr

namespace Truth

def and : Truth → Truth → Truth
  | .false, _ | _, .false => .false
  | .true, v | v, .true => v
  | .unknown, .unknown => .unknown

def or : Truth → Truth → Truth
  | .true, _ | _, .true => .true
  | .false, v | v, .false => v
  | .unknown, .unknown => .unknown

/-- The value of a run of `AND` with the value `run` so far, and of all that follows it. -/
def levelFrom (run : Truth) : List (Connective × Truth) → Truth
  | [] => run
  | (.and, v) :: rest => levelFrom (run.and v) rest
  | (.or, v) :: rest => run.or (levelFrom v rest)

/-- The value of items with connectives between them, of which `AND` binds tighter than `OR`. The
connective of the first item says nothing, and no items at all are no condition. -/
def level : List (Connective × Truth) → Truth
  | [] => .true
  | (_, v) :: rest => levelFrom v rest

end Truth

/-- Items in groups. The connective of the first item of a group says nothing. -/
inductive Grouped (α : Type) where
  | leaf (leaf : α)
  | group (items : List (Connective × Grouped α))

/-- Text in which every leaf is read as one atom. -/
inductive Token (α : Type) where
  | atom (leaf : α)
  | link (connective : Connective)
  | opening
  | closing

namespace Grouped

mutual

/-- Whether there is a leaf, at any depth. -/
def hasLeaf : Grouped α → Bool
  | .leaf _ => true
  | .group items => anyLeaf items

def anyLeaf : List (Connective × Grouped α) → Bool
  | [] => false
  | (_, node) :: rest => node.hasLeaf || anyLeaf rest

end

mutual

/-- The leaves from left to right. -/
def leaves : Grouped α → List α
  | .leaf a => [a]
  | .group items => leavesOf items

def leavesOf : List (Connective × Grouped α) → List α
  | [] => []
  | (_, node) :: rest => node.leaves ++ leavesOf rest

end

mutual

/-- Whether the items of every group, at any depth, are as `p` has it. -/
def everyGroup (p : List (Connective × Grouped α) → Bool) : Grouped α → Bool
  | .leaf _ => true
  | .group items => p items && everyGroupIn p items

def everyGroupIn (p : List (Connective × Grouped α) → Bool) :
    List (Connective × Grouped α) → Bool
  | [] => true
  | (_, node) :: rest => node.everyGroup p && everyGroupIn p rest

end

section

variable (ofLeaf : α → β) (ofLevel : List (Connective × β) → β)

mutual

/-- What a tree comes to, from its leaves upwards. Groups without items are left out. -/
def fold : Grouped α → β
  | .leaf a => ofLeaf a
  | .group items => ofLevel (foldItems true items)

/-- The items of a level; `first` says that none stands before them. The first one that is not left
out has the connective `AND`, as good as any. -/
def foldItems (first : Bool) : List (Connective × Grouped α) → List (Connective × β)
  | [] => []
  | (_, .group []) :: rest => foldItems first rest
  | (connective, node) :: rest =>
    (if first then .and else connective, node.fold) :: foldItems false rest

end

end

/-- The items without groups that have no items. -/
def pruned (items : List (Connective × Grouped α)) : List (Connective × Grouped α) :=
  foldItems .leaf .group true items

/-- The truth value of a tree in which each leaf has the value that `assign` gives to it. -/
def truth (assign : α → Truth) (items : List (Connective × Grouped α)) : Truth :=
  Truth.level (foldItems assign Truth.level true items)

mutual

def tokens : Grouped α → List (Token α)
  | .leaf a => [.atom a]
  | .group items => .opening :: tokensOf true items ++ [.closing]

/-- The tokens of a level; `first` says that none stands before them. -/
def tokensOf (first : Bool) : List (Connective × Grouped α) → List (Token α)
  | [] => []
  | (_, .group []) :: rest => tokensOf first rest
  | (connective, node) :: rest =>
    (if first then [] else [.link connective]) ++ node.tokens ++ tokensOf false rest

end

variable {first : Bool} {connective : Connective} {node : Grouped α}
  {rest : List (Connective × Grouped α)}

theorem foldItems_cons {ofLeaf : α → β} {ofLevel : List (Connective × β) → β}
    (h : node ≠ .group []) :
    foldItems ofLeaf ofLevel first ((connective, node) :: rest) =
      (if first then .and else connective, node.fold ofLeaf ofLevel) ::
        foldItems ofLeaf ofLevel false rest :=
  foldItems.eq_3 ofLeaf ofLevel first connective node rest h

theorem tokensOf_cons (h : node ≠ .group []) :
    tokensOf first ((connective, node) :: rest) =
      (if first then [] else [.link connective]) ++ node.tokens ++ tokensOf false rest :=
  tokensOf.eq_3 first connective node rest h

end Grouped

/-- What a reader has read: the items of the level that is open, the connective of the item that is
due, if one is, and the levels around with the connectives of the groups that are open. -/
structure ReaderState (β : Type) where
  level : List (Connective × β)
  due : Option Connective
  around : List (List (Connective × β) × Connective)

namespace Token

section

variable (ofLeaf : α → β) (ofLevel : List (Connective × β) → β)

/-- One token. An atom or a group is read where it is due, and a connective or the end of a group
where nothing is. -/
def step : Token α → ReaderState β → Option (ReaderState β)
  | .atom a, ⟨level, some c, around⟩ => some ⟨level ++ [(c, ofLeaf a)], none, around⟩
  | .opening, ⟨level, some c, around⟩ => some ⟨[], some .and, (level, c) :: around⟩
  | .link c, ⟨level, none, around⟩ => some ⟨level, some c, around⟩
  | .closing, ⟨level, none, (outer, c) :: around⟩ =>
    some ⟨outer ++ [(c, ofLevel level)], none, around⟩
  | _, _ => none

def run : List (Token α) → ReaderState β → Option (ReaderState β)
  | [], state => some state
  | token :: rest, state => (token.step ofLeaf ofLevel state).bind (run rest)

variable {level : List (Connective × β)} {around : List (List (Connective × β) × Connective)}
  {c : Connective} {rest : List (Token α)}

@[simp] theorem run_atom (a : α) :
    run ofLeaf ofLevel (.atom a :: rest) ⟨level, some c, around⟩ =
      run ofLeaf ofLevel rest ⟨level ++ [(c, ofLeaf a)], none, around⟩ := rfl

@[simp] theorem run_opening :
    run ofLeaf ofLevel (.opening :: rest) ⟨level, some c, around⟩ =
      run ofLeaf ofLevel rest ⟨[], some .and, (level, c) :: around⟩ := rfl

@[simp] theorem run_link :
    run ofLeaf ofLevel (.link c :: rest) ⟨level, none, around⟩ =
      run ofLeaf ofLevel rest ⟨level, some c, around⟩ := rfl

@[simp] theorem run_closing (outer : List (Connective × β)) :
    run ofLeaf ofLevel (.closing :: rest) ⟨level, none, (outer, c) :: around⟩ =
      run ofLeaf ofLevel rest ⟨outer ++ [(c, ofLevel level)], none, around⟩ := rfl

/-- The level that tokens come to, if they are nothing at all or items with all groups closed. -/
def read (tokens : List (Token α)) : Option (List (Connective × β)) :=
  if tokens.isEmpty then some []
  else
    match run ofLeaf ofLevel tokens ⟨[], some .and, []⟩ with
    | some ⟨level, none, []⟩ => some level
    | _ => none

end

/-- The tree that tokens stand for. -/
def parse (tokens : List (Token α)) : Option (List (Connective × Grouped α)) :=
  read .leaf .group tokens

/-- The truth value of tokens, where each atom has the value that `assign` gives to it. -/
def truth (assign : α → Truth) (tokens : List (Token α)) : Option Truth :=
  (read assign Truth.level tokens).map Truth.level

end Token

namespace Grouped

/-- Whether a group may stand in a condition: it has no items, or a leaf at some depth. -/
def emptyOrLeafy (items : List (Connective × Grouped α)) : Bool := items.isEmpty || anyLeaf items

mutual

theorem everyGroup_of_anyLeaf : (node : Grouped α) → node.everyGroup anyLeaf →
    node.everyGroup emptyOrLeafy
  | .leaf _, _ => rfl
  | .group items, h => by
    simp only [everyGroup, emptyOrLeafy, Bool.and_eq_true, Bool.or_eq_true] at h ⊢
    exact ⟨.inr h.1, everyGroupIn_of_anyLeaf items h.2⟩

theorem everyGroupIn_of_anyLeaf : (items : List (Connective × Grouped α)) →
    everyGroupIn anyLeaf items → everyGroupIn emptyOrLeafy items
  | [], _ => rfl
  | (_, node) :: rest, h => by
    simp only [everyGroupIn, Bool.and_eq_true] at h ⊢
    exact ⟨everyGroup_of_anyLeaf node h.1, everyGroupIn_of_anyLeaf rest h.2⟩

end

variable (ofLeaf : α → β) (ofLevel : List (Connective × β) → β)

mutual

theorem run_tokens : (node : Grouped α) → node ≠ .group [] → node.everyGroup emptyOrLeafy →
    ∀ (rest : List (Token α)) (level : List (Connective × β)) (c : Connective)
      (around : List (List (Connective × β) × Connective)),
    Token.run ofLeaf ofLevel (node.tokens ++ rest) ⟨level, some c, around⟩ =
      Token.run ofLeaf ofLevel rest
        ⟨level ++ [(c, node.fold ofLeaf ofLevel)], none, around⟩
  | .leaf a, _, _ => fun rest level c around => by
    simp only [tokens, fold, List.singleton_append, Token.run_atom]
  | .group items, hne, h => fun rest level c around => by
    simp only [everyGroup, emptyOrLeafy, Bool.and_eq_true, Bool.or_eq_true,
      List.isEmpty_iff] at h
    obtain ⟨hempty | hleaf, hitems⟩ := h
    · exact absurd (congrArg group hempty) hne
    · simp only [tokens, fold, List.cons_append, List.append_assoc, Token.run_opening]
      rw [run_tokensOf items hitems hleaf]
      simp only [List.nil_append, Token.run_closing]

theorem run_tokensOf_rest : (items : List (Connective × Grouped α)) →
    everyGroupIn emptyOrLeafy items →
    ∀ (rest : List (Token α)) (level : List (Connective × β))
      (around : List (List (Connective × β) × Connective)),
    Token.run ofLeaf ofLevel (tokensOf false items ++ rest) ⟨level, none, around⟩ =
      Token.run ofLeaf ofLevel rest
        ⟨level ++ foldItems ofLeaf ofLevel false items, none, around⟩
  | [], _ => fun rest level around => by
    simp only [tokensOf, foldItems, List.nil_append, List.append_nil]
  | (c, node) :: items, h => fun rest level around => by
    simp only [everyGroupIn, Bool.and_eq_true] at h
    by_cases hempty : node = .group []
    · subst hempty
      simp only [tokensOf, foldItems]
      exact run_tokensOf_rest items h.2 rest level around
    · simp only [tokensOf_cons hempty, foldItems_cons hempty,
        Bool.false_eq_true, ↓reduceIte, List.append_assoc, List.cons_append, List.nil_append,
        Token.run_link]
      rw [run_tokens node hempty h.1, run_tokensOf_rest items h.2, List.append_assoc]
      rfl

theorem run_tokensOf : (items : List (Connective × Grouped α)) →
    everyGroupIn emptyOrLeafy items → anyLeaf items →
    ∀ (rest : List (Token α)) (around : List (List (Connective × β) × Connective)),
    Token.run ofLeaf ofLevel (tokensOf true items ++ rest) ⟨[], some .and, around⟩ =
      Token.run ofLeaf ofLevel rest
        ⟨foldItems ofLeaf ofLevel true items, none, around⟩
  | [], _, hleaf => absurd hleaf Bool.false_ne_true
  | (c, node) :: items, h, hleaf => fun rest around => by
    simp only [everyGroupIn, Bool.and_eq_true] at h
    by_cases hempty : node = .group []
    · subst hempty
      simp only [anyLeaf, hasLeaf, Bool.false_or] at hleaf
      simp only [tokensOf, foldItems]
      exact run_tokensOf items h.2 hleaf rest around
    · simp only [tokensOf_cons hempty, foldItems_cons hempty, ↓reduceIte,
        List.nil_append, List.append_assoc]
      rw [run_tokens node hempty h.1, run_tokensOf_rest items h.2]
      simp only [List.nil_append, List.singleton_append]

end

theorem tokensOf_of_not_anyLeaf (first : Bool) :
    (items : List (Connective × Grouped α)) → everyGroupIn emptyOrLeafy items →
    anyLeaf items = false →
    tokensOf first items = [] ∧ foldItems ofLeaf ofLevel first items = []
  | [], _, _ => ⟨rfl, rfl⟩
  | (_, .leaf _) :: _, _, hleaf => by simp [anyLeaf, hasLeaf] at hleaf
  | (_, .group []) :: items, h, hleaf => by
    simp only [everyGroupIn, Bool.and_eq_true] at h
    simp only [anyLeaf, hasLeaf, Bool.false_or] at hleaf
    simpa only [tokensOf, foldItems] using tokensOf_of_not_anyLeaf first items h.2 hleaf
  | (_, .group (item :: more)) :: items, h, hleaf => by
    simp only [everyGroupIn, everyGroup, emptyOrLeafy, List.isEmpty_cons, Bool.false_or,
      Bool.and_eq_true] at h
    simp only [anyLeaf, hasLeaf, Bool.or_eq_false_iff] at hleaf
    simp_all [anyLeaf]

/-- Read back, the tokens of a tree come to what the tree itself does. -/
theorem read_tokensOf {items : List (Connective × Grouped α)}
    (h : everyGroupIn emptyOrLeafy items) :
    Token.read ofLeaf ofLevel (tokensOf true items) =
      some (foldItems ofLeaf ofLevel true items) := by
  cases hleaf : anyLeaf items with
  | false =>
    obtain ⟨htokens, hfold⟩ := tokensOf_of_not_anyLeaf ofLeaf ofLevel true items h hleaf
    rw [htokens, hfold]
    rfl
  | true =>
    have hrun := run_tokensOf ofLeaf ofLevel items h hleaf [] []
    rw [List.append_nil] at hrun
    cases htokens : tokensOf true items with
    | nil =>
      rw [htokens] at hrun
      simp [Token.run] at hrun
    | cons token rest =>
      rw [htokens] at hrun
      unfold Token.read
      rw [hrun]
      rfl

end Grouped

end SqlDialects
