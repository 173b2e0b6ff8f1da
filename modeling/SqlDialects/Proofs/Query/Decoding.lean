import SqlDialects.Proofs.Value.Decoding
import SqlDialects.Query.Json

/-! Queries come back from their JSON. The nesting of a query part is what its decoding has for
fuel, and no part uses up more than its own JSON is deep. -/

namespace SqlDialects

open Json

@[simp] theorem Connective.choice?_name (connective : Connective) :
    choice? Connective.named (.string connective.name) = some connective := by
  cases connective <;> rfl

@[simp] theorem Comparison.choice?_name (comparison : Comparison) :
    choice? Comparison.named (.string comparison.name) = some comparison := by
  cases comparison <;> rfl

@[simp] theorem Direction.choice?_name (direction : Direction) :
    choice? Direction.named (.string direction.name) = some direction := by
  cases direction <;> rfl

@[simp] theorem NullsPlacement.choice?_name (placement : NullsPlacement) :
    choice? NullsPlacement.named (.string placement.name) = some placement := by
  cases placement <;> rfl

@[simp] theorem JoinKind.choice?_name (kind : JoinKind) :
    choice? JoinKind.named (.string kind.name) = some kind := by cases kind <;> rfl

@[simp] theorem Aggregate.choice?_name (function : Aggregate) :
    choice? Aggregate.named (.string function.name) = some function := by cases function <;> rfl

namespace ScalarFunction

@[simp] theorem ofJson?_toJson (function : ScalarFunction) :
    ofJson? function.toJson = some function := by
  have hcount (count : Option Int64) :
      nullable? Value.int64? (orNull (fun n : Int64 => .int n.toInt) count) = some count :=
    nullable?_orNull (fun _ h => by cases h) fun n _ => Value.int64?_int n
  have hdecimals (n : UInt32) : nat? 32 (.nat n.toNat) = some n.toNat := nat?_nat n.toNat_lt
  cases function <;> simp [toJson, ofJson?, isUnit, Value.int64?_int, hcount, hdecimals]

@[simp] theorem intsInRange_toJson (function : ScalarFunction) : function.toJson.IntsInRange := by
  have hint (n : Int64) : (Json.int n.toInt).IntsInRange :=
    intsInRange_int (Value.intInRange_toInt n)
  have hnat (n : UInt32) : (Json.nat n.toNat).IntsInRange :=
    intsInRange_nat (Nat.lt_trans n.toNat_lt (by decide))
  cases function <;> simp [toJson, hint, hnat]

end ScalarFunction

namespace Function

@[simp] theorem ofJson?_toJson (function : Function) :
    ofJson? function.toJson = some function := by
  cases function <;> simp [toJson, ofJson?]

@[simp] theorem intsInRange_toJson (function : Function) : function.toJson.IntsInRange := by
  cases function <;> simp [toJson]

end Function

namespace Call

@[simp] theorem ofJson?_toJson (call : Call) : ofJson? call.toJson = some call := by
  simp [toJson, ofJson?]

@[simp] theorem intsInRange_toJson (call : Call) : call.toJson.IntsInRange := by
  simp [toJson]

end Call

namespace TableRef

@[simp] theorem ofJson?_toJson (table : TableRef) : ofJson? table.toJson = some table := by
  simp [toJson, ofJson?]

@[simp] theorem intsInRange_toJson (table : TableRef) : table.toJson.IntsInRange := by
  simp [toJson]

end TableRef

namespace OrderItem

@[simp] theorem ofJson?_toJson (item : OrderItem) : ofJson? item.toJson = some item := by
  have hnulls : nullable? (choice? NullsPlacement.named)
      (orNull (fun n : NullsPlacement => .string n.name) item.nulls) = some item.nulls :=
    nullable?_orNull (fun _ h => by cases h) fun n _ => n.choice?_name
  simp [toJson, ofJson?, hnulls]

@[simp] theorem intsInRange_toJson (item : OrderItem) : item.toJson.IntsInRange := by
  simp [toJson]

end OrderItem

namespace IntoTarget

theorem toJson_ne_null (target : IntoTarget) : target.toJson ≠ .null := fun h => by cases h

@[simp] theorem ofJson?_toJson (target : IntoTarget) : ofJson? target.toJson = some target := by
  simp [toJson, ofJson?]

@[simp] theorem intsInRange_toJson (target : IntoTarget) : target.toJson.IntsInRange := by
  simp [toJson]

end IntoTarget

/-! The conditions of joins. -/

/-- An item of a tree comes back with its connective. -/
theorem Json.pair?_connective {decode : Json → Option α} {connective : Connective} {j : Json}
    {a : α} (h : decode j = some a) :
    pair? (choice? Connective.named) decode (.array [.string connective.name, j]) =
      some (connective, a) :=
  pair?_array connective.choice?_name h

theorem itemsOf?_object {name : String} {decode : Json → Option α} {elements : List Json}
    {items : List α} (h : elements.mapM decode = some items) :
    itemsOf? name decode (.object [(name, .array elements)]) = some items := by
  simp [itemsOf?, list?_array, h]

namespace JoinNode

mutual

theorem ofJson?_toJson : ∀ (node : JoinNode) (fuel : Nat), node.toJson.depth < fuel →
    ofJson? fuel node.toJson = some node
  | columns left comparison right, 0, h => absurd h (Nat.not_lt_zero _)
  | columns left comparison right, fuel + 1, _ => by simp [toJson, ofJson?]
  | group items, 0, h => absurd h (Nat.not_lt_zero _)
  | group items, fuel + 1, h => by
    simp only [toJson, variant, depth, depthEntries] at h
    have hitems := itemsOfJson?_itemsToJson items fuel (by omega)
    simp [toJson, ofJson?, list?_array, hitems]

theorem itemsOfJson?_itemsToJson : ∀ (items : List (Connective × JoinNode)) (fuel : Nat),
    depthList (itemsToJson items) < fuel →
      (itemsToJson items).mapM (pair? (choice? Connective.named) (ofJson? fuel)) = some items
  | [], _, _ => rfl
  | (connective, node) :: rest, fuel, h => by
    simp only [itemsToJson, depth, depthList] at h
    have hnode := ofJson?_toJson node fuel (by omega)
    have hrest := itemsOfJson?_itemsToJson rest fuel (by omega)
    rw [itemsToJson, List.mapM_cons, pair?_connective hnode, hrest]
    rfl

end

mutual

theorem intsInRange_toJson : ∀ node : JoinNode, node.toJson.IntsInRange
  | columns left comparison right => by simp [toJson]
  | group items => by simpa [toJson] using intsInRange_itemsToJson items

theorem intsInRange_itemsToJson :
    ∀ (items : List (Connective × JoinNode)), ∀ j ∈ itemsToJson items, j.IntsInRange
  | [] => by simp [itemsToJson]
  | (connective, node) :: rest => by
    simpa [itemsToJson, intsInRange_toJson node] using intsInRange_itemsToJson rest

end

end JoinNode

namespace Join

theorem ofJson?_toJson {join : Join} {fuel : Nat} (h : join.toJson.depth < fuel) :
    ofJson? fuel join.toJson = some join := by
  simp only [toJson, treeToJson, depth, depthEntries] at h
  have hitems := JoinNode.itemsOfJson?_itemsToJson join.on fuel (by omega)
  simp [toJson, ofJson?, treeToJson, treeOfJson?, list?_array, hitems]

@[simp] theorem intsInRange_toJson (join : Join) : join.toJson.IntsInRange := by
  simpa [toJson, treeToJson] using JoinNode.intsInRange_itemsToJson join.on

end Join

theorem Join.list?_list {joins : List Join} {fuel : Nat}
    (h : (Json.list Join.toJson joins).depth < fuel) :
    list? (Join.ofJson? fuel) (Json.list Join.toJson joins) = some joins :=
  Json.list?_list fun _ hjoin => Join.ofJson?_toJson (Nat.lt_trans (depth_lt_of_mem_list hjoin) h)

/-! Queries and their parts. -/

theorem Query.nullable?_uint64 (value : Option UInt64) :
    nullable? Query.uint64? (orNull (fun n : UInt64 => .nat n.toNat) value) = some value := by
  refine nullable?_orNull (fun _ h => by cases h) fun n _ => ?_
  rw [Query.uint64?, nat?_nat n.toNat_lt, Option.map_some, UInt64.ofNat_toNat]

/-- The JSON of a query is deeper than its columns, joins and conditions. -/
theorem Query.depth_lt {query : Query} {fuel : Nat}
    (h : (Json.object query.fieldsToJson).depth < fuel + 1) :
    depthList (Projection.listToJson query.columns) < fuel ∧
      (Json.list Join.toJson query.joins).depth < fuel ∧
      depthList (ConditionNode.itemsToJson query.wheres) < fuel ∧
      depthList (ConditionNode.itemsToJson query.having) < fuel := by
  have hentry (name : String) (j : Json) (hmem : (name, j) ∈ query.fieldsToJson) :
      j.depth < fuel :=
    Nat.lt_of_lt_of_le (depth_lt_of_mem_fields name hmem) (Nat.le_of_lt_succ h)
  cases query with
  | mk tables columns joins wheres groupBy having orderBy limit offset distinct into =>
    have hcolumns := hentry "columns" (.array (Projection.listToJson columns))
      (by simp [Query.fieldsToJson])
    have hjoins := hentry "joins" (Json.list Join.toJson joins) (by simp [Query.fieldsToJson])
    have hwheres := hentry "wheres" (.object [("items", .array (ConditionNode.itemsToJson wheres))])
      (by simp [Query.fieldsToJson])
    have hhaving := hentry "having" (.object [("items", .array (ConditionNode.itemsToJson having))])
      (by simp [Query.fieldsToJson])
    simp only [depth, depthEntries] at hcolumns hwheres hhaving
    dsimp only
    exact ⟨by omega, hjoins, by omega, by omega⟩

/-- The columns, joins and conditions of a query are what takes fuel; all else does not. -/
theorem Query.ofJson?_object {query : Query} {fuel : Nat}
    (hcolumns : (Projection.listToJson query.columns).mapM (Projection.ofJson? fuel) =
      some query.columns)
    (hjoins : list? (Join.ofJson? fuel) (Json.list Join.toJson query.joins) = some query.joins)
    (hwheres : (ConditionNode.itemsToJson query.wheres).mapM
      (pair? (choice? Connective.named) (ConditionNode.ofJson? fuel)) = some query.wheres)
    (hhaving : (ConditionNode.itemsToJson query.having).mapM
      (pair? (choice? Connective.named) (ConditionNode.ofJson? fuel)) = some query.having) :
    Query.ofJson? (fuel + 1) (.object query.fieldsToJson) = some query := by
  have hinto : nullable? IntoTarget.ofJson? (orNull IntoTarget.toJson query.into) =
      some query.into :=
    nullable?_orNull IntoTarget.toJson_ne_null fun target _ => target.ofJson?_toJson
  have htables : list? TableRef.ofJson? (Json.list TableRef.toJson query.tables) =
      some query.tables :=
    list?_list fun table _ => table.ofJson?_toJson
  have horder : list? OrderItem.ofJson? (Json.list OrderItem.toJson query.orderBy) =
      some query.orderBy :=
    list?_list fun item _ => item.ofJson?_toJson
  cases query
  simp [Query.fieldsToJson, Query.ofJson?, Query.fieldNames, itemsOf?_object hwheres,
    itemsOf?_object hhaving, list?_array, hcolumns, hjoins, hinto, htables, horder,
    Query.nullable?_uint64]

mutual

theorem Term.ofJson?_toJson : ∀ (term : Term) (fuel : Nat), term.toJson.depth < fuel →
    Term.ofJson? fuel term.toJson = some term
  | _, 0, h => absurd h (Nat.not_lt_zero _)
  | .column name, fuel + 1, _ => by simp [Term.toJson, Term.ofJson?]
  | .value v, fuel + 1, _ => by simp [Term.toJson, Term.ofJson?]
  | .operator token, fuel + 1, _ => by simp [Term.toJson, Term.ofJson?]
  | .call call, fuel + 1, _ => by simp [Term.toJson, Term.ofJson?]
  | .group terms, fuel + 1, h => by
    simp only [Term.toJson, variant, depth, depthEntries] at h
    have hterms := Term.listOfJson?_listToJson terms fuel (by omega)
    simp [Term.toJson, Term.ofJson?, itemsOf?_object hterms]
  | .subquery query, fuel + 1, h => by
    simp only [Term.toJson, variant, depth, depthEntries] at h
    have hquery := Query.ofJson?_fieldsToJson query fuel (by rw [depth]; omega)
    simp [Term.toJson, Term.ofJson?, hquery]

theorem Term.listOfJson?_listToJson : ∀ (terms : List Term) (fuel : Nat),
    depthList (Term.listToJson terms) < fuel →
      (Term.listToJson terms).mapM (Term.ofJson? fuel) = some terms
  | [], _, _ => rfl
  | term :: rest, fuel, h => by
    simp only [Term.listToJson, depthList] at h
    have hterm := Term.ofJson?_toJson term fuel (by omega)
    have hrest := Term.listOfJson?_listToJson rest fuel (by omega)
    rw [Term.listToJson, List.mapM_cons, hterm, hrest]
    rfl

theorem Operand.ofJson?_toJson : ∀ (operand : Operand) (fuel : Nat), operand.toJson.depth < fuel →
    Operand.ofJson? fuel operand.toJson = some operand
  | _, 0, h => absurd h (Nat.not_lt_zero _)
  | .column name, fuel + 1, _ => by simp [Operand.toJson, Operand.ofJson?]
  | .expression terms, fuel + 1, h => by
    simp only [Operand.toJson, variant, depth, depthEntries] at h
    have hterms := Term.listOfJson?_listToJson terms fuel (by omega)
    simp [Operand.toJson, Operand.ofJson?, itemsOf?_object hterms]

theorem Comparand.ofJson?_toJson : ∀ (comparand : Comparand) (fuel : Nat),
    comparand.toJson.depth < fuel → Comparand.ofJson? fuel comparand.toJson = some comparand
  | _, 0, h => absurd h (Nat.not_lt_zero _)
  | .nothing, fuel + 1, _ => by simp [Comparand.toJson, Comparand.ofJson?, isUnit]
  | .value v, fuel + 1, _ => by simp [Comparand.toJson, Comparand.ofJson?]
  | .column name, fuel + 1, _ => by simp [Comparand.toJson, Comparand.ofJson?]
  | .list values, fuel + 1, _ => by
    have hvalues : list? Value.ofJson? (Json.list Value.toJson values) = some values :=
      Json.list?_list fun v _ => v.ofJson?_toJson
    simp [Comparand.toJson, Comparand.ofJson?, hvalues]
  | .range low high, fuel + 1, _ => by
    have hbounds := pair?_array low.ofJson?_toJson high.ofJson?_toJson
    simp [Comparand.toJson, Comparand.ofJson?, hbounds]
  | .subquery query, fuel + 1, h => by
    simp only [Comparand.toJson, variant, depth, depthEntries] at h
    have hquery := Query.ofJson?_fieldsToJson query fuel (by rw [depth]; omega)
    simp [Comparand.toJson, Comparand.ofJson?, hquery]

theorem Condition.ofJson?_toJson : ∀ (condition : Condition) (fuel : Nat),
    condition.toJson.depth < fuel → Condition.ofJson? fuel condition.toJson = some condition
  | _, 0, h => absurd h (Nat.not_lt_zero _)
  | ⟨operand, comparison, comparand⟩, fuel + 1, h => by
    simp only [Condition.toJson, depth, depthEntries] at h
    have hoperand := Operand.ofJson?_toJson operand fuel (by omega)
    have hcomparand := Comparand.ofJson?_toJson comparand fuel (by omega)
    simp [Condition.toJson, Condition.ofJson?, hoperand, hcomparand]

theorem ConditionNode.ofJson?_toJson : ∀ (node : ConditionNode) (fuel : Nat),
    node.toJson.depth < fuel → ConditionNode.ofJson? fuel node.toJson = some node
  | _, 0, h => absurd h (Nat.not_lt_zero _)
  | .test condition, fuel + 1, h => by
    simp only [ConditionNode.toJson, variant, depth, depthEntries] at h
    have hcondition := Condition.ofJson?_toJson condition fuel (by omega)
    simp [ConditionNode.toJson, ConditionNode.ofJson?, hcondition]
  | .exists negated query, fuel + 1, h => by
    simp only [ConditionNode.toJson, variant, depth, depthEntries] at h
    have hquery := Query.ofJson?_fieldsToJson query fuel (by rw [depth]; omega)
    simp [ConditionNode.toJson, ConditionNode.ofJson?, hquery]
  | .group items, fuel + 1, h => by
    simp only [ConditionNode.toJson, variant, depth, depthEntries] at h
    have hitems := ConditionNode.itemsOfJson?_itemsToJson items fuel (by omega)
    simp [ConditionNode.toJson, ConditionNode.ofJson?, itemsOf?_object hitems]

theorem ConditionNode.itemsOfJson?_itemsToJson :
    ∀ (items : List (Connective × ConditionNode)) (fuel : Nat),
      depthList (ConditionNode.itemsToJson items) < fuel →
        (ConditionNode.itemsToJson items).mapM
          (pair? (choice? Connective.named) (ConditionNode.ofJson? fuel)) = some items
  | [], _, _ => rfl
  | (connective, node) :: rest, fuel, h => by
    simp only [ConditionNode.itemsToJson, depth, depthList] at h
    have hnode := ConditionNode.ofJson?_toJson node fuel (by omega)
    have hrest := ConditionNode.itemsOfJson?_itemsToJson rest fuel (by omega)
    rw [ConditionNode.itemsToJson, List.mapM_cons, pair?_connective hnode, hrest]
    rfl

theorem Projection.ofJson?_toJson : ∀ (projection : Projection) (fuel : Nat),
    projection.toJson.depth < fuel → Projection.ofJson? fuel projection.toJson = some projection
  | _, 0, h => absurd h (Nat.not_lt_zero _)
  | ⟨terms, label⟩, fuel + 1, h => by
    simp only [Projection.toJson, depth, depthEntries] at h
    have hterms := Term.listOfJson?_listToJson terms fuel (by omega)
    simp [Projection.toJson, Projection.ofJson?, itemsOf?_object hterms]

theorem Projection.listOfJson?_listToJson : ∀ (columns : List Projection) (fuel : Nat),
    depthList (Projection.listToJson columns) < fuel →
      (Projection.listToJson columns).mapM (Projection.ofJson? fuel) = some columns
  | [], _, _ => rfl
  | column :: rest, fuel, h => by
    simp only [Projection.listToJson, depthList] at h
    have hcolumn := Projection.ofJson?_toJson column fuel (by omega)
    have hrest := Projection.listOfJson?_listToJson rest fuel (by omega)
    rw [Projection.listToJson, List.mapM_cons, hcolumn, hrest]
    rfl

theorem Query.ofJson?_fieldsToJson : ∀ (query : Query) (fuel : Nat),
    (Json.object query.fieldsToJson).depth < fuel →
      Query.ofJson? fuel (.object query.fieldsToJson) = some query
  | _, 0 => fun h => absurd h (Nat.not_lt_zero _)
  | ⟨tables, columns, joins, wheres, groupBy, having, orderBy, limit, offset, distinct, into⟩,
      fuel + 1 => fun h => by
    obtain ⟨hcolumns, hjoins, hwheres, hhaving⟩ := Query.depth_lt h
    exact Query.ofJson?_object (Projection.listOfJson?_listToJson columns fuel hcolumns)
      (Join.list?_list hjoins) (ConditionNode.itemsOfJson?_itemsToJson wheres fuel hwheres)
      (ConditionNode.itemsOfJson?_itemsToJson having fuel hhaving)

end

mutual

theorem Term.intsInRange_toJson : ∀ term : Term, term.toJson.IntsInRange
  | .column name => by simp [Term.toJson]
  | .value v => by simp [Term.toJson]
  | .operator token => by simp [Term.toJson]
  | .call call => by simp [Term.toJson]
  | .group terms => by simpa [Term.toJson] using Term.intsInRange_listToJson terms
  | .subquery query => by simpa [Term.toJson] using Query.intsInRange_fieldsToJson query

theorem Term.intsInRange_listToJson :
    ∀ terms : List Term, ∀ j ∈ Term.listToJson terms, j.IntsInRange
  | [] => by simp [Term.listToJson]
  | term :: rest => by
    simpa [Term.listToJson, Term.intsInRange_toJson term] using Term.intsInRange_listToJson rest

theorem Operand.intsInRange_toJson : ∀ operand : Operand, operand.toJson.IntsInRange
  | .column name => by simp [Operand.toJson]
  | .expression terms => by simpa [Operand.toJson] using Term.intsInRange_listToJson terms

theorem Comparand.intsInRange_toJson : ∀ comparand : Comparand, comparand.toJson.IntsInRange
  | .nothing => by simp [Comparand.toJson]
  | .value v => by simp [Comparand.toJson]
  | .column name => by simp [Comparand.toJson]
  | .list values => by simp [Comparand.toJson]
  | .range low high => by simp [Comparand.toJson]
  | .subquery query => by simpa [Comparand.toJson] using Query.intsInRange_fieldsToJson query

theorem Condition.intsInRange_toJson : ∀ condition : Condition, condition.toJson.IntsInRange
  | ⟨operand, comparison, comparand⟩ => by
    simp [Condition.toJson, Operand.intsInRange_toJson operand,
      Comparand.intsInRange_toJson comparand]

theorem ConditionNode.intsInRange_toJson : ∀ node : ConditionNode, node.toJson.IntsInRange
  | .test condition => by simp [ConditionNode.toJson, Condition.intsInRange_toJson condition]
  | .exists negated query => by
    simpa [ConditionNode.toJson] using Query.intsInRange_fieldsToJson query
  | .group items => by
    simpa [ConditionNode.toJson] using ConditionNode.intsInRange_itemsToJson items

theorem ConditionNode.intsInRange_itemsToJson :
    ∀ items : List (Connective × ConditionNode),
      ∀ j ∈ ConditionNode.itemsToJson items, j.IntsInRange
  | [] => by simp [ConditionNode.itemsToJson]
  | (connective, node) :: rest => by
    simpa [ConditionNode.itemsToJson, ConditionNode.intsInRange_toJson node] using
      ConditionNode.intsInRange_itemsToJson rest

theorem Projection.intsInRange_toJson : ∀ projection : Projection, projection.toJson.IntsInRange
  | ⟨terms, label⟩ => by simpa [Projection.toJson] using Term.intsInRange_listToJson terms

theorem Projection.intsInRange_listToJson :
    ∀ columns : List Projection, ∀ j ∈ Projection.listToJson columns, j.IntsInRange
  | [] => by simp [Projection.listToJson]
  | column :: rest => by
    simpa [Projection.listToJson, Projection.intsInRange_toJson column] using
      Projection.intsInRange_listToJson rest

theorem Query.intsInRange_fieldsToJson :
    ∀ query : Query, (Json.object query.fieldsToJson).IntsInRange
  | ⟨tables, columns, joins, wheres, groupBy, having, orderBy, limit, offset, distinct, into⟩ => by
    have hnat (n : UInt64) : (Json.nat n.toNat).IntsInRange := intsInRange_nat n.toNat_lt
    simpa [Query.fieldsToJson, hnat] using ⟨Projection.intsInRange_listToJson columns,
      ConditionNode.intsInRange_itemsToJson wheres, ConditionNode.intsInRange_itemsToJson having⟩

end

end SqlDialects
