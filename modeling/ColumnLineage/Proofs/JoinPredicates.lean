import ColumnLineage.Proofs.Coherence
import ColumnLineage.Proofs.DepthBound

/-!
# Predicates of joins

The columns in the predicate of a join come out with the kind of the join, except for STRAIGHT_JOIN
and ASOF JOIN, whose predicates are left out.  Of the predicates whose columns come out, those of a
join in parentheses on the right side of another join are not searched for queries.

## Main definitions

* `spelledKind?`: the kind that the operator of a join spells out.
* `PredicateTold`: each reference in the predicate of a join has its row.
* `reportedPredicates`: the predicates in a FROM clause whose columns come out.
* `enteredPredicates`, `passedPredicates`: those that are searched for queries, and those that are
  not.

## Main statements

* `predicateTold_iff`: the predicates that come out, by the operators of their joins.
* `reportedPredicates_split`: what comes out is what is entered, and what is passed.
-/

namespace ColumnLineage.Lineage

open Sql

section Operators

/-- The kind that an operator spells out.  A plain JOIN spells out none. -/
def spelledKind? : JoinOperator → Option JoinKind
  | .inner => some .inner
  | .left | .leftOuter => some .left
  | .right | .rightOuter => some .right
  | .full => some .full
  | .cross => some .cross
  | .semi | .leftSemi | .rightSemi => some .semi
  | .anti | .leftAnti | .rightAnti => some .anti
  | .join | .straight | .asOf | .crossApply | .outerApply => none

theorem joinKind_eq (operator : JoinOperator) :
    joinKind operator = (spelledKind? operator).getD .inner := by
  cases operator <;> rfl

/-- A row tells that a join of some kind restricts a reference, and what this is resolved to. -/
structure Row.TellsJoined (ref : ColumnRef) (resolution : Resolution) (kind : JoinKind)
    (row : Row) : Prop where
  reports : row.Reports ref resolution
  joined : row.has .joinOnClauseColumn
  kind : ∀ other, row.has (.joinType other) ↔ other = kind

/-- Each reference in a predicate outside nested queries has a row of the join with the kind of its
operator, or INNER where this spells out none.  The row is in every output of the statement, if the
column is not named like a star. -/
def PredicateTold (s : Statement) (tags : Tags) (maxDepth : Nat) (site : SelectSite)
    (left : Option String) (join : Join) (predicate : Expr) : Prop :=
  ∀ ref ∈ columnRefs predicate,
    ∃ row ∈ joinRows tags (.ofStatement s) (site.scopesIn s) left join,
      row.TellsJoined ref ((site.scopesIn s).resolve ref.qualifier (sourceName join.relation))
          ((spelledKind? join.operator).getD .inner) ∧
        row ∈ statementRows tags maxDepth s ∧
        (ref.column ≠ "*" → ∀ statements : List Statement, s ∈ statements →
          row ∈ deduplicate (statements.flatMap (statementRows tags maxDepth)))

variable {tags : Tags} {scopes : Scopes} {left : Option String} {join : Join} {predicate : Expr}

/-- A remark that tells of no failure is on a row of a clause if it is one of the clause. -/
theorem has_clauseRow_iff {fallback : Option String} {remarks : List Remark}
    {given : Option RowSource} {ref : ColumnRef} {remark : Remark}
    (hremark : remark.tellsFailure = false) :
    (clauseRow tags scopes fallback remarks given ref).has remark ↔ remark ∈ remarks := by
  have hresolved : ∀ resolution : Resolution,
      remark ∈ remarks ++ resolution.failure.toList ↔ remark ∈ remarks := by
    intro resolution
    rw [List.mem_append, Option.mem_toList]
    refine or_iff_left fun hfailure => ?_
    have hexplains := resolution.explains_failure none
    rw [hfailure] at hexplains
    exact absurd (hremark.symm.trans hexplains.tellsFailure) Bool.false_ne_true
  rw [Row.has_iff]
  unfold clauseRow
  split
  · split
    · exact hresolved _
    · exact Iff.rfl
  · exact hresolved _

/-- The row of a reference in a predicate. -/
theorem tellsJoined_clauseRow (kind : JoinKind) (fallback : Option String) (ref : ColumnRef) :
    (clauseRow tags scopes fallback [.joinOnClauseColumn, .joinType kind] none ref).TellsJoined ref
      (scopes.resolve ref.qualifier fallback) kind where
  reports := reports_clauseRow tags scopes fallback (by simp [Remark.tellsFailure]) ref
  joined := (has_clauseRow_iff rfl).mpr List.mem_cons_self
  kind other := by
    rw [has_clauseRow_iff rfl]
    simp

/-- A join whose restriction does not count has no row for it. -/
theorem has_joinOnClauseColumn_of_untraced {c : CteCatalog} (h : isTraced join.operator = false)
    {row : Row} (hrow : row ∈ joinRows tags c scopes left join) :
    row.has .joinOnClauseColumn = false := by
  have huntraced : tracedConstraint join = .none := by
    cases join
    simp [tracedConstraint, h]
  rw [joinRows, huntraced, constraintRows, List.nil_append] at hrow
  unfold joinedFilterRows at hrow
  split at hrow
  · split at hrow
    · simp at hrow
    · obtain ⟨ref, -, rfl⟩ := List.mem_map.mp hrow
      rw [Bool.eq_false_iff, ne_eq, has_clauseRow_iff rfl]
      simp
  · simp at hrow

theorem tracedConstraint_eq (h : isTraced join.operator) :
    tracedConstraint join = join.constraint := by
  cases join
  simp_all [tracedConstraint]

variable {s : Statement} {maxDepth : Nat} {site : SelectSite}

theorem predicateTold_of_traced (hsite : site ∈ statementSites maxDepth s)
    (hlink : (left, join) ∈ fromJoins site.select) (hon : join.constraint = .on predicate)
    (htraced : isTraced join.operator) :
    PredicateTold s tags maxDepth site left join predicate := by
  intro ref href
  have hrow : clauseRow tags (site.scopesIn s) (sourceName join.relation)
      [.joinOnClauseColumn, .joinType (joinKind join.operator)] none ref ∈
        joinRows tags (.ofStatement s) (site.scopesIn s) left join := by
    rw [joinRows, tracedConstraint_eq htraced, hon]
    exact List.mem_append_left _ (List.mem_map_of_mem (List.mem_append_left _ href))
  have hstatement := SelectSite.joinRows_subset hsite hlink hrow
  refine ⟨_, hrow, joinKind_eq _ ▸ tellsJoined_clauseRow _ _ ref, hstatement, ?_⟩
  intro hstar statements hs
  refine mem_output.mpr ⟨⟨s, hs, hstatement⟩, ?_⟩
  simp [Row.isPlaceholderStar, column_clauseRow, hstar]

/-- The references in the predicate of a join come out, unless the operator is STRAIGHT_JOIN, ASOF
JOIN or an APPLY: no row tells of the predicate of such a join. -/
theorem predicateTold_iff (s : Statement) (tags : Tags) (maxDepth : Nat) (site : SelectSite)
    (hsite : site ∈ statementSites maxDepth s) (left : Option String) (join : Join)
    (hlink : (left, join) ∈ fromJoins site.select) (predicate : Expr)
    (hon : join.constraint = .on predicate) :
    (PredicateTold s tags maxDepth site left join predicate ↔
      join.operator ∉ [.straight, .asOf, .crossApply, .outerApply] ∨
        columnRefs predicate = []) ∧
      (join.operator ∈ [.straight, .asOf, .crossApply, .outerApply] →
        ∀ row ∈ joinRows tags (.ofStatement s) (site.scopesIn s) left join,
          row.has .joinOnClauseColumn = false) := by
  have htraced : isTraced join.operator ↔
      join.operator ∉ [.straight, .asOf, .crossApply, .outerApply] := by
    cases join.operator <;> simp [isTraced]
  have huntold : join.operator ∈ [.straight, .asOf, .crossApply, .outerApply] →
      ∀ row ∈ joinRows tags (.ofStatement s) (site.scopesIn s) left join,
        row.has .joinOnClauseColumn = false := by
    intro hoperator row hrow
    have huntraced : isTraced join.operator = false :=
      Bool.eq_false_iff.mpr fun htrue => htraced.mp htrue hoperator
    exact has_joinOnClauseColumn_of_untraced huntraced hrow
  refine ⟨?_, huntold⟩
  constructor
  · intro htold
    by_contra hnot
    obtain ⟨hoperator, hrefs⟩ := not_or.mp hnot
    obtain ⟨ref, href⟩ := List.exists_mem_of_ne_nil _ hrefs
    obtain ⟨row, hrow, htells, -⟩ := htold ref href
    have hnone := huntold (not_not.mp hoperator) row hrow
    exact absurd (hnone.symm.trans htells.joined) Bool.false_ne_true
  · rintro (hoperator | hnone)
    · exact predicateTold_of_traced hsite hlink hon (htraced.mpr hoperator)
    · intro ref href
      rw [hnone] at href
      exact absurd href List.not_mem_nil

end Operators

/-- `left.i = right.i`. -/
def equated (left right : String) : Expr :=
  .binary (.path [.bare left, .bare "i"]) .eq (.path [.bare right, .bare "i"])

/-- `SELECT a.x FROM db.a operator relation ON a.i = b.i`. -/
def selectJoined (operator : JoinOperator) (relation : Source) : Select :=
  { Select.plain [.expr (.path [.bare "a", .bare "x"])] [] none with
    sources := [⟨.bare ["db", "a"],
      [⟨relation, false, operator, none, .on (equated "a" "b")⟩]⟩] }

/-- The query that is such a SELECT alone. -/
def queryJoined (operator : JoinOperator) (relation : Source) : Query :=
  .ofBody (.select (selectJoined operator relation))

/-- `LEFT JOIN db.c ON b.i = c.i`. -/
def leftJoin : Join :=
  ⟨.bare ["db", "c"], false, .left, none, .on (equated "b" "c")⟩

/-- `(db.b LEFT JOIN db.c ON b.i = c.i)`. -/
def leftJoined : Source :=
  .joined ⟨.bare ["db", "b"], [leftJoin]⟩ none

theorem predicateTold_leftJoined :
    ⟨selectJoined .join leftJoined, none, false⟩ ∈
        statementSites 1 (.query (queryJoined .join leftJoined)) ∧
      (some "b", leftJoin) ∈ fromJoins (selectJoined .join leftJoined) ∧
      leftJoin.constraint = .on (equated "b" "c") ∧
      PredicateTold (.query (queryJoined .join leftJoined)) ⟨"", "", ""⟩ 1
        ⟨selectJoined .join leftJoined, none, false⟩ (some "b") leftJoin (equated "b" "c") := by
  have hsite : ⟨selectJoined .join leftJoined, none, false⟩ ∈
      statementSites 1 (.query (queryJoined .join leftJoined)) := List.mem_singleton_self _
  have hlink : (some "b", leftJoin) ∈ fromJoins (selectJoined .join leftJoined) :=
    List.mem_cons_self
  refine ⟨hsite, hlink, rfl, ?_⟩
  exact (predicateTold_iff _ _ _ _ hsite _ _ hlink _ rfl).1.mpr (Or.inl (by decide))

/-- Not every reference in a predicate comes out: those of a STRAIGHT_JOIN have no row. -/
theorem not_always_predicateTold :
    ¬ ∀ (s : Statement) (tags : Tags) (maxDepth : Nat), ∀ site ∈ statementSites maxDepth s,
      ∀ left join, (left, join) ∈ fromJoins site.select → ∀ predicate,
        join.constraint = .on predicate → ∀ ref ∈ columnRefs predicate,
          ∃ row ∈ statementRows tags maxDepth s,
            row.column = ref.column ∧ row.has .joinOnClauseColumn := by
  intro h
  have href : ⟨some "a", "i"⟩ ∈ columnRefs (equated "a" "b") := by decide
  obtain ⟨row, hrow, -, hjoined⟩ := h (.query (queryJoined .straight (.bare ["db", "b"])))
    ⟨"", "", ""⟩ 1 _ (List.mem_singleton_self _) _ _ (List.mem_singleton_self _) _ rfl _ href
  revert row
  decide

section Trees

/-- The predicates of some joins that count for lineage. -/
def linkPredicates (links : List (Option String × Join)) : List Expr :=
  links.filterMap fun link => treePredicates.predicate? link.2

/-- The predicates in a FROM clause whose columns come out: those of all its joins. -/
def reportedPredicates (select : Select) : List Expr :=
  linkPredicates (fromJoins select)

/-- The predicates in a FROM clause in which the traversal looks for queries. -/
def enteredPredicates (select : Select) : List Expr :=
  select.sources.flatMap treePredicates

/-- The predicates of the joins in parentheses that stand on the right side of a join. -/
def passedInTree : FromTree → List Expr
  | ⟨relation, joins⟩ =>
    leading relation ++ joins.flatMap fun join => linkPredicates (sourceJoins join.relation)
where
  /-- Those in a join in parentheses at the start of a source. -/
  leading : Source → List Expr
    | .joined tree _ => passedInTree tree
    | _ => []

/-- The predicates of the joins in parentheses that stand on the right side of a join in a FROM
clause. -/
def passedPredicates (select : Select) : List Expr :=
  select.sources.flatMap passedInTree

/-- A list has the elements of two others, and those of the first one in their order. -/
structure Splits {α : Type} (whole kept left : List α) : Prop where
  sublist : kept.Sublist whole
  perm : whole.Perm (kept ++ left)

namespace Splits

variable {α : Type} {whole kept left more moreKept moreLeft : List α}

theorem nil : Splits ([] : List α) [] [] :=
  ⟨List.Sublist.refl _, List.Perm.refl _⟩

theorem append (h : Splits whole kept left) (hmore : Splits more moreKept moreLeft) :
    Splits (whole ++ more) (kept ++ moreKept) (left ++ moreLeft) where
  sublist := h.sublist.append hmore.sublist
  perm := by
    have hperm := h.perm.append hmore.perm
    rw [← Multiset.coe_eq_coe] at hperm ⊢
    simp only [← Multiset.coe_add] at hperm ⊢
    rw [hperm]
    abel

/-- What is kept is all if nothing is left. -/
theorem eq_iff (h : Splits whole kept left) : whole = kept ↔ left = [] := by
  have hlength := h.perm.length_eq
  rw [List.length_append] at hlength
  constructor
  · rintro rfl
    exact List.eq_nil_of_length_eq_zero (by omega)
  · rintro rfl
    exact (h.sublist.eq_of_length (by simpa using hlength.symm)).symm

end Splits

/-- The predicates behind a source are entered; those inside the joined sources are not. -/
theorem splits_joinsBehind (joins : List Join) (left : Option String) :
    Splits (linkPredicates (joinsBehind left joins)) (joins.filterMap treePredicates.predicate?)
      (joins.flatMap fun join => linkPredicates (sourceJoins join.relation)) := by
  induction joins generalizing left with
  | nil => exact .nil
  | cons join more ih =>
    have hjoin : Splits (linkPredicates (joinsWithin left join))
        (treePredicates.predicate? join).toList
        (linkPredicates (sourceJoins join.relation)) := by
      have hwithin : linkPredicates (joinsWithin left join) =
          linkPredicates (sourceJoins join.relation) ++
            (treePredicates.predicate? join).toList := by
        rw [joinsWithin_eq, linkPredicates, List.filterMap_append, filterMap_cons_eq_append,
          List.filterMap_nil, List.append_nil]
        rfl
      rw [hwithin]
      exact ⟨List.sublist_append_right _ _, List.perm_append_comm⟩
    have hbehind : linkPredicates (joinsBehind left (join :: more)) =
        linkPredicates (joinsWithin left join) ++
          linkPredicates (joinsBehind (sourceName join.relation) more) := by
      rw [joinsBehind, linkPredicates, List.filterMap_append]
      rfl
    rw [hbehind, filterMap_cons_eq_append, List.flatMap_cons]
    exact hjoin.append (ih _)

mutual

theorem splits_source : ∀ source : Source,
    Splits (linkPredicates (sourceJoins source)) (treePredicates.leading source)
      (passedInTree.leading source)
  | .joined tree _ => splits_tree tree
  | .table .. => .nil
  | .derived .. => .nil
  | .other .. => .nil

/-- The predicates in a source and behind it are entered or passed. -/
theorem splits_tree : ∀ tree : FromTree,
    Splits (linkPredicates (treeJoins tree)) (treePredicates tree) (passedInTree tree)
  | ⟨relation, joins⟩ => by
    rw [treeJoins, linkPredicates, List.filterMap_append]
    exact (splits_source relation).append (splits_joinsBehind joins _)

end

theorem splits_trees (trees : List FromTree) :
    Splits (linkPredicates (trees.flatMap treeJoins)) (trees.flatMap treePredicates)
      (trees.flatMap passedInTree) := by
  induction trees with
  | nil => exact .nil
  | cons tree more ih =>
    rw [List.flatMap_cons, linkPredicates, List.filterMap_append]
    exact (splits_tree tree).append ih

variable {s : Statement} {depth maxDepth : Nat} {outer q : Query} {select : Select}

theorem Below.snoc {outermost : Query} (h : Below outermost depth outer) (hholds : Holds outer q) :
    Below outermost (depth + 1) q := by
  induction h with
  | self outer => exact .inside hholds (.self q)
  | inside hfirst _ ih => exact .inside hfirst (ih hholds)

theorem AtDepth.holds (h : AtDepth s depth outer) (hholds : Holds outer q) :
    AtDepth s (depth + 1) q := by
  obtain ⟨outermost, houtermost, hbelow⟩ := h
  exact ⟨outermost, houtermost, hbelow.snoc hholds⟩

/-- A query in a predicate that is entered stands one level below the query of the SELECT. -/
theorem holds_of_mem_enteredPredicates (hselect : select ∈ outer.branches) {e : Expr}
    (he : e ∈ enteredPredicates select) (hq : q ∈ outermostQueries e.visits) : Holds outer q := by
  refine .expression hselect (List.mem_flatMap.mpr ⟨e, ?_, hq⟩)
  exact List.mem_append_right _ he

/-- The predicates in a FROM clause whose columns come out are those that are entered and those that
are passed, so that the two agree where nothing is passed.  The traversal goes to the queries in
those that are entered, as far as the bound on depth lets it. -/
theorem reportedPredicates_split (s : Statement) (maxDepth depth : Nat) (outer : Query)
    (houter : AtDepth s depth outer) (select : Select) (hselect : select ∈ outer.branches) :
    Splits (reportedPredicates select) (enteredPredicates select) (passedPredicates select) ∧
      (reportedPredicates select = enteredPredicates select ↔ passedPredicates select = []) ∧
      ∀ e ∈ enteredPredicates select, ∀ q ∈ outermostQueries e.visits,
        AtDepth s (depth + 1) q ∧
          (depth < maxDepth → q.branches ⊆ (statementSites maxDepth s).map (·.select)) := by
  have hsplits : Splits (reportedPredicates select) (enteredPredicates select)
      (passedPredicates select) := splits_trees select.sources
  refine ⟨hsplits, hsplits.eq_iff, ?_⟩
  intro e he q hq
  have hdepth := houter.holds (holds_of_mem_enteredPredicates hselect he hq)
  refine ⟨hdepth, ?_⟩
  intro hlt branch hbranch
  exact mem_select_statementSites.mpr ⟨depth + 1, hlt, q, hdepth, hbranch⟩

end Trees

/-- `SELECT y FROM db.d`. -/
def selectColumn : Select :=
  .plain [.expr (.column (.bare "y"))] [.bare ["db", "d"]] none

/-- `b.i IN (SELECT y FROM db.d)`. -/
def inSubquery : Expr :=
  .phrase .other [.part 0, .text " IN (", .part 1, .text ")"]
    [.expr (.path [.bare "b", .bare "i"]), .query (.ofBody (.select selectColumn))]

/-- `(db.b JOIN db.c ON b.i IN (SELECT y FROM db.d))`. -/
def joinedBySubquery : Source :=
  .joined ⟨.bare ["db", "b"], [⟨.bare ["db", "c"], false, .join, none, .on inSubquery⟩]⟩ none

/-- `SELECT a.x FROM (db.b JOIN db.c ON b.i IN (SELECT y FROM db.d)) JOIN db.a ON a.i = b.i`. -/
def selectLeading : Select :=
  { Select.plain [.expr (.path [.bare "a", .bare "x"])] [] none with
    sources := [⟨joinedBySubquery,
      [⟨.bare ["db", "a"], false, .join, none, .on (equated "a" "b")⟩]⟩] }

theorem reportedPredicates_split_leading :
    AtDepth (.query (.ofBody (.select selectLeading))) 0 (.ofBody (.select selectLeading)) ∧
      selectLeading ∈ (Query.ofBody (.select selectLeading)).branches ∧
      reportedPredicates selectLeading = [inSubquery, equated "a" "b"] ∧
      reportedPredicates selectLeading = enteredPredicates selectLeading ∧
      selectColumn ∈
        (statementSites 1 (.query (.ofBody (.select selectLeading)))).map (·.select) := by
  have hroot : AtDepth (.query (.ofBody (.select selectLeading))) 0
      (.ofBody (.select selectLeading)) := ⟨_, List.mem_singleton_self _, .self _⟩
  have hbranch : selectLeading ∈ (Query.ofBody (.select selectLeading)).branches :=
    List.mem_singleton_self _
  obtain ⟨-, hagree, hentered⟩ := reportedPredicates_split _ 1 0 _ hroot _ hbranch
  have hquery := hentered inSubquery List.mem_cons_self _ (List.mem_singleton_self _)
  exact ⟨hroot, hbranch, rfl, hagree.mpr rfl, hquery.2 Nat.zero_lt_one (List.mem_singleton_self _)⟩

/-- Not every predicate whose columns come out is entered, and the SELECTs in it are not traced: it
may stand in parentheses on the right side of a join. -/
theorem not_always_entered :
    ¬ ∀ (s : Statement) (maxDepth depth : Nat) (outer : Query), AtDepth s depth outer →
      ∀ select ∈ outer.branches, ∀ e ∈ reportedPredicates select,
        e ∈ enteredPredicates select ∨ (depth < maxDepth → ∀ q ∈ outermostQueries e.visits,
          q.branches ⊆ (statementSites maxDepth s).map (·.select)) := by
  intro h
  have hroot : AtDepth (.query (queryJoined .join joinedBySubquery)) 0
      (queryJoined .join joinedBySubquery) := ⟨_, List.mem_singleton_self _, .self _⟩
  rcases h _ 1 0 _ hroot _ (List.mem_singleton_self _) inSubquery List.mem_cons_self with he | hq
  · -- The only predicate that is entered is an equality.
    have hentered : enteredPredicates (selectJoined .join joinedBySubquery) = [equated "a" "b"] :=
      rfl
    rw [hentered, List.mem_singleton] at he
    simp [inSubquery, equated] at he
  · have htraced := hq Nat.zero_lt_one _ (List.mem_singleton_self _) (List.mem_singleton_self _)
    -- The only SELECT that is traced reads more tables than this one.
    have htables := List.mem_map_of_mem (f := fun select => relationKeys select.visits) htraced
    revert htables
    decide

end ColumnLineage.Lineage
