import ColumnLineage.Proofs.Emission
import ColumnLineage.Proofs.Equalities

/-!
# Names, and scopes that agree on them

The rows of a SELECT depend on what its scopes say of the names that occur in it, and on what a
reference without a qualifier stands for.  Two pairs of scopes that agree on this give the same
rows.

## Main definitions

* `namesIn`: the names that occur in some visits.
* `Scopes.Agree`: two pairs of scopes say the same of some names.

## Main statements

* `projectionRows_congr`, `clauseRows_congr`, `joinRows_congr`: scopes that agree give the same
  rows.
* `mem_namesIn_of_mem_columnRefs`, `mem_namesIn_sourceName`: the names that rows ask for occur.
-/

namespace ColumnLineage.Lineage

open Sql

/-- The qualifier of an item of a select list that is a star. -/
def starQualifier (item : SelectItem) : Option String :=
  match (ClassifiedItem.ofItem item).projection with
  | .star qualifier => qualifier
  | _ => none

/-- The alias of a table or a subquery. -/
def sourceAlias : Source → Option String
  | .table _ _ label _ => aliasName label
  | .derived _ _ label _ => aliasName label
  | .joined .. => none
  | .other .. => none

/-- The names at a step: those of definitions, of tables and their aliases, of the aliases of
subqueries, and the qualifiers of columns and stars. -/
def namesAt : Visit → List String
  | .enter q => q.ctes.map (·.label.name.value) ++
      q.branches.flatMap fun select => select.items.filterMap starQualifier
  | .leave => []
  | .expr e => ((ColumnRef.ofExpr e).bind (·.qualifier)).toList
  | .source source => (sourceAlias source).toList
  | .relation name => [(TableKey.ofName name).table]

/-- The names that occur in some visits. -/
def namesIn (visits : List Visit) : List String :=
  visits.flatMap namesAt

theorem mem_namesIn {visits : List Visit} {v : Visit} (hv : v ∈ visits) {name : String}
    (hname : name ∈ namesAt v) : name ∈ namesIn visits :=
  List.mem_flatMap.mpr ⟨v, hv, hname⟩

/-- Two pairs of scopes say the same of some names, and of references without a qualifier. -/
structure Scopes.Agree (N : String → Prop) (a b : Scopes) : Prop where
  inner : a.inner = b.inner
  outer : ∀ name, N name → a.outer.get? name = b.outer.get? name
  unqualified : a.resolveUnqualified = b.resolveUnqualified

section Congruence

variable {N : String → Prop} {a b : Scopes}

namespace Scopes.Agree

theorem lookup (h : a.Agree N b) {name : String} (hname : N name) :
    a.lookup name = b.lookup name := by
  unfold Scopes.lookup
  rw [h.inner, h.outer name hname]

theorem bind_lookup (h : a.Agree N b) {name : Option String} (hname : ∀ n ∈ name, N n) :
    name.bind a.lookup = name.bind b.lookup := by
  cases name with
  | none => rfl
  | some name => exact h.lookup (hname name rfl)

/-- A reference is resolved alike if its qualifier and the name to try first are among the names. -/
theorem resolve (h : a.Agree N b) {qualifier fallback : Option String}
    (hqualifier : ∀ n ∈ qualifier, N n) (hfallback : ∀ n ∈ fallback, N n) :
    a.resolve qualifier fallback = b.resolve qualifier fallback := by
  unfold Scopes.resolve
  cases qualifier with
  | some qualifier =>
    simp only
    rw [h.lookup (hqualifier qualifier rfl)]
  | none =>
    simp only
    rw [h.bind_lookup hfallback, h.unqualified]

theorem projection (h : a.Agree N b) {enclosing : Option String} (henclosing : ∀ n ∈ enclosing, N n)
    {ref : ColumnRef} (href : ∀ n ∈ ref.qualifier, N n) :
    projectionResolution a enclosing ref = projectionResolution b enclosing ref := by
  unfold projectionResolution
  rw [h.resolve href (by simp), h.bind_lookup henclosing]

end Scopes.Agree

variable (tags : Tags)

theorem starRow_congr (h : a.Agree N b) {enclosing qualifier : Option String}
    (henclosing : ∀ n ∈ enclosing, N n) (hqualifier : ∀ n ∈ qualifier, N n) :
    starRow tags a enclosing qualifier = starRow tags b enclosing qualifier := by
  unfold starRow
  rw [h.resolve hqualifier (by simp)]
  cases enclosing with
  | none => rfl
  | some enclosing =>
    have houter := h.outer enclosing (henclosing enclosing rfl)
    have hsource : ∀ source derived,
        enclosedSource a enclosing source derived = enclosedSource b enclosing source derived := by
      intro source derived
      unfold enclosedSource
      rw [houter]
    simp only [hsource]

/-- The rows of an item of a select list. -/
theorem projectionRows_congr (h : a.Agree N b) {enclosing : Option String}
    (henclosing : ∀ n ∈ enclosing, N n) {item : SelectItem}
    (hstar : ∀ n ∈ starQualifier item, N n)
    (hrefs : ∀ ref ∈ (ClassifiedItem.ofItem item).projection.refs, ∀ n ∈ ref.qualifier, N n) :
    projectionRows tags a enclosing (.ofItem item) =
      projectionRows tags b enclosing (.ofItem item) := by
  have hresolved : ∀ ref ∈ (ClassifiedItem.ofItem item).projection.refs,
      projectionResolution a enclosing ref = projectionResolution b enclosing ref :=
    fun ref href => h.projection henclosing (hrefs ref href)
  unfold starQualifier at hstar
  unfold projectionRows
  cases hprojection : (ClassifiedItem.ofItem item).projection with
  | star qualifier =>
    rw [hprojection] at hstar
    simp only [starRow_congr tags h henclosing hstar]
  | column ref =>
    rw [hprojection] at hresolved
    simp only [columnRow, hresolved ref (by simp [Projection.refs])]
  | case refs =>
    rw [hprojection] at hresolved
    refine List.map_congr_left fun ref href => ?_
    simp only [derivedRow, hresolved ref href]
  | derived refs =>
    rw [hprojection] at hresolved
    refine List.map_congr_left fun ref href => ?_
    simp only [derivedRow, hresolved ref href]
  | functionOnly text => rfl
  | literal => rfl

theorem clauseRow_congr (h : a.Agree N b) {fallback : Option String}
    (hfallback : ∀ n ∈ fallback, N n) (remarks : List Remark) (given : Option RowSource)
    {ref : ColumnRef} (href : ∀ n ∈ ref.qualifier, N n) :
    clauseRow tags a fallback remarks given ref = clauseRow tags b fallback remarks given ref := by
  unfold clauseRow
  rw [h.resolve href hfallback]

/-- The rows of a clause. -/
theorem clauseRows_congr (h : a.Agree N b) {fallback : Option String}
    (hfallback : ∀ n ∈ fallback, N n) (remark : Remark) {e : Expr}
    (hrefs : ∀ ref ∈ columnRefs e, ∀ n ∈ ref.qualifier, N n) :
    clauseRows tags a fallback remark e = clauseRows tags b fallback remark e :=
  List.map_congr_left fun ref href =>
    clauseRow_congr tags h hfallback [remark] none (hrefs ref href)

/-- The rows of the restriction of a join. -/
theorem constraintRows_congr (h : a.Agree N b) (kind : JoinKind) {left right : Option String}
    (hleft : ∀ n ∈ left, N n) (hright : ∀ n ∈ right, N n) {constraint : JoinConstraint}
    (hrefs : ∀ predicate, constraint = .on predicate →
      ∀ ref ∈ columnRefs predicate ++ equalityOperands predicate, ∀ n ∈ ref.qualifier, N n) :
    constraintRows tags a kind left right constraint =
      constraintRows tags b kind left right constraint := by
  cases constraint with
  | on predicate =>
    exact List.map_congr_left fun ref href =>
      clauseRow_congr tags h hright _ none (hrefs predicate rfl ref href)
  | «using» names =>
    have hsimple : ∀ column, ∀ n ∈ (ColumnRef.simple column).qualifier, N n := by
      intro column n hn
      simp [ColumnRef.simple] at hn
    simp only [constraintRows, List.map_cons, List.map_nil,
      clauseRow_congr tags h hleft _ none (hsimple _),
      clauseRow_congr tags h hright _ none (hsimple _)]
  | natural => rfl
  | none => rfl

/-- The rows of the filter of a joined subquery, if the catalogs find the same table behind it. -/
theorem joinedFilterRows_congr (h : a.Agree N b) {c d : CteCatalog} (kind : JoinKind)
    {relation : Source} (hright : ∀ n ∈ sourceName relation, N n)
    (hbase : ∀ lateral query label extras, relation = .derived lateral query label extras →
      c.singleBase query = d.singleBase query)
    (hrefs : ∀ lateral query label extras, relation = .derived lateral query label extras →
      ∀ select, firstSelect query = some select → ∀ filter, select.filter = some filter →
        ∀ ref ∈ columnRefs filter, ∀ n ∈ ref.qualifier, N n) :
    joinedFilterRows tags c a kind relation = joinedFilterRows tags d b kind relation := by
  match relation, hright, hbase, hrefs with
  | .derived lateral query (some label) extras, hright, hbase, hrefs =>
    have hname : ∀ n ∈ some label.name.value, N n := hright
    cases hfirst : firstSelect query with
    | none => simp [joinedFilterRows, hfirst]
    | some select =>
      cases hfilter : select.filter with
      | none => simp [joinedFilterRows, hfirst, hfilter]
      | some filter =>
        simp only [joinedFilterRows, hfirst, Option.bind_some, hfilter,
          hbase lateral query (some label) extras rfl]
        exact List.map_congr_left fun ref href => clauseRow_congr tags h hname _ _
          (hrefs lateral query (some label) extras rfl select hfirst filter hfilter ref href)
  | .derived lateral query none extras, _, _, _ => rfl
  | .table .., _, _, _ => rfl
  | .joined .., _, _, _ => rfl
  | .other .., _, _, _ => rfl

/-- The rows of a join. -/
theorem joinRows_congr (h : a.Agree N b) {c d : CteCatalog} {left : Option String} {join : Join}
    (hleft : ∀ n ∈ left, N n) (hright : ∀ n ∈ sourceName join.relation, N n)
    (hpredicate : ∀ predicate, tracedConstraint join = .on predicate →
      ∀ ref ∈ columnRefs predicate ++ equalityOperands predicate, ∀ n ∈ ref.qualifier, N n)
    (hbase : ∀ lateral query label extras, join.relation = .derived lateral query label extras →
      c.singleBase query = d.singleBase query)
    (hfilter : ∀ lateral query label extras, join.relation = .derived lateral query label extras →
      ∀ select, firstSelect query = some select → ∀ filter, select.filter = some filter →
        ∀ ref ∈ columnRefs filter, ∀ n ∈ ref.qualifier, N n) :
    joinRows tags c a left join = joinRows tags d b left join := by
  simp only [joinRows, constraintRows_congr tags h _ hleft hright hpredicate,
    joinedFilterRows_congr tags h _ hright hbase hfilter]

end Congruence

section Names

variable {visits : List Visit}

/-- The names of a statement part are among those of what it stands in. -/
theorem mem_namesIn_of_mentions {ref : ColumnRef} (h : Mentions visits ref) :
    ∀ n ∈ ref.qualifier, n ∈ namesIn visits := by
  intro n hn
  obtain ⟨e, he, href⟩ := h
  refine mem_namesIn he ?_
  simp only [namesAt, href, Option.bind_some, Option.mem_toList]
  exact hn

theorem mem_namesIn_of_mem_columnRefs {e : Expr} (hsub : e.visits ⊆ visits) {ref : ColumnRef}
    (href : ref ∈ columnRefs e) : ∀ n ∈ ref.qualifier, n ∈ namesIn visits :=
  mem_namesIn_of_mentions ((mentions_of_mem_columnRefs href).mono hsub)

theorem mem_namesIn_of_mem_predicate {e : Expr} (hsub : e.visits ⊆ visits) {ref : ColumnRef}
    (href : ref ∈ columnRefs e ++ equalityOperands e) :
    ∀ n ∈ ref.qualifier, n ∈ namesIn visits := by
  rcases List.mem_append.mp href with href | href
  · exact mem_namesIn_of_mem_columnRefs hsub href
  · exact mem_namesIn_of_mem_columnRefs hsub ((equalityOperands_sublist e).subset href)

/-- The references of an item are those of its expression, if it has one. -/
theorem exists_itemExpr_of_mem_refs {item : SelectItem} {ref : ColumnRef}
    (href : ref ∈ (ClassifiedItem.ofItem item).projection.refs) :
    ∃ e, selectExprs.itemExpr? item = some e ∧ ref ∈ columnRefs e := by
  cases item with
  | expr e => exact ⟨e, rfl, Projection.refs_ofExpr e ▸ href⟩
  | aliased e label => exact ⟨e, rfl, Projection.refs_ofExpr e ▸ href⟩
  | star options => simp [ClassifiedItem.ofItem, Projection.refs] at href
  | qualifiedStar name options =>
    simp [ClassifiedItem.ofItem, Projection.starOf, Projection.refs] at href
  | exprStar e options => simp [ClassifiedItem.ofItem, Projection.starOf, Projection.refs] at href

/-- The qualifier of a star occurs. -/
theorem mem_namesIn_starQualifier {select : Select} (hselect : Stands visits select)
    {item : SelectItem} (hitem : item ∈ select.items) :
    ∀ n ∈ starQualifier item, n ∈ namesIn visits := by
  intro n hn
  obtain ⟨q, hq, hbranch⟩ := hselect
  refine mem_namesIn hq (List.mem_append_right _ ?_)
  exact List.mem_flatMap.mpr ⟨select, hbranch, List.mem_filterMap.mpr ⟨item, hitem, hn⟩⟩

/-- The tables that are met have names that occur. -/
theorem mem_namesIn_of_mem_relationKeys {key : TableKey} (h : key ∈ relationKeys visits) :
    key.table ∈ namesIn visits := by
  obtain ⟨name, hname, rfl⟩ := mem_relationKeys.mp h
  exact mem_namesIn hname (List.mem_singleton_self _)

variable (hclosed : Closed visits)

include hclosed

/-- The name under which a scope holds a source occurs. -/
theorem mem_namesIn_scopeName {source : Source} (hmet : .source source ∈ visits) :
    ∀ n ∈ scopeName source, n ∈ namesIn visits := by
  intro n hn
  cases source with
  | table name arguments label extras =>
    cases label with
    | some label =>
      have hlabel : label.name.value = n := by simpa [scopeName, aliasName] using hn
      exact mem_namesIn hmet (by simp [namesAt, sourceAlias, aliasName, hlabel])
    | none =>
      have hname := hclosed.relation_of_table hmet
      exact mem_namesIn hname (by simpa [namesAt, scopeName, aliasName, eq_comm] using hn)
  | derived lateral query label extras =>
    exact mem_namesIn hmet (by simpa [namesAt, sourceAlias, scopeName] using hn)
  | joined tree label => simp [scopeName] at hn
  | other layout parts label => simp [scopeName] at hn

/-- The name that a joined source goes by occurs. -/
theorem mem_namesIn_sourceName {source : Source} (hmet : .source source ∈ visits) :
    ∀ n ∈ sourceName source, n ∈ namesIn visits := by
  intro n hn
  refine mem_namesIn_scopeName hclosed hmet n ?_
  cases source with
  | table name arguments label extras =>
    cases label with
    | some label => exact hn
    | none =>
      have hlast : name.values.getLast? = some n := hn
      simp [scopeName, aliasName, TableKey.ofName_eq, List.getLastD_eq_getLast?, hlast]
  | derived lateral query label extras => exact hn
  | joined tree label => simp [sourceName] at hn
  | other layout parts label => simp [sourceName] at hn

end Names

end ColumnLineage.Lineage
