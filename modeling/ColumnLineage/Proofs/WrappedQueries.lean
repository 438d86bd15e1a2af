import ColumnLineage.Proofs.ParserRuns
import ColumnLineage.Proofs.Visits
import ColumnLineage.Proofs.WrappedTexts

/-!
# Nested queries and the units they need

In every dialect, the lexemes of a wrapped text are those of one query, and the units that the
parser needs for it are known exactly: two for each subquery, one for the query and one for the
source that it is, and one each for the statement, for the outermost query and for what the
innermost query holds.

## Main definitions

* `wrappedQuery`: the query with some aliases, the outermost first.
* `unitsFor`: the units that the statement of such a query needs.

## Main statements

* `Parser.subexpr_a`, `Parser.sourceFactor_derived`, `Parser.wholeQuery_a`: what each construct of a
  wrapped text gives.
* `query_wrapped`: what the lexemes of a wrapped text give, in front of an end.
* `parseStatements_wrapped`: the only statement of a wrapped text, if there are units for it.
-/

namespace ColumnLineage.Sql

/-- `SELECT a FROM …` over one source. -/
def Select.columnFrom (source : Source) : Select :=
  .plain [.expr (.column (.bare "a"))] [source] none

/-- `SELECT a FROM …` over one source, as a query. -/
def Query.columnFrom (source : Source) : Query :=
  .ofBody (.select (.columnFrom source))

/-- A subquery with an alias that stands without AS. -/
def Source.labelled (q : Query) (label : String) : Source :=
  .derived false q (some ⟨false, .bare label, []⟩) []

/-- The query of a wrapped text. -/
def wrappedQuery : List String → Query
  | [] => .columnOf ["db", "t"]
  | label :: inner => .columnFrom (.labelled (wrappedQuery inner) label)

/-- The units that a wrapped text needs. -/
def unitsFor (labels : List String) : Nat :=
  2 * labels.length + 3

namespace Parser

variable {s : Setting} {l rest : List Lexeme} {k : Keyword} {ks : List Keyword} {word : String}
  {column second third : Nat}

/-- Lexemes with an unquoted word in front. -/
inductive Starts (word : String) : List Lexeme → Prop
  | mk (column : Nat) (more : List Lexeme) : Starts word (wordAt word column :: more)

theorem Starts.keyword_ne (h : Starts word l) (hk : Text.upper word ≠ k) :
    (l.headD .ending).keyword ≠ k := by
  cases h
  exact hk

theorem Starts.keyword_notMem (h : Starts word l) (hks : Text.upper word ∉ ks) :
    (l.headD .ending).keyword ∉ ks := by
  cases h
  exact hks

theorem Starts.token_ne (h : Starts word l) (symbol : String) :
    (l.headD .ending).token ≠ .symbol symbol := by
  cases h
  exact Token.noConfusion

section Names

theorem ident_word (value : String) (column : Nat) :
    ident s (wordAt value column :: l) = .ok (.bare value, l) :=
  rfl

/-- An unquoted word is a part of a dotted name, unless it computes one. -/
theorem namePart_word {value : String} (hvalue : Text.lower value ≠ "identifier")
    (parts : List NamePart) :
    namePart parts s (wordAt value column :: l) = .ok ((.ident (.bare value), []), l) := by
  have hplain : ¬ computesName s.rules (.bare value) parts = true := by
    simp [computesName, Ident.bare, hvalue]
  refine bind_run rfl (bind_run (atSymbol_absent Token.noConfusion) ?_)
  refine ite_run_of_not (by simp) ?_
  exact bind_run (ident_word value column) (ite_run_of_not hplain rfl)

theorem objectName_word {value : String} (hvalue : Text.lower value ≠ "identifier")
    (hperiod : (l.headD .ending).token ≠ .symbol ".") :
    objectName s (wordAt value column :: l) = .ok (⟨.ofIdents [.bare value], []⟩, l) := by
  refine bind_run (namePart_word hvalue []) (bind_run (iterate_stop ?_) rfl)
  exact bind_run (symbol?_absent hperiod) rfl

theorem objectName_table (hends : Ends l) : objectName s (wordAt "db" column ::
    symbolAt "." second :: wordAt "t" third :: l) =
      .ok (⟨.ofIdents [.bare "db", .bare "t"], []⟩, l) := by
  refine bind_run (namePart_word (by decide) []) ?_
  refine bind_run (iterate_once (bind_run rfl (bind_run (namePart_word (by decide) _) rfl)) ?_) rfl
  exact bind_run (symbol?_absent (hends.token_ne (by decide))) rfl

end Names

section Expressions

variable (h : Starts "FROM" l)
include h

/-- The word `a` names a type that is not built in. -/
theorem dataType_a : dataType s (wordAt "a" column :: l) = .ok (⟨.custom, "a", []⟩, l) := by
  have hkeyword (inner : Parser OpenType) :
      keywordType inner (Text.upper "a") s l = .ok (none, l) := rfl
  have hmodifiers : typeModifiers? s l = .ok ("", l) :=
    bind_run (symbol?_absent (h.token_ne "(")) rfl
  have htype : typeWithin ((wordAt "a" column :: l).length + 1) s (wordAt "a" column :: l) =
      .ok ((⟨.custom, "a", []⟩, false), l) := by
    unfold typeWithin
    refine bind_run rfl (ite_run_of_not Bool.false_ne_true ?_)
    refine bind_run rfl (bind_run rfl (bind_run (hkeyword _) ?_))
    refine bind_run rfl (bind_run (objectName_word (by decide) (h.token_ne ".")) ?_)
    refine bind_run hmodifiers (bind_run rfl (bind_run rfl (ite_run ?_ rfl)))
    refine bind_run (iterate_stop ?_) rfl
    exact bind_run (symbol?_absent (h.token_ne "[")) rfl
  exact bind_run rfl (bind_run htype rfl)

/-- The word `a` is tried as a type first, and then is a column. -/
theorem operand_a : operand s (wordAt "a" column :: l) = .ok (.column (.bare "a"), l) := by
  have htyped (inner : Parser Expr) : typedOperand inner s (wordAt "a" column :: l) =
      .error (.expected "a data type name" (l.headD .ending)) :=
    bind_run rfl (bind_run (dataType_a h) rfl)
  have hmeaning (inner : Parser Expr) :
      meaningfulWord inner (.bare "a") (Text.upper "a") s l = .ok (none, l) := rfl
  have hnamed : namedOperand (.bare "a") s l = .ok (.column (.bare "a"), l) := by
    cases h
    rfl
  have hword (inner : Parser Expr) : wordOperand inner (.bare "a") (Text.upper "a") s l =
      .ok (.column (.bare "a"), l) := by
    unfold wordOperand
    rw [hmeaning]
    exact hnamed
  refine bind_run rfl ?_
  unfold operandWithin
  exact bind_run (attempt_expected (htyped _)) (bind_run rfl (bind_run rfl (hword _)))

/-- Nothing behind an operand in front of FROM belongs to it. -/
theorem fields_from (start : List Lexeme) (root : Expr) :
    fields start root s l = .ok (root, l) := by
  have hbracket := given_absent (!s.rules.bracketPaths)
    (symbol?_absent (s := s) (h.token_ne "["))
  have hmark : outerMarkAhead s l = .ok (false, l) := by
    refine bind_run rfl (ite_run ?_ rfl)
    unfold ahead
    rw [symbols?_absent (h.token_ne "(")]
    rfl
  refine bind_run rfl (bind_run (iterate_stop
    (bind_run (atSymbol_absent (h.token_ne ".")) (bind_run hbracket rfl))) ?_)
  exact bind_run hmark rfl

/-- The word `a` in front of FROM is an expression, whatever units there are. -/
theorem subexpr_a : subexpr 0 s (wordAt "a" column :: l) = .ok (.column (.bare "a"), l) := by
  have hcollated : collated (.column (.bare "a")) s l = .ok (.column (.bare "a"), l) :=
    bind_run rfl (ite_run rfl (bind_run (keyword?_absent (h.keyword_ne (by decide))) rfl))
  have hbinding : nextBinding s l = .ok (0, l) := by
    cases h
    rfl
  refine bind_run rfl (bind_run (operand_a h) (bind_run (fields_from h _ _) ?_))
  exact bind_run hcollated (iterate_stop (bind_run hbinding rfl))

theorem columnAlias?_from : columnAlias? s l = .ok (none, l) := by
  have hword (after : Lexeme) :
      columnAliasWord s.rules.aliasRule (Text.upper "FROM") after = false := by
    cases s.rules.aliasRule <;> rfl
  refine bind_run rfl (bind_run (keyword?_absent (h.keyword_ne (by decide))) ?_)
  cases h
  exact bind_run rfl (bind_run rfl (ite_run_of_not (ne_true_of_eq_false (hword _)) rfl))

variable {needed units : Nat}
  (hexpr : expr s (wordAt "a" column :: l) = afford needed units (.column (.bare "a")) l)
include hexpr

theorem selectItem_a : selectItem s (wordAt "a" column :: l) =
    afford needed units (.expr (.column (.bare "a"))) l := by
  have hstar : starAhead s (wordAt "a" column :: l) = .ok (none, wordAt "a" column :: l) := by
    refine bind_run rfl (bind_run rfl (bind_run rfl ?_))
    exact bind_run (iterate_stop (bind_run (symbol?_absent (h.token_ne ".")) rfl)) rfl
  have ha : Starts "a" _ := .mk column l
  refine bind_run rfl (bind_run (given_absent _ (keyword?_absent (ha.keyword_ne (by decide)))) ?_)
  refine bind_run hstar (bind_afford hexpr ?_)
  refine bind_run rfl (bind_run (given_absent _ (symbols?_absent (h.token_ne "."))) ?_)
  exact bind_run (columnAlias?_from h) rfl

theorem selectList_a : selectList s (wordAt "a" column :: l) =
    afford needed units [.expr (.column (.bare "a"))] l :=
  bind_run rfl (separatedWith_single (selectItem_a h hexpr) (h.token_ne ","))

end Expressions

section Sources

variable (hends : Ends rest)
include hends

theorem sourceFactor_table : sourceFactor s (wordAt "db" column :: symbolAt "." second ::
    wordAt "t" third :: rest) = .ok (.bare ["db", "t"], rest) := by
  have hnamed : namedTable s (wordAt "db" column :: symbolAt "." second :: wordAt "t" third ::
      rest) = .ok (.bare ["db", "t"], rest) := by
    refine bind_run rfl (bind_run (objectName_table hends) ?_)
    refine ite_run (bind_run (atSymbol_absent (hends.token_ne (by decide))) (bind_run rfl ?path))
      (bind_run rfl ?path)
    refine bind_run (given_absent _ (keyword?_absent (hends.keyword_ne (by decide)))) ?_
    refine bind_run rfl (bind_run (tableVersion?_ends hends) ?_)
    refine bind_run (symbol?_absent (hends.token_ne (by decide))) (bind_run rfl ?_)
    refine bind_run (keywords?_absent (hends.keyword_ne (by decide))) (bind_run rfl ?_)
    refine ite_run (bind_run (sample?_ends hends) ?early) (bind_run rfl ?early)
    refine bind_run (alias?_ends hends) (bind_run (indexHints?_ends hends) ?_)
    refine bind_run (tableHints?_ends hends) ?_
    refine ite_run (bind_run rfl ?late) (bind_run (sample?_ends hends) ?late)
    refine bind_run (pivots_ends hends _) ?_
    exact bind_run (given_absent _ (keyword?_absent (hends.keyword_ne (by decide)))) rfl
  have hdb : Starts "db" _ := .mk column (symbolAt "." second :: wordAt "t" third :: rest)
  refine bind_run rfl (bind_run (keyword?_absent (hdb.keyword_ne (by decide))) ?_)
  refine bind_run (keyword?_absent (hdb.keyword_ne (by decide))) ?_
  refine bind_run (symbol?_absent (hdb.token_ne "(")) (bind_run (given_absent _ rfl) ?_)
  refine bind_run (given_absent _ (keyword?_absent (hdb.keyword_ne (by decide)))) ?_
  refine bind_run rfl (bind_run rfl (bind_run rfl ?_))
  exact bind_run (given_absent _ rfl) hnamed

omit hends in
theorem contextualSourceAlias_of_notMem (hk : k ∉ sourceReserved) (after : Lexeme) :
    contextualSourceAlias k after = true := by
  unfold contextualSourceAlias
  dsimp only
  split
  all_goals first
    | rfl
    | exact absurd (by simp only [sourceReserved, List.mem_cons, true_or, or_true]) hk

omit hends in
theorem sourceAliasWord_of_notMem (hk : k ∉ neverAliases) (rule : AliasRule) (after : Lexeme) :
    sourceAliasWord rule k after = true := by
  have hhints : k ∉ sourceReserved ++ ["USE", "IGNORE", "FORCE", "STRAIGHT_JOIN"] :=
    fun hmem => hk (List.mem_cons_of_mem _ hmem)
  have hreserved : k ∉ sourceReserved := fun hmem => hhints (List.mem_append_left _ hmem)
  cases rule with
  | standard => simpa [sourceAliasWord] using hreserved
  | indexHints =>
    simpa only [sourceAliasWord, Bool.not_eq_true', List.contains_eq_mem,
      decide_eq_false_iff_not] using hhints
  | contextual => exact contextualSourceAlias_of_notMem hreserved after

theorem alias?_word {label : String} (hlabel : IsAlias label) :
    alias? s (wordAt label column :: rest) = .ok (some ⟨false, .bare label, []⟩, rest) := by
  have hword : Starts label _ := .mk column rest
  have hne : Text.upper label ≠ "AS" := fun heq => hlabel.free (heq ▸ List.mem_cons_self)
  have hname : aliasName? (sourceAliasWord s.rules.aliasRule) s (wordAt label column :: rest) =
      .ok (some (.bare label), rest) := by
    refine bind_run (keyword?_absent (hword.keyword_ne hne)) (bind_run rfl (bind_run rfl ?_))
    exact (congrFun (congrFun (if_pos (sourceAliasWord_of_notMem hlabel.free _ _)) s) _).trans rfl
  refine bind_run rfl (bind_run (atKeyword_absent (hword.keyword_ne hne)) (bind_run hname ?_))
  exact bind_run (atSymbol_absent (hends.token_ne (by decide))) rfl

variable {needed units : Nat}

/-- A subquery in parentheses is a source that needs the units of the query. -/
theorem sourceFactor_derived {q : Query} {label : String} (hlabel : IsAlias label)
    (hquery : query s l =
      afford needed units q (symbolAt ")" second :: wordAt label third :: rest)) :
    sourceFactor s (symbolAt "(" column :: l) =
      afford needed units (.labelled q label) rest := by
  have hderived : derivedTable false s l = afford needed units (.labelled q label) rest := by
    refine bind_afford hquery (bind_run rfl ?_)
    exact bind_run (alias?_word hends hlabel) (bind_run (sample?_ends hends) rfl)
  refine bind_run rfl (bind_run rfl (bind_run rfl (bind_run rfl ?_)))
  exact bind_afford (attempt_afford hderived) (pivots_ends hends _)

theorem fromList_single {relation : Source}
    (hsource : source s l = afford needed units relation rest) :
    fromList s l = afford needed units [⟨relation, []⟩] rest := by
  have htree : fromTree s l = afford needed units ⟨relation, []⟩ rest :=
    bind_afford hsource (bind_run (joins_ends hends) rfl)
  exact bind_run rfl (separatedWith_single htree (hends.token_ne (by decide)))

end Sources

section Queries

variable {first needed units : Nat} {relation : Source} (hends : Ends rest)
  (hexpr : expr s (wordAt "a" second :: wordAt "FROM" third :: l) =
    afford first units (.column (.bare "a")) (wordAt "FROM" third :: l))
  (hsource : source s l = afford needed units relation rest)
include hends hexpr hsource

/-- `SELECT a FROM` in front of a source is a SELECT over it alone. -/
theorem select_a : select s (wordAt "SELECT" column :: wordAt "a" second ::
    wordAt "FROM" third :: l) = afford (max first needed) units
      (.columnFrom relation) rest := by
  have hselect : Starts "SELECT" _ := .mk column (wordAt "a" second :: wordAt "FROM" third :: l)
  have ha : Starts "a" _ := .mk second (wordAt "FROM" third :: l)
  have hfrom : Starts "FROM" _ := .mk third l
  have hhint : optimizerHint? s (wordAt "a" second :: wordAt "FROM" third :: l) =
      .ok ([], wordAt "a" second :: wordAt "FROM" third :: l) :=
    bind_run rfl (ite_run (bind_run rfl rfl) rfl)
  have hmodifiers : selectModifiers s (wordAt "a" second :: wordAt "FROM" third :: l) =
      .ok ([], wordAt "a" second :: wordAt "FROM" third :: l) :=
    bind_run (iterate_stop
      (bind_run (oneOf?_absent (ha.keyword_notMem (by decide))) (bind_run rfl rfl))) rfl
  have hviews : many (do
      if ← keywords? ["LATERAL", "VIEW"] then return some (← lateralView) else return none)
      s rest = .ok ([], rest) :=
    many_stop (bind_run (keywords?_absent (hends.keyword_ne (by decide))) rfl)
  have hlist := selectList_a hfrom hexpr
  refine bind_run rfl
    (bind_run (given_absent _ (keyword?_absent (hselect.keyword_ne (by decide)))) ?_)
  refine bind_run rfl (bind_run rfl (bind_run rfl (bind_run hhint ?_)))
  -- Both branches of a decision go on in the same way, so that the rest is followed once.
  refine ite_run (bind_run hmodifiers ?modifiers)
    (bind_run (distinct?_absent (ha.keyword_notMem (by decide))) ?modifiers)
  refine bind_run (top?_absent (ha.keyword_ne (by decide))) ?_
  refine ite_run (bind_run (atKeyword_absent (ha.keyword_ne (by decide)))
    (bind_afford_afford hlist ?items)) (bind_afford_afford hlist ?items)
  refine bind_run (into?_absent (hfrom.keyword_ne (by decide))) (bind_run rfl ?_)
  refine bind_afford (fromList_single hends hsource) (bind_run rfl ?_)
  refine bind_run hviews ?_
  refine bind_run (given_absent _ (keyword?_absent (hends.keyword_ne (by decide)))) ?_
  refine bind_run rfl (bind_run (exprClause_ends hends (by decide)) ?_)
  refine bind_run (hierarchy_ends hends) (bind_run (grouping_ends hends) ?_)
  refine bind_run (listClause_ends hends (by decide)) ?_
  refine bind_run (listClause_ends hends (by decide)) ?_
  refine bind_run (sortClause_ends hends) (bind_run (exprClause_ends hends (by decide)) ?_)
  exact bind_run (windowsAndQualify_ends hends) rfl

/-- `SELECT a FROM` in front of a source is a query, which needs a unit for what it holds. -/
theorem wholeQuery_a : wholeQuery s (wordAt "SELECT" column :: wordAt "a" second ::
    wordAt "FROM" third :: l) =
      afford (max first needed) units (.columnFrom relation) rest := by
  have hstart : Starts "SELECT" _ := .mk column (wordAt "a" second :: wordAt "FROM" third :: l)
  have hplain : plainBody s (wordAt "SELECT" column :: wordAt "a" second ::
      wordAt "FROM" third :: l) = afford (max first needed) units
        (.select (.columnFrom relation)) rest :=
    bind_run rfl (bind_run rfl (bind_afford (select_a hends hexpr hsource) rfl))
  have hoperator : setOperator s rest = .ok (none, rest) := by
    cases hends <;> rfl
  have hbody : body s (wordAt "SELECT" column :: wordAt "a" second ::
      wordAt "FROM" third :: l) = afford (max first needed) units
        (.select (.columnFrom relation)) rest :=
    bind_afford hplain (iterate_stop (bind_run hoperator rfl))
  refine bind_run (keyword?_absent (hstart.keyword_ne (by decide))) (bind_run rfl ?_)
  refine bind_run (oneOf?_absent (hstart.keyword_notMem (by decide))) ?_
  exact bind_afford hbody (bind_run (queryTail_ends hends) rfl)

end Queries

end Parser

section Budget

/-- The setting with a budget of units. -/
def Setting.within (rules : Rules) (units : Nat) : Setting :=
  ⟨rules, .anywhere, parseWithin rules units⟩

variable {rules : Rules} {l more rest : List Lexeme}

/-- A construct that needs some units is entered with one more. -/
theorem enter_afford {g : Goal} {tree : g.Tree} {needed : Nat}
    (h : ∀ units, construct g (.within rules units) l = Parser.afford needed units tree more)
    (units : Nat) :
    Parser.enter g (.within rules units) l = Parser.afford (needed + 1) units tree more := by
  cases units with
  | zero => exact (Parser.afford_of_lt (Nat.succ_pos needed) tree more).symm
  | succ units =>
    refine (h units).trans ?_
    simp only [Parser.afford, Nat.add_le_add_iff_right]

/-- A construct that needs no units is entered with one. -/
theorem enter_leaf {g : Goal} {tree : g.Tree}
    (h : ∀ units, construct g (.within rules units) l = .ok (tree, more)) (units : Nat) :
    Parser.enter g (.within rules units) l = Parser.afford 1 units tree more :=
  enter_afford (fun units => (h units).trans
    (Parser.afford_of_le (Nat.zero_le units) tree more).symm) units

theorem expr_a (second third units : Nat) :
    Parser.expr (.within rules units) (wordAt "a" second :: wordAt "FROM" third :: l) =
      Parser.afford 1 units (.column (.bare "a")) (wordAt "FROM" third :: l) :=
  enter_leaf (g := .expr 0) (fun _ => Parser.subexpr_a (.mk third l)) units

/-- The lexemes of a wrapped text in front of an end are those of its query, which needs two units
for each subquery. -/
theorem query_wrapped {labels : List String} (hlabels : ∀ label ∈ labels, IsAlias label)
    (hrest : Parser.Ends rest) (column units : Nat) :
    Parser.query (.within rules units) (wrappedLexemes labels column ++ rest) =
      Parser.afford (2 * labels.length + 2) units (wrappedQuery labels) rest := by
  -- Inwards from the outermost query.  What is behind a subquery, its alias included, is left over
  -- by the query in it, and therefore arbitrary.
  induction labels generalizing rest column units with
  | nil =>
    have hsource (units : Nat) : Parser.source (.within rules units) (wordAt "db" (column + 14) ::
        symbolAt "." (column + 16) :: wordAt "t" (column + 17) :: rest) =
          Parser.afford 1 units (.bare ["db", "t"]) rest :=
      enter_leaf (g := .source) (fun _ => Parser.sourceFactor_table hrest) units
    exact enter_afford (g := .query)
      (fun units => Parser.wholeQuery_a hrest (expr_a _ _ units) (hsource units)) units
  | cons label inner ih =>
    obtain ⟨hlabel, hinner⟩ := List.forall_mem_cons.mp hlabels
    let behind := column + 15 + (wrapped inner).length
    let closing := symbolAt ")" behind :: wordAt label (behind + 2) :: rest
    have hclosing : Parser.Ends closing := .closing 1 behind none _
    have hsource (units : Nat) : Parser.source (.within rules units) (symbolAt "(" (column + 14) ::
        (wrappedLexemes inner (column + 15) ++ closing)) =
          Parser.afford (2 * inner.length + 3) units (.labelled (wrappedQuery inner) label) rest :=
      enter_afford (g := .source) (fun units =>
        Parser.sourceFactor_derived hrest hlabel (ih hinner hclosing (column + 15) units)) units
    have hlexemes : wrappedLexemes (label :: inner) column ++ rest =
        wordAt "SELECT" column :: wordAt "a" (column + 7) :: wordAt "FROM" (column + 9) ::
          symbolAt "(" (column + 14) :: (wrappedLexemes inner (column + 15) ++ closing) := by
      simp [wrappedLexemes, closing, behind]
    -- The column in front of the source needs one unit only, and never more than the source.
    have hmax : max 1 (2 * inner.length + 3) = 2 * (label :: inner).length + 1 := by
      simp only [List.length_cons]
      omega
    rw [hlexemes]
    refine enter_afford (g := .query) (fun units => ?_) units
    rw [← hmax]
    exact Parser.wholeQuery_a hrest (expr_a _ _ units) (hsource units)

theorem wrappedLexemes_eq_cons (labels : List String) (column : Nat) :
    ∃ more, wrappedLexemes labels column = wordAt "SELECT" column :: more := by
  cases labels with
  | nil => exact ⟨_, rfl⟩
  | cons label inner => exact ⟨_, rfl⟩

/-- A wrapped text is a statement that needs a unit of its own. -/
theorem statement_wrapped {labels : List String} (hlabels : ∀ label ∈ labels, IsAlias label)
    (column units : Nat) :
    Parser.statement (.within rules units) (wrappedLexemes labels column) =
      Parser.afford (unitsFor labels) units (.query (wrappedQuery labels)) [] := by
  have hquery (units : Nat) :
      Parser.query (.within rules units) (wrappedLexemes labels column) =
        Parser.afford (2 * labels.length + 2) units (wrappedQuery labels) [] := by
    rw [← List.append_nil (wrappedLexemes labels column)]
    exact query_wrapped hlabels .nil column units
  -- The first word tells that the statement is a query.
  refine enter_afford (g := .statement) (fun units => ?_) units
  obtain ⟨more, hfirst⟩ := wrappedLexemes_eq_cons labels column
  rw [hfirst] at hquery ⊢
  refine Parser.bind_run rfl (Parser.ite_run_of_not Bool.false_ne_true ?_)
  exact Parser.bind_afford (hquery units) rfl

/-- All statements of a wrapped text, if the units suffice. -/
theorem parseStatements_wrapped {labels : List String} (hlabels : ∀ label ∈ labels, IsAlias label)
    (rules : Rules) (units : Nat) :
    parseStatements rules units (wrappedLexemes labels 1) =
      if unitsFor labels ≤ units then .ok [.query (wrappedQuery labels)] else .error .budget := by
  obtain ⟨more, hfirst⟩ := wrappedLexemes_eq_cons labels 1
  have hstatements : Parser.statements (.within rules units) (wrappedLexemes labels 1) =
      Parser.afford (unitsFor labels) units [.query (wrappedQuery labels)] [] := by
    have hstatement : Parser.statement (.within rules units) (wordAt "SELECT" 1 :: more) =
        Parser.afford (unitsFor labels) units (.query (wrappedQuery labels)) [] := by
      rw [← hfirst]
      exact statement_wrapped hlabels 1 units
    rw [hfirst]
    refine Parser.bind_afford (a := [.query (wrappedQuery labels)]) ?_ rfl
    exact Parser.iterate_afford (Parser.bind_run rfl (Parser.bind_run rfl (Parser.bind_run rfl
      (Parser.bind_afford hstatement rfl)))) (Parser.bind_run rfl rfl)
  change (Parser.statements (.within rules units) (wrappedLexemes labels 1)).map (·.1) = _
  rw [hstatements, Parser.afford]
  split <;> rfl

end Budget

end ColumnLineage.Sql
