import ColumnLineage.Sql.Grammar

/-!
# Runs of parsers

What the parsers of the grammar give on lexemes whose front is known.  Most clauses are optional: a
clause whose words do not stand in front takes nothing.

## Main definitions

* `afford`: the outcome of a parse that needs some units.
* `Ends`: lexemes behind which a query cannot go on.

## Main statements

* `bind_run`, `bind_afford`, `bind_afford_afford`: what a sequence of parsers gives, and the units
  that it needs.
* `iterate_stop`, `iterate_once`, `separatedWith_single`: repetitions and lists of one element.
* `queryTail_ends`, `pivots_ends`, `joins_ends`: nothing follows a query or a source at its end.

## Design notes

A parser that a run goes through has one lemma here, so that a run is followed without a look into
the parsers it consists of.  Only what enters a construct needs units, so that they are counted in
the outcome and not in the parsers.
-/

namespace ColumnLineage.Sql.Parser

variable {α β : Type} {s : Setting} {l more rest : List Lexeme} {k : Keyword} {ks : List Keyword}

/-- What a parse gives that needs some of the units there are. -/
def afford (needed units : Nat) (a : α) (more : List Lexeme) : Outcome α :=
  if needed ≤ units then .ok (a, more) else .error .budget

theorem afford_of_le {needed units : Nat} (h : needed ≤ units) (a : α) (more : List Lexeme) :
    afford needed units a more = .ok (a, more) :=
  if_pos h

theorem afford_of_lt {needed units : Nat} (h : units < needed) (a : α) (more : List Lexeme) :
    afford needed units a more = .error .budget :=
  if_neg (Nat.not_le_of_lt h)

section Sequences

variable {p : Parser α} {f : α → Parser β} {a : α} {outcome : Outcome β}

theorem bind_run (hp : p s l = .ok (a, more)) (hf : f a s more = outcome) :
    (p >>= f) s l = outcome := by
  change (p s l >>= fun found => f found.1 s found.2) = outcome
  rw [hp]
  exact hf

theorem bind_error {failure : ParseFailure} (hp : p s l = .error failure) :
    (p >>= f) s l = .error failure := by
  change (p s l >>= fun found => f found.1 s found.2) = .error failure
  rw [hp]
  rfl

/-- A sequence whose second parser needs no units needs those of the first one. -/
theorem bind_afford {needed units : Nat} {b : β} (hp : p s l = afford needed units a more)
    (hf : f a s more = .ok (b, rest)) : (p >>= f) s l = afford needed units b rest := by
  by_cases hunits : needed ≤ units
  · rw [afford_of_le hunits] at hp ⊢
    exact bind_run hp hf
  · rw [afford_of_lt (Nat.lt_of_not_le hunits)] at hp ⊢
    exact bind_error hp

/-- Units are given back behind a parser, so that a sequence needs those of its hungrier part. -/
theorem bind_afford_afford {first second units : Nat} {b : β}
    (hp : p s l = afford first units a more) (hf : f a s more = afford second units b rest) :
    (p >>= f) s l = afford (max first second) units b rest := by
  by_cases hfirst : first ≤ units
  · rw [afford_of_le hfirst] at hp
    have hmax : max first second ≤ units ↔ second ≤ units := by omega
    rw [bind_run hp hf]
    simp only [afford, hmax]
  · rw [afford_of_lt (Nat.lt_of_not_le hfirst)] at hp
    rw [bind_error hp, afford_of_lt (by omega)]

/-- A step that gives nothing ends a repetition. -/
theorem iterate_stop {step : α → Parser (Option α)} (hstep : step a s l = .ok (none, more)) :
    iterate step a s l = .ok (a, more) :=
  bind_run hstep rfl

/-- A repetition goes on behind a step that gives something. -/
theorem iterate_once {step : α → Parser (Option α)} {b : α} {first : Lexeme}
    (hstep : step a s (first :: l) = .ok (some b, more))
    (hstop : step b s more = .ok (none, rest)) :
    iterate step a s (first :: l) = .ok (b, rest) :=
  bind_run hstep (bind_run hstop rfl)

/-- A repetition whose only step needs units. -/
theorem iterate_afford {step : α → Parser (Option α)} {b : α} {first : Lexeme} {needed units : Nat}
    (hstep : step a s (first :: l) = afford needed units (some b) more)
    (hstop : step b s more = .ok (none, rest)) :
    iterate step a s (first :: l) = afford needed units b rest :=
  bind_afford hstep (bind_run hstop rfl)

theorem many_stop {p : Parser (Option α)} (hp : p s l = .ok (none, more)) :
    many p s l = .ok ([], more) := by
  have hiterate : iterate (fun found => do return (← p).map (· :: found)) [] s l =
      .ok ([], more) := iterate_stop (bind_run hp rfl)
  exact bind_run hiterate rfl

theorem attempt_ok (hp : p s l = .ok (a, more)) : attempt p s l = .ok (some a, more) := by
  unfold attempt
  rw [hp]

/-- Nothing else is tried where units are missing. -/
theorem attempt_afford {needed units : Nat} (hp : p s l = afford needed units a more) :
    attempt p s l = afford needed units (some a) more := by
  unfold attempt
  rw [hp]
  by_cases hunits : needed ≤ units
  · rw [afford_of_le hunits, afford_of_le hunits]
  · have hlt := Nat.lt_of_not_le hunits
    rw [afford_of_lt hlt, afford_of_lt hlt]

/-- A failure for which other lexemes are to blame lets a parser try something else. -/
theorem attempt_expected {what : String} {found : Lexeme}
    (hp : p s l = .error (.expected what found)) : attempt p s l = .ok (none, l) := by
  unfold attempt
  rw [hp]

end Sequences

section Fronts

theorem keyword?_absent (h : (l.headD .ending).keyword ≠ k) : keyword? k s l = .ok (false, l) := by
  cases l with
  | nil => rfl
  | cons first more => simpa [keyword?] using h

theorem keywords?_absent (h : (l.headD .ending).keyword ≠ k) :
    keywords? (k :: ks) s l = .ok (false, l) := by
  cases l with
  | nil => rfl
  | cons first more =>
    have hne : (first.keyword == k) = false := beq_false_of_ne h
    simp [keywords?, behind, hne]

theorem oneOf?_absent (h : (l.headD .ending).keyword ∉ ks) : oneOf? ks s l = .ok (none, l) := by
  cases l with
  | nil => rfl
  | cons first more => simpa [oneOf?] using h

theorem atKeyword_absent (h : (l.headD .ending).keyword ≠ k) :
    atKeyword k s l = .ok (false, l) := by
  have hne : ((l.headD .ending).keyword == k) = false := beq_false_of_ne h
  change Except.ok ((l.headD .ending).keyword == k, l) = _
  rw [hne]

theorem symbol?_absent {symbol : String} (h : (l.headD .ending).token ≠ .symbol symbol) :
    symbol? symbol s l = .ok (false, l) := by
  cases l with
  | nil => rfl
  | cons first more => simpa [symbol?] using h

theorem symbols?_absent {symbol : String} {symbols : List String}
    (h : (l.headD .ending).token ≠ .symbol symbol) :
    symbols? (symbol :: symbols) s l = .ok (false, l) := by
  cases l with
  | nil => simp [symbols?]
  | cons first more =>
    have hne : Token.symbol symbol ≠ first.token := Ne.symm h
    simp [symbols?, hne]

theorem atSymbol_absent {symbol : String} (h : (l.headD .ending).token ≠ .symbol symbol) :
    atSymbol symbol s l = .ok (false, l) := by
  have hne : ((l.headD .ending).token == Token.symbol symbol) = false := beq_false_of_ne h
  change Except.ok ((l.headD .ending).token == Token.symbol symbol, l) = _
  rw [hne]

theorem given_absent {p : Parser Bool} (condition : Bool) (hp : p s l = .ok (false, l)) :
    given condition p s l = .ok (false, l) := by
  cases condition with
  | false => rfl
  | true => exact hp

/-- A list without a comma behind its first element consists of it. -/
theorem separatedWith_single {p : Parser α} {trailing : Bool} {ends : Keyword → Lexeme → Bool}
    {needed units : Nat} {a : α} (hp : p s l = afford needed units a more)
    (hcomma : (more.headD .ending).token ≠ .symbol ",") :
    separatedWith trailing ends p s l = afford needed units [a] more := by
  refine bind_afford hp (bind_run (iterate_stop ?_) rfl)
  exact bind_run (symbol?_absent hcomma) rfl

theorem distinct?_absent (h : (l.headD .ending).keyword ∉ ["ALL", "DISTINCT"]) :
    distinct? s l = .ok ([], l) :=
  bind_run rfl (bind_run (oneOf?_absent h) rfl)

theorem top?_absent (h : (l.headD .ending).keyword ≠ "TOP") : top? s l = .ok ([], l) :=
  bind_run (keyword?_absent h) rfl

theorem into?_absent (h : (l.headD .ending).keyword ≠ "INTO") : into? s l = .ok ([], l) :=
  bind_run (keyword?_absent h) rfl

end Fronts

section Ends

/-- Lexemes behind which a query cannot go on: none, or a closing parenthesis in front. -/
inductive Ends : List Lexeme → Prop
  | nil : Ends []
  | closing (line column : Nat) (hint : Option String) (more : List Lexeme) :
      Ends (.of (.symbol ")") line column hint :: more)

theorem Ends.keyword (h : Ends l) : (l.headD .ending).keyword = "" := by
  cases h <;> rfl

theorem Ends.keyword_ne (h : Ends l) (hk : k ≠ "") : (l.headD .ending).keyword ≠ k := by
  rw [h.keyword]
  exact hk.symm

theorem Ends.keyword_notMem (h : Ends l) (hks : "" ∉ ks) : (l.headD .ending).keyword ∉ ks := by
  rwa [h.keyword]

theorem Ends.token_ne (h : Ends l) {symbol : String} (hsymbol : symbol ≠ ")") :
    (l.headD .ending).token ≠ .symbol symbol := by
  cases h with
  | nil => exact Token.noConfusion
  | closing line column hint more => exact fun heq => hsymbol (Token.symbol.inj heq).symm

/-- Where a decision of the dialect makes no difference, it is not looked at. -/
theorem ite_run {condition : Prop} [Decidable condition] {p q : Parser α} {outcome : Outcome α}
    (hp : p s l = outcome) (hq : q s l = outcome) :
    (if condition then p else q) s l = outcome := by
  split
  · exact hp
  · exact hq

theorem ite_run_of_not {condition : Prop} [Decidable condition] {p q : Parser α}
    {outcome : Outcome α} (hcondition : ¬ condition) (hq : q s l = outcome) :
    (if condition then p else q) s l = outcome := by
  rwa [if_neg hcondition]

variable (h : Ends l)
include h

theorem exprClause_ends (hk : k ≠ "") : exprClause k s l = .ok (none, l) :=
  bind_run (keyword?_absent (h.keyword_ne hk)) rfl

theorem listClause_ends (hk : k ≠ "") : listClause (k :: ks) s l = .ok ([], l) :=
  bind_run (keywords?_absent (h.keyword_ne hk)) rfl

theorem sortClause_ends : sortClause s l = .ok ([], l) :=
  bind_run (keywords?_absent (h.keyword_ne (by decide))) rfl

theorem grouping_ends : grouping s l = .ok (([], []), l) :=
  bind_run (keywords?_absent (h.keyword_ne (by decide))) rfl

theorem hierarchy_ends : hierarchy s l = .ok ([], l) := by
  refine bind_run rfl (ite_run rfl (many_stop ?_))
  refine bind_run (keywords?_absent (h.keyword_ne (by decide))) ?_
  exact bind_run (keywords?_absent (h.keyword_ne (by decide))) rfl

theorem windowsAndQualify_ends : windowsAndQualify s l = .ok ([], l) :=
  bind_run (keyword?_absent (h.keyword_ne (by decide)))
    (bind_run (keyword?_absent (h.keyword_ne (by decide))) rfl)

theorem orderClause_ends : orderClause s l = .ok ([], l) :=
  bind_run (keywords?_absent (h.keyword_ne (by decide))) rfl

theorem limitClause_ends : limitClause s l = .ok ([], l) := by
  refine bind_run rfl (bind_run (keyword?_absent (h.keyword_ne (by decide))) ?_)
  exact bind_run rfl (bind_run (keyword?_absent (h.keyword_ne (by decide))) rfl)

theorem settings?_ends : settings? s l = .ok ([], l) := by
  refine bind_run rfl (bind_run (given_absent _ ?_) rfl)
  exact keyword?_absent (h.keyword_ne (by decide))

theorem fetchClause_ends : fetchClause s l = .ok ([], l) :=
  bind_run (keyword?_absent (h.keyword_ne (by decide))) rfl

theorem forClauses_ends : forClauses s l = .ok ([], l) := by
  refine bind_run (iterate_stop ?_) rfl
  exact bind_run (keyword?_absent (h.keyword_ne (by decide))) rfl

theorem formatClause_ends : formatClause s l = .ok ([], l) := by
  refine bind_run rfl (bind_run (given_absent _ ?_) rfl)
  exact keyword?_absent (h.keyword_ne (by decide))

theorem pipeOperators_ends : pipeOperators s l = .ok ([], l) :=
  many_stop (bind_run (symbol?_absent (h.token_ne (by decide))) rfl)

/-- Nothing follows the body of a query at its end. -/
theorem queryTail_ends : queryTail s l = .ok ([], l) := by
  refine bind_run (orderClause_ends h) ?_
  refine bind_run (limitClause_ends h) ?_
  refine bind_run (settings?_ends h) ?_
  refine bind_run (fetchClause_ends h) ?_
  refine bind_run (forClauses_ends h) ?_
  refine bind_run (formatClause_ends h) ?_
  exact bind_run (pipeOperators_ends h) rfl

theorem sample?_ends : sample? s l = .ok ([], l) :=
  bind_run (oneOf?_absent (h.keyword_notMem (by decide))) rfl

/-- A source has no alias at the end of a query. -/
theorem alias?_ends : alias? s l = .ok (none, l) := by
  have hname : aliasName? (sourceAliasWord s.rules.aliasRule) s l = .ok (none, l) := by
    refine bind_run (keyword?_absent (h.keyword_ne (by decide))) ?_
    cases h <;> rfl
  refine bind_run rfl (bind_run (atKeyword_absent (h.keyword_ne (by decide))) ?_)
  exact bind_run hname rfl

theorem indexHints?_ends : indexHints? s l = .ok ([], l) := by
  refine bind_run rfl (ite_run rfl ?_)
  refine bind_run (a := some []) (attempt_ok (many_stop ?_)) rfl
  exact bind_run (oneOf?_absent (h.keyword_notMem (by decide))) rfl

theorem tableHints?_ends : tableHints? s l = .ok ([], l) := by
  cases h <;> rfl

theorem tableVersion?_ends : tableVersion? s l = .ok ([], l) := by
  refine bind_run rfl (ite_run rfl ?_)
  refine bind_run (keywords?_absent (h.keyword_ne (by decide))) ?_
  have hword : ¬ ["AT", "BEFORE"].contains (l.headD .ending).keyword = true := by
    rw [h.keyword]
    decide
  refine bind_run rfl (ite_run_of_not hword ?_)
  refine bind_run (keywords?_absent (h.keyword_ne (by decide))) ?_
  exact bind_run (keywords?_absent (h.keyword_ne (by decide))) rfl

theorem pivots_ends (table : Source) : pivots table s l = .ok (table, l) :=
  iterate_stop (bind_run (oneOf?_absent (h.keyword_notMem (by decide))) rfl)

theorem joins_ends : joins s l = .ok ([], l) := by
  refine bind_run rfl (many_stop ?_)
  refine bind_run rfl (bind_run (keyword?_absent (h.keyword_ne (by decide))) ?_)
  refine bind_run (keyword?_absent (h.keyword_ne (by decide))) ?_
  refine bind_run (keyword?_absent (h.keyword_ne (by decide))) ?_
  refine bind_run (keyword?_absent (h.keyword_ne (by decide))) ?_
  refine bind_run (keyword?_absent (h.keyword_ne (by decide))) ?_
  cases h <;> rfl

end Ends

end ColumnLineage.Sql.Parser
