import ColumnLineage.Sql.Reader

/-!
# Nested query texts and their lexemes

A text that wraps the query of one table into subqueries, one in the other, and the lexemes that
every dialect finds in it.

## Main definitions

* `IsAlias`: a word that is an alias in every dialect.
* `wrapped`: the text with some aliases, the outermost first.
* `numbered`: aliases that differ by their numbers.
* `wrappedLexemes`: the lexemes of such a text.
* `Scan.Passes`: a scan goes over the front of a text and finds some lexemes there.

## Main statements

* `isAlias_numbered`: a letter with a number behind it is an alias.
* `Dialect.readsNames`: in every dialect, ASCII words are names.
* `ofText_wrapped`: the lexemes of a wrapped text.
* `trim_wrapped`: a wrapped text has no blanks around it.
-/

namespace ColumnLineage.Sql

/-- The words that cannot be the alias of a source without AS, in one dialect or another. -/
def neverAliases : List Keyword :=
  "AS" :: (Parser.sourceReserved ++ ["USE", "IGNORE", "FORCE", "STRAIGHT_JOIN"])

/-- A name of ASCII letters, digits and underscores, with a letter in front. -/
structure IsName (name : String) : Prop where
  start : name.toList.head?.any Char.isAlpha
  plain : name.toList.all Lexis.plainPart

theorem IsName.plainPart {name : String} (h : IsName name) :
    ∀ c ∈ name.toList, Lexis.plainPart c :=
  List.all_eq_true.mp h.plain

theorem IsName.ne_empty {name : String} (h : IsName name) : name ≠ "" := by
  rintro rfl
  exact absurd h.start (by decide)

/-- A word that is the alias of a source without AS, in every dialect. -/
structure IsAlias (name : String) : Prop extends IsName name where
  free : Text.upper name ∉ neverAliases

/-- `SELECT a FROM db.t`, as a subquery in as many queries as there are aliases. -/
def wrapped : List String → String
  | [] => "SELECT a FROM db.t"
  | label :: inner => "SELECT a FROM (" ++ wrapped inner ++ ") " ++ label

theorem toList_wrapped_cons (label : String) (inner : List String) :
    (wrapped (label :: inner)).toList = "SELECT a FROM ".toList ++ (['('] ++
      ((wrapped inner).toList ++ ([')'] ++ ([' '] ++ label.toList)))) := by
  have happend (a b c d : String) : (a ++ b ++ c ++ d).toList =
      a.toList ++ (b.toList ++ (c.toList ++ d.toList)) := by
    simp only [String.toList_append, List.append_assoc]
  have hopening : "SELECT a FROM (".toList = "SELECT a FROM ".toList ++ ['('] := by decide
  have hclosing : ") ".toList = [')'] ++ [' '] := by decide
  calc (wrapped (label :: inner)).toList
      = "SELECT a FROM (".toList ++ ((wrapped inner).toList ++ (") ".toList ++ label.toList)) :=
        happend _ _ _ _
    _ = _ := by rw [hopening, hclosing, List.append_assoc, List.append_assoc]

/-- An unquoted word on the first line. -/
def wordAt (value : String) (column : Nat) : Lexeme :=
  .of (.word value none) 1 column none

/-- A symbol on the first line. -/
def symbolAt (value : String) (column : Nat) : Lexeme :=
  .of (.symbol value) 1 column none

/-- The lexemes of a wrapped text that starts at a column. -/
def wrappedLexemes : List String → Nat → List Lexeme
  | [], column =>
    [wordAt "SELECT" column, wordAt "a" (column + 7), wordAt "FROM" (column + 9),
      wordAt "db" (column + 14), symbolAt "." (column + 16), wordAt "t" (column + 17)]
  | label :: inner, column =>
    let behind := column + 15 + (wrapped inner).length
    wordAt "SELECT" column :: wordAt "a" (column + 7) :: wordAt "FROM" (column + 9) ::
      symbolAt "(" (column + 14) :: (wrappedLexemes inner (column + 15) ++
        [symbolAt ")" behind, wordAt label (behind + 2)])

section Characters

variable {c x : Char}

theorem ne_of_isAlpha (hc : c.isAlpha) (hx : x.isAlpha = false) : c ≠ x := by
  rintro rfl
  rw [hx] at hc
  contradiction

theorem isAlpha_iff : c.isAlpha ↔ 65 ≤ c.toNat ∧ c.toNat ≤ 90 ∨ 97 ≤ c.toNat ∧ c.toNat ≤ 122 := by
  have hranges : c.isAlpha = (decide (65 ≤ c.val ∧ c.val ≤ 90) ||
      decide (97 ≤ c.val) && decide (c.val ≤ 122)) := rfl
  simp only [hranges, Bool.or_eq_true, Bool.and_eq_true, decide_eq_true_eq,
    UInt32.le_iff_toNat_le]
  rfl

theorem isDigit_iff : c.isDigit ↔ 48 ≤ c.toNat ∧ c.toNat ≤ 57 := by
  simp only [Char.isDigit, Bool.and_eq_true, decide_eq_true_eq, UInt32.le_iff_toNat_le, ge_iff_le]
  rfl

theorem isDigit_of_isAlpha (hc : c.isAlpha) : c.isDigit = false := by
  rw [Bool.eq_false_iff, ne_eq, isDigit_iff]
  rw [isAlpha_iff] at hc
  omega

theorem Lexis.plainPart_iff : Lexis.plainPart c ↔ c.isAlpha ∨ c.isDigit ∨ c = '_' := by
  simp [plainPart, Char.isAlphanum, or_assoc]

/-- No character of a name is blank. -/
theorem isBlank_of_plainPart (hc : Lexis.plainPart c) : Text.isBlank c = false := by
  rw [Lexis.plainPart_iff, isAlpha_iff, isDigit_iff] at hc
  have hrange : 48 ≤ c.toNat ∧ c.toNat ≤ 122 := by
    rcases hc with hc | hc | rfl
    · omega
    · omega
    · decide
  simp [Text.isBlank]
  omega

end Characters

section Numbered

/-- The aliases `s0`, `s1` and so on, the last one first. -/
def numbered : Nat → List String
  | 0 => []
  | n + 1 => ("s" ++ toString n) :: numbered n

theorem length_numbered (n : Nat) : (numbered n).length = n := by
  induction n with
  | zero => rfl
  | succ n ih => rw [numbered, List.length_cons, ih]

theorem upperChar_of_isDigit {c : Char} (hc : c.isDigit) : Text.upperChar c = [c] := by
  rw [isDigit_iff] at hc
  have hupper : c.toUpper = c := by
    refine dif_neg fun hlower => ?_
    have hlower : 97 ≤ c.toNat := UInt32.le_iff_toNat_le.mp hlower.1
    omega
  unfold Text.upperChar
  split <;> first | omega | simp [hupper]

/-- No reserved word has a digit. -/
theorem isAlias_numbered (n : Nat) : IsAlias ("s" ++ toString n) := by
  have htext : ("s" ++ toString n).toList = 's' :: Nat.toDigits 10 n :=
    String.toList_append.trans (congrArg ('s' :: ·) Nat.toList_repr)
  have hdigits : ∀ c ∈ Nat.toDigits 10 n, c.isDigit := fun c hc =>
    Nat.isDigit_of_mem_toDigits (by decide) (by decide) hc
  have hname : IsName ("s" ++ toString n) := by
    refine ⟨by rw [htext]; rfl, List.all_eq_true.mpr fun c hc => ?_⟩
    rw [htext] at hc
    rcases List.mem_cons.mp hc with rfl | hc
    · decide
    · exact Lexis.plainPart_iff.mpr (Or.inr (Or.inl (hdigits c hc)))
  have hletters : neverAliases.all fun k => !k.toList.any Char.isDigit := by decide
  obtain ⟨c, hc⟩ := List.exists_mem_of_ne_nil _ (Nat.toDigits_ne_nil (n := n) (b := 10))
  have hmem : c ∈ (Text.upper ("s" ++ toString n)).toList := by
    rw [Text.upper, String.toList_ofList, htext]
    refine List.mem_flatMap.mpr ⟨c, List.mem_cons_of_mem _ hc, ?_⟩
    rw [upperChar_of_isDigit (hdigits c hc)]
    exact List.mem_singleton_self c
  refine ⟨hname, fun hreserved => ?_⟩
  have hdigit : (Text.upper ("s" ++ toString n)).toList.any Char.isDigit :=
    List.any_eq_true.mpr ⟨c, hmem, hdigits c hc⟩
  have hnone := List.all_eq_true.mp hletters _ hreserved
  rw [hdigit] at hnone
  exact Bool.false_ne_true hnone

theorem isAlias_of_mem_numbered {n : Nat} {label : String} (h : label ∈ numbered n) :
    IsAlias label := by
  induction n with
  | zero => contradiction
  | succ n ih =>
    rcases List.mem_cons.mp h with rfl | h
    · exact isAlias_numbered n
    · exact ih h

end Numbered

/-- ASCII words are names in a dialect, and end in front of a blank, a parenthesis or a period. -/
structure Lexis.ReadsNames (lexis : Lexis) : Prop where
  starts : ∀ c, c.isAlpha → lexis.startsName c
  continues : ∀ c, Lexis.plainPart c → lexis.continuesName c
  unquoted : ∀ c, c.isAlpha → lexis.quotesName c = false
  stops : ∀ c ∈ [' ', ')', '.'], lexis.continuesName c = false

theorem Dialect.rules_lexis (d : Dialect) : d.rules.lexis = match d with
    | generic => .generic
    | spark => .spark
    | hive => .hive
    | duckdb => .duckdb
    | snowflake => .snowflake
    | mysql => .mysql
    | postgres => .postgres := by
  cases d <;> rfl

theorem Dialect.readsNames (d : Dialect) : d.rules.lexis.ReadsNames where
  starts c hc := by
    have hletter := Text.isLetter_of_isAlpha hc
    rw [rules_lexis]
    cases d <;> simp [Lexis.generic, Lexis.spark, Lexis.hive, Lexis.duckdb, Lexis.snowflake,
      Lexis.mysql, Lexis.postgres, Lexis.common, Lexis.plainStart, Lexis.mysqlStart,
      Char.isAlphanum, hc, hletter]
  continues c hc := by
    rw [rules_lexis]
    rcases Lexis.plainPart_iff.mp hc with hc | hc | rfl
    · have hletter := Text.isLetter_of_isAlpha hc
      cases d <;> simp [Lexis.generic, Lexis.spark, Lexis.hive, Lexis.duckdb, Lexis.snowflake,
        Lexis.mysql, Lexis.postgres, Lexis.common, Lexis.plainStart, Lexis.mysqlStart,
        Lexis.plainPart, Char.isAlphanum, hc, hletter]
    · cases d <;> simp [Lexis.generic, Lexis.spark, Lexis.hive, Lexis.duckdb, Lexis.snowflake,
        Lexis.mysql, Lexis.postgres, Lexis.common, Lexis.plainStart, Lexis.mysqlStart,
        Lexis.plainPart, Char.isAlphanum, hc]
    · cases d <;> decide
  unquoted c hc := by
    have hdouble : c ≠ '"' := ne_of_isAlpha hc rfl
    have hback : c ≠ '`' := ne_of_isAlpha hc rfl
    rw [rules_lexis]
    cases d <;> simp [Lexis.generic, Lexis.spark, Lexis.hive, Lexis.duckdb, Lexis.snowflake,
      Lexis.mysql, Lexis.postgres, Lexis.common, Lexis.anyNameQuote, hdouble, hback]
  stops c hc := by
    rw [rules_lexis]
    simp only [List.mem_cons, List.not_mem_nil, or_false] at hc
    rcases hc with rfl | rfl | rfl <;> cases d <;> decide

namespace Scan

variable {lexis : Lexis} {rest word : List Char} {line column : Nat}

/-- A word that is a name ends in front of a text. -/
def Stops (rest : List Char) : Prop :=
  ∀ c ∈ rest.head?, c ∈ [' ', ')', '.']

theorem plain_or_stop {c : Char} {more : List Char} (hword : ∀ c ∈ word, Lexis.plainPart c)
    (hrest : Stops rest) (h : word ++ rest = c :: more) :
    Lexis.plainPart c ∨ c ∈ [' ', ')', '.'] := by
  cases word with
  | nil => exact Or.inr (hrest c (by rw [← List.nil_append rest, h]; rfl))
  | cons first word =>
    obtain ⟨rfl, -⟩ := List.cons.inj h
    exact Or.inl (hword _ List.mem_cons_self)

/-- No literal starts where a name stands. -/
theorem introduced_eq_none {x : Char} (start : Cursor) (hword : ∀ c ∈ word, Lexis.plainPart c)
    (hrest : Stops rest) : introduced lexis x start ⟨word ++ rest, line, column⟩ = none := by
  have hnot {c : Char} {more : List Char} (hplain : Lexis.plainPart c = false)
      (hstop : c ∉ [' ', ')', '.']) : word ++ rest ≠ c :: more := by
    intro h
    rcases plain_or_stop hword hrest h with hc | hc
    · rw [hplain] at hc
      contradiction
    · exact hstop hc
  unfold introduced
  split
  case h_6 quote more hother hx hmore =>
    -- Only here the quote is the second character: a letter of the name stands in front of it.
    have hquote : ¬ (quote == 'q' || quote == 'Q') = true := by
      intro hquote
      have hplain : Lexis.plainPart quote ∧ quote ∉ [' ', ')', '.'] := by
        simp only [Bool.or_eq_true, beq_iff_eq] at hquote
        rcases hquote with rfl | rfl <;> decide
      cases word with
      | nil => exact hplain.2 (hrest quote (congrArg List.head? hmore))
      | cons first word =>
        obtain ⟨-, hmore⟩ := List.cons.inj hmore
        have hword := fun c hc => hword c (List.mem_cons_of_mem first hc)
        rcases plain_or_stop hword hrest hmore with hc | hc
        · exact absurd hc (by decide)
        · exact absurd hc (by decide)
    simp [hquote]
  all_goals first
    | exact absurd (by assumption) (hnot (by decide) (by decide))
    | rfl

/-- The longest run of characters in a class. -/
theorem spanNext_eq {p : Char → Bool} (hword : ∀ c ∈ word, p c ∧ c ≠ '\n')
    (hrest : ∀ c ∈ rest.head?, p c = false) :
    Cursor.spanNext (fun c _ => p c) (word ++ rest) line column =
      (word, ⟨rest, line, column + word.length⟩) := by
  induction word generalizing column with
  | nil =>
    cases rest with
    | nil => rfl
    | cons c more =>
      have hc := hrest c rfl
      simp [Cursor.spanNext, hc]
  | cons c word ih =>
    obtain ⟨hc, hline⟩ := hword c List.mem_cons_self
    have hmore := @ih (column + 1) fun d hd => hword d (List.mem_cons_of_mem _ hd)
    rw [List.cons_append, Cursor.spanNext, if_pos hc, if_neg (by simpa using hline), hmore,
      List.length_cons, Nat.add_assoc, Nat.add_comm 1]

theorem next_word (hlexis : lexis.ReadsNames) {previous : Option Token} {x : Char}
    (hx : x.isAlpha) (hword : ∀ c ∈ word, Lexis.plainPart c) (hrest : Stops rest) :
    next lexis previous x ⟨x :: (word ++ rest), line, column⟩ =
      .ok (.token (.word (String.ofList (x :: word)) none),
        ⟨rest, line, column + (x :: word).length⟩) := by
  have hadvance : Cursor.advance ⟨x :: (word ++ rest), line, column⟩ =
      ⟨word ++ rest, line, column + 1⟩ := by
    have hline : (x == '\n') = false := beq_false_of_ne (ne_of_isAlpha hx rfl)
    simp [Cursor.advance, hline]
  have hspan : Cursor.span lexis.continuesName ⟨word ++ rest, line, column + 1⟩ =
      (word, ⟨rest, line, column + 1 + word.length⟩) := by
    refine spanNext_eq (fun c hc => ⟨hlexis.continues c (hword c hc), ?_⟩)
      fun c hc => hlexis.stops c (hrest c hc)
    rintro rfl
    exact absurd (hword _ hc) (by decide)
  have hscan : remaining lexis x ⟨x :: (word ++ rest), line, column⟩ =
      .ok (.token (.word (String.ofList (x :: word)) none),
        ⟨rest, line, column + (x :: word).length⟩) := by
    rw [remaining, if_pos (hlexis.starts x hx), hadvance, Scan.word, hspan, List.length_cons,
      Nat.add_assoc, Nat.add_comm 1]
    rfl
  unfold next
  rw [hadvance]
  dsimp only
  rw [introduced_eq_none _ hword hrest]
  dsimp only
  split
  case h_34 =>
    simp only [isDigit_of_isAlpha hx, hlexis.unquoted x hx, hscan, Bool.false_eq_true, if_false]
  -- Every other character with a meaning of its own is no letter.
  all_goals exact absurd hx (by decide)

/-- A scan goes over the front of a text, in front of other characters, and finds some lexemes. -/
def Passes (lexis : Lexis) (front rest : List Char) (column : Nat) (lexemes : List Lexeme) :
    Prop :=
  ∃ steps ≤ front.length, ∀ inner fuel read, read.comment = none → ∃ previous,
    lexemesWith lexis inner (fuel + steps) ⟨front ++ rest, 1, column⟩ read =
      lexemesWith lexis inner fuel ⟨rest, 1, column + front.length⟩
        ⟨lexemes.reverse ++ read.lexemes, previous, none⟩

theorem Passes.append {front more : List Char} {lexemes others : List Lexeme} {behind : Nat}
    (h : Passes lexis front (more ++ rest) column lexemes)
    (hbehind : column + front.length = behind) (hmore : Passes lexis more rest behind others) :
    Passes lexis (front ++ more) rest column (lexemes ++ others) := by
  obtain ⟨first, hfirst, hfront⟩ := h
  obtain ⟨second, hsecond, hmore⟩ := hmore
  refine ⟨second + first, by rw [List.length_append]; omega, fun inner fuel read hread => ?_⟩
  obtain ⟨previous, hfront⟩ := hfront inner (fuel + second) read hread
  obtain ⟨last, hmore⟩ := hmore inner fuel ⟨lexemes.reverse ++ read.lexemes, previous, none⟩ rfl
  refine ⟨last, ?_⟩
  rw [List.append_assoc, ← Nat.add_assoc, hfront, hbehind, hmore, List.length_append,
    List.reverse_append, List.append_assoc, ← hbehind, Nat.add_assoc]

theorem passes_token {x : Char} {more : List Char} {token : Token}
    (h : ∀ previous, next lexis previous x ⟨x :: (more ++ rest), 1, column⟩ =
      .ok (.token token, ⟨rest, 1, column + (x :: more).length⟩)) :
    Passes lexis (x :: more) rest column [.of token 1 column none] := by
  refine ⟨1, by simp, fun inner fuel read hread => ⟨some token, ?_⟩⟩
  rw [lexemesWith]
  simp [h, hread, bind, Except.bind]

theorem passes_word (hlexis : lexis.ReadsNames) {name : String} (hname : IsName name)
    (hrest : Stops rest) : Passes lexis name.toList rest column [wordAt name column] := by
  have hstart := hname.start
  have hplain := hname.plainPart
  cases htext : name.toList with
  | nil => simp [htext] at hstart
  | cons x word =>
    rw [htext] at hstart hplain
    have hname : name = String.ofList (x :: word) := by rw [← htext, String.ofList_toList]
    rw [hname]
    exact passes_token fun previous => next_word hlexis (by simpa using hstart)
      (fun c hc => hplain c (List.mem_cons_of_mem _ hc)) hrest

theorem passes_blank : Passes lexis [' '] rest column [] := by
  refine ⟨1, Nat.le_refl 1, fun inner fuel read hread => ⟨none, ?_⟩⟩
  have hnext : next lexis read.previous ' ' ⟨' ' :: rest, 1, column⟩ =
      .ok (.blank, ⟨rest, 1, column + 1⟩) := rfl
  rw [lexemesWith]
  simp [hnext, hread, bind, Except.bind]

theorem passes_opening : Passes lexis ['('] rest column [symbolAt "(" column] :=
  passes_token fun _ => rfl

theorem passes_closing : Passes lexis [')'] rest column [symbolAt ")" column] :=
  passes_token fun _ => rfl

/-- A period in front of a letter is no part of a number. -/
theorem passes_period : Passes lexis ['.'] ('t' :: rest) column [symbolAt "." column] := by
  have hwhole : Cursor.spanNext (fun c next => c.isDigit ||
      lexis.digitSeparators && c == '_' && next.any isHexDigit) ('.' :: 't' :: rest) 1 column =
        ([], ⟨'.' :: 't' :: rest, 1, column⟩) := by
    simp [Cursor.spanNext]
  have hfraction : Cursor.spanNext (fun c next => c.isDigit ||
      lexis.digitSeparators && c == '_' && next.any isHexDigit) ('t' :: rest) 1 (column + 1) =
        ([], ⟨'t' :: rest, 1, column + 1⟩) := by
    simp [Cursor.spanNext]
  refine passes_token fun previous => ?_
  change number lexis previous ⟨'.' :: 't' :: rest, 1, column⟩ = _
  simp [number, hwhole, hfraction, Cursor.at?, Cursor.advance, symbol, found]

theorem stops_blank (rest : List Char) : Stops (' ' :: rest) := by
  simp [Stops]

theorem stops_closing (rest : List Char) : Stops (')' :: rest) := by
  simp [Stops]

theorem stops_period (rest : List Char) : Stops ('.' :: rest) := by
  simp [Stops]

theorem passes_word_blank (hlexis : lexis.ReadsNames) {name : String} (hname : IsName name) :
    Passes lexis (name.toList ++ [' ']) rest column [wordAt name column] :=
  (passes_word hlexis hname (stops_blank rest)).append rfl passes_blank

/-- What each query of a wrapped text starts with. -/
theorem passes_head (hlexis : lexis.ReadsNames) :
    Passes lexis "SELECT a FROM ".toList rest column
      [wordAt "SELECT" column, wordAt "a" (column + 7), wordAt "FROM" (column + 9)] := by
  have hselect : IsName "SELECT" := ⟨by decide, by decide⟩
  have ha : IsName "a" := ⟨by decide, by decide⟩
  have hfrom : IsName "FROM" := ⟨by decide, by decide⟩
  have htext : "SELECT a FROM ".toList = "SELECT".toList ++ [' '] ++ ("a".toList ++ [' '] ++
      ("FROM".toList ++ [' '])) := by decide
  rw [htext]
  exact (passes_word_blank hlexis hselect).append rfl
    ((passes_word_blank hlexis ha).append rfl (passes_word_blank hlexis hfrom))

/-- A scan finds the lexemes of a wrapped text in front of an end of words. -/
theorem passes_wrapped (hlexis : lexis.ReadsNames) {labels : List String}
    (hlabels : ∀ label ∈ labels, IsAlias label) (hrest : Stops rest) (column : Nat) :
    Passes lexis (wrapped labels).toList rest column (wrappedLexemes labels column) := by
  induction labels generalizing rest column with
  | nil =>
    have hdb : Passes lexis "db".toList (['.'] ++ "t".toList ++ rest) (column + 14)
        [wordAt "db" (column + 14)] :=
      passes_word hlexis ⟨by decide, by decide⟩ (stops_period _)
    have ht : Passes lexis "t".toList rest (column + 17) [wordAt "t" (column + 17)] :=
      passes_word hlexis ⟨by decide, by decide⟩ hrest
    have hperiod : Passes lexis ['.'] ("t".toList ++ rest) (column + 16)
        [symbolAt "." (column + 16)] := passes_period
    have htext : (wrapped []).toList =
        "SELECT a FROM ".toList ++ ("db".toList ++ (['.'] ++ "t".toList)) := by decide
    rw [htext]
    exact (passes_head hlexis).append rfl (hdb.append rfl (hperiod.append rfl ht))
  | cons label inner ih =>
    obtain ⟨hlabel, hinner⟩ := List.forall_mem_cons.mp hlabels
    rw [toList_wrapped_cons]
    refine (passes_head hlexis).append rfl (passes_opening.append rfl ?_)
    refine (ih hinner (stops_closing _) _).append rfl ?_
    refine passes_closing.append rfl (passes_blank.append rfl ?_)
    exact passes_word hlexis hlabel.toIsName hrest

end Scan

section Text

variable {labels : List String} (hlabels : ∀ label ∈ labels, IsAlias label)
include hlabels

/-- In every dialect, a wrapped text has the same lexemes. -/
theorem ofText_wrapped (d : Dialect) :
    Lexeme.ofText d.rules.lexis (wrapped labels) = .ok (wrappedLexemes labels 1) := by
  have hend : Scan.Stops [] := by simp [Scan.Stops]
  obtain ⟨steps, hsteps, hpasses⟩ := Scan.passes_wrapped d.readsNames hlabels hend 1
  have hread (inner : Cursor → Scan.Progress → Except LexFailure Scan.Progress) :
      (Scan.lexemesWith d.rules.lexis inner ((wrapped labels).toList.length + 1)
        (.start (wrapped labels).toList) .start >>= fun read => pure read.lexemes.reverse) =
        Except.ok (wrappedLexemes labels 1) := by
    have hfuel : (wrapped labels).toList.length + 1 =
        (wrapped labels).toList.length - steps + 1 + steps := by omega
    obtain ⟨previous, hwhole⟩ :=
      hpasses inner ((wrapped labels).toList.length - steps + 1) .start rfl
    rw [List.append_nil] at hwhole
    rw [hfuel, Cursor.start, hwhole, Scan.lexemesWith]
    simp [Scan.Progress.start, bind, Except.bind, pure, Except.pure]
  exact hread _

/-- A wrapped text starts with a letter and ends with a character of a name. -/
theorem ends_wrapped : (wrapped labels).toList.head? = some 'S' ∧
    ∃ c, (wrapped labels).toList.getLast? = some c ∧ Lexis.plainPart c := by
  cases labels with
  | nil => exact ⟨by decide, 't', by decide⟩
  | cons label inner =>
    have hname := (hlabels label List.mem_cons_self).toIsName
    have hsome : label.toList ≠ [] := fun hnil =>
      hname.ne_empty (String.toList_eq_nil_iff.mp hnil)
    have htext : (wrapped (label :: inner)).toList =
        ("SELECT a FROM (" ++ wrapped inner ++ ") ").toList ++ label.toList := String.toList_append
    have hlast : (wrapped (label :: inner)).toList.getLast? =
        some (label.toList.getLast hsome) := by
      rw [htext, List.getLast?_append, List.getLast?_eq_some_getLast hsome, Option.some_or]
    refine ⟨?_, label.toList.getLast hsome, hlast, hname.plainPart _ (List.getLast_mem hsome)⟩
    rw [toList_wrapped_cons]
    rfl

theorem trim_wrapped : Text.trim (wrapped labels) = wrapped labels := by
  obtain ⟨hfirst, last, hlast, hplain⟩ := ends_wrapped hlabels
  have hkeep {text : List Char} {c : Char} (hc : text.head? = some c)
      (hblank : Text.isBlank c = false) : text.dropWhile Text.isBlank = text := by
    cases text with
    | nil => rfl
    | cons first more =>
      obtain rfl := Option.some.inj hc
      simp [hblank]
  have hback := hkeep (List.head?_reverse.trans hlast) (isBlank_of_plainPart hplain)
  rw [Text.trim, Text.dropBlanks, hkeep hfirst (by decide), Text.dropTrailingBlanks, hback,
    List.reverse_reverse, String.ofList_toList]

end Text

end ColumnLineage.Sql
