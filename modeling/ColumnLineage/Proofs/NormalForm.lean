import ColumnLineage.Proofs.Batches

/-!
# The normal form of rows

An output is the list of the first occurrences of what its rows stand for: a row stands for itself
with each of its remarks once, and a placeholder stands for nothing.  This determines the output, so
that rows may be put out in parts, and the parts together once more.

## Main definitions

* `FirstOccurrences`: the first occurrences of what the elements of a list stand for.
* `Row.Normalizes`: a row is another one with each of its remarks once.
* `textRows`: the rows of a text, repetitions included.

## Main statements

* `firstOccurrences_iff`: first occurrences are what is left without repetitions.
* `deduplicate_append`: rows may be put out in parts.
* `deduplicate_normal`: what an output is, and how it is put together.
-/

namespace ColumnLineage.Lineage

open Service Sql

section FirstOccurrences

variable {α β : Type}

/-- Something in a list stands for `a`, in front of everything that stands for `b`. -/
def Precedes (stands : β → α → Prop) (l : List β) (a b : α) : Prop :=
  ∃ before x after, l = before ++ x :: after ∧ stands x a ∧ ∀ y ∈ before, ¬ stands y b

/-- A list has, without repetition, what the elements of another stand for, in the order in which
each of it occurs first. -/
structure FirstOccurrences (stands : β → α → Prop) (l : List β) (firsts : List α) : Prop where
  nodup : firsts.Nodup
  mem_iff : ∀ a, a ∈ firsts ↔ ∃ x ∈ l, stands x a
  ordered : firsts.Pairwise (Precedes stands l)

/-- What precedes stays in front where the list grows at its front by something else. -/
theorem Precedes.cons {stands : β → α → Prop} {l : List β} {a b : α} (h : Precedes stands l a b)
    {x : β} (hx : ¬ stands x b) : Precedes stands (x :: l) a b := by
  obtain ⟨before, y, after, rfl, hy, hbefore⟩ := h
  refine ⟨x :: before, y, after, rfl, hy, fun z hz => ?_⟩
  obtain rfl | hz := List.mem_cons.mp hz
  · exact hx
  · exact hbefore z hz

/-- Two elements precede each other only if they are the same. -/
theorem Precedes.antisymm {f : β → Option α} {l : List β} {a b : α}
    (hab : Precedes (fun x a => f x = some a) l a b)
    (hba : Precedes (fun x a => f x = some a) l b a) : a = b := by
  obtain ⟨before, x, after, rfl, hx, hbefore⟩ := hab
  obtain ⟨before', y, after', heq, hy, hbefore'⟩ := hba
  -- The list is split at both of them: either at the same place, or one comes first.
  obtain ⟨middle, rfl, hrest⟩ | ⟨middle, rfl, hrest⟩ := List.append_eq_append_iff.mp heq
  · cases middle with
    | nil =>
      obtain ⟨rfl, -⟩ := List.cons.inj hrest
      exact Option.some.inj (hx.symm.trans hy)
    | cons z middle =>
      obtain ⟨rfl, -⟩ := List.cons.inj hrest
      exact absurd hx (hbefore' x (List.mem_append_right _ List.mem_cons_self))
  · cases middle with
    | nil =>
      obtain ⟨rfl, -⟩ := List.cons.inj hrest
      exact Option.some.inj (hx.symm.trans hy)
    | cons z middle =>
      obtain ⟨rfl, -⟩ := List.cons.inj hrest
      exact absurd hy (hbefore y (List.mem_append_right _ List.mem_cons_self))

variable [BEq α] [LawfulBEq α]

/-- Removing repetitions leaves each element where it occurs first. -/
theorem pairwise_precedes_eraseDups (f : β → Option α) (l : List β) :
    (l.filterMap f).eraseDups.Pairwise (Precedes (fun x a => f x = some a) l) := by
  induction l with
  | nil => exact List.Pairwise.nil
  | cons x more ih =>
    cases hx : f x with
    | none =>
      rw [List.filterMap_cons_none hx]
      exact ih.imp fun h => h.cons (by simp [hx])
    | some a =>
      rw [List.filterMap_cons_some hx, List.eraseDups_cons, ← filter_eraseDups]
      -- The first element precedes all others, and stands for none of them.
      refine List.pairwise_cons.mpr ⟨fun b _ => ⟨[], x, more, rfl, hx, by simp⟩, ?_⟩
      refine (ih.filter _).imp_of_mem fun {b c} _ hc h => h.cons fun hsome => ?_
      obtain rfl : a = c := Option.some.inj (hx.symm.trans hsome)
      simpa using (List.mem_filter.mp hc).2

theorem firstOccurrences_iff {f : β → Option α} {l : List β} {firsts : List α} :
    FirstOccurrences (fun x a => f x = some a) l firsts ↔ firsts = (l.filterMap f).eraseDups := by
  have hmem : ∀ a, a ∈ (l.filterMap f).eraseDups ↔ ∃ x ∈ l, f x = some a := fun a => by
    rw [List.mem_eraseDups, List.mem_filterMap]
  constructor
  · rintro ⟨hnodup, hfirsts, hordered⟩
    -- A list without repetitions is known by its elements and their order.
    have hperm : firsts.Perm (l.filterMap f).eraseDups :=
      (List.perm_ext_iff_of_nodup hnodup (nodup_eraseDups _)).mpr fun a =>
        (hfirsts a).trans (hmem a).symm
    exact hperm.eq_of_pairwise (fun a b _ _ => Precedes.antisymm) hordered
      (pairwise_precedes_eraseDups f l)
  · rintro rfl
    exact ⟨nodup_eraseDups _, hmem, pairwise_precedes_eraseDups f l⟩

/-- Repetitions may be removed from the parts of a list first. -/
theorem eraseDups_append_eraseDups (l m : List α) :
    (l.eraseDups ++ m.eraseDups).eraseDups = (l ++ m).eraseDups := by
  have hnew : m.eraseDups.removeAll l.eraseDups = (m.removeAll l).eraseDups := by
    rw [List.removeAll, List.removeAll, filter_eraseDups]
    simp only [List.elem_eq_mem, List.mem_eraseDups]
  rw [List.eraseDups_append, List.eraseDups_append, hnew,
    eraseDups_eq_self (nodup_eraseDups l), eraseDups_eq_self (nodup_eraseDups _)]

end FirstOccurrences

section Rows

/-- A row is another one with each of its remarks once, where it first occurs. -/
structure Row.Normalizes (raw row : Row) : Prop where
  same : { raw with remarks := row.remarks } = row
  remarks : FirstOccurrences Eq raw.remarks row.remarks

theorem Row.normalizes_iff {raw row : Row} : raw.Normalizes row ↔ raw.normalized = row := by
  have hfirsts : ∀ firsts, FirstOccurrences Eq raw.remarks firsts ↔
      firsts = raw.remarks.eraseDups := by
    intro firsts
    have hiff : FirstOccurrences (fun a b => some a = some b) raw.remarks firsts ↔
        firsts = (raw.remarks.filterMap some).eraseDups := firstOccurrences_iff
    simpa only [Option.some.injEq, List.filterMap_some] using hiff
  constructor
  · rintro ⟨hsame, hremarks⟩
    rw [Row.normalized, ← (hfirsts _).mp hremarks, hsame]
  · rintro rfl
    exact ⟨rfl, (hfirsts _).mpr rfl⟩

/-- What a row stands for in an output: its normal form, unless it is a placeholder. -/
def Row.StandsFor (raw row : Row) : Prop :=
  raw.isPlaceholderStar = false ∧ raw.Normalizes row

/-- The normal form that a row stands for. -/
def Row.form? (raw : Row) : Option Row :=
  if raw.isPlaceholderStar then none else some raw.normalized

theorem Row.standsFor_iff {raw row : Row} : raw.StandsFor row ↔ raw.form? = some row := by
  rw [StandsFor, normalizes_iff, form?]
  cases raw.isPlaceholderStar <;> simp

theorem shown_eq_filterMap (rows : List Row) : shown rows = rows.filterMap Row.form? := by
  induction rows with
  | nil => rfl
  | cons raw more ih =>
    have hsame : raw.normalized.isPlaceholderStar = raw.isPlaceholderStar := rfl
    rw [shown, List.map_cons, List.filter_cons, ← shown, ih, List.filterMap_cons, Row.form?, hsame]
    cases raw.isPlaceholderStar <;> rfl

/-- An output has the first occurrences of what rows stand for, and nothing else does. -/
theorem firstOccurrences_iff_deduplicate {rows out : List Row} :
    FirstOccurrences Row.StandsFor rows out ↔ out = deduplicate rows := by
  have hstands : Row.StandsFor = fun raw row => raw.form? = some row :=
    funext fun raw => funext fun row => propext Row.standsFor_iff
  rw [hstands, firstOccurrences_iff, deduplicate_eq_shown, shown_eq_filterMap]

theorem normal_of_mem_deduplicate {rows : List Row} {row : Row} (h : row ∈ deduplicate rows) :
    row.normalized = row ∧ row.isPlaceholderStar = false := by
  obtain ⟨raw, -, rfl, hplain⟩ := mem_deduplicate.mp h
  exact ⟨Row.normalized_eq_self (nodup_eraseDups _), hplain⟩

theorem shown_deduplicate (rows : List Row) : shown (deduplicate rows) = deduplicate rows := by
  have hnormal : (deduplicate rows).map Row.normalized = deduplicate rows :=
    (List.map_congr_left fun row hrow => (normal_of_mem_deduplicate hrow).1).trans
      (List.map_id' _)
  rw [shown, hnormal]
  exact List.filter_eq_self.mpr fun row hrow => by simp [(normal_of_mem_deduplicate hrow).2]

theorem deduplicate_idem (rows : List Row) : deduplicate (deduplicate rows) = deduplicate rows := by
  rw [deduplicate_eq_shown, shown_deduplicate, eraseDups_eq_self (nodup_deduplicate rows)]

/-- Rows may be put out in two parts, and the parts together once more. -/
theorem deduplicate_append (rows more : List Row) :
    deduplicate (rows ++ more) = deduplicate (deduplicate rows ++ deduplicate more) := by
  have hparts : shown (deduplicate rows ++ deduplicate more) =
      (shown rows).eraseDups ++ (shown more).eraseDups := by
    rw [shown_append, shown_deduplicate, shown_deduplicate, deduplicate_eq_shown,
      deduplicate_eq_shown]
  rw [deduplicate_eq_shown, deduplicate_eq_shown, hparts, eraseDups_append_eraseDups, shown_append]

/-- Rows may be put out in any number of parts, and the parts together once more. -/
theorem deduplicate_flatMap {α : Type} (f : α → List Row) (parts : List α) :
    deduplicate (parts.flatMap f) =
      deduplicate (parts.flatMap fun part => deduplicate (f part)) := by
  induction parts with
  | nil => rfl
  | cons part more ih =>
    calc deduplicate ((part :: more).flatMap f)
        = deduplicate (deduplicate (f part) ++ deduplicate (more.flatMap f)) :=
          deduplicate_append _ _
      _ = deduplicate (deduplicate (deduplicate (f part)) ++
            deduplicate (more.flatMap fun part => deduplicate (f part))) := by
          rw [ih, deduplicate_idem]
      _ = deduplicate ((part :: more).flatMap fun part => deduplicate (f part)) :=
          (deduplicate_append _ _).symm

/-- A row that stands for the same as an earlier one changes nothing. -/
theorem deduplicate_repeated {row raw again : Row} (hraw : raw.Normalizes row)
    (hagain : again.Normalizes row) (before between after : List Row) :
    deduplicate (before ++ raw :: between ++ again :: after) =
      deduplicate (before ++ raw :: between ++ after) := by
  have hsame : raw.form? = again.form? := by
    have hplain : raw.isPlaceholderStar = again.isPlaceholderStar :=
      (congrArg Row.isPlaceholderStar hraw.same).trans
        (congrArg Row.isPlaceholderStar hagain.same).symm
    rw [Row.form?, Row.form?, hplain, Row.normalizes_iff.mp hraw, Row.normalizes_iff.mp hagain]
  have hshown : shown [again] = shown [raw] := by
    simp only [shown_eq_filterMap, List.filterMap_cons, hsame]
  have hearlier : [raw] ⊆ before ++ raw :: between := by simp
  calc deduplicate (before ++ raw :: between ++ again :: after)
      = deduplicate (before ++ raw :: between ++ [raw] ++ after) := by
        rw [deduplicate_eq_shown, deduplicate_eq_shown, List.append_cons _ again after]
        simp only [shown_append, hshown]
    _ = deduplicate (before ++ raw :: between ++ after) := deduplicate_append_again hearlier after

end Rows

section Texts

/-- The rows of a text, repetitions included; one row tells of a text without statements. -/
def textRows (o : Options) (text : String) (tags : Tags) : List Row :=
  match readStatements o text with
  | .ok statements => statements.flatMap (statementRows tags o.maxDepth)
  | .error _ => [.techFailure tags]

theorem extract_eq_deduplicate (o : Options) (text : String) (tags : Tags) :
    extract o text tags = deduplicate (textRows o text tags) := by
  unfold extract textRows
  cases readStatements o text with
  | ok statements => rfl
  | error failure => rfl

/-- The answer for some views is the output for the rows of all of them. -/
theorem rows_runBatch_eq_textRows (o : Options) (request : Request) (views : List ViewQuery) :
    (runBatch o request views).rows = deduplicate ((sqlViews views).flatMap fun view =>
      textRows o view.sql (request.tagsFor view.viewName)) := by
  rw [rows_runBatch, rowsAlone, deduplicate_flatMap]
  simp only [extract_eq_deduplicate, deduplicate_idem]
  rw [← deduplicate_flatMap]

/-- An output is the list of the first occurrences of the normal forms of the rows that are no
placeholders, and nothing else is; a row that differs from an earlier one only in how often its
remarks are repeated changes nothing.  An output stays as it is when it is put out again, and rows
may be put out in parts: those of the two parts of a list, those of each statement of a text, or
those of each view of a batch, whose rows are given out once already. -/
theorem deduplicate_normal :
    (∀ rows out, FirstOccurrences Row.StandsFor rows out ↔ out = deduplicate rows) ∧
    (∀ rows, ∀ row ∈ deduplicate rows, row.isPlaceholderStar = false ∧ row.remarks.Nodup) ∧
    (∀ row raw again : Row, raw.Normalizes row → again.Normalizes row →
      ∀ before between after, deduplicate (before ++ raw :: between ++ again :: after) =
        deduplicate (before ++ raw :: between ++ after)) ∧
    (∀ rows, deduplicate (deduplicate rows) = deduplicate rows) ∧
    (∀ rows more, deduplicate (rows ++ more) = deduplicate (deduplicate rows ++ deduplicate more)) ∧
    (∀ tags maxDepth (statements : List Statement),
      deduplicate (statements.flatMap (statementRows tags maxDepth)) =
        deduplicate (statements.flatMap fun s => deduplicate (statementRows tags maxDepth s))) ∧
    (∀ o text tags, extract o text tags = deduplicate (textRows o text tags)) ∧
    ∀ o request views, (runBatch o request views).rows =
      deduplicate ((sqlViews views).flatMap fun view =>
        textRows o view.sql (request.tagsFor view.viewName)) := by
  refine ⟨fun rows out => firstOccurrences_iff_deduplicate, fun rows row hrow => ?_,
    fun row raw again hraw hagain => deduplicate_repeated hraw hagain, deduplicate_idem,
    deduplicate_append, fun tags maxDepth => deduplicate_flatMap _, extract_eq_deduplicate,
    rows_runBatch_eq_textRows⟩
  obtain ⟨raw, -, hstands⟩ := (firstOccurrences_iff_deduplicate.mpr rfl).mem_iff row |>.mp hrow
  have hnormal := normal_of_mem_deduplicate hrow
  exact ⟨hnormal.2, hstands.2.remarks.nodup⟩

/-- A row whose first remark is given twice. -/
def rowOfRepeatedRemark : Row :=
  ⟨⟨"db", "t", ""⟩, "a", "", ⟨"r", "k", "v"⟩,
    [.derivedExpression, .tableNameDerived, .derivedExpression]⟩

theorem deduplicate_normal_repeatedRemark :
    rowOfRepeatedRemark.normalized.Normalizes rowOfRepeatedRemark.normalized ∧
      rowOfRepeatedRemark.Normalizes rowOfRepeatedRemark.normalized ∧
      deduplicate [rowOfRepeatedRemark.normalized, rowOfRepeatedRemark] =
        deduplicate [rowOfRepeatedRemark.normalized] := by
  have hfirst : rowOfRepeatedRemark.normalized.Normalizes rowOfRepeatedRemark.normalized :=
    Row.normalizes_iff.mpr (by decide)
  have hagain : rowOfRepeatedRemark.Normalizes rowOfRepeatedRemark.normalized :=
    Row.normalizes_iff.mpr rfl
  exact ⟨hfirst, hagain, deduplicate_normal.2.2.1 _ _ _ hfirst hagain [] [] []⟩

end Texts

end ColumnLineage.Lineage
