import ColumnLineage.Lineage.Row
import Mathlib.Data.List.Nodup

/-!
# What is given out

The output for some rows has the normal form of each row that is no placeholder, and has it once.

## Main definitions

* `shown`: the rows that an output shows, repetitions included.

## Main statements

* `mem_deduplicate`, `nodup_deduplicate`: the rows of an output.
* `deduplicate_append_again`: what came out before is not given out again.
* `eraseDups_map`: removing repetitions commutes with a function that tells the elements apart.
-/

namespace ColumnLineage.Lineage

section Repetitions

variable {α β : Type} [BEq α] [LawfulBEq α] [BEq β] [LawfulBEq β]

/-- No repetition is left. -/
theorem nodup_eraseDups : ∀ l : List α, l.eraseDups.Nodup
  | [] => List.nodup_nil
  | a :: more => by
    have hnew : a ∉ more.filter fun b => !b == a := by simp
    rw [List.eraseDups_cons, List.nodup_cons, List.mem_eraseDups]
    exact ⟨hnew, nodup_eraseDups _⟩
termination_by l => l.length
decreasing_by exact Nat.lt_succ_of_le (List.length_filter_le _ _)

/-- Where nothing is repeated, nothing is removed. -/
theorem eraseDups_eq_self {l : List α} (h : l.Nodup) : l.eraseDups = l := by
  induction l with
  | nil => rfl
  | cons a more ih =>
    obtain ⟨hnew, hmore⟩ := List.nodup_cons.mp h
    have hkept : more.filter (fun b => !b == a) = more := by
      refine List.filter_eq_self.mpr fun b hb => ?_
      have hne : b ≠ a := fun heq => hnew (heq ▸ hb)
      simpa using hne
    rw [List.eraseDups_cons, hkept, ih hmore]

/-- Repetitions are removed alike before and behind a function that tells the elements apart. -/
theorem eraseDups_map {f : α → β} : ∀ {l : List α}, (∀ a ∈ l, ∀ b ∈ l, f a = f b → a = b) →
    (l.map f).eraseDups = l.eraseDups.map f
  | [], _ => rfl
  | a :: more, hf => by
    have hsame : more.filter ((fun b => !b == f a) ∘ f) = more.filter fun b => !b == a := by
      refine List.filter_congr fun b hb => ?_
      have hiff : f b = f a ↔ b = a :=
        ⟨hf b (List.mem_cons_of_mem _ hb) a List.mem_cons_self, congrArg f⟩
      rw [Function.comp_apply, Bool.not_inj_iff, Bool.eq_iff_iff, beq_iff_eq, beq_iff_eq, hiff]
    have hmore : ∀ b ∈ more.filter (fun b => !b == a), ∀ c ∈ more.filter (fun b => !b == a),
        f b = f c → b = c := fun b hb c hc =>
      hf b (List.mem_cons_of_mem _ (List.mem_filter.mp hb).1) c
        (List.mem_cons_of_mem _ (List.mem_filter.mp hc).1)
    rw [List.map_cons, List.eraseDups_cons, List.filter_map, hsame, eraseDups_map hmore,
      List.eraseDups_cons, List.map_cons]
termination_by l => l.length
decreasing_by exact Nat.lt_succ_of_le (List.length_filter_le _ _)

/-- Repetitions are removed alike before and behind a filter. -/
theorem filter_eraseDups (p : α → Bool) : ∀ l : List α,
    l.eraseDups.filter p = (l.filter p).eraseDups
  | [] => rfl
  | a :: more => by
    have hswap : (more.filter fun b => !b == a).filter p =
        (more.filter p).filter fun b => !b == a := by
      simp only [List.filter_filter, Bool.and_comm]
    rw [List.eraseDups_cons]
    by_cases ha : p a
    · rw [List.filter_cons_of_pos ha, List.filter_cons_of_pos ha, filter_eraseDups p, hswap,
        List.eraseDups_cons]
    · -- What is removed for `a` would not pass the filter.
      have hkept : (more.filter p).filter (fun b => !b == a) = more.filter p := by
        refine List.filter_eq_self.mpr fun b hb => ?_
        have hne : b ≠ a := fun heq => ha (heq ▸ (List.mem_filter.mp hb).2)
        simpa using hne
      rw [List.filter_cons_of_neg ha, List.filter_cons_of_neg ha, filter_eraseDups p, hswap, hkept]
termination_by l => l.length
decreasing_by all_goals exact Nat.lt_succ_of_le (List.length_filter_le _ _)

end Repetitions

/-- The rows of an output are the normal forms of rows, without placeholders. -/
theorem mem_deduplicate {rows : List Row} {row : Row} :
    row ∈ deduplicate rows ↔
      ∃ raw ∈ rows, raw.normalized = row ∧ row.isPlaceholderStar = false := by
  rw [deduplicate, List.mem_eraseDups, List.mem_filter, List.mem_map]
  constructor
  · rintro ⟨⟨raw, hraw, rfl⟩, hplain⟩
    exact ⟨raw, hraw, rfl, by simpa using hplain⟩
  · rintro ⟨raw, hraw, rfl, hplain⟩
    exact ⟨⟨raw, hraw, rfl⟩, by simpa using hplain⟩

/-- An output has each row once. -/
theorem nodup_deduplicate (rows : List Row) : (deduplicate rows).Nodup :=
  nodup_eraseDups _

/-- A row whose remarks are not repeated is in normal form. -/
theorem Row.normalized_eq_self {row : Row} (h : row.remarks.Nodup) : row.normalized = row := by
  unfold normalized
  rw [eraseDups_eq_self h]

/-- Where rows are in normal form and no placeholders, only repetitions are removed. -/
theorem deduplicate_eq_eraseDups {rows : List Row}
    (h : ∀ row ∈ rows, row.normalized = row ∧ row.isPlaceholderStar = false) :
    deduplicate rows = rows.eraseDups := by
  have hnormal : rows.map Row.normalized = rows :=
    (List.map_congr_left fun row hrow => (h row hrow).1).trans (List.map_id' rows)
  have hplain : rows.filter (fun row => !row.isPlaceholderStar) = rows :=
    List.filter_eq_self.mpr fun row hrow => by simp [(h row hrow).2]
  rw [deduplicate, hnormal, hplain]

/-- The rows that an output shows, repetitions included. -/
def shown (rows : List Row) : List Row :=
  (rows.map Row.normalized).filter fun row => !row.isPlaceholderStar

theorem deduplicate_eq_shown (rows : List Row) : deduplicate rows = (shown rows).eraseDups :=
  rfl

theorem shown_append (rows more : List Row) : shown (rows ++ more) = shown rows ++ shown more := by
  simp only [shown, List.map_append, List.filter_append]

theorem shown_subset {rows more : List Row} (h : rows ⊆ more) : shown rows ⊆ shown more :=
  List.filter_subset _ (List.map_subset _ h)

/-- A first row in normal form that is no placeholder is the first one given out. -/
theorem head?_deduplicate {rows : List Row} {row : Row} (h : rows.head? = some row)
    (hnormal : row.normalized = row) (hplain : row.isPlaceholderStar = false) :
    (deduplicate rows).head? = some row := by
  obtain ⟨more, rfl⟩ := List.head?_eq_some_iff.mp h
  have hshown : shown (row :: more) = row :: shown more := by simp [shown, hnormal, hplain]
  rw [deduplicate_eq_shown, hshown, List.eraseDups_cons, List.head?_cons]

/-- Rows that came out before are not given out again. -/
theorem deduplicate_append_again {before again : List Row} (h : again ⊆ before)
    (after : List Row) :
    deduplicate (before ++ again ++ after) = deduplicate (before ++ after) := by
  have hnone : (shown again).removeAll (shown before) = [] := by
    refine List.filter_eq_nil_iff.mpr fun row hrow => ?_
    simpa using shown_subset h hrow
  have hrest : (shown again ++ shown after).removeAll (shown before) =
      (shown after).removeAll (shown before) := by
    rw [List.removeAll, List.filter_append]
    exact congrArg (· ++ _) hnone
  simp only [deduplicate_eq_shown, shown_append, List.append_assoc]
  rw [List.eraseDups_append, hrest, ← List.eraseDups_append]

end ColumnLineage.Lineage
