import Mathlib.Data.List.Nodup

/-!
# First entries

A table in which the first entry of a name stays looks up a name as the list of all its entries
does, and has each name once.  Catalogs and scopes are such tables.

## Main definitions

* `keepFirst`: adds an entry unless its name has one.
* `firstEntries`: the table of some entries.
-/

namespace ColumnLineage.Lineage

variable {β : Type}

/-- Adds an entry unless its name has one. -/
def keepFirst (entries : List (String × β)) (item : String × β) : List (String × β) :=
  if (entries.lookup item.1).isSome then entries else entries ++ [item]

/-- The first entry of each name. -/
def firstEntries (items : List (String × β)) : List (String × β) :=
  items.foldl keepFirst []

/-- A name that is looked up among some entries is one of theirs. -/
theorem mem_of_lookup_eq_some {items : List (String × β)} {name : String} {value : β}
    (h : items.lookup name = some value) : (name, value) ∈ items := by
  obtain ⟨front, back, rfl, -⟩ := List.lookup_eq_some_iff.mp h
  simp

theorem lookup_isSome_iff_mem {items : List (String × β)} {name : String} :
    (items.lookup name).isSome ↔ name ∈ items.map Prod.fst := by
  rw [List.lookup_isSome_iff, List.mem_map]
  constructor
  · rintro ⟨item, hitem, heq⟩
    exact ⟨item, hitem, (eq_of_beq heq).symm⟩
  · rintro ⟨item, hitem, heq⟩
    exact ⟨item, hitem, by simp [heq]⟩

theorem lookup_eq_none_of_not_mem {items : List (String × β)} {name : String}
    (h : name ∉ items.map Prod.fst) : items.lookup name = none := by
  rw [← lookup_isSome_iff_mem] at h
  exact Option.not_isSome_iff_eq_none.mp h

theorem lookup_foldl_keepFirst (items entries : List (String × β)) (name : String) :
    (items.foldl keepFirst entries).lookup name = (entries ++ items).lookup name := by
  induction items generalizing entries with
  | nil => simp
  | cons item more ih =>
    rw [List.foldl_cons, ih]
    unfold keepFirst
    split
    · next hsome =>
      obtain ⟨key, value⟩ := item
      rw [List.lookup_append, List.lookup_append, List.lookup_cons]
      by_cases hname : name = key
      · subst hname
        obtain ⟨first, hfirst⟩ := Option.isSome_iff_exists.mp hsome
        rw [hfirst, Option.some_or, Option.some_or]
      · rw [beq_false_of_ne hname]
    · rw [List.append_assoc, List.singleton_append]

/-- The first entry of a name is found. -/
theorem lookup_firstEntries (items : List (String × β)) (name : String) :
    (firstEntries items).lookup name = items.lookup name :=
  lookup_foldl_keepFirst items [] name

theorem nodup_keepFirst {entries : List (String × β)} (h : (entries.map Prod.fst).Nodup)
    (item : String × β) : ((keepFirst entries item).map Prod.fst).Nodup := by
  unfold keepFirst
  split
  · exact h
  · next hnone =>
    rw [lookup_isSome_iff_mem] at hnone
    rw [List.map_append, List.map_singleton, List.nodup_append]
    refine ⟨h, List.nodup_singleton _, ?_⟩
    intro name hname other hother heq
    rw [List.mem_singleton] at hother
    exact hnone (hother ▸ heq ▸ hname)

/-- Each name has one entry. -/
theorem nodup_firstEntries (items : List (String × β)) :
    ((firstEntries items).map Prod.fst).Nodup := by
  have hfold : ∀ entries : List (String × β), (entries.map Prod.fst).Nodup →
      ((items.foldl keepFirst entries).map Prod.fst).Nodup := by
    induction items with
    | nil => exact fun entries h => h
    | cons item more ih => exact fun entries h => ih _ (nodup_keepFirst h item)
  exact hfold [] List.nodup_nil

/-- Of entries with one name the first is kept. -/
theorem firstEntries_of_same_name {first : String × β} {more : List (String × β)}
    (h : ∀ item ∈ more, item.1 = first.1) : firstEntries (first :: more) = [first] := by
  have hstart : firstEntries (first :: more) = more.foldl keepFirst [first] := rfl
  rw [hstart]
  induction more with
  | nil => rfl
  | cons item more ih =>
    have hitem : keepFirst [first] item = [first] := by
      simp [keepFirst, h item List.mem_cons_self]
    rw [List.foldl_cons, hitem]
    exact ih (fun other hother => h other (List.mem_cons_of_mem _ hother)) rfl

/-- Only given entries are kept. -/
theorem mem_of_mem_firstEntries {items : List (String × β)} {item : String × β}
    (h : item ∈ firstEntries items) : item ∈ items := by
  have hfold : ∀ entries : List (String × β), item ∈ items.foldl keepFirst entries →
      item ∈ entries ∨ item ∈ items := by
    clear h
    induction items with
    | nil => exact fun entries h => Or.inl h
    | cons first more ih =>
      intro entries h
      rcases ih _ h with h | h
      · unfold keepFirst at h
        split at h
        · exact Or.inl h
        · rcases List.mem_append.mp h with h | h
          · exact Or.inl h
          · exact Or.inr (by simp [List.mem_singleton.mp h])
      · exact Or.inr (List.mem_cons_of_mem _ h)
  simpa using hfold [] h

/-- No name is lost. -/
theorem mem_names_firstEntries {items : List (String × β)} {name : String} :
    name ∈ (firstEntries items).map Prod.fst ↔ name ∈ items.map Prod.fst := by
  rw [← lookup_isSome_iff_mem, lookup_firstEntries, lookup_isSome_iff_mem]

end ColumnLineage.Lineage
