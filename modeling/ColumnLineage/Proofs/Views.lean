import ColumnLineage.Service.ViewQuery
import Mathlib.Data.List.Forall2
import Mathlib.Data.List.Lex

/-!
# The views of a document

A place in a document is the list of the numbers of the entries and elements that lead to it, so
that the order of the document is the lexical order of its places.  The views of a document are
those of the objects with a query that no other such object is around, in the order of their
places.

## Main definitions

* `valueAt?`: the value at a place of a document.
* `HoldsQuery`: a value is an object with a query.
* `Outermost`: a place of an object with a query that no other such object is around.
* `Describes`: a view is that of the object at a place.

## Main statements

* `collects_viewQueries`: the views of a document, place by place.
* `findViewQueries_outermost`: the views that a filter lists.
-/

namespace ColumnLineage.Service

open Json

section Places

/-- The values directly inside a value, in their order. -/
def children : Value → List Value
  | .object entries => entries.map (·.2)
  | .array items => items
  | _ => []

/-- The value at a place of a document. -/
def valueAt? : List Nat → Value → Option Value
  | [], v => some v
  | i :: place, v => (children v)[i]?.bind (valueAt? place)

/-- The value at a place behind the start of a list of values. -/
def elementAt? (items : List Value) : List Nat → Option Value
  | [] => none
  | i :: place => items[i]?.bind (valueAt? place)

end Places

section Outermost

variable (keys : MetadataKeys)

/-- A value is an object with a text under the key of queries. -/
def HoldsQuery (v : Value) : Prop :=
  ∃ entries sql, v = .object entries ∧ valueOf? keys.sqlKey entries = some (.string sql)

/-- At a place stands an object with a query, and above it none. -/
structure Outermost (at? : List Nat → Option Value) (place : List Nat) : Prop where
  holds : ∃ v, at? place = some v ∧ HoldsQuery keys v
  above : ∀ higher, higher <+: place → higher ≠ place → ∀ v, at? higher = some v →
    ¬ HoldsQuery keys v

/-- The name of the view of an object: the text under the key of names without the blanks around it,
or nothing if no text stands there. -/
def viewNameOf (entries : List (String × Value)) : String :=
  match valueOf? keys.viewKey entries with
  | some (.string name) => Text.trim name
  | _ => ""

/-- A view is that of the object at a place. -/
def Describes (at? : List Nat → Option Value) (place : List Nat) (view : ViewQuery) : Prop :=
  ∃ entries, at? place = some (.object entries) ∧
    valueOf? keys.sqlKey entries = some (.string view.sql) ∧ view.viewName = viewNameOf keys entries

/-- Views are those of the outermost objects with a query, in the order of their places. -/
def Collects (at? : List Nat → Option Value) (views : List ViewQuery) : Prop :=
  ∃ places : List (List Nat), places.Pairwise (· < ·) ∧
    (∀ place, place ∈ places ↔ Outermost keys at? place) ∧
    List.Forall₂ (Describes keys at?) places views

variable {keys} {at? : List Nat → Option Value}

/-- What is outermost inside is so from outside, where nothing is around it. -/
theorem outermost_cons {i : Nat} {place : List Nat}
    (hroot : ∀ v, at? [] = some v → ¬ HoldsQuery keys v) :
    Outermost keys at? (i :: place) ↔ Outermost keys (fun p => at? (i :: p)) place := by
  constructor
  · rintro ⟨hholds, habove⟩
    refine ⟨hholds, fun higher hprefix hne => ?_⟩
    exact habove (i :: higher) (by simpa using hprefix) (by simpa using hne)
  · rintro ⟨hholds, habove⟩
    refine ⟨hholds, fun higher hprefix hne => ?_⟩
    cases higher with
    | nil => exact hroot
    | cons j higher =>
      obtain ⟨rfl, hinside⟩ := List.cons_prefix_cons.mp hprefix
      exact habove higher hinside (by simpa using hne)

theorem not_outermost_of_none {place : List Nat} (h : at? place = none) :
    ¬ Outermost keys at? place := by
  rintro ⟨⟨v, hv, -⟩, -⟩
  simp [h] at hv

/-- An object has a view exactly if it holds a query, and then the view is that of the object. -/
theorem view?_spec (keys : MetadataKeys) (entries : List (String × Value)) :
    (∃ view, keys.view? entries = some view ∧
      valueOf? keys.sqlKey entries = some (.string view.sql) ∧
        view.viewName = viewNameOf keys entries) ∨
      (keys.view? entries = none ∧ ¬ HoldsQuery keys (.object entries)) := by
  have hname : Text.trim (((valueOf? keys.viewKey entries).bind Value.string?).getD "") =
      viewNameOf keys entries := by
    unfold viewNameOf
    split
    · next name hfound => simp [hfound, Value.string?]
    · next hother =>
      have hnone : (valueOf? keys.viewKey entries).bind Value.string? = none := by
        refine Option.eq_none_iff_forall_ne_some.mpr fun name hsome => ?_
        obtain ⟨v, hv, hstring⟩ := Option.bind_eq_some_iff.mp hsome
        cases v with
        | string s => exact hother s hv
        | _ => simp [Value.string?] at hstring
      rw [hnone]
      rfl
  unfold MetadataKeys.view?
  cases hquery : (valueOf? keys.sqlKey entries).bind Value.string? with
  | some sql =>
    left
    obtain ⟨v, hv, hstring⟩ := Option.bind_eq_some_iff.mp hquery
    cases v with
    | string s =>
      obtain rfl : s = sql := Option.some.inj hstring
      exact ⟨_, rfl, hv, hname⟩
    | _ => simp [Value.string?] at hstring
  | none =>
    right
    refine ⟨rfl, ?_⟩
    rintro ⟨found, sql, hentries, hsql⟩
    obtain rfl := Value.object.inj hentries
    simp [hsql, Value.string?] at hquery

theorem collects_nil : Collects keys (elementAt? []) [] := by
  refine ⟨[], List.Pairwise.nil, fun place => ?_, .nil⟩
  have hnone : elementAt? [] place = none := by cases place <;> simp [elementAt?]
  simpa using not_outermost_of_none hnone

/-- A place in a list, as a place in the list with one more value in front. -/
def behindFirst : List Nat → List Nat
  | [] => []
  | i :: place => (i + 1) :: place

/-- The places in a value and in a list behind it, as places in the whole list. -/
def joinedPlaces (first behind : List (List Nat)) : List (List Nat) :=
  first.map (0 :: ·) ++ behind.map behindFirst

section JoinedPlaces

variable {first behind : List (List Nat)} {place : List Nat}

theorem nil_mem_joinedPlaces : [] ∈ joinedPlaces first behind ↔ [] ∈ behind := by
  simp only [joinedPlaces, List.mem_append, List.mem_map, reduceCtorEq, and_false, exists_false,
    false_or]
  constructor
  · rintro ⟨q, hq, heq⟩
    cases q with
    | nil => exact hq
    | cons j q => cases heq
  · exact fun h => ⟨[], h, rfl⟩

theorem zero_cons_mem_joinedPlaces : 0 :: place ∈ joinedPlaces first behind ↔ place ∈ first := by
  simp only [joinedPlaces, List.mem_append, List.mem_map]
  constructor
  · rintro (⟨p, hp, heq⟩ | ⟨q, -, heq⟩)
    · cases heq
      exact hp
    · cases q with
      | nil => cases heq
      | cons j q => cases heq
  · exact fun h => .inl ⟨place, h, rfl⟩

theorem succ_cons_mem_joinedPlaces {i : Nat} :
    (i + 1) :: place ∈ joinedPlaces first behind ↔ i :: place ∈ behind := by
  simp only [joinedPlaces, List.mem_append, List.mem_map]
  constructor
  · rintro (⟨p, -, heq⟩ | ⟨q, hq, heq⟩)
    · cases heq
    · cases q with
      | nil => cases heq
      | cons j q =>
        cases heq
        exact hq
  · exact fun h => .inr ⟨i :: place, h, rfl⟩

theorem pairwise_joinedPlaces (hfirst : first.Pairwise (· < ·)) (hbehind : behind.Pairwise (· < ·))
    (hnil : [] ∉ behind) : (joinedPlaces first behind).Pairwise (· < ·) := by
  -- No place behind the first value is empty, so that each of them is moved by one.
  have hcons : ∀ place ∈ behind, ∃ i below, place = i :: below := by
    intro place hplace
    cases place with
    | nil => exact absurd hplace hnil
    | cons i below => exact ⟨i, below, rfl⟩
  refine List.pairwise_append.mpr ⟨?_, ?_, ?_⟩
  · exact List.pairwise_map.mpr (hfirst.imp fun h => List.Lex.cons h)
  · refine List.pairwise_map.mpr (hbehind.imp_of_mem fun {p q} hp hq h => ?_)
    obtain ⟨i, p, rfl⟩ := hcons p hp
    obtain ⟨j, q, rfl⟩ := hcons q hq
    simpa [behindFirst, List.cons_lt_cons_iff] using h
  · intro p hp q hq
    obtain ⟨p, -, rfl⟩ := List.mem_map.mp hp
    obtain ⟨below, hbelow, rfl⟩ := List.mem_map.mp hq
    obtain ⟨j, q, rfl⟩ := hcons below hbelow
    exact List.Lex.rel (Nat.succ_pos j)

end JoinedPlaces

/-- What is outermost in a value is so in a list that starts with it. -/
theorem outermost_first {v : Value} {more : List Value} {place : List Nat} :
    Outermost keys (elementAt? (v :: more)) (0 :: place) ↔ Outermost keys (valueAt? · v) place :=
  outermost_cons (by simp [elementAt?])

/-- What is outermost in a list is so in the list with one more value in front. -/
theorem outermost_behindFirst {v : Value} {more : List Value} {i : Nat} {place : List Nat} :
    Outermost keys (elementAt? (v :: more)) ((i + 1) :: place) ↔
      Outermost keys (elementAt? more) (i :: place) := by
  rw [outermost_cons (by simp [elementAt?]), outermost_cons (by simp [elementAt?])]
  rfl

/-- What is collected from a value and from those behind it. -/
theorem Collects.cons {v : Value} {more : List Value} {views rest : List ViewQuery}
    (hv : Collects keys (valueAt? · v) views) (hmore : Collects keys (elementAt? more) rest) :
    Collects keys (elementAt? (v :: more)) (views ++ rest) := by
  obtain ⟨first, hfirst, hmemFirst, hviews⟩ := hv
  obtain ⟨behind, hbehind, hmemBehind, hrest⟩ := hmore
  -- A list itself has no place, but its values have.
  have hnil : [] ∉ behind := fun hmem =>
    not_outermost_of_none rfl ((hmemBehind []).mp hmem)
  refine ⟨joinedPlaces first behind, pairwise_joinedPlaces hfirst hbehind hnil, fun place => ?_, ?_⟩
  · match place with
    | [] => exact iff_of_false (mt nil_mem_joinedPlaces.mp hnil) (not_outermost_of_none rfl)
    | 0 :: below => rw [zero_cons_mem_joinedPlaces, hmemFirst, outermost_first]
    | (i + 1) :: below => rw [succ_cons_mem_joinedPlaces, hmemBehind, outermost_behindFirst]
  · have hbelow : List.Forall₂ (Describes keys (elementAt? (v :: more)))
        (behind.map behindFirst) rest := by
      refine List.forall₂_map_left_iff.mpr (hrest.imp fun place view h => ?_)
      obtain ⟨entries, hentries, hview⟩ := h
      cases place with
      | nil => simp [elementAt?] at hentries
      | cons i below => exact ⟨entries, hentries, hview⟩
    have hinside : List.Forall₂ (Describes keys (elementAt? (v :: more)))
        (first.map (0 :: ·)) views :=
      List.forall₂_map_left_iff.mpr hviews
    exact List.rel_append hinside hbelow

/-- What is collected from a value without a query is collected from the values inside it. -/
theorem Collects.of_children {v : Value} {views : List ViewQuery} (hv : ¬ HoldsQuery keys v)
    (h : Collects keys (elementAt? (children v)) views) : Collects keys (valueAt? · v) views := by
  obtain ⟨places, hordered, hmem, hviews⟩ := h
  refine ⟨places, hordered, fun place => ?_, ?_⟩
  · rw [hmem]
    -- At the place of the value itself there is no query; below it the two look-ups agree.
    cases place with
    | nil =>
      refine iff_of_false (not_outermost_of_none rfl) ?_
      rintro ⟨⟨w, hw, hholds⟩, -⟩
      obtain rfl : v = w := Option.some.inj hw
      exact hv hholds
    | cons i below =>
      have hroot : ∀ w, valueAt? [] v = some w → ¬ HoldsQuery keys w := by
        rintro w hw
        obtain rfl : v = w := Option.some.inj hw
        exact hv
      rw [outermost_cons (by simp [elementAt?]), outermost_cons hroot]
      rfl
  · refine hviews.imp fun place view ⟨entries, hentries, hview⟩ => ?_
    cases place with
    | nil => simp [elementAt?] at hentries
    | cons i below => exact ⟨entries, hentries, hview⟩

theorem collects_view {entries : List (String × Value)} {view : ViewQuery}
    (hsql : valueOf? keys.sqlKey entries = some (.string view.sql))
    (hname : view.viewName = viewNameOf keys entries) :
    Collects keys (valueAt? · (.object entries)) [view] := by
  have hholds : HoldsQuery keys (.object entries) := ⟨entries, view.sql, rfl, hsql⟩
  refine ⟨[[]], List.pairwise_singleton _ _, fun place => ?_, ?_⟩
  · rw [List.mem_singleton]
    constructor
    · rintro rfl
      refine ⟨⟨_, rfl, hholds⟩, fun higher hprefix hne => ?_⟩
      exact absurd (List.prefix_nil.mp hprefix) hne
    · rintro ⟨-, habove⟩
      by_contra hne
      exact habove [] (List.nil_prefix) (Ne.symm hne) _ rfl hholds
  · exact .cons ⟨entries, rfl, hsql, hname⟩ .nil

end Outermost

mutual

theorem collects_viewQueries (keys : MetadataKeys) :
    ∀ v, Collects keys (valueAt? · v) (viewQueries keys v)
  | .object entries => by
    obtain ⟨view, hview, hsql, hname⟩ | ⟨hview, hnone⟩ := view?_spec keys entries
    · simpa [viewQueries, hview] using collects_view hsql hname
    · simpa [viewQueries, hview] using
        Collects.of_children hnone (collects_entryQueries keys entries)
  | .array items => .of_children (by simp [HoldsQuery]) (collects_itemQueries keys items)
  | .null => .of_children (by simp [HoldsQuery]) collects_nil
  | .boolean _ => .of_children (by simp [HoldsQuery]) collects_nil
  | .integer _ => .of_children (by simp [HoldsQuery]) collects_nil
  | .decimal _ => .of_children (by simp [HoldsQuery]) collects_nil
  | .string _ => .of_children (by simp [HoldsQuery]) collects_nil

theorem collects_entryQueries (keys : MetadataKeys) :
    ∀ entries, Collects keys (elementAt? (entries.map (·.2))) (entryQueries keys entries)
  | [] => collects_nil
  | (_, v) :: more => (collects_viewQueries keys v).cons (collects_entryQueries keys more)

theorem collects_itemQueries (keys : MetadataKeys) :
    ∀ items, Collects keys (elementAt? items) (itemQueries keys items)
  | [] => collects_nil
  | v :: more => (collects_viewQueries keys v).cons (collects_itemQueries keys more)

end

/-- The views that a filter lists: those of the outermost objects with a query, in the order of
their places, each with its query as it stands and its name without the blanks around it; and of
these, unless the filter is empty, those whose names it lists. -/
theorem findViewQueries_outermost (keys : MetadataKeys) (document : Value) :
    Collects keys (valueAt? · document) (findViewQueries keys [] document) ∧
      ∀ filter : List String, findViewQueries keys filter document =
        (findViewQueries keys [] document).filter fun view =>
          filter = [] ∨ view.viewName ∈ filter := by
  refine ⟨collects_viewQueries keys document, fun filter => ?_⟩
  cases filter with
  | nil => simp [findViewQueries]
  | cons name more => simp [findViewQueries, List.contains_eq_mem]

end ColumnLineage.Service
