import ColumnLineage.Storage.Files
import Mathlib.Data.List.TakeWhile

/-!
# Stems of files

A path gives a name to what is traced from its file: the last name in it, without its last ending.

## Main definitions

* `Parts`: what stands between the slashes of a path.
* `NameStem`: a name without its last ending.
* `Stem`: the stem of a path.

## Main statements

* `stem_iff`: a path has one stem, which is the one that is computed.
-/

namespace ColumnLineage.Storage

/-- The parts of a path stand between its slashes. -/
structure Parts (path : String) (parts : List String) : Prop where
  joined : "/".intercalate parts = path
  apart : ∀ part ∈ parts, '/' ∉ part.toList

/-- What is left of a name without its last ending.  A point in front of a name starts no ending. -/
inductive NameStem : String → String → Prop
  | whole {name : String} (h : '.' ∉ name.toList.tail) : NameStem name name
  | cut {stem ending : String} (hstem : stem ≠ "") (hending : '.' ∉ ending.toList) :
    NameStem (stem ++ "." ++ ending) stem

/-- The stem of a path is that of the last name in it, and empty if the path ends in no name or goes
upwards in the end. -/
inductive Stem (path : String) : String → Prop
  | named {parts names : List String} {name stem : String} (hparts : Parts path parts)
    (hnames : parts.filter isName = names ++ [name]) (hname : name ≠ "..")
    (hstem : NameStem name stem) : Stem path stem
  | upwards {parts names : List String} (hparts : Parts path parts)
    (hnames : parts.filter isName = names ++ [".."]) : Stem path ""
  | nameless {parts : List String} (hparts : Parts path parts)
    (hnames : parts.filter isName = []) : Stem path ""

section Splitting

theorem notMem_of_mem_splitOn {a : Char} {text part : List Char} (h : part ∈ text.splitOn a) :
    a ∉ part := by
  induction text generalizing part with
  | nil =>
    obtain rfl : part = [] := by simpa using h
    exact List.not_mem_nil
  | cons c more ih =>
    rw [List.splitOn_cons_eq_if_modifyHead] at h
    by_cases hc : c = a
    · rw [if_pos (beq_iff_eq.mpr hc)] at h
      obtain rfl | h := List.mem_cons.mp h
      · exact List.not_mem_nil
      · exact ih h
    · rw [if_neg (mt beq_iff_eq.mp hc)] at h
      cases hsplit : more.splitOn a with
      | nil => exact absurd hsplit (List.splitOn_ne_nil a more)
      | cons first others =>
        rw [hsplit, List.modifyHead_cons] at h
        obtain rfl | h := List.mem_cons.mp h
        · rw [List.mem_cons, not_or]
          exact ⟨Ne.symm hc, ih (hsplit ▸ List.mem_cons_self)⟩
        · exact ih (hsplit ▸ List.mem_cons_of_mem _ h)

theorem parts_splitPath (path : String) : Parts path (splitPath path) where
  joined := by
    rw [← String.toList_inj, String.toList_intercalate, splitPath, List.map_map]
    simp [Function.comp_def, List.intercalate_splitOn]
  apart := by
    intro part hpart
    obtain ⟨chars, hchars, rfl⟩ := List.mem_map.mp hpart
    rw [String.toList_ofList]
    exact notMem_of_mem_splitOn hchars

/-- The names of a path do not depend on how its parts are found. -/
theorem Parts.filter_isName {path : String} {parts : List String} (h : Parts path parts) :
    parts.filter isName = namesOf path := by
  obtain ⟨rfl, hapart⟩ := h
  by_cases hnil : parts = []
  · subst hnil
    rfl
  · have hsplit : splitPath ("/".intercalate parts) = parts := by
      rw [splitPath, String.toList_intercalate]
      have hseparator : "/".toList = ['/'] := rfl
      rw [hseparator, List.splitOn_intercalate '/' (by simpa using hapart) (by simpa using hnil)]
      simp [Function.comp_def]
    rw [namesOf, hsplit]

end Splitting

section Names

variable {name stem : String}

theorem stemOfName_of_notMem (h : '.' ∉ name.toList) : stemOfName name = name := by
  have hall : name.toList.reverse.takeWhile (· != '.') = name.toList.reverse := by
    rw [List.takeWhile_eq_self_iff]
    intro c hc
    exact bne_iff_ne.mpr fun hpoint => h (hpoint ▸ List.mem_reverse.mp hc)
  rw [stemOfName, hall, List.reverse_reverse, if_neg (by omega)]

/-- A name is cut at its last point, unless nothing stands in front of it. -/
theorem stemOfName_append {front ending : String} (h : '.' ∉ ending.toList) :
    stemOfName (front ++ "." ++ ending) =
      if front = "" then front ++ "." ++ ending else front := by
  have hlist : (front ++ "." ++ ending).toList = front.toList ++ '.' :: ending.toList := by simp
  have hbehind : (front.toList ++ '.' :: ending.toList).reverse.takeWhile (· != '.') =
      ending.toList.reverse := by
    rw [List.reverse_append, List.reverse_cons, List.append_assoc,
      List.takeWhile_append_of_pos, List.singleton_append, List.takeWhile_cons_of_neg (by simp),
      List.append_nil]
    intro c hc
    exact bne_iff_ne.mpr fun hpoint => h (hpoint ▸ List.mem_reverse.mp hc)
  rw [stemOfName, hlist, hbehind, List.reverse_reverse, List.length_append, List.length_cons]
  by_cases hfront : front = ""
  · rw [if_pos hfront, if_neg (by simp [hfront])]
  · have hlength : 0 < front.toList.length := by
      rw [List.length_pos_iff, ne_eq, String.toList_eq_nil_iff]
      exact hfront
    have hcut : front.toList.length + (ending.toList.length + 1) - ending.toList.length - 1 =
        front.toList.length := by omega
    rw [if_neg hfront, if_pos (by omega), hcut, List.take_left, String.ofList_toList]

/-- A name has no point, or one that no other follows. -/
theorem exists_lastPoint (name : String) : '.' ∉ name.toList ∨
    ∃ front ending : String, name = front ++ "." ++ ending ∧ '.' ∉ ending.toList := by
  by_cases h : '.' ∈ name.toList
  · obtain ⟨ending, front, hsplit, hending⟩ :=
      List.eq_append_cons_of_mem (List.mem_reverse.mpr h)
    refine .inr ⟨String.ofList front.reverse, String.ofList ending.reverse, ?_, by simpa⟩
    rw [← String.toList_inj, ← List.reverse_inj, hsplit]
    simp
  · exact .inl h

theorem nameStem_iff : NameStem name stem ↔ stem = stemOfName name := by
  constructor
  · intro h
    cases h with
    | whole hpoint =>
      obtain hnone | ⟨front, ending, rfl, hending⟩ := exists_lastPoint name
      · rw [stemOfName_of_notMem hnone]
      · have hfront : front = "" := by
          by_contra hne
          obtain ⟨c, chars, hchars⟩ := List.exists_cons_of_ne_nil (mt String.toList_eq_nil_iff.mp hne)
          exact hpoint (by simp [hchars])
        rw [stemOfName_append hending, if_pos hfront]
    | cut hstem hending => rw [stemOfName_append hending, if_neg hstem]
  · rintro rfl
    obtain hnone | ⟨front, ending, rfl, hending⟩ := exists_lastPoint name
    · rw [stemOfName_of_notMem hnone]
      exact .whole fun h => hnone (List.mem_of_mem_tail h)
    · rw [stemOfName_append hending]
      by_cases hfront : front = ""
      · rw [if_pos hfront]
        refine .whole ?_
        rw [hfront]
        simpa using hending
      · rw [if_neg hfront]
        exact .cut hfront hending

end Names

/-- A path has one stem. -/
theorem stem_iff {path stem : String} : Stem path stem ↔ stem = fileStem path := by
  constructor
  · intro h
    cases h with
    | named hparts hnames hname hstem =>
      rw [nameStem_iff] at hstem
      rw [fileStem, ← hparts.filter_isName, hnames, List.getLast?_concat]
      simp [hstem]
    | upwards hparts hnames =>
      rw [fileStem, ← hparts.filter_isName, hnames, List.getLast?_concat]
      rfl
    | nameless hparts hnames =>
      rw [fileStem, ← hparts.filter_isName, hnames, List.getLast?_nil]
  · rintro rfl
    have hparts := parts_splitPath path
    rw [fileStem, ← hparts.filter_isName]
    split
    · next hlast => exact .nameless hparts (List.getLast?_eq_none_iff.mp hlast)
    · next hlast =>
      obtain ⟨names, hnames⟩ := List.getLast?_eq_some_iff.mp hlast
      exact .upwards hparts hnames
    · next name hname hlast =>
      obtain ⟨names, hnames⟩ := List.getLast?_eq_some_iff.mp hlast
      exact .named hparts hnames hname (nameStem_iff.mpr rfl)

end ColumnLineage.Storage
