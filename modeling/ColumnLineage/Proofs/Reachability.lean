import Mathlib.Data.Nat.Find
import ColumnLineage.Proofs.Catalog

/-!
# What stands behind a table

A table is followed through the definitions of a catalog by a depth-first search that cuts a path
off where it meets a name again.  Nothing is lost by this, since a shortest path meets no name
twice: the search finds exactly the physical tables that are reached at all.

## Main definitions

* `CteCatalog.BehindAt`, `CteCatalog.Behind`: a physical table is reached from a table.
* `OnlyTable`: the only table of which something holds, if there is one.

## Main statements

* `CteCatalog.mem_expand_iff`: what is found is what is reached.
* `CteCatalog.onlyTable_singleBase`, `CteCatalog.onlyTable_cteBase`: the base of a query or a name is
  the only physical table that is reached from it.
-/

namespace ColumnLineage.Lineage

open Sql

/-- The only table of which something holds, or nothing where it holds of none or of several. -/
def OnlyTable (P : TableKey → Prop) (base : Option TableKey) : Prop :=
  ∀ key, base = some key ↔ ∀ other, P other ↔ other = key

theorem OnlyTable.congr {P Q : TableKey → Prop} {base : Option TableKey} (h : OnlyTable P base)
    (hiff : ∀ key, P key ↔ Q key) : OnlyTable Q base := by
  intro key
  rw [h key]
  exact forall_congr' fun other => by rw [hiff other]

namespace CteCatalog

/-- A physical table stands behind a table, so many definitions away. -/
inductive BehindAt (c : CteCatalog) : Nat → TableKey → TableKey → Prop
  | physical {key : TableKey} (h : c.reference? key = none) : BehindAt c 0 key key
  | definition {steps : Nat} {key next base : TableKey} {relations : List TableKey}
      (href : c.reference? key = some relations) (hread : next ∈ relations)
      (h : BehindAt c steps next base) : BehindAt c (steps + 1) key base

/-- A physical table stands behind a table. -/
def Behind (c : CteCatalog) (key base : TableKey) : Prop :=
  ∃ steps, c.BehindAt steps key base

variable {c : CteCatalog} {key next base : TableKey} {relations : List TableKey}

theorem Behind.physical (h : c.reference? key = none) : c.Behind key key :=
  ⟨0, .physical h⟩

theorem Behind.definition (href : c.reference? key = some relations) (hread : next ∈ relations)
    (h : c.Behind next base) : c.Behind key base := by
  obtain ⟨steps, hsteps⟩ := h
  exact ⟨steps + 1, .definition href hread hsteps⟩

/-- A physical table alone stands behind itself. -/
theorem behind_iff_of_physical (h : c.reference? key = none) : c.Behind key base ↔ base = key := by
  constructor
  · rintro ⟨steps, hsteps⟩
    cases hsteps with
    | physical _ => rfl
    | definition href _ _ => simp [h] at href
  · rintro rfl
    exact .physical h

/-- Behind a definition stands what stands behind the tables that it reads. -/
theorem behind_iff_of_reference (h : c.reference? key = some relations) :
    c.Behind key base ↔ ∃ next ∈ relations, c.Behind next base := by
  constructor
  · rintro ⟨steps, hsteps⟩
    cases hsteps with
    | physical hphysical => simp [h] at hphysical
    | definition href hread hbehind =>
      obtain rfl := Option.some.inj (h.symm.trans href)
      exact ⟨_, hread, _, hbehind⟩
  · rintro ⟨next, hread, hbehind⟩
    exact .definition h hread hbehind

/-- What is found stands behind a table that was read. -/
theorem behind_of_mem_expandWithin (units : Nat) (visiting : List String)
    (keys found : List TableKey) (h : base ∈ c.expandWithin units visiting keys found) :
    base ∈ found ∨ ∃ key ∈ keys, c.Behind key base := by
  induction units generalizing visiting keys found with
  | zero => exact Or.inl h
  | succ units ih =>
    rw [expandWithin_succ] at h
    revert h
    refine List.foldlRecOn (motive := fun more =>
      base ∈ more → base ∈ found ∨ ∃ key ∈ keys, c.Behind key base)
      keys (c.expandKey units visiting) Or.inl ?_
    intro more hmore key hkey h
    unfold expandKey at h
    cases href : c.reference? key with
    | some relations =>
      simp only [href] at h
      split at h
      · exact hmore h
      · rcases ih _ relations more h with h | ⟨next, hread, hbehind⟩
        · exact hmore h
        · exact Or.inr ⟨key, hkey, .definition href hread hbehind⟩
    | none =>
      simp only [href] at h
      split at h
      · exact hmore h
      · rcases List.mem_append.mp h with h | h
        · exact hmore h
        · rw [List.mem_singleton.mp h]
          exact Or.inr ⟨key, hkey, .physical href⟩

/-- What stands behind a table is found along a shortest path: the names on it were not followed
before, since each of them is farther away from the end than the rest of the path is long. -/
theorem mem_expandWithin_of_shortest {steps : Nat} (h : c.BehindAt steps key base)
    (hshortest : ∀ fewer < steps, ¬ c.BehindAt fewer key base) (units : Nat)
    (visiting : List String) (keys found : List TableKey) (hkey : key ∈ keys)
    (hvisiting : ∀ name ∈ visiting, ∀ fewer ≤ steps, ¬ c.BehindAt fewer ⟨"", name⟩ base)
    (hunits : (c.pendingNames visiting).length < units) :
    base ∈ c.expandWithin units visiting keys found := by
  induction h generalizing units visiting keys found with
  | physical hphysical =>
    cases units with
    | zero => omega
    | succ units => exact c.mem_expandWithin_of_physical units visiting found hkey hphysical
  | @definition steps key next base relations href hread hnext ih =>
    cases units with
    | zero => omega
    | succ units =>
      refine c.mem_expandWithin_of_mem_expandKey units visiting found hkey ?_
      intro before
      obtain ⟨hempty, hrelations⟩ := relations?_of_reference? href
      have hself : key = ⟨"", key.table⟩ := by
        cases key
        simp_all
      -- A name that was followed before is farther away, and this one is `steps + 1` away.
      have hnew : visiting.contains key.table = false := by
        rw [Bool.eq_false_iff, ne_eq, List.contains_iff_mem]
        intro hmem
        refine hvisiting key.table hmem (steps + 1) (Nat.le_refl _) ?_
        rw [← hself]
        exact .definition href hread hnext
      have hpending := length_pendingNames_cons_lt c visiting
        (relations?_isSome_iff.mp (by rw [hrelations]; rfl)) hnew
      unfold expandKey
      simp only [href, hnew, Bool.false_eq_true, if_false]
      refine ih ?_ units (key.table :: visiting) relations before hread ?_ (by omega)
      -- The rest of a shortest path is shortest too.
      · intro fewer hfewer hbehind
        exact hshortest (fewer + 1) (by omega) (.definition href hread hbehind)
      · intro name hname fewer hfewer
        rcases List.mem_cons.mp hname with rfl | hname
        · rw [← hself]
          exact hshortest fewer (by omega)
        · exact hvisiting name hname fewer (by omega)

theorem Behind.exists_shortest (h : c.Behind key base) :
    ∃ steps, c.BehindAt steps key base ∧ ∀ fewer < steps, ¬ c.BehindAt fewer key base := by
  classical
  exact ⟨Nat.find h, Nat.find_spec h, fun fewer hfewer => Nat.find_min h hfewer⟩

/-- The physical tables that an expansion finds are those that stand behind the tables it starts
from. -/
theorem mem_expand_iff {keys : List TableKey} :
    base ∈ c.expand [] keys ↔ ∃ key ∈ keys, c.Behind key base := by
  constructor
  · intro h
    simpa using behind_of_mem_expandWithin _ [] keys [] h
  · rintro ⟨key, hkey, hbehind⟩
    obtain ⟨steps, hsteps, hshortest⟩ := hbehind.exists_shortest
    exact mem_expandWithin_of_shortest hsteps hshortest _ [] keys [] hkey (by simp)
      (c.length_pendingNames_lt [])

/-- Those that the expansion of a definition finds stand behind its name. -/
theorem mem_expand_relations_iff {name : String} (h : c.relations? name = some relations) :
    base ∈ c.expand [name] relations ↔ c.Behind ⟨"", name⟩ base := by
  have href : c.reference? ⟨"", name⟩ = some relations := h
  constructor
  · intro hfound
    have hnext := behind_of_mem_expandWithin _ [name] relations [] hfound
    exact (behind_iff_of_reference href).mpr (by simpa using hnext)
  · intro hbehind
    obtain ⟨steps, hsteps, hshortest⟩ := hbehind.exists_shortest
    cases hsteps with
    | physical hphysical => simp [href] at hphysical
    | @definition steps _ next _ others hother hread hnext =>
      obtain rfl := Option.some.inj (href.symm.trans hother)
      refine mem_expandWithin_of_shortest hnext ?_ _ [name] relations [] hread ?_
        (c.length_pendingNames_lt [name])
      · intro fewer hfewer hcloser
        exact hshortest (fewer + 1) (by omega) (.definition href hread hcloser)
      · intro other hother fewer hfewer
        rw [List.mem_singleton.mp hother]
        exact hshortest fewer (by omega)

/-- Nothing is found twice. -/
theorem nodup_expandWithin (units : Nat) (visiting : List String) (keys found : List TableKey)
    (hfound : found.Nodup) : (c.expandWithin units visiting keys found).Nodup := by
  induction units generalizing visiting keys found with
  | zero => exact hfound
  | succ units ih =>
    rw [expandWithin_succ]
    refine List.foldlRecOn (motive := List.Nodup) keys (c.expandKey units visiting) hfound ?_
    intro more hmore key _
    unfold expandKey
    split
    · split
      · exact hmore
      · exact ih _ _ more hmore
    · split
      · exact hmore
      · next hnew =>
        rw [List.contains_iff_mem] at hnew
        rw [← List.concat_eq_append]
        exact hmore.concat hnew

theorem nodup_expand (visiting : List String) (keys : List TableKey) :
    (c.expand visiting keys).Nodup :=
  nodup_expandWithin _ visiting keys [] List.nodup_nil

theorem single_eq_some_iff {keys : List TableKey} (hnodup : keys.Nodup) :
    single keys = some key ↔ ∀ other, other ∈ keys ↔ other = key := by
  constructor
  · intro h other
    rw [single_eq_some h, List.mem_singleton]
  · intro h
    match keys, hnodup, h with
    | [], _, h => simp at h
    | [first], _, h => rw [single, (h first).mp (List.mem_singleton_self first)]
    | first :: second :: more, hnodup, h =>
      have hfirst := (h first).mp List.mem_cons_self
      have hsecond := (h second).mp (List.mem_cons_of_mem _ List.mem_cons_self)
      exact absurd (hfirst.trans hsecond.symm ▸ List.mem_cons_self) (List.nodup_cons.mp hnodup).1

/-- The base of a query is the only physical table behind what it reads. -/
theorem onlyTable_singleBase (c : CteCatalog) (q : Query) :
    OnlyTable (fun base => ∃ key ∈ relationKeys q.visits, c.Behind key base) (c.singleBase q) := by
  intro key
  rw [singleBase, baseTables, single_eq_some_iff (nodup_expand _ _)]
  exact forall_congr' fun other => by rw [mem_expand_iff]

/-- The base of a defined name is the only physical table behind it. -/
theorem onlyTable_cteBase {name : String} (h : c.relations? name = some relations) :
    OnlyTable (c.Behind ⟨"", name⟩) (c.cteBase name) := by
  intro key
  have hbase : c.cteBase name = single (c.expand [name] relations) := by simp [cteBase, h]
  rw [hbase, single_eq_some_iff (nodup_expand _ _)]
  exact forall_congr' fun other => by rw [mem_expand_relations_iff h]

end CteCatalog

end ColumnLineage.Lineage
