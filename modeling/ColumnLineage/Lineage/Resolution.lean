import ColumnLineage.Lineage.Scope

/-!
# Resolution

A column reference is resolved to an entry of the scopes of its SELECT.  A qualifier is looked up in
the local scope, then in the global one.  Without a qualifier, the only local source stands for the
reference, else the only global one; among several no choice is made.

## Main definitions

* `Resolution`: what becomes of a reference.
* `Scopes.resolve`: the resolution of a qualifier, with a name to try before the only sources.
-/

namespace ColumnLineage.Lineage

/-- What becomes of a reference. -/
inductive Resolution where
  | found (entry : ScopeEntry)
  /-- The qualifier names no source. -/
  | invalidAlias
  /-- There is no qualifier, and there are several sources. -/
  | ambiguous
  /-- There is no qualifier, and there are no sources. -/
  | unresolved
deriving DecidableEq, Repr

/-- The scopes of a SELECT. -/
structure Scopes where
  inner : Scope
  outer : Scope

namespace Scopes

/-- The entry of a name, in the local scope first. -/
def lookup (s : Scopes) (name : String) : Option ScopeEntry :=
  (s.inner.get? name).or (s.outer.get? name)

/-- The only source, in the local scope first. -/
def sole (s : Scopes) : Option ScopeEntry :=
  s.inner.sole.or s.outer.sole

/-- The number of sources among which a reference without qualifier would choose. -/
def candidates (s : Scopes) : Nat :=
  if s.inner.isEmpty then s.outer.size else s.inner.size

/-- The resolution of a reference without qualifier. -/
def resolveUnqualified (s : Scopes) : Resolution :=
  match s.sole with
  | some entry => .found entry
  | none => if s.candidates > 1 then .ambiguous else .unresolved

/-- The resolution of a reference; without a qualifier the name `fallback` is tried first. -/
def resolve (s : Scopes) (qualifier fallback : Option String) : Resolution :=
  match qualifier with
  | some qualifier =>
    match s.lookup qualifier with
    | some entry => .found entry
    | none => .invalidAlias
  | none =>
    match fallback.bind s.lookup with
    | some entry => .found entry
    | none => s.resolveUnqualified

end Scopes

end ColumnLineage.Lineage
