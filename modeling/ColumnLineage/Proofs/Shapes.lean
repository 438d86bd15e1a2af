import ColumnLineage.Json.Decode
import Mathlib.Data.List.Forall2
import Mathlib.Data.List.Nodup

/-!
# Structures from objects

The entries of an object come in any order, with entries among them that belong to no field.  Where
every key occurs once, decoding puts the values of the known entries into the structure one after
the other, and each field of the result shows the value of its entry.

## Main definitions

* `Shape.given`: the fields that entries give, with their values.
* `putAll`: values put into their fields, one after the other.
* `Field.Shows`: a field shows the value that is put into it.

## Main statements

* `Shape.ofEntries_eq`: decoding an object is putting its values into their fields.
* `exists_putAll`: what the fields show if every value can be put.
* `putAll_eq_error`: putting fails with the only failure there is.
-/

namespace ColumnLineage

section Lists

variable {α β ε : Type}

/-- A list is worked through up to its end, or up to an element that fails. -/
theorem mapM_except (f : α → Except ε β) (l : List α) :
    (∃ out, l.mapM f = .ok out ∧ List.Forall₂ (fun a b => f a = .ok b) l out) ∨
      ∃ a ∈ l, ∃ e, f a = .error e ∧ l.mapM f = .error e := by
  induction l with
  | nil => exact .inl ⟨[], rfl, .nil⟩
  | cons a more ih =>
    rw [List.mapM_cons]
    cases ha : f a with
    | error e => exact .inr ⟨a, List.mem_cons_self, e, ha, rfl⟩
    | ok b =>
      obtain ⟨out, hout, hall⟩ | ⟨c, hc, e, hfails, herror⟩ := ih
      · refine .inl ⟨b :: out, ?_, .cons ha hall⟩
        rw [hout]
        rfl
      · refine .inr ⟨c, List.mem_cons_of_mem _ hc, e, hfails, ?_⟩
        rw [herror]
        rfl

theorem mapM_eq_ok_iff {f : α → Except ε β} {l : List α} {out : List β} :
    l.mapM f = .ok out ↔ List.Forall₂ (fun a b => f a = .ok b) l out := by
  constructor
  · intro h
    obtain ⟨out', hout, hall⟩ | ⟨_, _, e, _, hfails⟩ := mapM_except f l
    · obtain rfl : out' = out := Except.ok.inj (hout.symm.trans h)
      exact hall
    · exact absurd (hfails.symm.trans h) (by simp)
  · intro h
    induction h with
    | nil => rfl
    | cons ha _ ih =>
      rw [List.mapM_cons, ha, ih]
      rfl

end Lists

namespace Json

variable {σ α : Type} {shape : Shape σ} {entries : List (String × Value)}
  {values : List (Field σ × Value)}

/-- The fields that entries give, with their values. -/
def Shape.given (shape : Shape σ) (entries : List (String × Value)) : List (Field σ × Value) :=
  entries.filterMap fun e => (shape.fields.find? fun field => field.name == e.1).map (·, e.2)

/-- The names of the fields that entries give. -/
def Shape.namesGiven (shape : Shape σ) (entries : List (String × Value)) : List String :=
  (shape.given entries).map fun x => x.1.name

/-- Values put into their fields, one after the other. -/
def putAll (s : σ) (values : List (Field σ × Value)) : Decoded σ :=
  values.foldlM (fun s x => x.1.put x.2 s) s

theorem putAll_cons {s s' : σ} {x : Field σ × Value} (h : x.1.put x.2 s = .ok s') :
    putAll s (x :: values) = putAll s' values := by
  simp only [putAll, List.foldlM_cons, h]
  rfl

theorem putAll_cons_error {s : σ} {x : Field σ × Value} {failure : DecodeFailure}
    (h : x.1.put x.2 s = .error failure) : putAll s (x :: values) = .error failure := by
  simp only [putAll, List.foldlM_cons, h]
  rfl

section Entries

theorem Shape.mem_given {x : Field σ × Value} (h : x ∈ shape.given entries) :
    x.1 ∈ shape.fields ∧ (x.1.name, x.2) ∈ entries := by
  obtain ⟨e, he, hx⟩ := List.mem_filterMap.mp h
  obtain ⟨field, hfind, rfl⟩ := Option.map_eq_some_iff.mp hx
  have hname : field.name = e.1 := by simpa using List.find?_some hfind
  exact ⟨List.mem_of_find?_eq_some hfind, by rw [hname]; exact he⟩

/-- A field of which there is only one by its name is given where its name is a key. -/
theorem Shape.given_of_mem (hnames : (shape.fields.map Field.name).Nodup) {field : Field σ}
    (hfield : field ∈ shape.fields) {v : Value} (hv : (field.name, v) ∈ entries) :
    (field, v) ∈ shape.given entries := by
  refine List.mem_filterMap.mpr ⟨(field.name, v), hv, ?_⟩
  cases hfind : shape.fields.find? fun other => other.name == field.name with
  | none => simpa using List.find?_eq_none.mp hfind field hfield
  | some other =>
    have hname : other.name = field.name := by simpa using List.find?_some hfind
    have hsame := List.inj_on_of_nodup_map hnames (List.mem_of_find?_eq_some hfind) hfield hname
    rw [hsame, Option.map_some]

theorem Shape.given_cons_known {e : String × Value} {field : Field σ}
    (hfind : (shape.fields.find? fun field => field.name == e.1) = some field) :
    shape.given (e :: entries) = (field, e.2) :: shape.given entries := by
  simp [given, hfind]

theorem Shape.given_cons_unknown {e : String × Value}
    (hfind : (shape.fields.find? fun field => field.name == e.1) = none) :
    shape.given (e :: entries) = shape.given entries := by
  simp [given, hfind]

theorem Shape.namesGiven_sublist :
    (shape.namesGiven entries).Sublist (entries.map Prod.fst) := by
  induction entries with
  | nil => exact List.Sublist.slnil
  | cons e more ih =>
    cases hfind : shape.fields.find? fun field => field.name == e.1 with
    | none =>
      rw [namesGiven, given_cons_unknown hfind]
      exact ih.cons e.1
    | some field =>
      have hname : field.name = e.1 := by simpa using List.find?_some hfind
      rw [namesGiven, given_cons_known hfind, List.map_cons, List.map_cons, hname]
      exact ih.cons_cons e.1

theorem Shape.putEntries_cons_known {e : String × Value} {field : Field σ} {seen : List String}
    {s : σ} (hfind : (shape.fields.find? fun field => field.name == e.1) = some field)
    (hunseen : e.1 ∉ seen) : shape.putEntries seen s (e :: entries) =
      field.put e.2 s >>= fun s' => shape.putEntries (e.1 :: seen) s' entries := by
  simp [putEntries, hfind, hunseen]

/-- Where no key is repeated, decoding puts the values of the known entries. -/
theorem Shape.putEntries_eq (hopen : shape.closed = false) {seen : List String} (s : σ)
    (hkeys : (entries.map Prod.fst).Nodup) (hnew : ∀ e ∈ entries, e.1 ∉ seen) :
    shape.putEntries seen s entries = (putAll s (shape.given entries)).map fun s =>
      ((shape.namesGiven entries).reverse ++ seen, s) := by
  induction entries generalizing seen s with
  | nil => rfl
  | cons e more ih =>
    obtain ⟨hfresh, hkeys⟩ := List.nodup_cons.mp hkeys
    obtain ⟨hunseen, hnew⟩ := List.forall_mem_cons.mp hnew
    cases hfind : shape.fields.find? fun field => field.name == e.1 with
    | none =>
      rw [namesGiven, given_cons_unknown hfind, ← namesGiven, ← ih s hkeys hnew]
      simp [putEntries, hfind, hopen]
    | some field =>
      have hname : field.name = e.1 := by simpa using List.find?_some hfind
      have hnew' : ∀ e' ∈ more, e'.1 ∉ e.1 :: seen := fun e' he' => by
        have hne : e'.1 ≠ e.1 := fun h => hfresh (h ▸ List.mem_map_of_mem he')
        simpa [hne] using hnew e' he'
      rw [given_cons_known hfind, putEntries_cons_known hfind hunseen]
      cases hput : field.put e.2 s with
      | error failure =>
        rw [putAll_cons_error hput]
        rfl
      | ok s' =>
        rw [putAll_cons hput, namesGiven, given_cons_known hfind, List.map_cons,
          List.reverse_cons, hname, List.append_assoc]
        exact ih s' hkeys hnew'

/-- Decoding an object without repeated keys, in which no required field is missing, is putting its
values into their fields. -/
theorem Shape.ofEntries_eq (hopen : shape.closed = false) (hkeys : (entries.map Prod.fst).Nodup)
    (hnames : (shape.fields.map Field.name).Nodup)
    (hall : ∀ field ∈ shape.fields, field.required = true → field.name ∈ entries.map Prod.fst) :
    shape.ofEntries entries = putAll shape.start (shape.given entries) := by
  have hnone : (shape.fields.find? fun field => field.required &&
      !((shape.namesGiven entries).reverse ++ []).contains field.name) = none := by
    refine List.find?_eq_none.mpr fun field hfield => ?_
    by_cases hrequired : field.required
    · obtain ⟨e, he, hname⟩ := List.mem_map.mp (hall field hfield hrequired)
      have hgiven : (field, e.2) ∈ shape.given entries :=
        given_of_mem hnames hfield (by rw [← hname]; exact he)
      have hmem : field.name ∈ shape.namesGiven entries :=
        List.mem_map.mpr ⟨_, hgiven, rfl⟩
      simp [hmem]
    · simp [hrequired]
  rw [ofEntries, putEntries_eq hopen shape.start hkeys (by simp)]
  cases hput : putAll shape.start (shape.given entries) with
  | error failure => rfl
  | ok s =>
    simp only [Except.map, bind, Except.bind]
    rw [hnone]
    rfl

end Entries

section Putting

/-- A field shows the value that was put into it last, and putting it changes no other field. -/
structure Field.Shows (field : Field σ) (view : σ → String → Option Value) : Prop where
  put : ∀ {v s s'}, field.put v s = .ok s' → view s' field.name = some v
  keep : ∀ {v s s' name}, field.put v s = .ok s' → name ≠ field.name → view s' name = view s name

/-- A value can be put into a field. -/
def Field.Takes (field : Field σ) (v : Value) : Prop :=
  ∀ s, ∃ s', field.put v s = .ok s'

/-- A value cannot be put into a field, whatever the structure is. -/
def Field.Refuses (failure : DecodeFailure) (field : Field σ) (v : Value) : Prop :=
  ∀ s, field.put v s = .error failure

variable {view : σ → String → Option Value}

section Decoded

variable {name : String} {required : Bool} {decode : Value → Decoded α} {set : α → σ → σ}
  {v : Value} {s s' : σ}

theorem Field.put_of : (Field.of name required decode set).put v s =
    (decode v).map fun a => set a s :=
  rfl

theorem Field.takes_of {a : α} (h : decode v = .ok a) :
    (Field.of name required decode set).Takes v := fun s =>
  ⟨set a s, by rw [put_of, h]; rfl⟩

theorem Field.refuses_of {failure : DecodeFailure} (h : decode v = .error failure) :
    (Field.of name required decode set).Refuses failure v := fun s => by
  rw [put_of, h]
  rfl

theorem Field.put_of_eq_ok_iff : (Field.of name required decode set).put v s = .ok s' ↔
    ∃ a, decode v = .ok a ∧ set a s = s' := by
  rw [put_of]
  cases decode v with
  | error failure => simp [Except.map]
  | ok a => simp [Except.map]

end Decoded

/-- The value of a key does not depend on the entries of other keys. -/
theorem valueOf?_set (entries : List (String × Value)) (k : Nat) {name other : String}
    (hne : other ≠ name) {v : Value} (hk : entries[k]? = some (name, v)) (v' : Value) :
    valueOf? other (entries.set k (name, v')) = valueOf? other entries := by
  induction entries generalizing k with
  | nil => rfl
  | cons e more ih =>
    cases k with
    | zero =>
      obtain rfl : e = (name, v) := by simpa using hk
      simp [valueOf?, hne.symm]
    | succ k => simp only [List.set_cons_succ, valueOf?, ih k (by simpa using hk)]

/-- A field whose values have one written form each shows what it is set to. -/
theorem Field.shows_of {name : String} {required : Bool} {decode : Value → Decoded α}
    {encode : α → Value} (hdecode : ∀ v a, decode v = .ok a → v = encode a) {set : α → σ → σ}
    (hput : ∀ a s, view (set a s) name = some (encode a))
    (hkeep : ∀ a s other, other ≠ name → view (set a s) other = view s other) :
    (Field.of name required decode set).Shows view := by
  constructor
  · intro v s s' h
    obtain ⟨a, ha, rfl⟩ := put_of_eq_ok_iff.mp h
    rw [hdecode v a ha]
    exact hput a s
  · intro v s s' other h hne
    obtain ⟨a, -, rfl⟩ := put_of_eq_ok_iff.mp h
    exact hkeep a s other hne

/-- If every value can be put, each field of the result shows its value. -/
theorem exists_putAll (hnames : (values.map fun x => x.1.name).Nodup)
    (hput : ∀ x ∈ values, x.1.Shows view ∧ x.1.Takes x.2) (s : σ) :
    ∃ s', putAll s values = .ok s' ∧ (∀ x ∈ values, view s' x.1.name = some x.2) ∧
      ∀ name, name ∉ values.map (fun x => x.1.name) → view s' name = view s name := by
  induction values generalizing s with
  | nil => exact ⟨s, rfl, by simp, fun _ _ => rfl⟩
  | cons x more ih =>
    obtain ⟨hfresh, hnames⟩ := List.nodup_cons.mp hnames
    obtain ⟨⟨hshows, hx⟩, hmore⟩ := List.forall_mem_cons.mp hput
    obtain ⟨s₁, hs₁⟩ := hx s
    obtain ⟨s', hs', hshown, hkept⟩ := ih hnames hmore s₁
    refine ⟨s', (putAll_cons hs₁).trans hs', List.forall_mem_cons.mpr ⟨?_, hshown⟩, ?_⟩
    · rw [hkept _ hfresh]
      exact hshows.put hs₁
    · intro name hname
      obtain ⟨hne, hname⟩ := not_or.mp (mt List.mem_cons.mpr hname)
      rw [hkept name hname]
      exact hshows.keep hs₁ hne

/-- If one value cannot be put, and all that cannot be put fail alike, this is the failure. -/
theorem putAll_eq_error {failure : DecodeFailure}
    (hput : ∀ x ∈ values, x.1.Takes x.2 ∨ x.1.Refuses failure x.2)
    (hfails : ∃ x ∈ values, x.1.Refuses failure x.2) (s : σ) :
    putAll s values = .error failure := by
  induction values generalizing s with
  | nil => simp at hfails
  | cons x more ih =>
    obtain ⟨hx, hmore⟩ := List.forall_mem_cons.mp hput
    obtain hx | hx := hx
    · obtain ⟨s', hs'⟩ := hx s
      rw [putAll_cons hs']
      refine ih hmore ?_ s'
      obtain ⟨y, hy, hfailsY⟩ := hfails
      obtain rfl | hy := List.mem_cons.mp hy
      · exact absurd (hs'.symm.trans (hfailsY s)) (by simp)
      · exact ⟨y, hy, hfailsY⟩
    · exact putAll_cons_error (hx s)

end Putting

end Json

end ColumnLineage
