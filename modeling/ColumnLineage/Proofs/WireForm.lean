import ColumnLineage.Lineage.Wire
import ColumnLineage.Proofs.JsonTexts
import ColumnLineage.Proofs.Shapes
import Mathlib.Data.Set.List

/-!
# Rows as objects

A remark is read from its text and from no other one, and a text that is no remark is told as it is.
A row is therefore what its object is read as; the fields of an object may come in any order, and
reading fails exactly for a text that is no remark.

## Main definitions

* `Row.entriesWith`: the fields of a row, with any texts in place of its remarks.
* `Row.shown?`: what a row shows under a name.

## Main statements

* `Remark.ofText_eq_ok_iff`, `Remark.ofText_eq_error_iff`: which texts are remarks.
* `Row.ofJson_toJson`, `Row.parse_toJson`: a row is read from its object, and from the text of it.
* `Row.ofJson_fails_iff`: which objects with all fields are refused.
* `Row.survives_wireForm`: these together.
-/

namespace ColumnLineage.Lineage

open Json

section Labels

theorem dropPrefix?_append (label rest : String) :
    ∃ slice, (label ++ rest).dropPrefix? label = some slice ∧ slice.copy = rest := by
  cases hdrop : (label ++ rest).dropPrefix? label with
  | none =>
    rw [String.dropPrefix?_eq_dropPrefix?_toSlice, String.Slice.dropPrefix?_eq_none_iff] at hdrop
    have hstarts : (label ++ rest).toSlice.startsWith label = true :=
      String.Slice.startsWith_string_iff.mpr ⟨rest.toList, by simp⟩
    exact absurd (hdrop.symm.trans hstarts) (by decide)
  | some slice =>
    have hsplit := String.eq_append_of_dropPrefix?_string_eq_some hdrop
    exact ⟨slice, rfl, ((String.append_right_inj label).mp hsplit).symm⟩

theorem dropPrefix?_eq_none {label text : String} (h : ¬ label.toList <+: text.toList) :
    text.dropPrefix? label = none := by
  cases hdrop : text.dropPrefix? label with
  | none => rfl
  | some slice =>
    have hsplit := String.eq_append_of_dropPrefix?_string_eq_some hdrop
    exact absurd ⟨slice.copy.toList, by rw [hsplit, String.toList_append]⟩ h

end Labels

namespace JoinKind

theorem ofText_text (kind : JoinKind) : ofText kind.text = .ok kind := by
  cases kind <;> rfl

theorem ofText_of_ne {keyword : String} (h : ∀ kind : JoinKind, keyword ≠ kind.text) :
    ofText keyword = .error ⟨joinLabel ++ keyword⟩ := by
  unfold ofText
  split
  · exact absurd rfl (h .inner)
  · exact absurd rfl (h .left)
  · exact absurd rfl (h .right)
  · exact absurd rfl (h .full)
  · exact absurd rfl (h .cross)
  · exact absurd rfl (h .semi)
  · exact absurd rfl (h .anti)
  · rfl

end JoinKind

namespace Remark

variable {r : Remark} {s : String}

theorem text_of_plainText? (h : r.plainText? = some s) : r.text = s := by
  cases r with
  | joinType kind => exact absurd h (by simp [plainText?])
  | _ => exact Option.some.inj h

/-- The text of a remark without a kind of join does not start like one with a kind, and no remark
that is listed earlier has it. -/
theorem listed_of_plain (h : ∀ kind, r ≠ joinType kind) :
    ¬ joinLabel.toList <+: r.text.toList ∧
      all.find? (fun remark => remark.plainText? == some r.text) = some r := by
  cases r with
  | joinType kind => exact absurd rfl (h kind)
  | _ => exact ⟨by decide, rfl⟩

theorem ofText_joinLabel (keyword : String) :
    ofText (joinLabel ++ keyword) = (JoinKind.ofText keyword).map joinType := by
  obtain ⟨slice, hdrop, hcopy⟩ := dropPrefix?_append joinLabel keyword
  simp only [ofText, hdrop, hcopy]

theorem ofText_text (r : Remark) : ofText r.text = .ok r := by
  by_cases h : ∃ kind, r = joinType kind
  · obtain ⟨kind, rfl⟩ := h
    rw [text, ofText_joinLabel, JoinKind.ofText_text]
    rfl
  · obtain ⟨hplain, hfind⟩ := listed_of_plain (not_exists.mp h)
    simp only [ofText, dropPrefix?_eq_none hplain, hfind]

/-- A text that is no remark is told whole, also where only the kind of its join is unknown. -/
theorem ofText_of_ne (h : ∀ r : Remark, s ≠ r.text) : ofText s = .error ⟨s⟩ := by
  unfold ofText
  split
  · next keyword hdrop =>
    have hsplit := String.eq_append_of_dropPrefix?_string_eq_some hdrop
    have hkeyword : ∀ kind : JoinKind, keyword.copy ≠ kind.text := fun kind hkind =>
      h (joinType kind) (hsplit.trans (by rw [hkind, text]))
    rw [JoinKind.ofText_of_ne hkeyword, ← hsplit]
    rfl
  · split
    · next r hfind =>
      have htext : r.plainText? = some s := by simpa using List.find?_some hfind
      exact absurd (text_of_plainText? htext).symm (h r)
    · rfl

theorem ofText_eq_ok_iff : ofText s = .ok r ↔ s = r.text := by
  constructor
  · intro h
    by_cases hs : ∃ r' : Remark, s = r'.text
    · obtain ⟨r', rfl⟩ := hs
      rw [Except.ok.inj ((ofText_text r').symm.trans h)]
    · rw [ofText_of_ne (not_exists.mp hs)] at h
      exact absurd h (by simp)
  · rintro rfl
    exact ofText_text r

theorem ofText_eq_error_iff {e : UnknownRemark} :
    ofText s = .error e ↔ (∀ r : Remark, s ≠ r.text) ∧ e = ⟨s⟩ := by
  constructor
  · intro h
    have hs : ∀ r : Remark, s ≠ r.text := fun r hr =>
      absurd ((ofText_eq_ok_iff.mpr hr).symm.trans h) (by simp)
    exact ⟨hs, (Except.error.inj ((ofText_of_ne hs).symm.trans h)).symm⟩
  · rintro ⟨hs, rfl⟩
    exact ofText_of_ne hs

theorem text_injective {r' : Remark} (h : r.text = r'.text) : r = r' :=
  Except.ok.inj ((ofText_text r).symm.trans (ofText_eq_ok_iff.mpr h))

/-- The texts of the listed remarks are those of all remarks. -/
theorem mem_texts_iff : s ∈ all.map text ↔ ∃ r : Remark, s = r.text := by
  rw [List.mem_map]
  exact ⟨fun ⟨r, _, hr⟩ => ⟨r, hr.symm⟩, fun ⟨r, hr⟩ => ⟨r, mem_all r, hr.symm⟩⟩

end Remark

section Values

variable {v : Value}

theorem string_eq_ok {s : String} (h : Json.string v = .ok s) : v = .string s := by
  cases v with
  | string t => rw [Except.ok.inj h]
  | _ => exact absurd h (by simp [Json.string])

theorem Remark.ofJson_string {s : String} : Remark.ofJson (.string s) =
    (Remark.ofText s).mapError fun e => DecodeFailure.refused e.message := by
  simp only [ofJson, Json.string, bind, Except.bind]
  cases Remark.ofText s <;> rfl

theorem Remark.ofJson_text (r : Remark) : Remark.ofJson (.string r.text) = .ok r := by
  rw [ofJson_string, ofText_text]
  rfl

theorem Remark.ofJson_eq_ok {r : Remark} (h : Remark.ofJson v = .ok r) : v = .string r.text := by
  cases hs : Json.string v with
  | error failure =>
    unfold Remark.ofJson at h
    rw [hs] at h
    exact absurd h (by simp [bind, Except.bind])
  | ok s =>
    obtain rfl := string_eq_ok hs
    rw [ofJson_string] at h
    cases hr : Remark.ofText s with
    | error e => exact absurd h (by simp [hr, Except.mapError])
    | ok r' =>
      rw [hr] at h
      obtain rfl : r' = r := Except.ok.inj h
      rw [ofText_eq_ok_iff.mp hr]

theorem Remark.ofJson_of_ne {s : String} (h : ∀ r : Remark, s ≠ r.text) :
    Remark.ofJson (.string s) = .error (.refused (UnknownRemark.message ⟨s⟩)) := by
  rw [ofJson_string, ofText_of_ne h]
  rfl

theorem Remark.ofJson_eq_ok_iff {r : Remark} : Remark.ofJson v = .ok r ↔ v = .string r.text :=
  ⟨ofJson_eq_ok, by rintro rfl; exact ofJson_text r⟩

/-- Remarks are read from their texts and from nothing else. -/
theorem remarksOfJson_eq_ok_iff {remarks : List Remark} : Json.list Remark.ofJson v = .ok remarks ↔
    v = .array ((remarks.map Remark.text).map .string) := by
  cases v with
  | array items =>
    rw [Json.list, mapM_eq_ok_iff, Value.array.injEq]
    simp only [Remark.ofJson_eq_ok_iff]
    rw [← List.forall₂_eq_eq_eq, List.forall₂_map_right_iff, List.forall₂_map_right_iff]
  | _ => simp [Json.list]

/-- A list with a text that is no remark is refused for such a text. -/
theorem remarksOfJson_unknown {texts : List String}
    (h : ∃ text ∈ texts, ∀ r : Remark, text ≠ r.text) :
    ∃ text ∈ texts, (∀ r : Remark, text ≠ r.text) ∧
      Json.list Remark.ofJson (.array (texts.map .string)) =
        .error (.refused (UnknownRemark.message ⟨text⟩)) := by
  obtain ⟨remarks, hread, -⟩ | ⟨item, hitem, failure, hfails, hread⟩ :=
    mapM_except Remark.ofJson (texts.map .string)
  · obtain ⟨text, htext, hne⟩ := h
    have hvalues := Value.array.inj (remarksOfJson_eq_ok_iff.mp hread)
    obtain rfl : texts = remarks.map Remark.text :=
      List.map_injective_iff.mpr (fun _ _ => Value.string.inj) hvalues
    obtain ⟨r, -, hr⟩ := List.mem_map.mp htext
    exact absurd hr.symm (hne r)
  · obtain ⟨text, htext, rfl⟩ := List.mem_map.mp hitem
    have hne : ∀ r : Remark, text ≠ r.text := by
      rintro r rfl
      exact absurd ((Remark.ofJson_text r).symm.trans hfails) (by simp)
    obtain rfl := Except.error.inj ((Remark.ofJson_of_ne hne).symm.trans hfails)
    exact ⟨text, htext, hne, hread⟩

end Values

namespace Row

/-- The entries of a row, with some texts in place of those of its remarks. -/
def entriesWith (row : Row) (texts : List String) : List (String × Value) :=
  [("databaseName", .string row.source.database), ("tableName", .string row.source.table),
    ("tableAliasName", .string row.source.tableAlias), ("columnName", .string row.column),
    ("aliasName", .string row.columnAlias), ("regulation", .string row.tags.regulation),
    ("metadatakey", .string row.tags.metadataKey), ("viewName", .string row.tags.viewName),
    ("remarks", .array (texts.map .string))]

/-- The entries that a row is written with. -/
def entries (row : Row) : List (String × Value) :=
  row.entriesWith (row.remarks.map Remark.text)

/-- What a row shows under a name. -/
def shown? (row : Row) (name : String) : Option Value :=
  valueOf? name row.entries

theorem toJson_eq (row : Row) : row.toJson = .object row.entries := by
  simp [toJson, entries, entriesWith, Function.comp_def]

/-- A field shows its value if setting it replaces one entry. -/
theorem shows_entry {α : Type} {name : String} {decode : Value → Decoded α} {encode : α → Value}
    {set : α → Row → Row} (k : Nat) (hdecode : ∀ v a, decode v = .ok a → v = encode a)
    (hput : ∀ a row, (set a row).shown? name = some (encode a))
    (hset : ∀ a row, (set a row).entries = row.entries.set k (name, encode a))
    (hname : ∀ row : Row, ∃ v, row.entries[k]? = some (name, v)) :
    (Json.Field.of name true decode set).Shows shown? := by
  refine Json.Field.shows_of hdecode hput fun a row other hne => ?_
  obtain ⟨v, hk⟩ := hname row
  rw [shown?, shown?, hset, valueOf?_set _ _ hne hk]

theorem fields_shown : ∀ field ∈ shape.fields, field.Shows shown? := by
  have text {name : String} {set : String → Row → Row} (k : Nat)
      (hput : ∀ s row, (set s row).shown? name = some (.string s))
      (hset : ∀ s row, (set s row).entries = row.entries.set k (name, .string s))
      (hname : ∀ row : Row, ∃ v, row.entries[k]? = some (name, v)) :
      (Json.Field.of name true Json.string set).Shows shown? :=
    shows_entry k (fun _ _ => string_eq_ok) hput hset hname
  simp only [shape, List.forall_mem_cons]
  exact ⟨text 0 (fun _ _ => rfl) (fun _ _ => rfl) (fun _ => ⟨_, rfl⟩),
    text 1 (fun _ _ => rfl) (fun _ _ => rfl) (fun _ => ⟨_, rfl⟩),
    text 2 (fun _ _ => rfl) (fun _ _ => rfl) (fun _ => ⟨_, rfl⟩),
    text 3 (fun _ _ => rfl) (fun _ _ => rfl) (fun _ => ⟨_, rfl⟩),
    text 4 (fun _ _ => rfl) (fun _ _ => rfl) (fun _ => ⟨_, rfl⟩),
    text 5 (fun _ _ => rfl) (fun _ _ => rfl) (fun _ => ⟨_, rfl⟩),
    text 6 (fun _ _ => rfl) (fun _ _ => rfl) (fun _ => ⟨_, rfl⟩),
    text 7 (fun _ _ => rfl) (fun _ _ => rfl) (fun _ => ⟨_, rfl⟩),
    shows_entry 8 (fun _ _ => remarksOfJson_eq_ok_iff.mp) (fun _ _ => rfl) (fun _ _ => rfl)
      (fun _ => ⟨_, rfl⟩),
    by simp⟩

/-- A row is known by what it shows. -/
theorem eq_of_shown {row row' : Row} (h : ∀ e ∈ row'.entries, row.shown? e.1 = some e.2) :
    row = row' := by
  have same {s s' : String} (h : some (Value.string s) = some (.string s')) : s = s' :=
    Value.string.inj (Option.some.inj h)
  obtain ⟨⟨database, table, tableAlias⟩, column, columnAlias, ⟨regulation, key, view⟩,
    remarks⟩ := row
  obtain ⟨⟨database', table', tableAlias'⟩, column', columnAlias', ⟨regulation', key', view'⟩,
    remarks'⟩ := row'
  simp only [entries, entriesWith, List.forall_mem_cons] at h
  obtain ⟨h₀, h₁, h₂, h₃, h₄, h₅, h₆, h₇, h₈, -⟩ := h
  obtain rfl : database = database' := same h₀
  obtain rfl : table = table' := same h₁
  obtain rfl : tableAlias = tableAlias' := same h₂
  obtain rfl : column = column' := same h₃
  obtain rfl : columnAlias = columnAlias' := same h₄
  obtain rfl : regulation = regulation' := same h₅
  obtain rfl : key = key' := same h₆
  obtain rfl : view = view' := same h₇
  have hvalues : ((remarks.map Remark.text).map Value.string) =
      (remarks'.map Remark.text).map Value.string := Value.array.inj (Option.some.inj h₈)
  have htexts : remarks.map Remark.text = remarks'.map Remark.text :=
    List.map_injective_iff.mpr (fun _ _ => Value.string.inj) hvalues
  obtain rfl : remarks = remarks' :=
    List.map_injective_iff.mpr (fun _ _ => Remark.text_injective) htexts
  rfl

section Decoding

variable {fields : List (String × Value)} {row : Row} {texts : List String}

theorem names_eq (row : Row) (texts : List String) :
    shape.fields.map Json.Field.name = (row.entriesWith texts).map Prod.fst :=
  rfl

theorem nodup_names : (shape.fields.map Json.Field.name).Nodup := by
  decide

/-- What holds of every field with a text, and of the remarks, holds of every field with its
value. -/
theorem exists_entry (row : Row) {P : Json.Field Row → Value → Prop}
    (htext : ∀ {name set} s, P (Json.Field.of name true Json.string set) (.string s))
    (hremarks : ∀ {set}, P (Json.Field.of "remarks" true (Json.list Remark.ofJson) set)
      (.array (texts.map .string))) :
    ∀ field ∈ shape.fields, ∃ e ∈ row.entriesWith texts, e.1 = field.name ∧ P field e.2 := by
  have entry (k : Nat) {e : String × Value} (h : (row.entriesWith texts)[k]? = some e) :
      e ∈ row.entriesWith texts := List.mem_of_getElem? h
  simp only [shape, List.forall_mem_cons]
  exact ⟨⟨_, entry 0 rfl, rfl, htext _⟩, ⟨_, entry 1 rfl, rfl, htext _⟩,
    ⟨_, entry 2 rfl, rfl, htext _⟩, ⟨_, entry 3 rfl, rfl, htext _⟩,
    ⟨_, entry 4 rfl, rfl, htext _⟩, ⟨_, entry 5 rfl, rfl, htext _⟩,
    ⟨_, entry 6 rfl, rfl, htext _⟩, ⟨_, entry 7 rfl, rfl, htext _⟩,
    ⟨_, entry 8 rfl, rfl, hremarks⟩, by simp⟩

/-- The same holds of the fields that an object gives. -/
theorem holds_of_given (hkeys : (fields.map Prod.fst).Nodup) (hall : row.entriesWith texts ⊆ fields)
    {P : Json.Field Row → Value → Prop}
    (htext : ∀ {name set} s, P (Json.Field.of name true Json.string set) (.string s))
    (hremarks : ∀ {set}, P (Json.Field.of "remarks" true (Json.list Remark.ofJson) set)
      (.array (texts.map .string))) {x : Json.Field Row × Value} (hx : x ∈ shape.given fields) :
    P x.1 x.2 := by
  obtain ⟨hfield, hvalue⟩ := Shape.mem_given hx
  obtain ⟨e, he, hname, hP⟩ := exists_entry row htext hremarks x.1 hfield
  have hsame : e = (x.1.name, x.2) := List.inj_on_of_nodup_map hkeys (hall he) hvalue hname
  rw [hsame] at hP
  exact hP

theorem ofJson_object (hkeys : (fields.map Prod.fst).Nodup)
    (hall : row.entriesWith texts ⊆ fields) :
    Row.ofJson (.object fields) = putAll shape.start (shape.given fields) := by
  refine Shape.ofEntries_eq rfl hkeys nodup_names fun field hfield _ => ?_
  have hname : field.name ∈ (row.entriesWith texts).map Prod.fst :=
    names_eq row texts ▸ List.mem_map_of_mem hfield
  exact List.map_subset _ hall hname

/-- An object with all fields of a row, and texts of remarks, is read as this row. -/
theorem ofJson_of_remarks (hkeys : (fields.map Prod.fst).Nodup) {remarks : List Remark}
    (hall : row.entriesWith (remarks.map Remark.text) ⊆ fields) :
    Row.ofJson (.object fields) = .ok { row with remarks } := by
  have hput : ∀ x ∈ shape.given fields, x.1.Shows shown? ∧ x.1.Takes x.2 := fun x hx =>
    ⟨fields_shown x.1 (Shape.mem_given hx).1,
      holds_of_given (P := Json.Field.Takes) hkeys hall (fun s => Json.Field.takes_of (a := s) rfl)
        (Json.Field.takes_of (remarksOfJson_eq_ok_iff.mpr rfl)) hx⟩
  obtain ⟨row', hrow', hshown, -⟩ :=
    exists_putAll (hkeys.sublist Shape.namesGiven_sublist) hput shape.start
  rw [ofJson_object hkeys hall, hrow']
  congr 1
  refine eq_of_shown fun e he => ?_
  have hname : e.1 ∈ shape.fields.map Json.Field.name :=
    names_eq row (remarks.map Remark.text) ▸ List.mem_map_of_mem he
  obtain ⟨field, hfield, hname⟩ := List.mem_map.mp hname
  have hgiven : (field, e.2) ∈ shape.given fields :=
    Shape.given_of_mem nodup_names hfield (by rw [hname]; exact hall he)
  rw [← hname]
  exact hshown _ hgiven

/-- An object with all fields of a row, one of whose texts of remarks is none, is refused because of
such a text. -/
theorem ofJson_of_unknown (hkeys : (fields.map Prod.fst).Nodup)
    (hall : row.entriesWith texts ⊆ fields) {failure : DecodeFailure}
    (hread : Json.list Remark.ofJson (.array (texts.map .string)) = .error failure) :
    Row.ofJson (.object fields) = .error failure := by
  rw [ofJson_object hkeys hall]
  refine putAll_eq_error (fun x hx => ?_) ?_ shape.start
  · exact holds_of_given (P := fun field v => field.Takes v ∨ field.Refuses failure v) hkeys hall
      (fun s => .inl (Json.Field.takes_of (a := s) rfl)) (.inr (Json.Field.refuses_of hread)) hx
  · have hfield : Json.Field.of "remarks" true (Json.list Remark.ofJson)
        (fun remarks row => { row with remarks }) ∈ shape.fields :=
      List.mem_of_getElem? (i := 8) rfl
    have hvalue : ("remarks", Value.array (texts.map .string)) ∈ fields :=
      hall (List.mem_of_getElem? (i := 8) rfl)
    exact ⟨_, Shape.given_of_mem nodup_names hfield hvalue, Json.Field.refuses_of hread⟩

theorem nodup_entriesWith (row : Row) (texts : List String) :
    ((row.entriesWith texts).map Prod.fst).Nodup :=
  names_eq row texts ▸ nodup_names

theorem ofJson_toJson (row : Row) : Row.ofJson row.toJson = .ok row := by
  have hall : row.entriesWith (row.remarks.map Remark.text) ⊆ row.entries := List.Subset.refl _
  have hkeys : (row.entries.map Prod.fst).Nodup := nodup_entriesWith row _
  rw [toJson_eq, ofJson_of_remarks hkeys hall]

/-- An object with all fields of a row is refused exactly for a text that is no remark. -/
theorem ofJson_fails_iff (hkeys : (fields.map Prod.fst).Nodup)
    (hall : row.entriesWith texts ⊆ fields) :
    (∃ failure, Row.ofJson (.object fields) = .error failure) ↔
      ∃ text ∈ texts, text ∉ Remark.all.map Remark.text := by
  simp only [Remark.mem_texts_iff, not_exists]
  constructor
  · rintro ⟨failure, hfails⟩
    by_contra hnone
    have hremarks : ∀ text ∈ texts, ∃ r : Remark, r.text = text := fun text htext =>
      by_contra fun h => hnone ⟨text, htext, fun r hr => h ⟨r, hr.symm⟩⟩
    obtain ⟨remarks, rfl⟩ : texts ∈ Set.range (List.map Remark.text) := by
      rw [Set.range_list_map]
      exact hremarks
    rw [ofJson_of_remarks hkeys hall] at hfails
    exact absurd hfails (by simp)
  · intro hunknown
    obtain ⟨text, -, -, hread⟩ := remarksOfJson_unknown hunknown
    exact ⟨_, ofJson_of_unknown hkeys hall hread⟩

end Decoding

theorem plain_toJson (row : Row) (levels : Nat) : row.toJson.Plain (levels + 3) := by
  rw [toJson_eq]
  refine .object (by omega) (nodup_entriesWith row _) ?_
  have htexts : ∀ v ∈ (row.remarks.map Remark.text).map Value.string, v.Plain (levels + 1) := by
    intro v hv
    obtain ⟨text, -, rfl⟩ := List.mem_map.mp hv
    exact .string text
  simp only [entries, entriesWith, List.forall_mem_cons]
  exact ⟨.string _, .string _, .string _, .string _, .string _, .string _, .string _, .string _,
    .array (by omega) htexts, by simp⟩

theorem parse_toJson (row : Row) : parse row.toJson.pretty = .ok row.toJson :=
  parse_pretty (plain_toJson row 125)

theorem plain_array (rows : List Row) :
    (Value.array (rows.map Row.toJson)).Plain Reader.maxLevels := by
  have hitems : ∀ v ∈ rows.map Row.toJson, v.Plain 127 := by
    intro v hv
    obtain ⟨row, -, rfl⟩ := List.mem_map.mp hv
    exact plain_toJson row 124
  exact .array (by omega) hitems

theorem listOfJson_array (rows : List Row) :
    Json.list Row.ofJson (.array (rows.map Row.toJson)) = .ok rows := by
  rw [Json.list, mapM_eq_ok_iff, List.forall₂_map_left_iff, List.forall₂_same]
  exact fun row _ => ofJson_toJson row

/-- A row survives being written and read.  A text is a remark exactly if the remark is written so,
and is told unchanged if it is none.  An object with all fields of a row, in any order and with any
others, is read with its remarks, and refused exactly if one of their texts is none. -/
theorem survives_wireForm :
    (∀ row : Row, Row.ofJson row.toJson = .ok row ∧ parse row.toJson.pretty = .ok row.toJson) ∧
    (∀ (s : String) (r : Remark), Remark.ofText s = .ok r ↔ s = r.text) ∧
    (∀ (s : String) (e : UnknownRemark),
      Remark.ofText s = .error e ↔ (∀ r : Remark, s ≠ r.text) ∧ e = ⟨s⟩) ∧
    ∀ (fields : List (String × Value)) (row : Row) (texts : List String),
      (fields.map Prod.fst).Nodup → row.entriesWith texts ⊆ fields →
        (∀ remarks : List Remark, texts = remarks.map Remark.text →
          Row.ofJson (.object fields) = .ok { row with remarks }) ∧
        ((∃ failure, Row.ofJson (.object fields) = .error failure) ↔
          ∃ text ∈ texts, text ∉ Remark.all.map Remark.text) := by
  refine ⟨fun row => ⟨ofJson_toJson row, parse_toJson row⟩, fun s r => Remark.ofText_eq_ok_iff,
    fun s e => Remark.ofText_eq_error_iff, fun fields row texts hkeys hall => ⟨?_, ?_⟩⟩
  · rintro remarks rfl
    exact ofJson_of_remarks hkeys hall
  · exact ofJson_fails_iff hkeys hall

/-- A row with a column whose name is not of letters of one byte each. -/
def accented : Row :=
  ⟨⟨"crm", "users", "u"⟩, "né", "", ⟨"gdpr", "", "v"⟩, []⟩

/-- Its fields from the last to the first, behind one that rows do not have. -/
def accentedFields (texts : List String) : List (String × Value) :=
  ("note", .null) :: (accented.entriesWith texts).reverse

/-- The fields may come in another order, and only the kind of a join is unknown in the end. -/
theorem survives_wireForm_accented :
    (∀ texts, ((accentedFields texts).map Prod.fst).Nodup ∧
      accented.entriesWith texts ⊆ accentedFields texts) ∧
      Row.ofJson (.object (accentedFields ["column_selected", "join_type:LEFT"])) =
        .ok { accented with remarks := [.columnSelected, .joinType .left] } ∧
      ∃ failure, Row.ofJson (.object (accentedFields ["column_selected", "join_type:SIDEWAYS"])) =
        .error failure := by
  have hkeys : ∀ texts, ((accentedFields texts).map Prod.fst).Nodup := fun texts => by
    simp [accentedFields, entriesWith]
  have hall : ∀ texts, accented.entriesWith texts ⊆ accentedFields texts := fun texts e he =>
    List.mem_cons_of_mem _ (List.mem_reverse.mpr he)
  refine ⟨fun texts => ⟨hkeys texts, hall texts⟩, ?_, ?_⟩
  · exact (survives_wireForm.2.2.2 _ accented _ (hkeys _) (hall _)).1
      [.columnSelected, .joinType .left] rfl
  · exact (survives_wireForm.2.2.2 _ accented _ (hkeys _) (hall _)).2.mpr
      ⟨"join_type:SIDEWAYS", by simp, by decide⟩

end Row

end ColumnLineage.Lineage
