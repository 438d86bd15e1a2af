/-!
# Labels

A label stands in a text where the bytes of the text are those of the label.  Because no character
continues with a byte that starts one, what is behind a label is a text again.

## Main definitions

* `StandsAt`: a label stands in a text from a byte on.
* `lastPlace?`: the last such byte.
* `behindLast?`: the position behind the last occurrence of a label.

## Main statements

* `isValid_of_lastPlace?`: the end of the last occurrence of a label is a position of the text.
-/

namespace ColumnLineage.Text

/-- A label stands in a text from byte `i` on. -/
def StandsAt (label text : String) (i : Nat) : Prop :=
  text.toByteArray.extract i (i + label.utf8ByteSize) = label.toByteArray

instance (label text : String) (i : Nat) : Decidable (StandsAt label text i) :=
  inferInstanceAs (Decidable (_ = _))

namespace StandsAt

variable {label text : String} {i : Nat}

theorem add_le (h : StandsAt label text i) (hlabel : label ≠ "") :
    i + label.utf8ByteSize ≤ text.utf8ByteSize := by
  have hsize := congrArg ByteArray.size h
  simp only [ByteArray.size_extract, String.size_toByteArray] at hsize
  have hpos : label.utf8ByteSize ≠ 0 := by simpa using hlabel
  omega

theorem getElem_eq (h : StandsAt label text i) (hfirst : 0 < label.toByteArray.size)
    (hi : i < text.toByteArray.size) : text.toByteArray[i] = label.toByteArray[0] := by
  unfold StandsAt at h
  simp only [← h, ByteArray.getElem_extract, Nat.add_zero]

/-- A character starts where a label starts: the first byte of a label continues no character. -/
theorem isValid_start (h : StandsAt label text i) (hlabel : label ≠ "") :
    String.Pos.Raw.IsValid text ⟨i⟩ := by
  have hpos : 0 < label.utf8ByteSize := Nat.pos_of_ne_zero (by simpa using hlabel)
  have hlt : i < text.utf8ByteSize := by
    have := h.add_le hlabel
    omega
  have hfirst : label.toByteArray[0].IsUTF8FirstByte :=
    label.isValidUTF8.isUTF8FirstByte_getElem_zero hpos
  refine String.Pos.Raw.isValid_iff_isUTF8FirstByte.mpr (.inr ⟨hlt, ?_⟩)
  rw [String.getUTF8Byte, h.getElem_eq hpos hlt]
  exact hfirst

theorem extract_behind (h : StandsAt label text i) :
    text.toByteArray.extract 0 (i + label.utf8ByteSize) =
      text.toByteArray.extract 0 i ++ label.toByteArray := by
  rw [ByteArray.extract_eq_extract_append_extract i (Nat.zero_le _) (Nat.le_add_right _ _), h]

/-- A character starts behind a label, or the text ends there. -/
theorem isValid_behind (h : StandsAt label text i) (hlabel : label ≠ "") :
    String.Pos.Raw.IsValid text ⟨i + label.utf8ByteSize⟩ := by
  have hstart := (h.isValid_start hlabel).isValidUTF8_extract_zero
  refine String.Pos.Raw.isValid_iff_isValidUTF8_extract_zero.mpr ⟨h.add_le hlabel, ?_⟩
  rw [h.extract_behind]
  exact hstart.append label.isValidUTF8

end StandsAt

/-- The last byte up to `i` from which on a label stands in a text. -/
def lastPlaceUpTo (label text : String) : Nat → Option Nat
  | 0 => if StandsAt label text 0 then some 0 else none
  | i + 1 => if StandsAt label text (i + 1) then some (i + 1) else lastPlaceUpTo label text i

/-- The byte from which on a label stands in a text for the last time. -/
def lastPlace? (label text : String) : Option Nat :=
  lastPlaceUpTo label text text.utf8ByteSize

theorem lastPlaceUpTo_eq_some_iff {label text : String} {n i : Nat} :
    lastPlaceUpTo label text n = some i ↔
      StandsAt label text i ∧ i ≤ n ∧ ∀ j, i < j → j ≤ n → ¬ StandsAt label text j := by
  induction n with
  | zero => grind [lastPlaceUpTo]
  | succ n ih => grind [lastPlaceUpTo]

theorem lastPlaceUpTo_eq_none_iff {label text : String} {n : Nat} :
    lastPlaceUpTo label text n = none ↔ ∀ j ≤ n, ¬ StandsAt label text j := by
  induction n with
  | zero => grind [lastPlaceUpTo]
  | succ n ih => grind [lastPlaceUpTo]

/-- The empty label stands at the end of every text. -/
theorem lastPlace?_empty (text : String) : lastPlace? "" text = some text.utf8ByteSize := by
  refine lastPlaceUpTo_eq_some_iff.mpr ⟨?_, Nat.le_refl _, fun j hlt hle => by omega⟩
  simp [StandsAt]

/-- The text behind a label never starts inside a character. -/
theorem isValid_of_lastPlace? {label text : String} {i : Nat}
    (h : lastPlace? label text = some i) :
    String.Pos.Raw.IsValid text ⟨i + label.utf8ByteSize⟩ := by
  by_cases hlabel : label = ""
  · subst hlabel
    obtain rfl : text.utf8ByteSize = i := Option.some.inj ((lastPlace?_empty text).symm.trans h)
    exact String.Pos.Raw.isValid_rawEndPos
  · exact (lastPlaceUpTo_eq_some_iff.mp h).1.isValid_behind hlabel

/-- The position behind the last occurrence of a label. -/
def behindLast? (label text : String) : Option text.Pos :=
  match h : lastPlace? label text with
  | none => none
  | some i => some ⟨⟨i + label.utf8ByteSize⟩, isValid_of_lastPlace? h⟩

end ColumnLineage.Text
