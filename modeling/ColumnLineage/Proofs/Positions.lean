import ColumnLineage.Sql.Reader
import Mathlib.Algebra.Group.Nat.Defs

/-!
# Positions in complaints

A complaint ends with the line and the column where a text is refused, and quotes the text in front
of them.  The quoted text may hold the labels of both numbers, and any characters: what counts is
where a label stands for the last time.

## Main definitions

* `Occurs`: a label stands somewhere in a text.
* `LastBetween`: a label stands between two parts of a text, and nowhere behind.
* `leadingDigits`: the digits with which a text starts.

## Main statements

* `lastPlace?_eq_some_iff`, `lastPlace?_eq_none_iff`: the search by bytes finds the last place
  between characters.
* `numberAfter_eq_some_iff`, `numberAfter_eq_none_iff`: when there is a number behind a label.
* `numberAfter_position`: the numbers of a position are found behind any text.
-/

namespace ColumnLineage.Text

/-- A label stands somewhere in a text. -/
def Occurs (label text : String) : Prop :=
  ∃ front rest, text = front ++ label ++ rest

/-- Between two parts of a text a label stands for the last time. -/
structure LastBetween (label text front rest : String) : Prop where
  split : text = front ++ label ++ rest
  last : ∀ front' rest', text = front' ++ label ++ rest' →
    front'.utf8ByteSize ≤ front.utf8ByteSize

variable {label text front rest : String} {i : Nat}

theorem standsAt_append (label front rest : String) :
    StandsAt label (front ++ label ++ rest) front.utf8ByteSize := by
  have hsplit : (front ++ label ++ rest).toByteArray =
      front.toByteArray ++ (label.toByteArray ++ rest.toByteArray) := by
    rw [String.toByteArray_append, String.toByteArray_append, ByteArray.append_assoc]
  rw [StandsAt, hsplit]
  calc (front.toByteArray ++ (label.toByteArray ++ rest.toByteArray)).extract
          (front.toByteArray.size + 0) (front.toByteArray.size + label.utf8ByteSize)
      = (label.toByteArray ++ rest.toByteArray).extract 0 label.utf8ByteSize :=
        ByteArray.extract_append_size_add
    _ = label.toByteArray := ByteArray.extract_append_eq_left rfl

/-- Where the bytes of a label stand in a text, the label stands between two parts of the text. -/
theorem StandsAt.exists_append (h : StandsAt label text i) (hlabel : label ≠ "") :
    ∃ front rest, text = front ++ label ++ rest ∧ front.utf8ByteSize = i := by
  obtain ⟨front, back, hfront, hi⟩ :=
    String.Pos.Raw.isValid_iff_exists_append.mp (h.isValid_start hlabel)
  obtain ⟨whole, rest, hwhole, hend⟩ :=
    String.Pos.Raw.isValid_iff_exists_append.mp (h.isValid_behind hlabel)
  have hi : i = front.toByteArray.size := congrArg String.Pos.Raw.byteIdx hi
  have hend : i + label.utf8ByteSize = whole.toByteArray.size :=
    congrArg String.Pos.Raw.byteIdx hend
  have hbytes : whole.toByteArray = (front ++ label).toByteArray := by
    calc whole.toByteArray
        = text.toByteArray.extract 0 (i + label.utf8ByteSize) := by
          rw [hwhole, String.toByteArray_append, ByteArray.extract_append_eq_left hend]
      _ = text.toByteArray.extract 0 i ++ label.toByteArray := h.extract_behind
      _ = front.toByteArray ++ label.toByteArray := by
          rw [hfront, String.toByteArray_append, ByteArray.extract_append_eq_left hi]
      _ = (front ++ label).toByteArray := String.toByteArray_append.symm
  exact ⟨front, rest, by rw [hwhole, String.toByteArray_inj.mp hbytes], hi.symm⟩

theorem Occurs.exists_standsAt (h : Occurs label text) :
    ∃ i ≤ text.utf8ByteSize, StandsAt label text i := by
  obtain ⟨front, rest, rfl⟩ := h
  refine ⟨front.utf8ByteSize, ?_, standsAt_append label front rest⟩
  simp only [String.utf8ByteSize_append]
  omega

/-- Behind the last occurrence of a label no bytes are those of the label. -/
theorem LastBetween.le_of_standsAt (h : LastBetween label text front rest)
    (hi : StandsAt label text i) (hle : i ≤ text.utf8ByteSize) : i ≤ front.utf8ByteSize := by
  by_cases hlabel : label = ""
  · have hend := h.last text "" (by simp [hlabel])
    omega
  · obtain ⟨front', rest', hsplit, rfl⟩ := hi.exists_append hlabel
    exact h.last front' rest' hsplit

theorem LastBetween.lastPlace? (h : LastBetween label text front rest) :
    lastPlace? label text = some front.utf8ByteSize := by
  have hstands : StandsAt label text front.utf8ByteSize :=
    h.split ▸ standsAt_append label front rest
  refine lastPlaceUpTo_eq_some_iff.mpr ⟨hstands, ?_, fun j hlt hle hj => ?_⟩
  · simp only [h.split, String.utf8ByteSize_append]
    omega
  · have := h.le_of_standsAt hj hle
    omega

theorem exists_lastBetween_of_lastPlace? (h : lastPlace? label text = some i) :
    ∃ front rest, LastBetween label text front rest ∧ front.utf8ByteSize = i := by
  obtain ⟨hstands, -, hlast⟩ := lastPlaceUpTo_eq_some_iff.mp h
  obtain ⟨front, rest, hsplit, hi⟩ : ∃ front rest, text = front ++ label ++ rest ∧
      front.utf8ByteSize = i := by
    by_cases hlabel : label = ""
    · rw [hlabel, lastPlace?_empty] at h
      exact ⟨text, "", by simp [hlabel], Option.some.inj h⟩
    · exact hstands.exists_append hlabel
  refine ⟨front, rest, ⟨hsplit, fun front' rest' hsplit' => ?_⟩, hi⟩
  -- An occurrence further behind would stand at a byte that the search looks at first.
  refine Nat.le_of_not_lt fun hlt => ?_
  refine hlast front'.utf8ByteSize (by omega) ?_ (hsplit' ▸ standsAt_append label front' rest')
  simp only [hsplit', String.utf8ByteSize_append]
  omega

theorem Occurs.exists_lastBetween (h : Occurs label text) :
    ∃ front rest, LastBetween label text front rest := by
  obtain ⟨j, hle, hj⟩ := h.exists_standsAt
  cases hplace : Text.lastPlace? label text with
  | none => exact absurd hj (lastPlaceUpTo_eq_none_iff.mp hplace j hle)
  | some i =>
    obtain ⟨front, rest, hlast, -⟩ := exists_lastBetween_of_lastPlace? hplace
    exact ⟨front, rest, hlast⟩

theorem lastPlace?_eq_some_iff : lastPlace? label text = some i ↔
    ∃ front rest, LastBetween label text front rest ∧ front.utf8ByteSize = i := by
  constructor
  · exact exists_lastBetween_of_lastPlace?
  · rintro ⟨front, rest, h, rfl⟩
    exact h.lastPlace?

theorem lastPlace?_eq_none_iff : lastPlace? label text = none ↔ ¬ Occurs label text := by
  constructor
  · intro h hoccurs
    obtain ⟨i, hle, hi⟩ := hoccurs.exists_standsAt
    exact lastPlaceUpTo_eq_none_iff.mp h i hle hi
  · intro h
    cases hplace : Text.lastPlace? label text with
    | none => rfl
    | some i =>
      obtain ⟨front, rest, hlast, -⟩ := exists_lastBetween_of_lastPlace? hplace
      exact absurd ⟨front, rest, hlast.split⟩ h

/-- The text from the position behind the last occurrence on is what follows it. -/
theorem LastBetween.behindLast? (h : LastBetween label text front rest) :
    ∃ start, behindLast? label text = some start ∧ (text.sliceFrom start).copy = rest := by
  have hvalid := isValid_of_lastPlace? h.lastPlace?
  refine ⟨⟨⟨front.utf8ByteSize + label.utf8ByteSize⟩, hvalid⟩, ?_, ?_⟩
  · unfold Text.behindLast?
    split
    · next hnone => exact absurd (hnone.symm.trans h.lastPlace?) (by simp)
    · next j hj =>
      obtain rfl : j = front.utf8ByteSize := Option.some.inj (hj.symm.trans h.lastPlace?)
      rfl
  · have hsplits : String.Pos.Splits (s := text)
        ⟨⟨front.utf8ByteSize + label.utf8ByteSize⟩, hvalid⟩ (front ++ label) rest :=
      ⟨h.split, by simp [String.Pos.Raw.ext_iff]⟩
    exact hsplits.copy_sliceFrom_eq

theorem behindLast?_eq_none (h : ¬ Occurs label text) : behindLast? label text = none := by
  unfold Text.behindLast?
  split
  · rfl
  · next j hj => exact absurd (hj.symm.trans (lastPlace?_eq_none_iff.mpr h)) (by simp)

theorem utf8ByteSize_le_of_isPrefix {s t : String} (h : s.toList <+: t.toList) :
    s.utf8ByteSize ≤ t.utf8ByteSize := by
  obtain ⟨more, hmore⟩ := h
  have ht : t = s ++ String.ofList more := by
    rw [← String.toList_inj, String.toList_append, String.toList_ofList, hmore]
  rw [ht, String.utf8ByteSize_append]
  exact Nat.le_add_right _ _

/-- A label whose first character occurs neither in the rest of it nor behind it stands there for
the last time. -/
theorem lastBetween_of_notMem {c : Char} {more : List Char} (hlabel : label.toList = c :: more)
    (hmore : c ∉ more) (hrest : c ∉ rest.toList) (front : String) :
    LastBetween label (front ++ label ++ rest) front rest := by
  refine ⟨rfl, fun front' rest' h => utf8ByteSize_le_of_isPrefix ?_⟩
  have hlists : front.toList ++ c :: (more ++ rest.toList) =
      front'.toList ++ c :: (more ++ rest'.toList) := by
    simpa [hlabel] using congrArg String.toList h
  obtain ⟨between, hfront', hbehind⟩ | ⟨between, hfront, -⟩ :=
    List.append_eq_append_iff.mp hlists
  · cases between with
    | nil => exact ⟨[], by simpa using hfront'⟩
    | cons d between =>
      -- The label would start anew behind its first character.
      have htail : more ++ rest.toList = between ++ c :: (more ++ rest'.toList) :=
        (List.cons.inj hbehind).2
      have hmem : c ∈ more ++ rest.toList := htail ▸ by simp
      simp [hmore, hrest] at hmem
  · exact ⟨between, hfront.symm⟩

end ColumnLineage.Text

namespace ColumnLineage.Sql

open Text

variable {message label front rest : String}

/-- The digits with which a text starts. -/
def leadingDigits (text : String) : List Char :=
  text.toList.takeWhile Char.isDigit

/-- Digits denote a number that a word of 64 bits can hold. -/
def FitsWord (digits : List Char) : Prop :=
  digits ≠ [] ∧ Nat.ofDigitChars 10 digits 0 < 2 ^ 64

theorem wordOfDigits_of_fits {digits : List Char} (h : FitsWord digits) :
    wordOfDigits digits = some (Nat.ofDigitChars 10 digits 0) := by
  have hlt : ¬ Nat.ofDigitChars 10 digits 0 ≥ Nat.pow 2 64 := Nat.not_le_of_lt h.2
  simp [wordOfDigits, h.1, hlt]

theorem wordOfDigits_of_not_fits {digits : List Char} (h : ¬ FitsWord digits) :
    wordOfDigits digits = none := by
  by_cases hnil : digits = []
  · simp [wordOfDigits, hnil]
  · have hge : Nat.ofDigitChars 10 digits 0 ≥ Nat.pow 2 64 :=
      Nat.le_of_not_lt fun hlt => h ⟨hnil, hlt⟩
    simp [wordOfDigits, hge]

theorem numberAfter_of_lastBetween (h : LastBetween label message front rest) :
    numberAfter message label = wordOfDigits (leadingDigits rest) := by
  obtain ⟨start, hstart, hrest⟩ := h.behindLast?
  simp only [numberAfter, hstart, hrest, leadingDigits]

theorem numberAfter_of_not_occurs (h : ¬ Occurs label message) :
    numberAfter message label = none := by
  simp only [numberAfter, behindLast?_eq_none h]

theorem numberAfter_eq_some_iff {n : Nat} : numberAfter message label = some n ↔
    ∃ front rest, LastBetween label message front rest ∧ FitsWord (leadingDigits rest) ∧
      Nat.ofDigitChars 10 (leadingDigits rest) 0 = n := by
  constructor
  · intro h
    by_cases hoccurs : Occurs label message
    · obtain ⟨front, rest, hlast⟩ := hoccurs.exists_lastBetween
      rw [numberAfter_of_lastBetween hlast] at h
      by_cases hfits : FitsWord (leadingDigits rest)
      · rw [wordOfDigits_of_fits hfits] at h
        exact ⟨front, rest, hlast, hfits, Option.some.inj h⟩
      · simp [wordOfDigits_of_not_fits hfits] at h
    · simp [numberAfter_of_not_occurs hoccurs] at h
  · rintro ⟨front, rest, hlast, hfits, rfl⟩
    rw [numberAfter_of_lastBetween hlast, wordOfDigits_of_fits hfits]

/-- There is no number behind a label that does not occur, nor where no digits follow its last
occurrence or too many. -/
theorem numberAfter_eq_none_iff : numberAfter message label = none ↔
    ¬ Occurs label message ∨
      ∃ front rest, LastBetween label message front rest ∧ ¬ FitsWord (leadingDigits rest) := by
  constructor
  · intro h
    by_cases hoccurs : Occurs label message
    · obtain ⟨front, rest, hlast⟩ := hoccurs.exists_lastBetween
      refine .inr ⟨front, rest, hlast, fun hfits => ?_⟩
      rw [numberAfter_of_lastBetween hlast, wordOfDigits_of_fits hfits] at h
      exact absurd h (by simp)
    · exact .inl hoccurs
  · rintro (habsent | ⟨front, rest, hlast, hfits⟩)
    · exact numberAfter_of_not_occurs habsent
    · rw [numberAfter_of_lastBetween hlast, wordOfDigits_of_not_fits hfits]

theorem leadingDigits_toString_append (n : Nat) {tail : String}
    (htail : ∀ c more, tail.toList = c :: more → c.isDigit = false) :
    leadingDigits (toString n ++ tail) = Nat.toDigits 10 n := by
  have hdigits : ∀ c ∈ Nat.toDigits 10 n, c.isDigit = true := fun c hc =>
    Nat.isDigit_of_mem_toDigits (by decide) (by decide) hc
  have hend : tail.toList.takeWhile Char.isDigit = [] := by
    cases hlist : tail.toList with
    | nil => rfl
    | cons c more => simp [htail c more hlist]
  rw [leadingDigits, String.toList_append, Nat.toString_eq_ofList_toDigits, String.toList_ofList,
    List.takeWhile_append_of_pos hdigits, hend, List.append_nil]

theorem fitsWord_toDigits {n : Nat} (h : n < 2 ^ 64) : FitsWord (Nat.toDigits 10 n) :=
  ⟨Nat.toDigits_ne_nil, by rwa [Nat.ofDigitChars_ten_toDigits]⟩

/-- A number is found behind its label where the label begins with a character that does not occur
behind it. -/
theorem numberAfter_append {c : Char} {more : List Char} (hlabel : label.toList = c :: more)
    (hmore : c ∉ more) (front : String) {n : Nat} (hn : n < 2 ^ 64) {tail : String}
    (htail : ∀ c more, tail.toList = c :: more → c.isDigit = false)
    (hrest : c ∉ (toString n ++ tail).toList) :
    numberAfter (front ++ label ++ (toString n ++ tail)) label = some n := by
  have hlast := lastBetween_of_notMem hlabel hmore hrest front
  rw [numberAfter_of_lastBetween hlast, leadingDigits_toString_append n htail,
    wordOfDigits_of_fits (fitsWord_toDigits hn), Nat.ofDigitChars_ten_toDigits]

theorem notMem_toString {c : Char} (hc : c.isDigit = false) (n : Nat) :
    c ∉ (toString n).toList := by
  intro h
  rw [Nat.toString_eq_ofList_toDigits, String.toList_ofList] at h
  simp [Nat.isDigit_of_mem_toDigits (by decide) (by decide) h] at hc

/-- The line in front of a column is found: its label does not occur behind it. -/
theorem numberAfter_line (text : String) {line : Nat} (hline : line < 2 ^ 64) (column : Nat) :
    numberAfter (text ++ s!" at Line: {line}, Column: {column}") "Line: " = some line := by
  have hsplit : text ++ s!" at Line: {line}, Column: {column}" =
      text ++ " at " ++ "Line: " ++ (toString line ++ (", Column: " ++ toString column)) := by
    change text ++ (" at Line: " ++ toString line ++ ", Column: " ++ toString column) = _
    simp [← String.toList_inj]
  have hrest : 'L' ∉ (toString line ++ (", Column: " ++ toString column)).toList := by
    simp only [String.toList_append, List.mem_append, not_or]
    exact ⟨notMem_toString (by decide) line, by decide, notMem_toString (by decide) column⟩
  rw [hsplit]
  exact numberAfter_append rfl (by decide) _ hline (by simp +contextual) hrest

theorem numberAfter_column (text : String) (line : Nat) {column : Nat} (hcolumn : column < 2 ^ 64) :
    numberAfter (text ++ s!" at Line: {line}, Column: {column}") "Column: " = some column := by
  have hsplit : text ++ s!" at Line: {line}, Column: {column}" =
      text ++ (" at Line: " ++ toString line ++ ", ") ++ "Column: " ++ (toString column ++ "") := by
    change text ++ (" at Line: " ++ toString line ++ ", Column: " ++ toString column) = _
    simp [← String.toList_inj]
  have hrest : 'C' ∉ (toString column ++ "").toList := by
    simpa using notMem_toString (by decide) column
  rw [hsplit]
  exact numberAfter_append rfl (by decide) _ hcolumn (by simp) hrest

/-- What is said about a lexeme is reported at its place, whatever it quotes. -/
theorem reported_at_place (text : String) {l : Lexeme} (hplace : l.line ≠ 0)
    (hline : l.line < 2 ^ 64) (hcolumn : l.column < 2 ^ 64) :
    ReadFailure.line (text ++ l.place) = l.line ∧
      ReadFailure.column (text ++ l.place) = l.column := by
  have htext : l.place = s!" at Line: {l.line}, Column: {l.column}" := by
    simp [Lexeme.place, Lexeme.placeText, hplace]
  rw [htext, ReadFailure.line, ReadFailure.column, numberAfter_line text hline,
    numberAfter_column text l.line hcolumn]
  exact ⟨rfl, rfl⟩

/-- The line and the column at the end of a complaint are read back, whatever stands in front.
There is no number behind a label that does not occur, which is reported as zero, nor behind one
that no digits follow, or digits of a number that is too large.  What is read starts with a whole
character. -/
theorem numberAfter_position :
    (∀ (text : String) (line column : Nat), line < 2 ^ 64 → column < 2 ^ 64 →
      numberAfter (text ++ s!" at Line: {line}, Column: {column}") "Line: " = some line ∧
        numberAfter (text ++ s!" at Line: {line}, Column: {column}") "Column: " = some column) ∧
    (∀ message label, numberAfter message label = none ↔ ¬ Occurs label message ∨
      ∃ front rest, LastBetween label message front rest ∧ ¬ FitsWord (leadingDigits rest)) ∧
    (∀ complaint, (¬ Occurs "Line: " complaint → ReadFailure.line complaint = 0) ∧
      (¬ Occurs "Column: " complaint → ReadFailure.column complaint = 0)) ∧
    ∀ label message i, lastPlace? label message = some i →
      String.Pos.Raw.IsValid message ⟨i + label.utf8ByteSize⟩ := by
  refine ⟨fun text line column hline hcolumn => ?_, fun _ _ => numberAfter_eq_none_iff,
    fun complaint => ⟨fun h => ?_, fun h => ?_⟩, fun _ _ _ => isValid_of_lastPlace?⟩
  · exact ⟨numberAfter_line text hline column, numberAfter_column text line hcolumn⟩
  · rw [ReadFailure.line, numberAfter_of_not_occurs h, Option.getD_none]
  · rw [ReadFailure.column, numberAfter_of_not_occurs h, Option.getD_none]

/-- The text that is quoted ends with a position of its own, which is not the last one. -/
theorem numberAfter_position_quoted :
    (5 < 2 ^ 64 ∧ 18446744073709551615 < 2 ^ 64) ∧
      numberAfter ("found: 'é at Line: 7, Column: 9'" ++
        s!" at Line: {5}, Column: {18446744073709551615}") "Line: " = some 5 ∧
      numberAfter ("found: 'é at Line: 7, Column: 9'" ++
        s!" at Line: {5}, Column: {18446744073709551615}") "Column: " =
          some 18446744073709551615 :=
  ⟨⟨by decide, by decide⟩, numberAfter_position.1 _ 5 18446744073709551615 (by decide) (by decide)⟩

end ColumnLineage.Sql
