import ColumnLineage.Json.Reader
import ColumnLineage.Json.Written
import Mathlib.Data.List.Basic

/-!
# Reading what is written

A value without numbers is read from the text that it is written as, whatever its strings hold.
Numbers would end where the text behind them says so; all other values end where they are closed,
which is why nothing is asked of the text behind.

## Main definitions

* `Reads`: a reader takes a text in front of a rest, and gives a value.
* `Steps`: a repetition takes a text step by step.
* `between`: the text between the brackets of a list or an object.
* `Value.Plain`: a value has no numbers, and may stand so many levels deep.

## Main statements

* `parse_pretty`: a value is what its text is read as.
-/

namespace ColumnLineage.Json

theorem Cursor.advance_rest (cursor : Cursor) (c : Char) (rest : List Char) :
    (cursor.advance c rest).rest = rest := by
  unfold Cursor.advance
  split <;> rfl

namespace Reader

variable {α β σ : Type} {text more rest : List Char}

/-- A reader takes a text in front of a rest, wherever the text starts, and gives `a`. -/
def Reads (r : Reader α) (text : List Char) (a : α) (rest : List Char) : Prop :=
  ∀ line column, ∃ line' column',
    r ⟨text ++ rest, line, column⟩ = .ok (a, ⟨rest, line', column'⟩)

section Sequences

variable {r : Reader α} {f : α → Reader β} {a : α} {b : β}

theorem Reads.of_rest (h : ∀ line column, ∃ reached : Cursor,
    r ⟨text ++ rest, line, column⟩ = .ok (a, reached) ∧ reached.rest = rest) :
    Reads r text a rest := by
  intro line column
  obtain ⟨reached, hread, rfl⟩ := h line column
  exact ⟨reached.line, reached.column, hread⟩

theorem Reads.pure : Reads (pure a) [] a rest := fun line column =>
  ⟨line, column, rfl⟩

theorem Reads.bind (hr : Reads r text a (more ++ rest)) (hf : Reads (f a) more b rest) :
    Reads (r >>= f) (text ++ more) b rest := by
  intro line column
  obtain ⟨line₁, column₁, hr⟩ := hr line column
  obtain ⟨line₂, column₂, hf⟩ := hf line₁ column₁
  refine ⟨line₂, column₂, ?_⟩
  change (r ⟨text ++ more ++ rest, line, column⟩ >>= fun found => f found.1 found.2) = _
  rw [List.append_assoc, hr]
  exact hf

theorem Reads.last (hr : Reads r text a rest) (hf : Reads (f a) [] b rest) :
    Reads (r >>= f) text b rest := by
  have h : Reads (r >>= f) (text ++ []) b rest := Reads.bind hr hf
  rwa [List.append_nil] at h

/-- What is looked at is not taken. -/
theorem Reads.peek {f : Option Char → Reader β} (hf : Reads (f (text ++ rest).head?) text b rest) :
    Reads (Reader.peek >>= f) text b rest :=
  hf

theorem reads_skip (c : Char) : Reads skip [c] () rest :=
  Reads.of_rest fun _ _ => ⟨_, rfl, Cursor.advance_rest _ c rest⟩

theorem Reads.skip {c : Char} {f : Unit → Reader β} (hf : Reads (f ()) text b rest) :
    Reads (Reader.skip >>= f) (c :: text) b rest :=
  (reads_skip c).bind hf

end Sequences

section Repetitions

/-- A repetition takes a text step by step, each of which takes something, and then stops. -/
inductive Steps (step : σ → Reader (Option σ)) (rest : List Char) : σ → List Char → σ → Prop
  | stop {s : σ} {text : List Char} (h : Reads (step s) text none rest) : Steps step rest s text s
  | more {s s' s'' : σ} {text more : List Char} (h : Reads (step s) text (some s') (more ++ rest))
    (hne : text ≠ []) (hmore : Steps step rest s' more s'') : Steps step rest s (text ++ more) s''

variable {step : σ → Reader (Option σ)} {s s' : σ}

/-- A repetition needs no more units than characters. -/
theorem Steps.iterateWithin (h : Steps step rest s text s') {units : Nat}
    (hunits : text.length < units) : Reads (iterateWithin step units s) text s' rest := by
  induction h generalizing units with
  | @stop s text h =>
    obtain ⟨units, rfl⟩ : ∃ n, units = n + 1 := ⟨units - 1, by omega⟩
    exact h.last Reads.pure
  | @more s s₁ s₂ text more h hne hmore ih =>
    have hpos : 0 < text.length := List.length_pos_iff.mpr hne
    rw [List.length_append] at hunits
    obtain ⟨units, rfl⟩ : ∃ n, units = n + 1 := ⟨units - 1, by omega⟩
    exact h.bind (ih (by omega))

theorem Steps.iterate (h : Steps step rest s text s') : Reads (iterate step s) text s' rest := by
  have hlength : text.length < (text ++ rest).length + 1 := by
    rw [List.length_append]
    omega
  exact fun line column => h.iterateWithin hlength line column

end Repetitions

section Blanks

/-- The characters that may stand between the parts of a document. -/
def blankChars : List Char := [' ', '\n', '\t', '\r']

/-- Nothing but blanks. -/
def AllBlank (text : List Char) : Prop :=
  ∀ c ∈ text, c ∈ blankChars

/-- A text does not go on with a blank. -/
def NoBlank (rest : List Char) : Prop :=
  ∀ c, rest.head? = some c → c ∉ blankChars

theorem allBlank_nil : AllBlank [] := by
  simp [AllBlank]

theorem reads_blank {c : Char} (hc : c ∈ blankChars) : Reads blank? [c] (some ()) rest := by
  unfold blank?
  refine Reads.peek ?_
  simp only [blankChars, List.mem_cons, List.not_mem_nil, or_false] at hc
  obtain rfl | rfl | rfl | rfl := hc <;> exact Reads.skip Reads.pure

theorem reads_noBlank (h : NoBlank rest) : Reads blank? [] none rest := by
  unfold blank?
  refine Reads.peek ?_
  rw [List.nil_append]
  split
  · next hc => exact absurd (by decide) (h _ hc)
  · next hc => exact absurd (by decide) (h _ hc)
  · next hc => exact absurd (by decide) (h _ hc)
  · next hc => exact absurd (by decide) (h _ hc)
  · exact Reads.pure

theorem steps_blanks (htext : AllBlank text) (hrest : NoBlank rest) :
    Steps (fun _ => blank?) rest () text () := by
  induction text with
  | nil => exact .stop (reads_noBlank hrest)
  | cons c text ih =>
    obtain ⟨hc, htext⟩ := List.forall_mem_cons.mp htext
    exact .more (reads_blank hc) (List.cons_ne_nil _ _) (ih htext)

theorem reads_blanks (htext : AllBlank text) (hrest : NoBlank rest) : Reads blanks text () rest :=
  (steps_blanks htext hrest).iterate

theorem reads_peekBehindBlanks (htext : AllBlank text) (hrest : NoBlank rest) :
    Reads peekBehindBlanks text rest.head? rest :=
  (reads_blanks htext hrest).last (Reads.peek Reads.pure)

end Blanks

section Strings

/-- What is escaped is read behind its backslash. -/
theorem reads_escaped {c : Char} (h : Reads (escapedChar .kept) text c rest) (found : List Char) :
    Reads (stringStep .kept (found, false)) ('\\' :: text) (some (c :: found, false)) rest := by
  unfold stringStep
  refine Reads.peek ?_
  refine Reads.skip ?_
  exact h.last Reads.pure

theorem reads_mark {mark c : Char} (hmark : mark ≠ 'u') (h : markedChar mark = some c) :
    Reads (escapedChar .kept) [mark] c rest := by
  unfold escapedChar
  refine Reads.peek ?_
  rw [List.cons_append, List.head?_cons]
  split
  · next h => simp at h
  · next h => exact absurd (Option.some.inj h) hmark
  · next mark' _ h' =>
    obtain rfl : mark = mark' := Option.some.inj h'
    rw [h]
    exact Reads.skip Reads.pure

theorem reads_plainChar {c : Char} (hquote : c ≠ '"') (hescape : c ≠ '\\') (hc : ¬ c.toNat < 0x20)
    (found : List Char) :
    Reads (stringStep .kept (found, false)) [c] (some (c :: found, false)) rest := by
  unfold stringStep
  refine Reads.peek ?_
  rw [List.cons_append, List.head?_cons]
  split
  · next h => simp at h
  · next h => exact absurd (Option.some.inj h) hquote
  · next h => exact absurd (Option.some.inj h) hescape
  · next c' _ _ h =>
    obtain rfl : c = c' := Option.some.inj h
    rw [if_neg hc]
    exact Reads.skip Reads.pure

/-- Four digits of one byte each are read as their number. -/
theorem reads_hexEscape {a b c d : Char} {n : Nat}
    (hsize : ∀ digit ∈ [a, b, c, d], digit.utf8Size = 1) (hn : hexNumber [a, b, c, d] = some n) :
    Reads hexEscape [a, b, c, d] n rest := by
  have hbytes : fourBytes 4 ([a, b, c, d] ++ rest) = ([a, b, c, d], true) := by
    simp only [List.mem_cons, List.not_mem_nil, or_false, forall_eq_or_imp, forall_eq] at hsize
    simp [fourBytes, hsize]
  refine Reads.of_rest fun line column => ?_
  unfold hexEscape
  simp only [hbytes, hn]
  exact ⟨_, rfl, by simp [Cursor.advance_rest]⟩

theorem controlDigits_spec : ∀ n < 0x20, ∃ a b, controlDigits n = [a, b] ∧
    (∀ digit ∈ ['0', '0', a, b], digit.utf8Size = 1) ∧ hexNumber ['0', '0', a, b] = some n := by
  have h : ∀ n < 0x20, (controlDigits n).length = 2 ∧
      (controlDigits n).all (fun digit => digit.utf8Size == 1) ∧
      hexNumber ('0' :: '0' :: controlDigits n) = some n := by decide
  intro n hn
  obtain ⟨hlength, hsize, hnumber⟩ := h n hn
  obtain ⟨a, b, hdigits⟩ := List.length_eq_two.mp hlength
  rw [hdigits] at hsize hnumber
  refine ⟨a, b, hdigits, ?_, hnumber⟩
  have hzero : '0'.utf8Size = 1 := rfl
  simpa [hzero] using hsize

/-- A control character is read from its number. -/
theorem reads_control {c : Char} (hc : c.toNat < 0x20) :
    Reads (escapedChar .kept) ('u' :: '0' :: '0' :: controlDigits c.toNat) c rest := by
  obtain ⟨a, b, hdigits, hsize, hnumber⟩ := controlDigits_spec c.toNat hc
  rw [hdigits]
  unfold escapedChar
  refine Reads.peek ?_
  refine Reads.skip ?_
  unfold numberedChar
  have hcloses : closesPair c.toNat = false := by
    simp [closesPair]
    omega
  have hleads : leadsPair c.toNat = false := by
    simp [leadsPair]
    omega
  refine (reads_hexEscape hsize hnumber).last ?_
  simp only [hcloses, hleads]
  have hchar : Reads (pure (Char.ofNat c.toNat)) [] c rest := by
    rw [Char.ofNat_toNat]
    exact Reads.pure
  exact hchar

theorem reads_writtenChar (c : Char) (found : List Char) :
    Reads (stringStep .kept (found, false)) (writtenChar c) (some (c :: found, false)) rest := by
  unfold writtenChar
  split
  case h_8 hquote hescape _ _ _ _ _ =>
    split
    · next hc => exact reads_escaped (reads_control hc) found
    · next hc => exact reads_plainChar hquote hescape hc found
  all_goals exact reads_escaped (reads_mark (by decide) rfl) found

theorem writtenChar_ne_nil (c : Char) : writtenChar c ≠ [] := by
  unfold writtenChar
  split
  case h_8 => split <;> simp
  all_goals simp

/-- The characters of a string are read one by one up to its closing quote. -/
theorem steps_string (chars found : List Char) : Steps (stringStep .kept) rest (found, false)
    (chars.flatMap writtenChar ++ ['"']) (chars.reverse ++ found, true) := by
  induction chars generalizing found with
  | nil =>
    have hquote : Reads (stringStep .kept (found, false)) ['"'] (some (found, true)) rest := by
      unfold stringStep
      refine Reads.peek ?_
      exact Reads.skip Reads.pure
    have hsteps : Steps (stringStep .kept) rest (found, false) (['"'] ++ []) (found, true) :=
      .more hquote (List.cons_ne_nil _ _) (.stop Reads.pure)
    exact hsteps
  | cons c chars ih =>
    rw [List.flatMap_cons, List.append_assoc, List.reverse_cons, List.append_assoc]
    exact .more (reads_writtenChar c found) (writtenChar_ne_nil c) (ih (c :: found))

theorem reads_stringContent (s : String) :
    Reads (stringContent .kept) (s.toList.flatMap writtenChar ++ ['"']) s rest := by
  unfold stringContent
  refine (steps_string s.toList []).iterate.last ?_
  have hs : Reads (pure (String.ofList (s.toList.reverse ++ []).reverse)) [] s rest := by
    rw [List.append_nil, List.reverse_reverse, String.ofList_toList]
    exact Reads.pure
  exact hs

end Strings

section Listings

/-- The next character behind blanks is only looked at. -/
theorem Reads.behindBlanks {f : Option Char → Reader β} {blank : List Char} {c : Char} {b : β}
    (hblank : AllBlank blank) (hnext : (text ++ rest).head? = some c) (hc : c ∉ blankChars)
    (hf : Reads (f (some c)) text b rest) :
    Reads (peekBehindBlanks >>= f) (blank ++ text) b rest := by
  have hstop : NoBlank (text ++ rest) := fun c' hc' => by
    rwa [← Option.some.inj (hnext.symm.trans hc')]
  have hpeek := reads_peekBehindBlanks hblank hstop
  rw [hnext] at hpeek
  exact hpeek.bind hf

variable {blank : List Char} {c : Char} {first : Bool}

/-- A text goes on with the start of an element. -/
def Opens (rest : List Char) : Prop :=
  ∃ c, rest.head? = some c ∧ c ∉ blankChars ∧ c ≠ ']'

theorem reads_firstElement (hblank : AllBlank blank) (hrest : Opens rest) :
    Reads (moreElements true) blank true rest := by
  obtain ⟨c, hnext, hc, hclose⟩ := hrest
  unfold moreElements
  rw [← List.append_nil blank]
  refine Reads.behindBlanks hblank hnext hc ?_
  split
  · next h => simp at h
  · next h => exact absurd (Option.some.inj h) hclose
  · exact Reads.pure

theorem reads_nextElement (hblank : AllBlank blank) (hrest : Opens rest) :
    Reads (moreElements false) (',' :: blank) true rest := by
  obtain ⟨c, hnext, hc, hclose⟩ := hrest
  unfold moreElements
  refine Reads.behindBlanks allBlank_nil rfl (by decide) ?_
  refine Reads.skip ?_
  rw [← List.append_nil blank]
  refine Reads.behindBlanks hblank hnext hc ?_
  split
  · next h => exact absurd (Option.some.inj h) hclose
  · exact Reads.pure
  · next h => simp at h

theorem reads_noElement (hblank : AllBlank blank) :
    Reads (moreElements first) blank false (']' :: rest) := by
  unfold moreElements
  rw [← List.append_nil blank]
  exact Reads.behindBlanks hblank rfl (by decide) Reads.pure

theorem reads_firstKey (hblank : AllBlank blank) :
    Reads (moreKeys true) (blank ++ ['"']) true rest := by
  unfold moreKeys
  refine Reads.behindBlanks hblank rfl (by decide) ?_
  exact Reads.skip Reads.pure

theorem reads_nextKey (hblank : AllBlank blank) :
    Reads (moreKeys false) (',' :: (blank ++ ['"'])) true rest := by
  unfold moreKeys
  refine Reads.behindBlanks allBlank_nil rfl (by decide) ?_
  refine Reads.skip ?_
  refine Reads.behindBlanks hblank rfl (by decide) ?_
  exact Reads.skip Reads.pure

theorem reads_noKey (hblank : AllBlank blank) :
    Reads (moreKeys first) blank false ('\x7d' :: rest) := by
  unfold moreKeys
  rw [← List.append_nil blank]
  exact Reads.behindBlanks hblank rfl (by decide) Reads.pure

theorem reads_colon : Reads colon [':'] () rest := by
  unfold colon
  refine Reads.behindBlanks allBlank_nil rfl (by decide) ?_
  exact reads_skip ':'

/-- The part of a text between brackets: what is written of each item stands behind blanks, and
behind a comma too unless it is the first, and blanks stand in front of the closing bracket. -/
def between (write : α → List Char) (blank closing : List Char) : List α → List Char
  | [] => []
  | a :: more => blank ++ write a ++ more.flatMap (fun b => ',' :: (blank ++ write b)) ++ closing

variable {step : List α × Bool → Reader (Option (List α × Bool))} {write : α → List Char}
  {closing : List Char} {items : List α}

theorem steps_more (hnext : ∀ a ∈ items, ∀ found more,
      Reads (step (found, false)) (',' :: (blank ++ write a)) (some (a :: found, false)) more)
    (hstop : ∀ found, Reads (step (found, false)) closing none rest) (found : List α) :
    Steps step rest (found, false) (items.flatMap (fun a => ',' :: (blank ++ write a)) ++ closing)
      (items.reverse ++ found, false) := by
  induction items generalizing found with
  | nil => exact .stop (hstop found)
  | cons a items ih =>
    rw [List.flatMap_cons, List.append_assoc, List.reverse_cons, List.append_assoc]
    have ha := hnext a List.mem_cons_self found
    have hmore := ih (fun b hb => hnext b (List.mem_cons_of_mem _ hb)) (a :: found)
    exact .more (ha _) (List.cons_ne_nil _ _) hmore

/-- Items are read one by one up to the closing bracket, which is taken. -/
theorem reads_between {close : Char} (hfirst : ∀ a ∈ items, ∀ more,
      Reads (step ([], true)) (blank ++ write a) (some ([a], false)) more)
    (hne : ∀ a ∈ items, write a ≠ [])
    (hnext : ∀ a ∈ items, ∀ found more,
      Reads (step (found, false)) (',' :: (blank ++ write a)) (some (a :: found, false)) more)
    (hempty : Reads (step ([], true)) [] none (close :: rest))
    (hstop : ∀ found, Reads (step (found, false)) closing none (close :: rest)) :
    Reads (iterate step ([], true) >>= fun state => skip >>= fun _ => pure state.1.reverse)
      (between write blank closing items ++ [close]) items rest := by
  have hsteps : ∃ first, Steps step (close :: rest) ([], true) (between write blank closing items)
      (items.reverse, first) := by
    cases items with
    | nil => exact ⟨true, .stop hempty⟩
    | cons a items =>
      have hmore := steps_more (fun b hb => hnext b (List.mem_cons_of_mem _ hb)) hstop [a]
      refine ⟨false, ?_⟩
      rw [between, List.append_assoc, List.reverse_cons]
      exact .more (hfirst a List.mem_cons_self _)
        (List.append_ne_nil_of_right_ne_nil _ (hne a List.mem_cons_self)) hmore
  obtain ⟨first, hsteps⟩ := hsteps
  have hitems : Reads (pure items.reverse.reverse) [] items rest := by
    rw [List.reverse_reverse]
    exact Reads.pure
  exact hsteps.iterate.bind (Reads.skip hitems)

/-- The elements of a list are read up to its bracket, which is taken. -/
theorem reads_elements {element : Reader α} (hblank : AllBlank blank) (hclosing : AllBlank closing)
    (hopens : ∀ a ∈ items, ∀ more, Opens (write a ++ more))
    (hitems : ∀ a ∈ items, ∀ more, Reads element (write a) a more) :
    Reads (elements element) (between write blank closing items ++ [']']) items rest := by
  have hne : ∀ a ∈ items, write a ≠ [] := by
    intro a ha hnil
    obtain ⟨c, hc, -⟩ := hopens a ha []
    rw [hnil] at hc
    exact absurd hc (by simp)
  have hfirst : ∀ a ∈ items, ∀ more,
      Reads (elementStep element ([], true)) (blank ++ write a) (some ([a], false)) more :=
    fun a ha more => (reads_firstElement hblank (hopens a ha more)).bind
      ((hitems a ha more).last Reads.pure)
  have hnext : ∀ a ∈ items, ∀ found more, Reads (elementStep element (found, false))
      (',' :: (blank ++ write a)) (some (a :: found, false)) more :=
    fun a ha found more => (reads_nextElement hblank (hopens a ha more)).bind
      ((hitems a ha more).last Reads.pure)
  have hempty : Reads (elementStep element ([], true)) [] none (']' :: rest) :=
    (reads_noElement allBlank_nil).last Reads.pure
  have hstop : ∀ found, Reads (elementStep element (found, false)) closing none (']' :: rest) :=
    fun found => (reads_noElement hclosing).last Reads.pure
  exact reads_between hfirst hne hnext hempty hstop

/-- A key with its value, which stands behind a colon and a blank. -/
def writtenEntry (write : Value → List Char) (e : String × Value) : List Char :=
  '"' :: (e.1.toList.flatMap writtenChar ++ ['"'] ++ (':' :: ' ' :: write e.2))

/-- The entries of an object are read up to its brace, which is taken. -/
theorem reads_entries {value : Reader Value} {write : Value → List Char}
    {fields : List (String × Value)} (hblank : AllBlank blank) (hclosing : AllBlank closing)
    (hvalues : ∀ e ∈ fields, ∀ more, Reads value (' ' :: write e.2) e.2 more) :
    Reads (entries .kept value) (between (writtenEntry write) blank closing fields ++ ['\x7d'])
      fields rest := by
  have hentry : ∀ e ∈ fields, ∀ found more, Reads (do
      let key ← stringContent .kept
      colon
      return some ((key, ← value) :: found, false))
      (e.1.toList.flatMap writtenChar ++ ['"'] ++ (':' :: ' ' :: write e.2))
      (some (e :: found, false)) more := fun e he found more =>
    (reads_stringContent e.1).bind (reads_colon.bind ((hvalues e he more).last Reads.pure))
  have hfirst : ∀ e ∈ fields, ∀ more, Reads (entryStep .kept value ([], true))
      (blank ++ writtenEntry write e) (some ([e], false)) more := by
    intro e he more
    have h : Reads (entryStep .kept value ([], true)) (blank ++ ['"'] ++ _) _ more :=
      (reads_firstKey hblank).bind (hentry e he [] more)
    rwa [List.append_assoc] at h
  have hnext : ∀ e ∈ fields, ∀ found more, Reads (entryStep .kept value (found, false))
      (',' :: (blank ++ writtenEntry write e)) (some (e :: found, false)) more := by
    intro e he found more
    have h : Reads (entryStep .kept value (found, false)) (',' :: (blank ++ ['"']) ++ _) _ more :=
      (reads_nextKey hblank).bind (hentry e he found more)
    rwa [List.cons_append, List.append_assoc] at h
  have hempty : Reads (entryStep .kept value ([], true)) [] none ('\x7d' :: rest) :=
    (reads_noKey allBlank_nil).last Reads.pure
  have hstop : ∀ found,
      Reads (entryStep .kept value (found, false)) closing none ('\x7d' :: rest) :=
    fun found => (reads_noKey hclosing).last Reads.pure
  exact reads_between hfirst (fun e _ => List.cons_ne_nil _ _) hnext hempty hstop

end Listings

end Reader

section Writing

theorem allBlank_lineStart (level : Nat) : Reader.AllBlank (lineStart level).toList := by
  intro c hc
  rw [lineStart, String.toList_append, List.mem_append] at hc
  obtain hc | hc := hc
  · obtain rfl : c = '\n' := by simpa using hc
    decide
  · rw [String.toList_ofList] at hc
    obtain rfl : c = ' ' := List.eq_of_mem_replicate hc
    decide

theorem intercalate_cons {α : Type} (separator text : List α) (more : List (List α)) :
    separator.intercalate (text :: more) = text ++ more.flatMap (separator ++ ·) := by
  induction more generalizing text with
  | nil => simp
  | cons text' more ih =>
    rw [List.intercalate_cons_cons, ih, List.flatMap_cons, List.append_assoc, List.append_assoc]

theorem toList_bracketed {α : Type} (level : Nat) (opening closing : String) (write : α → String)
    (items : List α) : (bracketed level opening closing (items.map write)).toList =
      opening.toList ++ (Reader.between (fun a => (write a).toList) (lineStart (level + 1)).toList
        (lineStart level).toList items ++ closing.toList) := by
  cases items with
  | nil => simp [bracketed, Reader.between]
  | cons a items =>
    simp only [bracketed, Reader.between, List.map_cons, List.isEmpty_cons, Bool.false_eq_true,
      if_false, String.toList_append, String.toList_intercalate, intercalate_cons]
    simp [List.flatMap_map]

theorem prettyItems_eq (level : Nat) (items : List Value) :
    prettyItems level items = items.map (Value.prettyAt level) := by
  induction items with
  | nil => rfl
  | cons v more ih => rw [prettyItems, ih, List.map_cons]

theorem prettyEntries_eq (level : Nat) (fields : List (String × Value)) :
    prettyEntries level fields = fields.map fun e =>
      String.ofList (Reader.writtenEntry (fun v => (v.prettyAt level).toList) e) := by
  induction fields with
  | nil => rfl
  | cons e more ih =>
    obtain ⟨key, v⟩ := e
    have hentry : quotedString key ++ ": " ++ v.prettyAt level =
        String.ofList (Reader.writtenEntry (fun v => (v.prettyAt level).toList) (key, v)) := by
      rw [← String.toList_inj]
      simp [Reader.writtenEntry, quotedString]
    rw [prettyEntries, ih, hentry, List.map_cons]

theorem setEntry_of_not_mem {key : String} {v : Value} {fields : List (String × Value)}
    (h : key ∉ fields.map Prod.fst) : setEntry key v fields = fields ++ [(key, v)] := by
  induction fields with
  | nil => rfl
  | cons e more ih =>
    obtain ⟨k, v'⟩ := e
    rw [List.map_cons, List.mem_cons, not_or] at h
    have hne : ¬ (k == key) = true := fun hk => h.1 (beq_iff_eq.mp hk).symm
    rw [setEntry, if_neg hne, ih h.2, List.cons_append]

/-- Distinct keys are kept in their order. -/
theorem distinctEntries_eq {fields : List (String × Value)} (h : (fields.map Prod.fst).Nodup) :
    distinctEntries fields = fields := by
  suffices hfold : ∀ done : List (String × Value), ((done ++ fields).map Prod.fst).Nodup →
      fields.foldl (fun done e => setEntry e.1 e.2 done) done = done ++ fields from hfold [] h
  induction fields with
  | nil => simp
  | cons e more ih =>
    intro done hdone
    have hmore : (more.map Prod.fst).Nodup := h.of_cons
    have hkey : e.1 ∉ done.map Prod.fst := by
      rw [List.map_append, List.nodup_append] at hdone
      exact fun he => hdone.2.2 e.1 he e.1 List.mem_cons_self rfl
    rw [List.foldl_cons, setEntry_of_not_mem hkey, ih hmore (done ++ [e]) (by simpa using hdone),
      List.append_assoc, List.singleton_append]

end Writing

section Values

/-- A value has no numbers, distinct keys in each object, and only so many levels of nesting. -/
inductive Value.Plain : Nat → Value → Prop
  | null {levels : Nat} : Plain (levels + 1) .null
  | boolean {levels : Nat} (b : Bool) : Plain (levels + 1) (.boolean b)
  | string {levels : Nat} (s : String) : Plain (levels + 1) (.string s)
  | array {levels : Nat} {items : List Value} (hlevels : levels ≠ 0)
    (hitems : ∀ v ∈ items, Plain levels v) : Plain (levels + 1) (.array items)
  | object {levels : Nat} {fields : List (String × Value)} (hlevels : levels ≠ 0)
    (hkeys : (fields.map Prod.fst).Nodup) (hfields : ∀ e ∈ fields, Plain levels e.2) :
    Plain (levels + 1) (.object fields)

variable {levels : Nat} {v : Value} {rest : List Char}

/-- The first character of a value without numbers tells which value it is. -/
def Value.firstChar : Value → Char
  | .boolean true => 't'
  | .boolean false => 'f'
  | .string _ => '"'
  | .array _ => '['
  | .object _ => '\x7b'
  | _ => 'n'

theorem Value.Plain.exists_prettyAt (h : v.Plain levels) (level : Nat) :
    ∃ text, (v.prettyAt level).toList = v.firstChar :: text := by
  cases h with
  | null => exact ⟨['u', 'l', 'l'], by rw [prettyAt]; rfl⟩
  | boolean b =>
    cases b with
    | true => exact ⟨['r', 'u', 'e'], by rw [prettyAt]; rfl⟩
    | false => exact ⟨['a', 'l', 's', 'e'], by rw [prettyAt]; rfl⟩
  | string s => exact ⟨_, by rw [prettyAt, quotedString, String.toList_ofList]; rfl⟩
  | array _ _ =>
    exact ⟨_, by rw [prettyAt, prettyItems_eq, toList_bracketed]; rfl⟩
  | object _ _ _ =>
    exact ⟨_, by rw [prettyAt, prettyEntries_eq, toList_bracketed]; rfl⟩

theorem Value.firstChar_opens (v : Value) :
    v.firstChar ∉ Reader.blankChars ∧ v.firstChar ≠ ']' := by
  cases v with
  | boolean b => cases b <;> decide
  | _ => exact ⟨by simp [firstChar, Reader.blankChars], by simp [firstChar]⟩

namespace Reader

theorem reads_wordLetter (letter : Char) : Reads (wordLetter letter) [letter] () rest := by
  unfold wordLetter
  refine Reads.peek ?_
  rw [List.cons_append, List.head?_cons]
  simp only [beq_self_eq_true, if_true]
  exact reads_skip letter

theorem reads_word (letters : List Char) : Reads (word letters) letters () rest := by
  induction letters with
  | nil => exact Reads.pure
  | cons letter more ih => exact (reads_wordLetter letter).bind ih

/-- A value is read from its text, behind blanks and in front of anything. -/
theorem reads_value (h : v.Plain levels) {blank : List Char} (hblank : AllBlank blank)
    (level : Nat) : Reads (valueWithin .kept levels) (blank ++ (v.prettyAt level).toList) v rest := by
  -- What stands in front and behind changes from a value to its parts.
  induction h generalizing blank level rest with
  | null =>
    rw [Value.prettyAt]
    refine Reads.behindBlanks hblank rfl (by decide) ?_
    exact Reads.skip ((reads_word ['u', 'l', 'l']).last Reads.pure)
  | boolean b =>
    rw [Value.prettyAt]
    cases b with
    | true =>
      refine Reads.behindBlanks hblank rfl (by decide) ?_
      exact Reads.skip ((reads_word ['r', 'u', 'e']).last Reads.pure)
    | false =>
      refine Reads.behindBlanks hblank rfl (by decide) ?_
      exact Reads.skip ((reads_word ['a', 'l', 's', 'e']).last Reads.pure)
  | string s =>
    rw [Value.prettyAt, quotedString, String.toList_ofList]
    refine Reads.behindBlanks hblank rfl (by decide) ?_
    exact Reads.skip ((reads_stringContent s).last Reads.pure)
  | @array levels items hlevels hitems ih =>
    have hopens : ∀ v ∈ items, ∀ more, Opens ((v.prettyAt (level + 1)).toList ++ more) := by
      intro v hv more
      obtain ⟨text, htext⟩ := (hitems v hv).exists_prettyAt (level + 1)
      exact ⟨v.firstChar, by rw [htext]; rfl, v.firstChar_opens⟩
    have hitems : ∀ v ∈ items, ∀ more,
        Reads (valueWithin .kept levels) (v.prettyAt (level + 1)).toList v more :=
      fun v hv _ => ih v hv allBlank_nil (level + 1)
    rw [Value.prettyAt, prettyItems_eq, toList_bracketed]
    refine Reads.behindBlanks hblank rfl (by decide) ?_
    simp only [beq_eq_false_iff_ne.mpr hlevels]
    refine Reads.skip (Reads.last ?_ Reads.pure)
    exact reads_elements (allBlank_lineStart (level + 1)) (allBlank_lineStart level) hopens hitems
  | @object levels fields hlevels hkeys hfields ih =>
    have hspace : AllBlank [' '] := by simp [AllBlank, blankChars]
    have hvalues : ∀ e ∈ fields, ∀ more,
        Reads (valueWithin .kept levels) (' ' :: (e.2.prettyAt (level + 1)).toList) e.2 more :=
      fun e he _ => ih e he hspace (level + 1)
    rw [Value.prettyAt, prettyEntries_eq, toList_bracketed]
    simp only [String.toList_ofList]
    refine Reads.behindBlanks hblank rfl (by decide) ?_
    simp only [beq_eq_false_iff_ne.mpr hlevels]
    refine Reads.skip (Reads.last (a := fields) ?_ ?_)
    · exact reads_entries (allBlank_lineStart (level + 1)) (allBlank_lineStart level) hvalues
    · rw [distinctEntries_eq hkeys]
      exact Reads.pure

end Reader

/-- A value is what its text is read as, whatever blanks stand behind it. -/
theorem parse_pretty_append (h : v.Plain Reader.maxLevels) {blank : String}
    (hblank : Reader.AllBlank blank.toList) : parse (v.pretty ++ blank) = .ok v := by
  have hending : Reader.Reads Reader.ending blank.toList () [] :=
    (Reader.reads_peekBehindBlanks hblank (fun _ hc => by simp at hc)).last Reader.Reads.pure
  have hdocument : Reader.Reads Reader.document (v.pretty.toList ++ blank.toList) v [] :=
    (Reader.reads_value h Reader.allBlank_nil 0).bind (hending.last Reader.Reads.pure)
  obtain ⟨line, column, hread⟩ := hdocument 1 0
  rw [List.append_nil, ← String.toList_append] at hread
  rw [parse, Cursor.ofText, hread]
  rfl

/-- A value is what its text is read as. -/
theorem parse_pretty (h : v.Plain Reader.maxLevels) : parse v.pretty = .ok v := by
  rw [← String.append_empty (s := v.pretty)]
  exact parse_pretty_append h Reader.allBlank_nil

end Values

end ColumnLineage.Json
