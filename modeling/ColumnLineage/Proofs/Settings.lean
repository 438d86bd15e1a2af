import ColumnLineage.Service.Config

/-!
# Which settings are loaded

The settings are those of a file: the one that is named, or else the usual one.  Only where the usual
file is not there, the usual settings take its place; a file that is there and cannot be read or is
not accepted ends the command.

## Main definitions

* `Config.Loads`: the settings that are loaded.
* `Config.Unsettled`: why none are.

## Main statements

* `Config.load_spec`, `Config.Loads.not_unsettled`: one of the two holds, and only one.
-/

namespace ColumnLineage.Service.Config

/-- The settings of the file that is named, else of the usual file, else the usual ones. -/
inductive Loads (read : Storage.Reading) : Option String → Config → Prop
  | named {path text : String} {settings : Config} (hread : read path = .ok text)
    (h : ofText text = .ok settings) : Loads read (some path) settings
  | usualFile {text : String} {settings : Config} (hread : read usualFile = .ok text)
    (h : ofText text = .ok settings) : Loads read none settings
  | usual {fault : Storage.ReadFault} (hread : read usualFile = .error fault)
    (habsent : fault.exists? = false) : Loads read none {}

/-- The file that is named cannot be read, the usual file is there and cannot be read, or what is
read is not accepted. -/
inductive Unsettled (read : Storage.Reading) : Option String → Prop
  | named {path : String} {fault : Storage.ReadFault} (hread : read path = .error fault) :
    Unsettled read (some path)
  | usualFile {fault : Storage.ReadFault} (hread : read usualFile = .error fault)
    (hthere : fault.exists? = true) : Unsettled read none
  | refused {path : Option String} {text : String} {failure : ConfigFailure}
    (hread : read (path.getD usualFile) = .ok text) (h : ofText text = .error failure) :
    Unsettled read path

/-- A text that is not accepted is no missing file. -/
theorem ofText_ne_notFound (text path : String) : ofText text ≠ .error (.notFound path) := by
  have hvalid (c : Config) : c.validate ≠ .error (.notFound path) := by
    rw [validate]
    cases c.badSetting? <;> simp
  have hshape (node : Option Yaml.Node) : ofNode? node ≠ .error (.notFound path) := by
    cases node with
    | none => simp [ofNode?]
    | some node =>
      rw [ofNode?]
      cases Yaml.fields sections {} node with
      | error mismatch => exact nofun
      | ok settings => exact nofun
  rw [ofText]
  split
  · exact nofun
  cases Yaml.Node.ofText text with
  | error fault => exact nofun
  | ok node =>
    -- What is left is the check of the settings that the node gives.
    change ofNode? node >>= validate ≠ _
    cases hnode : ofNode? node with
    | error failure => exact fun h => hshape node (hnode.trans h)
    | ok settings => exact hvalid settings

variable {read : Storage.Reading} {path : Option String}

theorem load_eq_ofText {text : String} (hread : read (path.getD usualFile) = .ok text) :
    load read path = ofText text := by
  cases path with
  | some path =>
    rw [Option.getD_some] at hread
    rw [load, ofFile, hread]
  | none =>
    rw [Option.getD_none] at hread
    rw [load, ofFile, hread]
    dsimp only
    split
    · exact absurd ‹_› (ofText_ne_notFound _ _)
    · rfl

variable (read path) in
theorem load_spec : (∃ settings, load read path = .ok settings ∧ Loads read path settings) ∨
    ∃ failure, load read path = .error failure ∧ Unsettled read path := by
  cases hread : read (path.getD usualFile) with
  | ok text =>
    rw [load_eq_ofText hread]
    cases htext : ofText text with
    | error failure => exact .inr ⟨failure, rfl, .refused hread htext⟩
    | ok settings =>
      cases path with
      | some path => exact .inl ⟨settings, rfl, .named hread htext⟩
      | none => exact .inl ⟨settings, rfl, .usualFile hread htext⟩
  | error fault =>
    cases path with
    | some path =>
      rw [Option.getD_some] at hread
      refine .inr ⟨if fault.exists? then .unreadable path fault else .notFound path, ?_,
        .named hread⟩
      cases hthere : fault.exists? <;> simp [load, ofFile, hread, hthere]
    | none =>
      rw [Option.getD_none] at hread
      cases hthere : fault.exists? with
      | true =>
        refine .inr ⟨.unreadable usualFile fault, ?_, .usualFile hread hthere⟩
        simp [load, ofFile, hread, hthere]
      | false =>
        refine .inl ⟨{}, ?_, .usual hread hthere⟩
        simp [load, ofFile, hread, hthere]

theorem Loads.not_unsettled {settings : Config} (h : Loads read path settings) :
    ¬ Unsettled read path := by
  intro hnone
  cases h <;> cases hnone <;> simp_all

end ColumnLineage.Service.Config
