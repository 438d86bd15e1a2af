import ColumnLineage.Command.Run
import ColumnLineage.Proofs.FileStems
import ColumnLineage.Proofs.Settings
import ColumnLineage.Proofs.WireForm

/-!
# Tracing from the command line

The command that traces texts reads all that it needs before it prints anything: where a setting, a
file or the standard input is missing, it prints no row at all.  Else it prints the rows of every
text, one text after the other, so that they can be read from what is printed, and its code tells
whether one of the texts has no statements.

## Main definitions

* `ChoosesDialect`: options with the dialect that is named.
* `Reads`: the texts of some arguments.
* `Blocked`: something that the command needs cannot be read or is not accepted.
* `Prepared`: the options and texts that the command works with.
* `TellsRows`: a text from which rows can be read.
* `Traces`: what the command prints for some texts, and its code.

## Main statements

* `blocked_or_prepared`: the command fails or has all that it needs.
* `run_extract`: the command prints nothing, or the rows of all texts.
-/

namespace ColumnLineage.Command

open Lineage Service Sql

section Inputs

variable (around : Surroundings) (config : Option String) (arguments : ExtractArguments)

/-- Options with the dialect that is named, if one is. -/
inductive ChoosesDialect (options : Options) : Option String → Options → Prop
  | usual : ChoosesDialect options none options
  | named {name : String} {dialect : Dialect} (h : Dialect.ofName name = .ok dialect) :
    ChoosesDialect options (some name) { options with dialect }

/-- The texts of some arguments, each under the name that is given or else that of its file. -/
inductive Reads : TextSource → List NamedText → Prop
  | inline (sql : String) : Reads (.inline sql) [⟨arguments.viewName.getD "", sql⟩]
  | standardInput {sql : String} (h : around.standardInput = .ok sql) :
    Reads .standardInput [⟨arguments.viewName.getD "", sql⟩]
  | files {paths : List String} {texts : List NamedText}
    (h : List.Forall₂ (fun path text => around.read path = .ok text.sql ∧
      ∃ stem, Storage.Stem path stem ∧ text.viewName = arguments.viewName.getD stem) paths texts) :
    Reads (.files paths) texts

/-- Something that the command needs cannot be read or is not accepted. -/
inductive Blocked : Prop
  | config (h : Config.Unsettled around.read config)
  | dialect {name : String} {failure : UnknownDialect} (hname : arguments.dialect = some name)
    (h : Dialect.ofName name = .error failure)
  | file {path : String} {fault : Storage.ReadFault} (hpath : path ∈ arguments.source.paths)
    (h : around.read path = .error fault)
  | standardInput {fault : Storage.ReadFault} (hsource : arguments.source = .standardInput)
    (h : around.standardInput = .error fault)

/-- The options and texts that the command works with. -/
structure Prepared (options : Options) (texts : List NamedText) : Prop where
  options : ∃ settings, Config.Loads around.read config settings ∧
    ChoosesDialect settings.lineage arguments.dialect options
  texts : Reads around arguments arguments.source texts

/-- A dialect is chosen, or the name of one is not known. -/
theorem withDialect_spec (options : Options) (name : Option String) :
    (∃ chosen, withDialect options name = .ok chosen ∧ ChoosesDialect options name chosen) ∨
      ∃ given failure unknown, name = some given ∧ Dialect.ofName given = .error unknown ∧
        withDialect options name = .error failure := by
  cases name with
  | none => exact .inl ⟨options, rfl, .usual⟩
  | some given =>
    cases hgiven : Dialect.ofName given with
    | ok dialect =>
      refine .inl ⟨{ options with dialect }, ?_, .named hgiven⟩
      simp [withDialect, hgiven]
    | error unknown =>
      refine .inr ⟨given, ⟨unknown.message, []⟩, unknown, rfl, hgiven, ?_⟩
      simp [withDialect, hgiven]

/-- All texts are read, or something among them cannot be read. -/
theorem textsOf_spec :
    (∃ texts, textsOf around arguments = .ok texts ∧
        Reads around arguments arguments.source texts) ∨
      ∃ failure, textsOf around arguments = .error failure ∧ Blocked around config arguments := by
  cases hsource : arguments.source with
  | inline sql => exact .inl ⟨_, by simp [textsOf, hsource], .inline sql⟩
  | standardInput =>
    simp only [textsOf, hsource]
    cases hinput : around.standardInput with
    | ok sql =>
      exact .inl ⟨_, by simp [inputText, hinput, Except.mapError], .standardInput hinput⟩
    | error fault =>
      exact .inr ⟨_, by simp [inputText, hinput, Except.mapError]; rfl,
        .standardInput hsource hinput⟩
  | files paths =>
    simp only [textsOf, hsource]
    obtain ⟨texts, hall, hread⟩ | ⟨path, hpath, failure, hfails, herror⟩ := mapM_except _ paths
    · refine .inl ⟨texts, hall, .files (hread.imp fun path text h => ?_)⟩
      cases hfile : around.read path with
      | error fault => simp [fileText, hfile, Except.mapError, bind, Except.bind] at h
      | ok sql =>
        obtain rfl : NamedText.mk (arguments.viewName.getD (Storage.fileStem path)) sql = text := by
          simpa [fileText, hfile, Except.mapError, bind, Except.bind, pure, Except.pure] using h
        exact ⟨rfl, _, Storage.stem_iff.mpr rfl, rfl⟩
    · refine .inr ⟨failure, herror, ?_⟩
      cases hfile : around.read path with
      | error fault => exact .file (by rwa [hsource]) hfile
      | ok sql =>
        simp [fileText, hfile, Except.mapError, bind, Except.bind, pure, Except.pure] at hfails

variable {around config arguments}

theorem Reads.read_file {source : TextSource} {texts : List NamedText}
    (h : Reads around arguments source texts) {path : String} (hpath : path ∈ source.paths) :
    ∃ sql, around.read path = .ok sql := by
  cases h with
  | inline sql => simp [TextSource.paths] at hpath
  | standardInput _ => simp [TextSource.paths] at hpath
  | files hall =>
    rw [TextSource.paths] at hpath
    induction hall with
    | nil => simp at hpath
    | cons hread _ ih =>
      obtain rfl | hpath := List.mem_cons.mp hpath
      · exact ⟨_, hread.1⟩
      · exact ih hpath

theorem Prepared.not_blocked {options : Options} {texts : List NamedText}
    (h : Prepared around config arguments options texts) : ¬ Blocked around config arguments := by
  obtain ⟨⟨settings, hsettings, hdialect⟩, htexts⟩ := h
  intro hblocked
  cases hblocked with
  | config hconfig => exact hsettings.not_unsettled hconfig
  | dialect hname hunknown =>
    rw [hname] at hdialect
    cases hdialect with
    | named hknown => simp [hunknown] at hknown
  | file hpath hfault =>
    obtain ⟨sql, hread⟩ := htexts.read_file hpath
    simp [hfault] at hread
  | standardInput hsource hfault =>
    rw [hsource] at htexts
    cases htexts with
    | standardInput hread => simp [hfault] at hread

/-- The command fails, or has all that it needs. -/
theorem blocked_or_prepared (around : Surroundings) (config : Option String)
    (arguments : ExtractArguments) :
    (∃ failure, runCommand around ⟨config, .extract arguments⟩ = .error failure ∧
      Blocked around config arguments) ∨
      ∃ options texts, runCommand around ⟨config, .extract arguments⟩ =
          .ok (traceTexts options arguments texts) ∧
        Prepared around config arguments options texts := by
  -- The settings come first, then the dialect, then the files; what fails first ends the command.
  obtain ⟨settings, hload, hsettings⟩ | ⟨failure, hload, hunsettled⟩ :=
    Config.load_spec around.read config
  · have hrun : runCommand around ⟨config, .extract arguments⟩ =
        runExtract around settings arguments := by
      simp [runCommand, configOf, hload, Except.mapError]; rfl
    rw [hrun, runExtract]
    obtain ⟨options, hoptions, hchosen⟩ | ⟨name, failure, unknown, hname, hunknown, hfails⟩ :=
      withDialect_spec settings.lineage arguments.dialect
    · rw [hoptions]
      obtain ⟨texts, htexts, hreads⟩ | ⟨failure, hfails, hblocked⟩ :=
        textsOf_spec around config arguments
      · rw [htexts]
        exact .inr ⟨options, texts, rfl, ⟨settings, hsettings, hchosen⟩, hreads⟩
      · rw [hfails]
        exact .inl ⟨failure, rfl, hblocked⟩
    · rw [hfails]
      exact .inl ⟨failure, rfl, .dialect hname hunknown⟩
  · exact .inl ⟨_, by simp [runCommand, configOf, hload, Except.mapError]; rfl, .config hunsettled⟩

end Inputs

section Outcomes

variable {around : Surroundings} {words : List String} {config : Option String}
  {arguments : ExtractArguments}

/-- The rows of a text under the tags that are given. -/
def rowsOf (options : Options) (arguments : ExtractArguments) (text : NamedText) : List Row :=
  extract options text.sql ⟨arguments.regulation, arguments.metadataKey, text.viewName⟩

/-- Rows can be read from a text: it holds the list of their objects, which give the rows again. -/
structure TellsRows (rows : List Row) (text : String) : Prop where
  document : Json.parse text = .ok (.array (rows.map Row.toJson))
  decoded : Json.list Row.ofJson (.array (rows.map Row.toJson)) = .ok rows

theorem tellsRows_rowsText (rows : List Row) : TellsRows rows (rowsText rows .json) where
  document := by
    have hnewline : Json.Reader.AllBlank "\n".toList := by
      simp [Json.Reader.AllBlank, Json.Reader.blankChars]
    rw [rowsText, Json.parse_pretty_append (Row.plain_array rows) hnewline]
  decoded := Row.listOfJson_array rows

/-- A text is told to have no statements. -/
def TellsFailure (rows : List Row) : Prop :=
  ∃ row ∈ rows, Remark.techFailure ∈ row.remarks

/-- What the command leaves behind once it has all that it needs: the rows of all texts, one text
after the other, and a code that tells whether some text has no statements. -/
structure Traces (options : Options) (arguments : ExtractArguments) (texts : List NamedText)
    (outcome : Outcome) : Prop where
  printed : outcome.output =
    rowsText (texts.flatMap (rowsOf options arguments)) arguments.output
  json : arguments.output = .json →
    TellsRows (texts.flatMap (rowsOf options arguments)) outcome.output
  table : arguments.output = .table →
    outcome.output = (rowTable (texts.flatMap (rowsOf options arguments))).text
  failed : (∃ text ∈ texts, TellsFailure (rowsOf options arguments text)) → outcome.code = 1
  succeeded : (¬ ∃ text ∈ texts, TellsFailure (rowsOf options arguments text)) → outcome.code = 0

theorem traces_traceTexts (options : Options) (arguments : ExtractArguments)
    (texts : List NamedText) :
    Traces options arguments texts (traceTexts options arguments texts) := by
  have htold : (∃ text ∈ texts, TellsFailure (rowsOf options arguments text)) ↔
      0 < (texts.map (rowsOf options arguments)).countP isTechFailure := by
    simp [List.countP_pos_iff, TellsFailure, isTechFailure, Row.has]
  have hcode : (traceTexts options arguments texts).code =
      if (texts.map (rowsOf options arguments)).countP isTechFailure > 0 then 1 else 0 := rfl
  have hprinted : (traceTexts options arguments texts).output =
      rowsText (texts.flatMap (rowsOf options arguments)) arguments.output := by
    rw [List.flatMap_def]
    rfl
  exact {
    printed := hprinted
    json := fun h => by
      rw [hprinted, h]
      exact tellsRows_rowsText _
    table := fun h => by rw [hprinted, h, rowsText]
    failed := fun h => by rw [hcode, if_pos (htold.mp h)]
    succeeded := fun h => by rw [hcode, if_neg (mt htold.mpr h)] }

/-- The command that traces texts prints nothing where something that it needs is missing.  Else it
prints the rows of every text, one text after the other, which can be read again from what is
printed as JSON, and ends with code 1 exactly if the rows of some text tell that it has no
statements. -/
theorem run_extract
    (h : Invocation.ofWords around.config words = .ok ⟨config, .extract arguments⟩) :
    (Blocked around config arguments → (run around words).output = "" ∧
      (run around words).code = 1 ∧ (run around words).errors ≠ "") ∧
    (¬ Blocked around config arguments → ∃ options texts,
      Prepared around config arguments options texts ∧
        Traces options arguments texts (run around words)) := by
  have hok {outcome : Outcome}
      (hcommand : runCommand around ⟨config, .extract arguments⟩ = .ok outcome) :
      run around words = outcome := by
    simp [run, h, hcommand]
  have herror {failure : Failure}
      (hcommand : runCommand around ⟨config, .extract arguments⟩ = .error failure) :
      run around words = failure.outcome := by
    simp [run, h, hcommand]
  obtain ⟨failure, hfails, hblocked⟩ | ⟨options, texts, htraced, hprepared⟩ :=
    blocked_or_prepared around config arguments
  · rw [herror hfails]
    refine ⟨fun _ => ⟨rfl, rfl, ?_⟩, fun hfree => absurd hblocked hfree⟩
    simp [Failure.outcome, Failure.text]
  · rw [hok htraced]
    refine ⟨fun hblocked => absurd hblocked hprepared.not_blocked, fun _ => ?_⟩
    exact ⟨options, texts, hprepared, traces_traceTexts options arguments texts⟩

/-- Two files, of which the second has no statements, and no file of a configuration. -/
def twoFiles : Surroundings where
  read path :=
    if path == "dir/a.sql" then .ok "SELECT x FROM db.t"
    else if path == "b.sql" then .ok "SELECT FROM" else .error .missing

/-- The arguments that name some files and nothing else. -/
def filesAlone (paths : List String) : ExtractArguments where
  source := .files paths
  regulation := ""
  metadataKey := ""
  viewName := none
  dialect := none
  output := .json

theorem run_extract_twoFiles :
    (Invocation.ofWords none ["extract", "dir/a.sql", "b.sql", "c.sql"] =
        .ok ⟨none, .extract (filesAlone ["dir/a.sql", "b.sql", "c.sql"])⟩ ∧
      Blocked twoFiles none (filesAlone ["dir/a.sql", "b.sql", "c.sql"]) ∧
      (run twoFiles ["extract", "dir/a.sql", "b.sql", "c.sql"]).output = "") ∧
    Invocation.ofWords none ["extract", "dir/a.sql", "b.sql"] =
        .ok ⟨none, .extract (filesAlone ["dir/a.sql", "b.sql"])⟩ ∧
      ¬ Blocked twoFiles none (filesAlone ["dir/a.sql", "b.sql"]) ∧
      ∃ options texts, Prepared twoFiles none (filesAlone ["dir/a.sql", "b.sql"]) options texts ∧
        TellsRows (texts.flatMap (rowsOf options (filesAlone ["dir/a.sql", "b.sql"])))
          (run twoFiles ["extract", "dir/a.sql", "b.sql"]).output := by
  have hmore : Invocation.ofWords none ["extract", "dir/a.sql", "b.sql", "c.sql"] =
      .ok ⟨none, .extract (filesAlone ["dir/a.sql", "b.sql", "c.sql"])⟩ := by decide +kernel
  have hmissing : twoFiles.read "c.sql" = .error .missing := by simp [twoFiles]
  have hblocked : Blocked twoFiles none (filesAlone ["dir/a.sql", "b.sql", "c.sql"]) :=
    .file (by simp [filesAlone, TextSource.paths]) hmissing
  have husual : twoFiles.read Config.usualFile = .error .missing := by
    simp [twoFiles, Config.usualFile]
  have htwo : Invocation.ofWords none ["extract", "dir/a.sql", "b.sql"] =
      .ok ⟨none, .extract (filesAlone ["dir/a.sql", "b.sql"])⟩ := by decide +kernel
  have hfree : ¬ Blocked twoFiles none (filesAlone ["dir/a.sql", "b.sql"]) := by
    rintro (hconfig | ⟨hname, -⟩ | ⟨hpath, hfault⟩ | ⟨hsource, -⟩)
    · exact (Config.Loads.usual husual rfl).not_unsettled hconfig
    · simp [filesAlone] at hname
    · simp only [filesAlone, TextSource.paths, List.mem_cons, List.not_mem_nil, or_false] at hpath
      obtain rfl | rfl := hpath
      · simp [twoFiles] at hfault
      · simp [twoFiles] at hfault
    · simp [filesAlone] at hsource
  obtain ⟨options, texts, hprepared, htraces⟩ := (run_extract htwo).2 hfree
  exact ⟨⟨hmore, hblocked, ((run_extract hmore).1 hblocked).1⟩, htwo, hfree, options, texts,
    hprepared, htraces.json rfl⟩

end Outcomes

end ColumnLineage.Command
