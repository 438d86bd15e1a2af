import ColumnLineage.Command.Arguments

/-!
# Help

Help on a command tells its purpose, how it is called, and what each option is for.  In short, an
option takes one line; at length, its purpose stands below it, with the values that it allows.

## Main definitions

* `helpText`: the help on all commands or on one.
* `versionText`: the version.
-/

namespace ColumnLineage.Command

/-- The name of the program. -/
def programName : String := "sl"

/-- The version. -/
def versionText : String := programName ++ " 0.1.0\n"

/-- The environment variable that names the file of the configuration. -/
def configVariable : String := "SQLLINEAGE_CONFIG"

/-- What the program is for. -/
def programPurpose : String :=
  "sqllineage CLI - column-level lineage for SQL views and metadata documents"

/-- The formats of the output, with what they are. -/
def outputFormats : List (String × String) :=
  [("json", "Pretty-printed JSON"), ("table", "Aligned text table")]

/-- Blanks. -/
def indentation (width : Nat) : String :=
  String.ofList (List.replicate width ' ')

/-- The texts with the widest one's width. -/
def widest (texts : List String) : Nat :=
  (texts.map String.length).foldl max 0

/-- The name of a value: the name of its option in capital letters. -/
def valueName (name : String) : String :=
  String.ofList (name.toList.map fun c => if c == '-' then '_' else c.toUpper)

namespace OptionRule

/-- An option by its name, with the name of its value. -/
def form (rule : OptionRule) : String :=
  "--" ++ rule.name ++ (if rule.effect == .value then " <" ++ valueName rule.name ++ ">" else "")

/-- An option by its letter and its name. -/
def forms (rule : OptionRule) : String :=
  match rule.letter with
  | some letter => "  -" ++ letter.toString ++ ", " ++ rule.form
  | none => "      " ++ rule.form

/-- The values of an option that are explained. -/
def choices (rule : OptionRule) : List (String × String) :=
  if rule.name == outputRule.name then outputFormats else []

/-- Remarks on the value of an option. -/
def notes (rule : OptionRule) (environment : Option String) (full : Bool) : List String :=
  (if rule.name == "config" then
    ["[env: " ++ configVariable ++ "=" ++ environment.getD "" ++ "]"] else []) ++
  (rule.usual.map fun usual => "[default: " ++ usual ++ "]").toList ++
  (if full || rule.choices.isEmpty then []
    else ["[possible values: " ++ ", ".intercalate (rule.choices.map (·.1)) ++ "]"])

end OptionRule

/-- The purpose of an option; the one that asks for help tells of the other way to ask. -/
def purposeOf (rules : List OptionRule) (full : Bool) (rule : OptionRule) : String :=
  if rule.effect == .help && rules.any fun rule => !rule.choices.isEmpty then
    rule.purpose ++ (if full then " (see a summary with '-h')" else " (see more with '--help')")
  else rule.purpose

/-- An option in one line. -/
def shortEntry (environment : Option String) (rules : List OptionRule) (rule : OptionRule) :
    String :=
  let gap := indentation (widest (rules.map OptionRule.form) - rule.form.length + 2)
  rule.forms ++ gap ++
    " ".intercalate (purposeOf rules false rule :: rule.notes environment false)

/-- The values that an option allows, below it. -/
def choiceLines (rule : OptionRule) : String :=
  match rule.choices with
  | [] => ""
  | choices =>
    let width := widest (choices.map (·.1))
    "\n\n" ++ indentation 10 ++ "Possible values:" ++ String.join (choices.map fun (name, purpose) =>
      "\n" ++ indentation 10 ++ "- " ++ name ++ ": " ++ indentation (width - name.length) ++ purpose)

/-- An option with its purpose below it. -/
def fullEntry (environment : Option String) (rules : List OptionRule) (rule : OptionRule) :
    String :=
  let below := "\n" ++ indentation 10
  let notes := match rule.notes environment true with
    | [] => ""
    | notes => below ++ below ++ below.intercalate notes
  rule.forms ++ below ++ purposeOf rules true rule ++ notes ++ choiceLines rule

/-- The options of a command. -/
def optionSection (environment : Option String) (full : Bool) (rules : List OptionRule) :
    String :=
  let entries :=
    if full then "\n\n".intercalate (rules.map (fullEntry environment rules))
    else "\n".intercalate (rules.map (shortEntry environment rules))
  "Options:\n" ++ entries ++ "\n"

/-- The positional words of a command. -/
def positionalSection (full : Bool) : Option (String × String) → String
  | none => ""
  | some (form, purpose) =>
    "Arguments:\n  " ++ form ++ (if full then "\n" ++ indentation 10 else "  ") ++ purpose ++ "\n\n"

/-- How a command is called. -/
def usageLine (rule : CommandRule) : String :=
  let required := (rule.rules.filter OptionRule.required).map OptionRule.form
  " ".intercalate (["Usage:", programName, rule.name, "[OPTIONS]"] ++ required ++
    (rule.positional.map (·.1)).toList)

/-- The help on a command. -/
def commandHelp (environment : Option String) (full : Bool) (rule : CommandRule) : String :=
  let full := full && rule.rules.any fun rule => !rule.choices.isEmpty
  rule.purpose ++ "\n\n" ++ usageLine rule ++ "\n\n" ++ positionalSection full rule.positional ++
    optionSection environment full rule.rules

/-- The list of commands. -/
def commandSection : String :=
  let commands := commandRules.map (fun rule => (rule.name, rule.purpose)) ++
    [("help", "Print this message or the help of the given subcommand(s)")]
  let width := widest (commands.map (·.1))
  "Commands:\n" ++ String.join (commands.map fun (name, purpose) =>
    "  " ++ name ++ indentation (width - name.length + 2) ++ purpose ++ "\n")

/-- The help on all commands. -/
def programHelp (environment : Option String) : String :=
  programPurpose ++ "\n\nUsage: " ++ programName ++ " [OPTIONS] <COMMAND>\n\n" ++ commandSection ++
    "\n" ++ optionSection environment false frontRules

/-- The help on a command, or on all. -/
def helpText (environment : Option String) (full : Bool) (command : Option String) : String :=
  match command.bind commandNamed with
  | some rule => commandHelp environment full rule
  | none => programHelp environment

end ColumnLineage.Command
