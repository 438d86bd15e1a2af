/-!
# Arguments

The words of a command line are options, which start with a dash, and positional words.  An option
with a value has it behind an equals sign or in the next word.  The words of a command follow its
name.

## Main definitions

* `OptionRule`: an option.
* `Given`: what was given.
* `readWords`: reads words up to the first positional one.
* `Job`: a command with its arguments.
* `commandRules`: all commands with their options.
* `Invocation.ofWords`: the command of a command line.
-/

namespace ColumnLineage.Command

/-- What an option does. -/
inductive Effect where
  | value
  | flag
  | help
  | version
deriving DecidableEq, Repr

/-- An option. -/
structure OptionRule where
  name : String
  letter : Option Char := none
  effect : Effect := .value
  /-- What the option is for. -/
  purpose : String := ""
  /-- The value of the option where it is not given. -/
  usual : Option String := none
  /-- The option must be given. -/
  required : Bool := false
  /-- The option may be given more than once. -/
  repeats : Bool := false
  /-- The values that are allowed. -/
  accepts : String → Bool := fun _ => true

/-- Why no command is run. -/
inductive Stop where
  /-- Help is asked for, on a command or on all, at length or not. -/
  | help (command : Option String) (full : Bool)
  | version
  /-- The words make no sense. -/
  | misuse
deriving DecidableEq, Repr

/-- What was given: options with their values, the first one first, and positional words. -/
structure Given where
  options : List (String × String) := []
  positionals : List String := []
deriving DecidableEq, Repr

namespace Given

/-- The value of an option. -/
def value? (g : Given) (name : String) : Option String :=
  g.options.lookup name

/-- The value of an option that has a usual one. -/
def valueOr (g : Given) (name usual : String) : String :=
  (g.value? name).getD usual

/-- All values of an option. -/
def values (g : Given) (name : String) : List String :=
  (g.options.filter fun (option, _) => option == name).map (·.2)

/-- One more option with its value. -/
def add (g : Given) (rule : OptionRule) (value : String) : Except Stop Given :=
  match rule.effect with
  | .help => .error (.help none true)
  | .version => .error .version
  | _ =>
    if (!rule.repeats && (g.value? rule.name).isSome) || !rule.accepts value then .error .misuse
    else .ok { g with options := g.options ++ [(rule.name, value)] }

end Given

/-- A word that starts an option. -/
def startsOption (word : String) : Bool :=
  match word.toList with
  | '-' :: _ :: _ => true
  | _ => false

/-- Options by their letters behind one dash.  The last of them may have its value behind it or in the
next word. -/
def readLetters (rules : List OptionRule) : Given → List Char →
    Except Stop (Given × Option OptionRule)
  | given, [] => .ok (given, none)
  | given, letter :: more =>
    match rules.find? fun rule => rule.letter == some letter with
    | none => .error .misuse
    | some rule =>
      if rule.effect == .value then
        match more with
        | [] => .ok (given, some rule)
        | '=' :: value => do return (← given.add rule (String.ofList value), none)
        | value => do return (← given.add rule (String.ofList value), none)
      else if rule.effect == .help then .error (.help none false)
      else do readLetters rules (← given.add rule "") more

/-- An option by its name behind two dashes. -/
def readName (rules : List OptionRule) (given : Given) (word : List Char) :
    Except Stop (Given × Option OptionRule) :=
  let name := String.ofList (word.takeWhile (· != '='))
  match rules.find? fun rule => rule.name == name with
  | none => .error .misuse
  | some rule =>
    match rule.effect == .value, word.dropWhile (· != '=') with
    | true, [] => .ok (given, some rule)
    | true, _ :: value => do return (← given.add rule (String.ofList value), none)
    | false, [] => do return (← given.add rule "", none)
    | false, _ :: _ => .error .misuse

/-- Reads words up to the first positional one, which remains with those behind it.  `pending` is an
option that waits for its value. -/
def readWords (rules : List OptionRule) : Option OptionRule → Given → List String →
    Except Stop (Given × List String)
  | some _, _, [] => .error .misuse
  | none, given, [] => .ok (given, [])
  | some rule, given, word :: more =>
    if startsOption word then .error .misuse
    else do readWords rules none (← given.add rule word) more
  | none, given, word :: more =>
    match word.toList with
    | '-' :: '-' :: [] => .ok (given, word :: more)
    | '-' :: '-' :: name => do
      let (given, pending) ← readName rules given name
      readWords rules pending given more
    | '-' :: letter :: letters => do
      let (given, pending) ← readLetters rules given (letter :: letters)
      readWords rules pending given more
    | _ => .ok (given, word :: more)

/-- Reads all words of a command.  Behind two dashes all words are positional.  `fuel` bounds the
number of positional words. -/
def readAllWithin (rules : List OptionRule) : Nat → Given → List String → Except Stop Given
  | 0, _, _ => .error .misuse
  | fuel + 1, given, words => do
    match ← readWords rules none given words with
    | (given, []) => return given
    | (given, "--" :: more) => return { given with positionals := given.positionals ++ more }
    | (given, word :: more) =>
      readAllWithin rules fuel { given with positionals := given.positionals ++ [word] } more

/-- Reads all words of a command. -/
def readAll (rules : List OptionRule) (words : List String) : Except Stop Given :=
  readAllWithin rules (words.length + 1) {} words

/-- How rows are printed. -/
inductive OutputFormat where
  | json
  | table
deriving DecidableEq, Repr

/-- The format of a name. -/
def OutputFormat.ofName : String → Option OutputFormat
  | "json" => some .json
  | "table" => some .table
  | _ => none

/-- Where texts come from. -/
inductive TextSource where
  | inline (sql : String)
  | standardInput
  | files (paths : List String)
deriving DecidableEq, Repr

/-- The files that texts come from. -/
def TextSource.paths : TextSource → List String
  | .files paths => paths
  | .inline _ | .standardInput => []

/-- The arguments of the command that traces texts. -/
structure ExtractArguments where
  source : TextSource
  regulation : String
  metadataKey : String
  viewName : Option String
  dialect : Option String
  output : OutputFormat
deriving DecidableEq, Repr

/-- The arguments of the command that traces the views of a document. -/
structure MetadataArguments where
  file : String
  regulation : String
  metadataKey : String
  viewNames : List String
  output : OutputFormat
deriving DecidableEq, Repr

/-- The arguments of the command that starts the server. -/
structure ServeArguments where
  host : Option String
  port : Option Nat
deriving DecidableEq, Repr

/-- A command with its arguments. -/
inductive Job where
  | extract (arguments : ExtractArguments)
  | metadata (arguments : MetadataArguments)
  | remarks
  | serve (arguments : ServeArguments)
deriving DecidableEq, Repr

/-- The number of a text: digits, of which the first may have a plus sign in front. -/
def numberOfText (text : String) : Option Nat :=
  let digits := match text.toList with
    | '+' :: digits => digits
    | digits => digits
  if !digits.isEmpty && digits.all Char.isDigit then
    some (digits.foldl (fun n c => n * 10 + (c.toNat - '0'.toNat)) 0)
  else none

/-- The port of a text. -/
def portOfText (text : String) : Option Nat :=
  let negativeZero := match text.toList with
    | '-' :: digits => !digits.isEmpty && digits.all (· == '0')
    | _ => false
  if negativeZero then some 0 else (numberOfText text).filter (· < Nat.pow 2 16)

/-- Options that every command has. -/
def sharedRules : List OptionRule :=
  [{ name := "verbose", letter := some 'v', effect := .flag, purpose := "Enable verbose output" },
    { name := "config", letter := some 'c', accepts := fun path => !path.isEmpty
      purpose := "Config file path (default: ./sqllineage.yml when present)" },
    { name := "help", letter := some 'h', effect := .help, purpose := "Print help" }]

/-- Options in front of a command. -/
def frontRules : List OptionRule :=
  sharedRules ++
    [{ name := "version", letter := some 'V', effect := .version, purpose := "Print version" }]

/-- What is written on every row. -/
def tagRules (regulation : Option String) : List OptionRule :=
  [{ name := "regulation", usual := regulation, required := regulation.isNone
     purpose := "Regulation tag copied onto every row" },
    { name := "metadatakey", usual := some ""
      purpose := "Metadata key tag copied onto every row" }]

/-- How rows are printed. -/
def outputRule : OptionRule where
  name := "output"
  letter := some 'o'
  purpose := "Output format"
  usual := some "json"
  accepts := fun name => (OutputFormat.ofName name).isSome

/-- Options of the command that traces texts. -/
def extractRules : List OptionRule :=
  { name := "sql", purpose := "Inline SQL text" } :: tagRules (some "") ++
    [{ name := "view-name", purpose := "View name tag (defaults to each file's stem)" },
      { name := "dialect", letter := some 'd', purpose := "Override the configured SQL dialect" },
      outputRule] ++ sharedRules

/-- Options of the command that traces the views of a document. -/
def metadataRules : List OptionRule :=
  tagRules none ++
    [{ name := "view-names", repeats := true
       purpose := "Views to process (comma-separated, default: all)" }, outputRule] ++ sharedRules

/-- Options of the command that starts the server. -/
def serveRules : List OptionRule :=
  [{ name := "host", purpose := "Bind address (overrides server.host)" },
    { name := "port", accepts := fun port => (portOfText port).isSome
      purpose := "Port (overrides server.port)" }] ++ sharedRules

/-- How rows are to be printed. -/
def Given.output (g : Given) : OutputFormat :=
  ((g.value? "output").bind OutputFormat.ofName).getD .json

/-- Where texts are to come from: a text or files, but not both. -/
def Given.source (g : Given) : Except Stop TextSource :=
  match g.value? "sql", g.positionals with
  | some sql, [] => .ok (.inline sql)
  | some _, _ :: _ => .error .misuse
  | none, [] => .ok .standardInput
  | none, paths => if paths.any (·.isEmpty) then .error .misuse else .ok (.files paths)

/-- The values of an option, each of which may be several between commas. -/
def Given.listed (g : Given) (name : String) : List String :=
  (g.values name).flatMap (·.splitOn ",")

/-- The command that traces texts. -/
def extractOfGiven (g : Given) : Except Stop Job := do
  return .extract
    { source := ← g.source
      regulation := g.valueOr "regulation" ""
      metadataKey := g.valueOr "metadatakey" ""
      viewName := g.value? "view-name"
      dialect := g.value? "dialect"
      output := g.output }

/-- The command that traces the views of a document. -/
def metadataOfGiven (g : Given) : Except Stop Job :=
  match g.positionals, g.value? "regulation" with
  | [file], some regulation =>
    if file.isEmpty then .error .misuse
    else .ok (.metadata
      { file, regulation
        metadataKey := g.valueOr "metadatakey" ""
        viewNames := g.listed "view-names"
        output := g.output })
  | _, _ => .error .misuse

/-- The command that lists the remarks. -/
def remarksOfGiven (g : Given) : Except Stop Job :=
  if g.positionals.isEmpty then .ok .remarks else .error .misuse

/-- The command that starts the server. -/
def serveOfGiven (g : Given) : Except Stop Job :=
  if g.positionals.isEmpty then
    .ok (.serve ⟨g.value? "host", (g.value? "port").bind portOfText⟩)
  else .error .misuse

/-- A command by its name. -/
structure CommandRule where
  name : String
  purpose : String
  /-- The positional words, as help shows them, and what they are for. -/
  positional : Option (String × String) := none
  rules : List OptionRule
  /-- The command of what is given. -/
  ofGiven : Given → Except Stop Job

/-- All commands. -/
def commandRules : List CommandRule :=
  [{ name := "extract", rules := extractRules, ofGiven := extractOfGiven
     purpose := "Extract lineage rows from SQL files, inline SQL or stdin"
     positional := some ("[FILES]...",
       "SQL files to read (reads stdin when neither files nor --sql are given)") },
    { name := "metadata", rules := metadataRules, ofGiven := metadataOfGiven
      purpose := "Extract lineage for every view query in a metadata JSON document"
      positional := some ("<FILE>", "Metadata JSON file") },
    { name := "remarks", rules := sharedRules, ofGiven := remarksOfGiven
      purpose := "List every remark the engine can attach to a row" },
    { name := "serve", rules := serveRules, ofGiven := serveOfGiven
      purpose := "Serve lineage extraction over HTTP" }]

/-- The command of a name. -/
def commandNamed (name : String) : Option CommandRule :=
  commandRules.find? fun rule => rule.name == name

/-- A command line: the file of the configuration and the command. -/
structure Invocation where
  config : Option String
  command : Job
deriving DecidableEq, Repr

namespace Invocation

/-- A call for help, which may name a command. -/
def helpFor : List String → Stop
  | [] => .help none true
  | ["help"] => .help none true
  | [name] => if (commandNamed name).isSome then .help (some name) true else .misuse
  | _ => .misuse

/-- Help that is asked for among the words of a command is on that command. -/
def onCommand (name : String) : Stop → Stop
  | .help none full => .help (some name) full
  | stop => stop

/-- The command of a command line.  The file of the configuration may be named behind the command or
in front of it, or else by the environment, which must not name it by nothing. -/
def ofWords (environment : Option String) (words : List String) : Except Stop Invocation := do
  let (front, rest) ← readWords frontRules none {} words
  match rest with
  | [] => throw .misuse
  | "help" :: names => throw (helpFor names)
  | name :: rest =>
    match commandNamed name with
    | none => throw .misuse
    | some rule =>
      let given ← (readAll rule.rules rest).mapError (onCommand name)
      if environment == some "" then throw .misuse
      let config := given.value? "config" <|> front.value? "config" <|> environment
      return ⟨config, ← rule.ofGiven given⟩

end Invocation

end ColumnLineage.Command
