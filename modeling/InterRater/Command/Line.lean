import InterRater.Command.Basic

/-!
# Command lines

A command line is the name of a command followed by options.  `Command.ofLine` reads it word by
word.  An option whose value is the next word stays open until the following option or the end of
the line, and only then is it looked at; so a later word can be at fault first.
-/

namespace InterRater

/-- What a command line asks for other than a command, or what is wrong with it. -/
inductive LineFault where
  /-- There is no word, so help is shown. -/
  | empty
  | help
  | version
  | unknownCommand
  | missingOption
  /-- An option has no value, or an empty one where a path is wanted. -/
  | missingValue
  | repeatedOption
  /-- A flag has a value. -/
  | surplusValue
  /-- A word that nothing takes. -/
  | unknownWord
  deriving DecidableEq, Repr

/-! ### Words -/

/-- The sorts of words. -/
inductive LineWord where
  /-- Two dashes: no options follow. -/
  | separator
  | long (name : String) (value : Option String)
  /-- A dash, a letter, and more. -/
  | short (letter : Char)
  | plain (text : String)
  deriving DecidableEq, Repr

namespace LineWord

/-- The name and the value of a long option. -/
def ofLong (text : List Char) : LineWord :=
  match text.span (· ≠ '=') with
  | (name, '=' :: value) => .long (String.ofList name) (some (String.ofList value))
  | (name, _) => .long (String.ofList name) none

def ofText (text : String) : LineWord :=
  match text.toList with
  | ['-', '-'] => .separator
  | '-' :: '-' :: rest => ofLong rest
  | '-' :: letter :: _ => .short letter
  | _ => .plain text

end LineWord

/-! ### Options -/

/-- The options that take a value. -/
inductive ValueOption where
  | surveyPath
  | scoresPath
  | automatedColumn
  | humanColumn
  | labelColumn
  | configPath
  | reportPath
  deriving DecidableEq, Repr

namespace ValueOption

def name : ValueOption → String
  | surveyPath => "survey-path"
  | scoresPath => "scores-path"
  | automatedColumn => "automated-column"
  | humanColumn => "human-column"
  | labelColumn => "label-column"
  | configPath => "config-path"
  | reportPath => "report-path"

/-- Whether the value must not be empty. -/
def isPath : ValueOption → Bool
  | surveyPath | scoresPath | configPath | reportPath => true
  | automatedColumn | humanColumn | labelColumn => false

/-- The options of a command. -/
def ofCommand : CommandName → List ValueOption
  | .reliability | .describe => [surveyPath, configPath, reportPath]
  | .compare =>
    [scoresPath, automatedColumn, humanColumn, labelColumn, configPath, reportPath]
  | .config => [configPath]

end ValueOption

/-- What an option name stands for. -/
inductive OptionName where
  | value (option : ValueOption)
  | byMetric
  | help
  deriving DecidableEq, Repr

namespace OptionName

/-- The option of a command with the given name. -/
def find? (command : CommandName) (name : String) : Option OptionName :=
  if name = "help" then some .help
  else if name = "by-metric" && command = .compare then some .byMetric
  else ((ValueOption.ofCommand command).find? fun option => option.name = name).map .value

end OptionName

/-! ### Options read so far -/

/-- The options of a command line, as far as it has been read. -/
structure LineOptions where
  values : List (ValueOption × String)
  byMetric : Bool
  /-- The option that is open, and its value if there is one yet. -/
  pending : Option (ValueOption × Option String)
  deriving DecidableEq, Repr

namespace LineOptions

def empty : LineOptions :=
  ⟨[], false, none⟩

/-- The value of an option. -/
def value? (options : LineOptions) (option : ValueOption) : Option String :=
  options.values.lookup option

/-- The options with one more value. -/
def put (options : LineOptions) (option : ValueOption) (value : String) :
    Except LineFault LineOptions :=
  if (options.value? option).isSome then .error .repeatedOption
  else if option.isPath && value = "" then .error .missingValue
  else .ok { options with values := (option, value) :: options.values }

/-- The options with none open. -/
def settle (options : LineOptions) : Except LineFault LineOptions :=
  match options.pending with
  | none => .ok options
  | some (_, none) => .error .missingValue
  | some (option, some value) => { options with pending := none }.put option value

/-- The options after an option that takes a value. -/
def addValue (options : LineOptions) (option : ValueOption) (value : Option String) :
    Except LineFault LineOptions := do
  let options ← options.settle
  match value with
  | some value => options.put option value
  | none => return { options with pending := some (option, none) }

/-- The options after the flag. -/
def addByMetric (options : LineOptions) : Except LineFault LineOptions := do
  let options ← options.settle
  if options.byMetric then throw .repeatedOption
  return { options with byMetric := true }

/-- The outcome of a call for help: help is shown unless the open option is at fault. -/
def helpFault (options : LineOptions) : LineFault :=
  match options.settle with
  | .error fault => fault
  | .ok _ => .help

/-- The options after a long option. -/
def addLong (options : LineOptions) (command : CommandName) (name : String)
    (value : Option String) : Except LineFault LineOptions :=
  match OptionName.find? command name, value with
  | none, _ => .error .unknownWord
  | some (.value option), value => options.addValue option value
  | some .byMetric, none => options.addByMetric
  | some .help, none => .error options.helpFault
  | some _, some _ => .error .surplusValue

/-- The options after a word that is no option. -/
def addPlain (options : LineOptions) (text : String) : Except LineFault LineOptions :=
  match options.pending with
  | some (option, none) => .ok { options with pending := some (option, some text) }
  | _ => .error .unknownWord

/-- The options after all words. -/
def addWords (command : CommandName) (options : LineOptions) :
    List String → Except LineFault LineOptions
  | [] => options.settle
  | word :: rest =>
    match LineWord.ofText word with
    | .separator => if rest.isEmpty then options.settle else .error .unknownWord
    | .long name value => do addWords command (← options.addLong command name value) rest
    | .short letter => .error (if letter = 'h' then options.helpFault else .unknownWord)
    | .plain text => do addWords command (← options.addPlain text) rest

/-- The value of an option that must be there. -/
def require (options : LineOptions) (option : ValueOption) : Except LineFault String :=
  match options.value? option with
  | some value => .ok value
  | none => .error .missingOption

/-- The names of the columns, the standard ones where none are given. -/
def columns (options : LineOptions) : ScoreColumns where
  automated := (options.value? .automatedColumn).getD ScoreColumns.standard.automated
  human := (options.value? .humanColumn).getD ScoreColumns.standard.human
  label := (options.value? .labelColumn).getD ScoreColumns.standard.label

def surveyArguments (options : LineOptions) : Except LineFault SurveyArguments := do
  let surveyPath ← options.require .surveyPath
  return ⟨surveyPath, options.value? .configPath, options.value? .reportPath⟩

def compareArguments (options : LineOptions) : Except LineFault CompareArguments := do
  let scoresPath ← options.require .scoresPath
  return ⟨scoresPath, options.columns, options.byMetric, options.value? .configPath,
    options.value? .reportPath⟩

end LineOptions

/-! ### The line -/

namespace Command

/-- The command with the given name and options. -/
def ofOptions (name : CommandName) (options : LineOptions) : Except LineFault Command :=
  match name with
  | .reliability => options.surveyArguments.map .reliability
  | .compare => options.compareArguments.map .compare
  | .describe => options.surveyArguments.map .describe
  | .config => .ok (.config (options.value? .configPath))

/-- The word that asks for help on the command that follows. -/
def helpName : String :=
  "help"

def isCommandName (text : String) : Bool :=
  text = helpName || (CommandName.ofText? text).isSome

/-- The outcome of a call for help with the given words after it. -/
def helpFault : List String → LineFault
  | [] => .help
  | [name] => if isCommandName name then .help else .unknownCommand
  | _ => .unknownCommand

/-- The outcome of a line that begins with an option. -/
def leadingFault : LineWord → List String → LineFault
  | .separator, [] => .empty
  | .separator, next :: _ => if isCommandName next then .unknownWord else .unknownCommand
  | .long name value, _ =>
    if name = "help" then if value.isSome then .surplusValue else .help
    else if name = "version" then if value.isSome then .surplusValue else .version
    else .unknownWord
  | .short letter, _ =>
    if letter = 'h' then .help else if letter = 'V' then .version else .unknownWord
  | .plain _, _ => .unknownCommand

/-- The command that a line asks for. -/
def ofLine : List String → Except LineFault Command
  | [] => .error .empty
  | word :: rest =>
    match CommandName.ofText? word with
    | some name => do
      let options ← LineOptions.addWords name .empty rest
      ofOptions name options
    | none =>
      if word = helpName then .error (helpFault rest)
      else .error (leadingFault (LineWord.ofText word) rest)

end Command

end InterRater
