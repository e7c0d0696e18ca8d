import CodeHealth.Decimal.Reading
import CodeHealth.Session

/-!
# Arguments of the command line

A command is a name among some options and the path of a repository. Options may stand before the
command and after it; the path, the settings file and the log level may be given on both sides, and
then those after the command count.

`Arguments.parse` reads the arguments.
-/

namespace CodeHealth.CommandLine

/-- How much is logged, from `error` alone to everything. -/
inductive LogLevel where
  | error | warn | info | debug | trace
  deriving DecidableEq, Repr

namespace LogLevel

/-- Every level, in which `ofName?` looks a name up. -/
def all : List LogLevel := [.error, .warn, .info, .debug, .trace]

/-- The name of a level, as it is given with `--log-level`. -/
def name : LogLevel → String
  | error => "error"
  | warn => "warn"
  | info => "info"
  | debug => "debug"
  | trace => "trace"

/-- The level with exactly this `name`; capital letters are not taken for small ones. -/
def ofName? (name : String) : Option LogLevel := all.find? fun l => l.name == name

end LogLevel

/-- The commands by name. A `Command` has its options too. -/
inductive Verb where
  | snapshot | check | init | watch
  deriving DecidableEq, Repr

namespace Verb

/-- Every command, in which `ofName?` looks a name up. -/
def all : List Verb := [.snapshot, .check, .init, .watch]

/-- The name of a command, as it is given among the arguments (`readSide`). -/
def name : Verb → String
  | snapshot => "snapshot"
  | check => "check"
  | init => "init"
  | watch => "watch"

/-- The command with exactly this `name`, and `none` for any other argument. -/
def ofName? (name : String) : Option Verb := all.find? fun v => v.name == name

end Verb

/-- The options, each of which is known by its long `name`. -/
inductive Switch where
  | config | logLevel | failUnder | incremental | help | version
  deriving DecidableEq, Repr

namespace Switch

/-- Every option. Which of them are allowed depends on the side of the command (`beforeCommand`,
`after`). -/
def all : List Switch := [.config, .logLevel, .failUnder, .incremental, .help, .version]

/-- The long name of an option, which stands behind two dashes (`Argument.splitLong`). -/
def name : Switch → String
  | config => "config"
  | logLevel => "log-level"
  | failUnder => "fail-under"
  | incremental => "incremental"
  | help => "help"
  | version => "version"

/-- The letter that stands for an option, if there is one. Only `help` and `version` have one. -/
def letter? : Switch → Option Char
  | help => some 'h'
  | version => some 'V'
  | _ => none

/-- Whether an option is followed by a value. One that is not refuses a joined one
(`UsageFault.unexpectedValue`). -/
def takesValue : Switch → Bool
  | config | logLevel | failUnder => true
  | incremental | help | version => false

/-- The options that may be given before a command. Those of one command only are not among them
(`after`). -/
def beforeCommand : List Switch := [.config, .logLevel, .help, .version]

/-- The options that may be given after a command. `version` is not among them. -/
def after : Verb → List Switch
  | .snapshot | .init => [.config, .logLevel, .help]
  | .check => [.config, .logLevel, .failUnder, .help]
  | .watch => [.config, .logLevel, .incremental, .help]

end Switch

/-- Why arguments cannot be understood, each cause with what it is about. `parse` gives the first
one. -/
inductive UsageFault where
  /-- An option that is not allowed where it stands. -/
  | unknownOption (text : String)
  /-- An option without the value it takes. -/
  | missingValue (option : Switch)
  /-- A value joined to an option that takes none. -/
  | unexpectedValue (option : Switch)
  /-- A value that does not fit what it is given for. -/
  | invalidValue (what text : String)
  /-- An option that is given twice on one side. -/
  | repeated (option : Switch)
  /-- An argument too many. -/
  | unexpectedArgument (text : String)
  /-- No command at all. -/
  | missingCommand
  deriving DecidableEq, Repr

/-- The message for arguments that cannot be understood, which names the `option` or quotes the
argument. -/
def UsageFault.message : UsageFault → String
  | unknownOption text => s!"unexpected argument '{text}' found"
  | missingValue option => s!"a value is required for '--{option.name}' but none was supplied"
  | unexpectedValue option =>
    s!"unexpected value for '--{option.name}' found; no more were expected"
  | invalidValue what text => s!"invalid value '{text}' for '{what}'"
  | repeated option => s!"the argument '--{option.name}' cannot be used multiple times"
  | unexpectedArgument text => s!"unexpected argument '{text}' found"
  | missingCommand => "a subcommand is required but one was not provided"

/-- What is given on one side of a command; `invocation` joins the two sides. -/
structure Given where
  /-- The path of the repository. -/
  path : Option String := none
  /-- The path of the settings file. -/
  config : Option String := none
  /-- How much is logged. -/
  logLevel : Option LogLevel := none
  /-- The threshold of a check. -/
  failUnder : Option Float := none
  /-- Whether only changed files are analysed again. -/
  incremental : Bool := false
  /-- The options given so far. -/
  seen : List Switch := []

/-- How one side of a command ends, as `readSide` reads it. -/
inductive Side where
  /-- All arguments are read. -/
  | finished (given : Given)
  /-- A command, and the arguments after it. -/
  | command (given : Given) (verb : Verb) (rest : List String)
  /-- Help on what the arguments name. -/
  | help (names : List String)
  /-- The version of the program. -/
  | version

namespace Given

/-- Takes the `value` of an `option`, unless it does not fit it. One that takes no value is
`incremental`. -/
def setValue (given : Given) (option : Switch) (value : String) : Except UsageFault Given :=
  let invalid := UsageFault.invalidValue s!"--{option.name}" value
  match option with
  | .config => if value.isEmpty then .error invalid else .ok { given with config := some value }
  | .logLevel =>
    match LogLevel.ofName? value with
    | some level => .ok { given with logLevel := some level }
    | none => .error invalid
  | .failUnder =>
    match Decimal.parse? value.toList with
    | some x => .ok { given with failUnder := some x }
    | none => .error invalid
  | _ => .ok { given with incremental := true }

/-- Takes an `option` with its `value`. An option counts once: the second time is a fault. -/
def set (given : Given) (option : Switch) (value : String) : Except UsageFault Given :=
  if given.seen.contains option then .error (.repeated option)
  else { given with seen := option :: given.seen }.setValue option value

/-- Takes the path `value`. There is only one, and it is not empty. -/
def setPath (given : Given) (value : String) : Except UsageFault Given :=
  if given.path.isSome then .error (.unexpectedArgument value)
  else if value.isEmpty then .error (.invalidValue "[PATH]" value)
  else .ok { given with path := some value }

/-- Takes paths only, each by `setPath`. -/
def setPaths (given : Given) : List String → Except UsageFault Given
  | [] => .ok given
  | value :: rest => do
    let given ← given.setPath value
    given.setPaths rest

end Given

/-- What one argument is, by its dashes and where some options are allowed (`ofText`). -/
inductive Argument where
  /-- Only paths follow. -/
  | paths
  /-- An option, and a value joined to it. -/
  | option (s : Switch) (value : Option String)
  /-- An option that is not allowed. -/
  | unknown
  /-- A path, or the value of an option. -/
  | plain

namespace Argument

/-- The long name in an option, and the value after an equals sign. The `body` is what stands behind
the dashes. -/
def splitLong (body : List Char) : String × Option String :=
  let name := body.takeWhile (· != '=')
  match body.drop name.length with
  | [] => (String.ofList name, none)
  | _ :: value => (String.ofList name, some (String.ofList value))

/-- What an argument is where some options are `allowed`. Of letters behind a single dash the first
one counts, since what it stands for ends the reading. -/
def ofText (allowed : List Switch) (text : String) : Argument :=
  match text.toList with
  | ['-', '-'] => .paths
  | '-' :: '-' :: body =>
    let (name, value) := splitLong body
    match allowed.find? fun s => s.name == name with
    | some s => .option s value
    | none => .unknown
  | '-' :: letter :: _ =>
    match allowed.find? fun s => s.letter? == some letter with
    | some s => .option s none
    | none => .unknown
  | _ => .plain

/-- Whether an argument `text` can be the value of the option before it: one with a dash and more
cannot. -/
def isValue (text : String) : Bool :=
  match text.toList with
  | '-' :: _ :: _ => false
  | _ => true

end Argument

/-- Reads one side of a command, where some options are `allowed`. Commands are looked for only
before the first one, which `commands` says. -/
def readSide (allowed : List Switch) (commands : Bool) (given : Given) :
    List String → Except UsageFault Side
  | [] => .ok (.finished given)
  | text :: rest =>
    match (if commands then Verb.ofName? text else none) with
    | some verb => .ok (.command given verb rest)
    | none =>
      if commands && text == "help" then .ok (.help rest)
      else
        match Argument.ofText allowed text with
        -- Behind two dashes there are neither options nor commands.
        | .paths => (given.setPaths rest).map .finished
        | .unknown => .error (.unknownOption text)
        | .plain =>
          match given.setPath text with
          | .ok given => readSide allowed commands given rest
          | .error fault => .error fault
        | .option s value =>
          if s.takesValue then
            match value, rest with
            | some value, rest =>
              match given.set s value with
              | .ok given => readSide allowed commands given rest
              | .error fault => .error fault
            | none, [] => .error (.missingValue s)
            | none, value :: rest =>
              if Argument.isValue value then
                match given.set s value with
                | .ok given => readSide allowed commands given rest
                | .error fault => .error fault
              else .error (.missingValue s)
          else if value.isSome then .error (.unexpectedValue s)
          else if s == .help then .ok (.help [])
          else if s == .version then .ok .version
          else
            match given.set s "" with
            | .ok given => readSide allowed commands given rest
            | .error fault => .error fault

/-- A command with its own options, made from a `Verb`. -/
inductive Command where
  /-- Prints results and score as JSON. -/
  | snapshot
  /-- Compares the score with a threshold. -/
  | check (failUnder : Option Float)
  /-- Writes a settings file. -/
  | init
  /-- Watches a project. -/
  | watch (mode : RerunMode)

/-- A command and what it works on, which `invocation` puts together. -/
structure Invocation where
  /-- The path of the repository. -/
  path : String
  /-- The path of the settings file, if one is named. -/
  config : Option String
  /-- How much is logged. -/
  logLevel : LogLevel
  /-- What is done. -/
  command : Command

/-- What the arguments ask for, when `parse` can understand them. -/
inductive Asked where
  /-- A command is run. -/
  | invocation (i : Invocation)
  /-- The usage is printed. -/
  | help
  /-- The version is printed. -/
  | version

/-- The command with the options given after it; those before it are in `invocation`. -/
def Verb.command (given : Given) : Verb → Command
  | snapshot => .snapshot
  | check => .check given.failUnder
  | init => .init
  | watch => .watch (if given.incremental then .incremental else .full)

/-- What is asked for by a command and the options on both sides of it, where `after` counts more
than `before`. -/
def invocation (before after : Given) (verb : Verb) : Invocation where
  path := (after.path <|> before.path).getD "."
  config := after.config <|> before.config
  logLevel := (after.logLevel <|> before.logLevel).getD .warn
  command := verb.command after

/-- Help on nothing or on one command. Any other name is an unexpected argument (`UsageFault`). -/
def askedHelp : List String → Except UsageFault Asked
  | [] => .ok .help
  | [name] =>
    if name == "help" || (Verb.ofName? name).isSome then .ok .help
    else .error (.unexpectedArgument name)
  | _ :: name :: _ => .error (.unexpectedArgument name)

/-- Reads the `arguments`: one side up to the command, and the other with the options that the
command takes (`Switch.after`). -/
def parse (arguments : List String) : Except UsageFault Asked :=
  match readSide Switch.beforeCommand true {} arguments with
  | .error fault => .error fault
  | .ok (.finished _) => .error .missingCommand
  | .ok (.help names) => askedHelp names
  | .ok .version => .ok .version
  | .ok (.command before verb rest) =>
    match readSide (Switch.after verb) false {} rest with
    | .error fault => .error fault
    | .ok (.finished after) => .ok (.invocation (invocation before after verb))
    | .ok (.command ..) => .error .missingCommand
    | .ok (.help names) => askedHelp names
    | .ok .version => .ok .version

end CodeHealth.CommandLine
