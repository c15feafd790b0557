import JavaLint.Report
/-!
# Arguments of the command line

## Main definitions

- `Command`, `Request` — what the user asks for
- `Switch` — the options of the command line
- `Request.ofArguments` — what a list of arguments asks for

## Design notes

The options of the program may stand before or after the name of a command,
and an option of the command counts more than one of the program. Arguments
are read from left to right, and the first one that decides the outcome counts:
one that is wrong, or one that asks for help.
-/

namespace JavaLint

/-- What is asked of a check run. -/
structure CheckRequest where
  /-- The directory or file to check. -/
  path : String := "."
  format : Report.Format := .text
  /-- The names or codes of the checks to run, separated by commas. -/
  checks : Option String := none
  excludes : List String := []
  failOnParseError : Bool := false
  deriving DecidableEq, Repr, Inhabited

/-- The commands of the program. -/
inductive Command where
  | check (request : CheckRequest)
  | listChecks
  | init (force : Bool)
  deriving DecidableEq, Repr, Inhabited

/-- What the user asks for. -/
structure Request where
  /-- The configuration file that the arguments name. -/
  config : Option String
  command : Command
  deriving DecidableEq, Repr, Inhabited

/-- Why arguments ask for no command. -/
inductive NoRequest where
  /-- The arguments are wrong. -/
  | misuse
  | help
  | version
  deriving DecidableEq, Repr

/-- The options of the command line. -/
inductive Switch where
  | verbose
  | config
  | format
  | checks
  | exclude
  | failOnParseError
  | force
  | help
  | version
  deriving DecidableEq, Repr

namespace Switch

/-- The long name of an option. -/
def long : Switch → String
  | .verbose => "verbose"
  | .config => "config"
  | .format => "format"
  | .checks => "checks"
  | .exclude => "exclude"
  | .failOnParseError => "fail-on-parse-error"
  | .force => "force"
  | .help => "help"
  | .version => "version"

/-- The letter of an option. -/
def short? : Switch → Option Char
  | .verbose => some 'v'
  | .config => some 'c'
  | .format => some 'f'
  | .exclude => some 'e'
  | .help => some 'h'
  | .version => some 'V'
  | .checks | .failOnParseError | .force => none

/-- Does a value follow the option? -/
def takesValue : Switch → Bool
  | .config | .format | .checks | .exclude => true
  | _ => false

/-- Is this a value for the option? -/
def allows (s : Switch) (value : String) : Bool :=
  match s with
  | .config => value != ""
  | .format => (Report.Format.ofName? value).isSome
  | _ => true

end Switch

/-- The options and words of one level of the command line: those of the
    program, or those of a command. -/
structure Arguments where
  /-- The options with their values, the latest one first. -/
  switches : List (Switch × String) := []
  /-- The words that belong to no option, in their order. -/
  words : List String := []
  deriving Repr, Inhabited

namespace Arguments

/-- Is an option set? -/
def has (a : Arguments) (s : Switch) : Bool :=
  a.switches.any (·.1 == s)

/-- The value of an option. -/
def value? (a : Arguments) (s : Switch) : Option String :=
  a.switches.lookup s

/-- The values of an option that may be repeated, in their order. -/
def values (a : Arguments) (s : Switch) : List String :=
  (a.switches.reverse.filter (·.1 == s)).map (·.2)

/-- One more option. Help is given at once; no option but one may be repeated. -/
def add (a : Arguments) (s : Switch) (value : String) : Except NoRequest Arguments :=
  match s with
  | .help => .error .help
  | .version => .error .version
  | s =>
    if (a.has s && s != .exclude) || !s.allows value then .error .misuse
    else .ok { a with switches := (s, value) :: a.switches }

/-- Is this argument made of options? -/
def isSwitch (argument : String) : Bool :=
  match argument.toList with
  | '-' :: _ :: _ => true
  | _ => false

/-- The options of one argument, given by their letters, and the last of them
    if its value has yet to come. -/
def addLetters (known : List Switch) (a : Arguments) :
    List Char → Except NoRequest (Arguments × Option Switch)
  | [] => .ok (a, none)
  | c :: cs => match known.find? (·.short? == some c) with
    | none => .error .misuse
    | some s =>
      if s.takesValue then
        match cs with
        | [] => .ok (a, some s)
        | '=' :: value => (a.add s (String.ofList value)).map (·, none)
        | value => (a.add s (String.ofList value)).map (·, none)
      else (a.add s "").bind fun a => addLetters known a cs

/-- The option of one argument, given by its long name, and the option itself
    if its value has yet to come. -/
def addLong (known : List Switch) (a : Arguments) (text : List Char) :
    Except NoRequest (Arguments × Option Switch) :=
  let name := String.ofList (text.takeWhile (· != '='))
  match known.find? (·.long == name), text.dropWhile (· != '=') with
  | none, _ => .error .misuse
  | some s, [] => if s.takesValue then .ok (a, some s) else (a.add s "").map (·, none)
  | some s, _ :: value =>
    if s.takesValue then (a.add s (String.ofList value)).map (·, none) else .error .misuse

/-- What one argument adds, if it is no word. -/
def addSwitches (known : List Switch) (a : Arguments) (argument : String) :
    Except NoRequest (Arguments × Option Switch) :=
  match argument.toList with
  | '-' :: '-' :: text => addLong known a text
  | _ :: letters => addLetters known a letters
  | [] => .ok (a, none)

/-- The options and words of a level, and the arguments that are left when a
    word is reached that `stops` there. `waiting` is an option whose value has yet
    to come, and `wordsOnly` says that all that follows are words. -/
def read (known : List Switch) (maxWords : Nat) (stops : String → Bool) (a : Arguments)
    (waiting : Option Switch) (wordsOnly : Bool) :
    List String → Except NoRequest (Arguments × List String)
  | [] => match waiting with
    | some _ => .error .misuse
    | none => .ok (a, [])
  | argument :: rest =>
    if !wordsOnly && argument == "--" then
      match waiting with
      | some _ => .error .misuse
      | none => read known maxWords stops a none true rest
    else if !wordsOnly && isSwitch argument then
      match waiting with
      | some _ => .error .misuse
      | none => match addSwitches known a argument with
        | .error e => .error e
        | .ok (a, waiting) => read known maxWords stops a waiting false rest
    else match waiting with
      | some s => match a.add s argument with
        | .error e => .error e
        | .ok a => read known maxWords stops a none false rest
      | none =>
        if !wordsOnly && stops argument then .ok (a, argument :: rest)
        else if a.words.length < maxWords && argument != "" then
          read known maxWords stops { a with words := a.words ++ [argument] } none wordsOnly rest
        else .error .misuse

end Arguments

namespace Request

/-- The names of the commands. -/
def commandNames : List String := ["check", "list-checks", "init", "help"]

/-- The options of the program. -/
def programSwitches : List Switch := [.verbose, .config, .help, .version]

/-- The options of a command. -/
def commandSwitches (name : String) : List Switch :=
  [.verbose, .config, .help] ++
    match name with
    | "check" => [.format, .checks, .exclude, .failOnParseError]
    | "init" => [.force]
    | _ => []

/-- The command that its name and arguments ask for. -/
def commandOf (name : String) (a : Arguments) : Command :=
  match name with
  | "check" => .check
      { path := a.words.headD "."
        format := ((a.value? .format).bind Report.Format.ofName?).getD .text
        checks := a.value? .checks
        excludes := a.values .exclude
        failOnParseError := a.has .failOnParseError }
  | "init" => .init (a.has .force)
  | _ => .listChecks

/-- The configuration file that is named by the options of the command, or else
    of the program, or else by the variable for it, which must not be empty
    unless both levels name a file. -/
def configOf (program command : Arguments) (setting? : Option String) :
    Except NoRequest (Option String) :=
  let named := [command, program].filterMap (·.value? .config)
  if setting? == some "" && named.length < 2 then .error .misuse
  else .ok (named.head?.or setting?)

/-- What a list of arguments asks for. `setting?` is the value of the variable
    that names a configuration file. -/
def ofArguments (setting? : Option String) (arguments : List String) :
    Except NoRequest Request := do
  let (program, rest) ←
    Arguments.read programSwitches 0 commandNames.contains {} none false arguments
  match rest with
  | [] => throw .misuse
  | "help" :: rest =>
    match rest with
    | [] => throw .help
    | [name] => throw (if commandNames.contains name then .help else .misuse)
    | _ => throw .misuse
  | name :: rest =>
    let maxWords := if name = "check" then 1 else 0
    let (command, _) ←
      Arguments.read (commandSwitches name) maxWords (fun _ => false) {} none false rest
    return { config := ← configOf program command setting?, command := commandOf name command }

end Request

end JavaLint
