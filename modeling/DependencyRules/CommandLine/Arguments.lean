/-!
# The arguments of the command line

Reading the arguments from the left. Options may stand before or after the operand of a command, a
value may be attached to its option, and two dashes end the options. The first argument that makes
no sense decides how reading stops; a value is judged when the next option or operand is met.
-/

namespace DependencyRules

namespace CommandLine

/-- Why reading the arguments ends without a command to carry out. -/
inductive Stop where
  | help
  | version
  | unknownCommand
  | missingOperand
  | unknownArgument
  | badValue
  | surplusValue
  | repetition
deriving DecidableEq

/-- Where options are read: before the command or after it. -/
inductive Level where
  | top
  | validate
  | checkRules
deriving DecidableEq

inductive Setting where
  | config
  | verbose
  | help
  | version
  | rules
  | format
  | sequential
  | output
  | operand
deriving DecidableEq

namespace Setting

def takesValue : Setting → Bool
  | .config | .rules | .format | .output | .operand => true
  | .verbose | .help | .version | .sequential => false

/-- Whether a value is possible. A path is not empty. -/
def accepts (setting : Setting) (value : String) : Bool :=
  match setting with
  | .format => value = "text" || value = "json"
  | .config | .rules | .output | .operand => value ≠ ""
  | .verbose | .help | .version | .sequential => true

end Setting

namespace Level

def ofLong? (level : Level) (name : String) : Option Setting :=
  if name = "config" then some .config
  else if name = "verbose" then some .verbose
  else if name = "help" then some .help
  else
    match level with
    | .top => if name = "version" then some .version else none
    | .validate =>
        if name = "rules" then some .rules
        else if name = "format" then some .format
        else if name = "sequential" then some .sequential
        else if name = "output" then some .output
        else none
    | .checkRules => none

def ofShort? (level : Level) (letter : Char) : Option Setting :=
  if letter = 'v' then some .verbose
  else if letter = 'h' then some .help
  else
    match level with
    | .top => if letter = 'V' then some .version else none
    | .validate =>
        if letter = 'r' then some .rules
        else if letter = 'o' then some .output
        else none
    | .checkRules => none

def ofCommand? (name : String) : Option Level :=
  if name = "validate" then some .validate
  else if name = "check-rules" then some .checkRules
  else none

end Level

def helpCommand : String := "help"

/-- What has been read at one level. -/
structure Reading where
  /-- The settings whose values have been judged. -/
  given : List (Setting × String) := []
  /-- The last setting with a value, and the value once it has been met. -/
  pending : Option (Setting × Option String) := none
  /-- Whether two dashes have ended the options. -/
  isEscaped : Bool := false

namespace Reading

def has (reading : Reading) (setting : Setting) : Bool :=
  reading.given.any fun entry => entry.1 = setting

def value? (reading : Reading) (setting : Setting) : Option String :=
  (reading.given.find? fun entry => entry.1 = setting).map Prod.snd

/-- Whether the next argument is the value of an option. -/
def isAwaiting (reading : Reading) : Bool :=
  match reading.pending with
  | some (_, none) => true
  | _ => false

def hasOperand (reading : Reading) : Bool :=
  reading.has .operand || reading.pending.any fun entry => entry.1 = .operand

/-- Takes a setting with its value; it must be the first of its kind and the value possible. -/
def give (reading : Reading) (setting : Setting) (value : String) : Except Stop Reading :=
  if reading.has setting then .error .repetition
  else if setting.accepts value then
    .ok { reading with given := reading.given ++ [(setting, value)] }
  else .error .badValue

/-- Judges the value that is pending. -/
def settle (reading : Reading) : Except Stop Reading :=
  match reading.pending with
  | none => .ok reading
  | some (_, none) => .error .badValue
  | some (setting, some value) => { reading with pending := none }.give setting value

/-- Takes a setting without a value. -/
def flag (reading : Reading) (setting : Setting) : Except Stop Reading := do
  let reading ← reading.settle
  match setting with
  | .help => throw .help
  | .version => throw .version
  | _ => reading.give setting ""

/-- Takes a setting whose value is the next argument. -/
def await (reading : Reading) (setting : Setting) : Except Stop Reading := do
  let reading ← reading.settle
  return { reading with pending := some (setting, none) }

/-- Takes a setting whose value is attached to it. -/
def attach (reading : Reading) (setting : Setting) (value : String) : Except Stop Reading := do
  let reading ← reading.settle
  reading.give setting value

/-- Reads a long option, without its dashes. -/
def long (level : Level) (reading : Reading) (body : List Char) : Except Stop Reading :=
  let name := String.ofList (body.takeWhile (· ≠ '='))
  match level.ofLong? name, body.dropWhile (· ≠ '=') with
  | none, _ => .error .unknownArgument
  | some setting, [] =>
      if setting.takesValue then reading.await setting else reading.flag setting
  | some setting, _ :: value =>
      if setting.takesValue then reading.attach setting (String.ofList value)
      else .error .surplusValue

/-- Reads a row of short options, without the dash. What follows an option with a value is its
value; a sign of equality may stand between them. -/
def short (level : Level) (reading : Reading) : List Char → Except Stop Reading
  | [] => .ok reading
  | letter :: rest =>
      match level.ofShort? letter with
      | none => .error .unknownArgument
      | some setting =>
          if setting.takesValue then
            match rest with
            | [] => reading.await setting
            | '=' :: value => reading.attach setting (String.ofList value)
            | value => reading.attach setting (String.ofList value)
          else do
            let reading ← reading.flag setting
            short level reading rest

/-- Reads an argument that is no option. Before the command there is no place for it. -/
def operand (level : Level) (reading : Reading) (argument : String) : Except Stop Reading :=
  match level with
  | .top =>
      if reading.isEscaped && (argument = helpCommand || (Level.ofCommand? argument).isSome) then
        .error .unknownArgument
      else .error .unknownCommand
  | _ =>
      if reading.hasOperand then .error .unknownArgument
      else do
        let reading ← reading.settle
        return { reading with pending := some (.operand, some argument) }

/-- Reads one argument. A single dash is no option. -/
def step (level : Level) (reading : Reading) (argument : String) : Except Stop Reading :=
  if reading.isEscaped then reading.operand level argument
  else
    match argument.toList with
    | ['-', '-'] => .ok { reading with isEscaped := true }
    | '-' :: '-' :: body => reading.long level body
    | '-' :: letter :: rest => reading.short level (letter :: rest)
    | _ =>
        match reading.pending with
        | some (setting, none) => .ok { reading with pending := some (setting, some argument) }
        | _ => reading.operand level argument

def all (level : Level) : Reading → List String → Except Stop Reading
  | reading, [] => reading.settle
  | reading, argument :: rest => do
      let reading ← reading.step level argument
      all level reading rest

end Reading

inductive Format where
  | text
  | json
deriving DecidableEq

structure ValidateArguments where
  graph : String
  rules : Option String := none
  format : Format := .text
  isSequential : Bool := false
  output : Option String := none
  config : Option String := none
deriving DecidableEq

inductive Command where
  | usage
  | validate (arguments : ValidateArguments)
  | checkRules (path : String)
deriving DecidableEq

/-- The command at a level, from what was read there and before it. -/
def command (level : Level) (top reading : Reading) : Except Stop Command :=
  match level, reading.value? .operand with
  | .top, _ => .ok .usage
  | _, none => .error .missingOperand
  | .validate, some graph =>
      .ok (.validate {
        graph
        rules := reading.value? .rules
        format := if reading.value? .format = some "json" then .json else .text
        isSequential := reading.has .sequential
        output := reading.value? .output
        config := (reading.value? .config).or (top.value? .config) })
  | .checkRules, some path => .ok (.checkRules path)

/-- How reading stops after the help command. Help is shown for one command at most. -/
def helpStop : List String → Stop
  | [] => .help
  | [name] =>
      if name = helpCommand || (Level.ofCommand? name).isSome then .help
      else .unknownCommand
  | _ => .unknownCommand

/-- Reads the arguments before the command, and then the command. What is pending before the
command is judged last. -/
def readArguments (reading : Reading) : List String → Except Stop Command
  | [] => do
      let top ← reading.settle
      command .top top top
  | argument :: rest =>
      if !reading.isEscaped && !reading.isAwaiting && argument = helpCommand then
        .error (helpStop rest)
      else
        match (if reading.isEscaped || reading.isAwaiting then none
          else Level.ofCommand? argument) with
        | some level => do
            let inner ← Reading.all level {} rest
            if !inner.has .operand then throw .missingOperand
            let top ← reading.settle
            command level top inner
        | none => do
            let reading ← reading.step .top argument
            readArguments reading rest

def parse (arguments : List String) : Except Stop Command := readArguments {} arguments

end CommandLine

end DependencyRules
