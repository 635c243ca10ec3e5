import TransponderShell.Text.Basic

/-!
# The command line

`Invocation.ofArguments` reads the arguments of the program from left to right. A long option may
have its value behind `=` or in the next argument; short options may stand together behind one
`-`, where the last one may have its value right behind it. An option is given at most once, and a
value in an argument of its own does not begin with `-` unless it is that alone.
-/

namespace TransponderShell

/-- Options with a value. -/
inductive ValuedOption where
  | commands
  | script
  | config
  | fixture
  | history
  deriving DecidableEq, Repr

/-- An option of the command line. -/
inductive CommandOption where
  | json
  | verbose
  | help
  | version
  | valued (option : ValuedOption)
  deriving DecidableEq, Repr

namespace CommandOption

/-- The option of a name behind two dashes. -/
def ofName? (name : Text) : Option CommandOption :=
  if name = "json" then some json
  else if name = "verbose" then some verbose
  else if name = "help" then some help
  else if name = "version" then some version
  else if name = "command-string" then some (valued .commands)
  else if name = "script" then some (valued .script)
  else if name = "config" then some (valued .config)
  else if name = "fixture" then some (valued .fixture)
  else if name = "history" then some (valued .history)
  else none

/-- The option of a letter behind one dash. -/
def ofLetter? (c : Char) : Option CommandOption :=
  if c = 'j' then some json
  else if c = 'v' then some verbose
  else if c = 'h' then some help
  else if c = 'V' then some version
  else if c = 'c' then some (valued .commands)
  else none

end CommandOption

/-- What the program is asked to do. -/
structure Options where
  json : Bool := false
  verbose : Bool := false
  /-- Commands to carry out. -/
  commands : Option Text := none
  /-- A file with commands to carry out. -/
  script : Option Text := none
  config : Option Text := none
  fixture : Option Text := none
  history : Option Text := none
  deriving DecidableEq, Repr

namespace Options

/-- The value of an option. -/
def valueOf (o : Options) : ValuedOption → Option Text
  | .commands => o.commands
  | .script => o.script
  | .config => o.config
  | .fixture => o.fixture
  | .history => o.history

/-- Give an option its value. A path is not empty. -/
def give? (o : Options) (option : ValuedOption) (value : Text) : Option Options :=
  if (o.valueOf option).isSome then none
  else if option ≠ .commands ∧ value.isEmpty then none
  else match option with
    | .commands => some { o with commands := some value }
    | .script => some { o with script := some value }
    | .config => some { o with config := some value }
    | .fixture => some { o with fixture := some value }
    | .history => some { o with history := some value }

end Options

/-- What the arguments amount to. -/
inductive Invocation where
  | run (options : Options)
  | version
  | help
  /-- The arguments are not valid. -/
  | invalid
  deriving DecidableEq, Repr

namespace Invocation

/-- How far the letters behind a dash have been read. -/
inductive Letters where
  | read (options : Options)
  /-- The last letter needs a value from the next argument. -/
  | needs (option : ValuedOption) (options : Options)
  /-- No argument after these letters matters. -/
  | stop (result : Invocation)
  deriving DecidableEq, Repr

/-- Read the letters behind a dash. -/
def readLetters (o : Options) : Text → Letters
  | [] => .read o
  | c :: rest =>
    match CommandOption.ofLetter? c, rest with
    | none, _ => .stop invalid
    | some .json, _ => if o.json then .stop invalid else readLetters { o with json := true } rest
    | some .verbose, _ =>
      if o.verbose then .stop invalid else readLetters { o with verbose := true } rest
    | some .help, _ => .stop help
    | some .version, _ => .stop version
    | some (.valued option), [] => .needs option o
    | some (.valued option), value =>
      let value := match value with
        | '=' :: behind => behind
        | _ => value
      match o.give? option value with
      | some o => .read o
      | none => .stop invalid

/-- All arguments have been read. -/
def finish (o : Options) : Invocation :=
  if o.commands.isSome ∧ o.script.isSome then invalid else run o

/-- Whether an argument is a value rather than an option. -/
def isValue : Text → Bool
  | ['-'] => true
  | '-' :: _ => false
  | _ => true

/-- Read arguments behind those that `o` stands for. -/
def readArguments (o : Options) : List Text → Invocation
  | [] => finish o
  | argument :: rest =>
    let takeValue (option : ValuedOption) (o : Options) : Invocation :=
      match rest with
      | [] => invalid
      | value :: rest =>
        if isValue value then
          match o.give? option value with
          | some o => readArguments o rest
          | none => invalid
        else invalid
    match argument with
    | ['-', '-'] => if rest.isEmpty then finish o else invalid
    | '-' :: '-' :: body =>
      let name := body.takeWhile (· ≠ '=')
      let value := match body.drop name.length with
        | _ :: value => some value
        | [] => none
      match CommandOption.ofName? name, value with
      | some .json, none => if o.json then invalid else readArguments { o with json := true } rest
      | some .verbose, none =>
        if o.verbose then invalid else readArguments { o with verbose := true } rest
      | some .help, none => help
      | some .version, none => version
      | some (.valued option), none => takeValue option o
      | some (.valued option), some value =>
        match o.give? option value with
        | some o => readArguments o rest
        | none => invalid
      | _, _ => invalid
    | '-' :: c :: letters =>
      match readLetters o (c :: letters) with
      | .read o => readArguments o rest
      | .needs option o => takeValue option o
      | .stop result => result
    | _ => invalid

/-- Read the arguments of the program. -/
def ofArguments (arguments : List Text) : Invocation := readArguments {} arguments

end Invocation

end TransponderShell
