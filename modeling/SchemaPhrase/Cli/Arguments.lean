/-!
# Command-line arguments

`Arguments.parse?` reads the arguments of the program: global options before or after one command,
and the command's own options and its one operand. An option may be given once before and once
after the command; the one after it counts. Every other form is a usage error.
-/

set_option autoImplicit false

namespace SchemaPhrase.Cli

/-- What the program is asked to do. -/
inductive Command where
  /-- Parse a type phrase. -/
  | dtype (phrase : String)
  /-- Build a column from a phrase. -/
  | column (name phrase : String)
  /-- Take a phrase apart. -/
  | phrase (phrase : String)
  /-- Build a table from a file, or from the standard input if the file is `-`. -/
  | table (file : String)
  deriving DecidableEq, Repr

/-- A command and the settings of its run. -/
structure Invocation where
  config : Option String
  compact : Bool
  command : Command
  deriving DecidableEq, Repr

/-- What arguments ask for. -/
inductive Request where
  | version
  | run (invocation : Invocation)
  deriving DecidableEq, Repr

/-- The names of the commands. -/
inductive CommandName where
  | dtype
  | column
  | phrase
  | table
  deriving DecidableEq, Repr

def CommandName.ofText? : String → Option CommandName
  | "dtype" => some dtype
  | "column" => some column
  | "phrase" => some phrase
  | "table" => some table
  | _ => none

namespace Arguments

/-- The options. -/
inductive OptionName where
  | config
  | name
  | compact
  | version
  deriving DecidableEq, Repr

/-- Where an option may stand: in front of the command, or behind a command. -/
abbrev Place := Option CommandName

/-- Whether an option is known at a place. -/
def OptionName.knownAt (place : Place) : OptionName → Bool
  | config | compact => true
  | name => place == some .column
  | version => place.isNone

/-- Whether an option has a value. -/
def OptionName.hasValue : OptionName → Bool
  | config | name => true
  | compact | version => false

/-- The option of a long name. -/
def OptionName.ofLong? : String → Option OptionName
  | "config" => some config
  | "name" => some name
  | "compact" => some compact
  | "version" => some version
  | _ => none

/-- The option of a letter. -/
def OptionName.ofLetter? (c : Char) : Option OptionName :=
  if c = 'c' then some config else if c = 'n' then some name else if c = 'V' then some version
  else none

/-- What an argument is, where options are still read. -/
inductive Word where
  | operand (text : String)
  /-- The end of the options. -/
  | separator
  /-- An option with the value attached to it, if one is. -/
  | option (option : OptionName) (value : Option String)
  | unknown
  deriving DecidableEq, Repr

/-- An option that was found, if it is known at the place and has a value only if it may. -/
def Word.ofOption (place : Place) (found : Option OptionName) (value : Option String) : Word :=
  match found with
  | none => unknown
  | some found =>
    if !found.knownAt place || (value.isSome && !found.hasValue) then unknown
    else option found value

/-- An argument that starts with two dashes, without them: a name and the value behind the first
equals sign. -/
def Word.ofLong (place : Place) (body : List Char) : Word :=
  let name := body.takeWhile (· ≠ '=')
  let value :=
    match body.dropWhile (· ≠ '=') with
    | [] => none
    | _ :: value => some (String.ofList value)
  ofOption place (OptionName.ofLong? (String.ofList name)) value

/-- An argument that starts with one dash, without it: a letter and the value attached to it, with
or without an equals sign. -/
def Word.ofLetters (place : Place) (letter : Char) (rest : List Char) : Word :=
  let found := OptionName.ofLetter? letter
  let value :=
    match rest with
    | [] => none
    | '=' :: value => some (String.ofList value)
    | value => some (String.ofList value)
  if found = some .version then ofOption place found none else ofOption place found value

/-- What an argument is. A dash alone is an operand. -/
def Word.ofArgument (place : Place) (argument : String) : Word :=
  match argument.toList with
  | ['-', '-'] => separator
  | '-' :: '-' :: body => ofLong place body
  | '-' :: letter :: rest => ofLetters place letter rest
  | _ => operand argument

/-- An argument, or an option together with the one that is its value. -/
inductive Item where
  | operand (text : String)
  | setting (option : OptionName) (value : String)
  | switch (option : OptionName)
  deriving DecidableEq, Repr

/-- Whether an argument can be the value of the option in front of it: it is no option itself. -/
def isDetachedValue (argument : String) : Bool :=
  match argument.toList with
  | '-' :: _ :: _ => false
  | _ => true

/-- The items behind a command. Behind a separator all are operands. -/
def items? (command : CommandName) : List String → Option (List Item)
  | [] => some []
  | argument :: rest =>
    match Word.ofArgument (some command) argument with
    | .unknown => none
    | .separator => some (rest.map .operand)
    | .operand text => (items? command rest).map (.operand text :: ·)
    | .option option (some value) => (items? command rest).map (.setting option value :: ·)
    | .option option none =>
      if !option.hasValue then (items? command rest).map (.switch option :: ·)
      else
        match rest with
        | [] => none
        | value :: rest =>
          if isDetachedValue value then (items? command rest).map (.setting option value :: ·)
          else none

/-- What has been given in front of the command or behind it. -/
structure Given where
  config : Option String
  name : Option String
  compact : Bool
  operand : Option String
  deriving DecidableEq, Repr

namespace Given

def nothing : Given := ⟨none, none, false, none⟩

/-- Adds an item. Nothing is given twice at one place, and a path is not empty. -/
def add? (given : Given) : Item → Option Given
  | .operand text => if given.operand.isSome then none else some { given with operand := text }
  | .setting .config value =>
    if given.config.isSome || value.isEmpty then none else some { given with config := value }
  | .setting .name value => if given.name.isSome then none else some { given with name := value }
  | .switch .compact => if given.compact then none else some { given with compact := true }
  | _ => none

end Given

/-- The command of a name with its operand. -/
def commandOf? (name : CommandName) (given : Given) (operand : String) : Option Command :=
  match name with
  | .dtype => some (.dtype operand)
  | .column => some (.column (given.name.getD "column") operand)
  | .phrase => some (.phrase operand)
  | .table => if operand.isEmpty then none else some (.table operand)

/-- The request of a command, from what was given before it and the arguments behind it. -/
def requestOf? (before : Given) (name : CommandName) (arguments : List String) :
    Option Request := do
  let behind ← (← items? name arguments).foldlM Given.add? .nothing
  let command ← commandOf? name behind (← behind.operand)
  return .run ⟨behind.config.or before.config, behind.compact || before.compact, command⟩

/-- Reads the options in front of the command, and then the command. The version is asked for as
soon as its option is met. -/
def readGlobal? : Given → List String → Option Request
  | _, [] => none
  | given, argument :: rest =>
    match Word.ofArgument none argument with
    | .unknown => none
    | .separator => none
    | .operand text => (CommandName.ofText? text).bind (requestOf? given · rest)
    | .option .version _ => some .version
    | .option option (some value) =>
      (given.add? (.setting option value)).bind (readGlobal? · rest)
    | .option option none =>
      if !option.hasValue then (given.add? (.switch option)).bind (readGlobal? · rest)
      else
        match rest with
        | [] => none
        | value :: rest =>
          if isDetachedValue value then
            (given.add? (.setting option value)).bind (readGlobal? · rest)
          else none

/-- What the arguments ask for; none is a usage error. -/
def parse? (arguments : List String) : Option Request :=
  readGlobal? .nothing arguments

end Arguments

end SchemaPhrase.Cli
