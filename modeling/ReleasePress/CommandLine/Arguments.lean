import ReleasePress.Text.Split

/-!
# Command line arguments

A command line is a sequence of options and operands.  An option has a long name after two hyphens and perhaps a letter
after one; letters can be written together, and a value follows its option directly or as the next argument.

## Main declarations

* `CommandLine.Flag`: an option.
* `CommandLine.readArguments`: the options and operands of arguments.
* `CommandLine.Request`, `CommandLine.Request.parse`: what is asked for.
-/

namespace ReleasePress.CommandLine

open ReleasePress.Text

/-- An option. -/
structure Flag where
  name : String
  letter : Option Char := none
  /-- Whether it takes a value, which is a path. -/
  takesPath : Bool := false
  /-- Whether it may be given several times. -/
  isRepeatable : Bool := false
  deriving DecidableEq, Repr

/-- The options and operands read so far. -/
structure Arguments where
  /-- The options with their values, last first; options without values have an empty one. -/
  given : List (Flag × String) := []
  /-- The operands, last first. -/
  operands : List String := []
  /-- The subcommand and the arguments after it. -/
  subcommand : Option (String × List String) := none
  deriving DecidableEq, Repr

/-- Why no more arguments are read. -/
inductive Stop where
  | refused
  /-- The help was asked for, at length or not. -/
  | help (isLong : Bool)
  | version
  deriving DecidableEq, Repr

/-- What a command understands. -/
structure Grammar where
  flags : List Flag
  subcommands : List String := []
  /-- How many operands there can be. -/
  operands : Nat := 0
  hasVersion : Bool := false

namespace Arguments

/-- The value of an option. -/
def value? (name : String) (arguments : Arguments) : Option String :=
  (arguments.given.find? (·.1.name = name)).map (·.2)

/-- The values of an option, in order. -/
def values (name : String) (arguments : Arguments) : List String :=
  ((arguments.given.filter (·.1.name = name)).map (·.2)).reverse

/-- Whether an option is given. -/
def has (name : String) (arguments : Arguments) : Bool :=
  (arguments.value? name).isSome

/-- Adds an option.  Only some can be given again, and a path is not empty. -/
def add (flag : Flag) (value : String) (arguments : Arguments) : Except Stop Arguments :=
  if (flag.takesPath && value.isEmpty) || (!flag.isRepeatable && arguments.has flag.name) then
    .error .refused
  else .ok { arguments with given := (flag, value) :: arguments.given }

end Arguments

namespace Grammar

/-- The option of a long name, or what it stops at. -/
def named (grammar : Grammar) (name : String) : Except Stop Flag :=
  match grammar.flags.find? (·.name = name) with
  | some flag => .ok flag
  | none =>
    if name = "help" then .error (.help true)
    else if name = "version" && grammar.hasVersion then .error .version
    else .error .refused

/-- The option of a letter, or what it stops at. -/
def lettered (grammar : Grammar) (letter : Char) : Except Stop Flag :=
  match grammar.flags.find? (·.letter = some letter) with
  | some flag => .ok flag
  | none =>
    if letter = 'h' then .error (.help false)
    else if letter = 'V' && grammar.hasVersion then .error .version
    else .error .refused

/-- Reads a long option without its hyphens; the result has the option that still waits for its value. -/
def long (grammar : Grammar) (text : List Char) (arguments : Arguments) :
    Except Stop (Arguments × Option Flag) :=
  match cutAt? ['='] text with
  | some (name, value) =>
    match grammar.named (String.ofList name) with
    | .error (.help _) | .error .version => .error .refused
    | .error stop => .error stop
    | .ok flag =>
      if flag.takesPath then (arguments.add flag (String.ofList value)).map fun a => (a, none)
      else .error .refused
  | none =>
    match grammar.named (String.ofList text) with
    | .error stop => .error stop
    | .ok flag =>
      if flag.takesPath then .ok (arguments, some flag)
      else (arguments.add flag "").map fun a => (a, none)

/-- Reads letters after a hyphen; the result has the option that still waits for its value. -/
def short (grammar : Grammar) (arguments : Arguments) :
    List Char → Except Stop (Arguments × Option Flag)
  | [] => .ok (arguments, none)
  | letter :: rest =>
    match grammar.lettered letter with
    | .error stop => .error stop
    | .ok flag =>
      if flag.takesPath then
        match rest with
        | [] => .ok (arguments, some flag)
        | '=' :: value => (arguments.add flag (String.ofList value)).map fun a => (a, none)
        | value => (arguments.add flag (String.ofList value)).map fun a => (a, none)
      else
        match arguments.add flag "" with
        | .ok arguments => short grammar arguments rest
        | .error stop => .error stop

/-- Adds an operand if there can be one more. -/
def operand (grammar : Grammar) (text : String) (arguments : Arguments) : Except Stop Arguments :=
  if arguments.operands.length < grammar.operands then
    .ok { arguments with operands := text :: arguments.operands }
  else .error .refused

end Grammar

/-- Whether an argument is no option: it has no hyphen at its start, or is one. -/
def isPlain (text : String) : Bool :=
  !startsWith "-" text || text = "-"

/-- Reads arguments from left to right; `waiting` is the option that the next one is the value of. -/
def readArguments (grammar : Grammar) (arguments : Arguments) (waiting : Option Flag) :
    List String → Except Stop Arguments
  | [] => if waiting.isSome then .error .refused else .ok arguments
  | text :: rest =>
    match waiting with
    | some flag =>
      if isPlain text then
        match arguments.add flag text with
        | .ok arguments => readArguments grammar arguments none rest
        | .error stop => .error stop
      else .error .refused
    | none =>
      if grammar.subcommands.contains text then
        .ok { arguments with subcommand := some (text, rest) }
      else if isPlain text then
        match grammar.operand text arguments with
        | .ok arguments => readArguments grammar arguments none rest
        | .error stop => .error stop
      else if text = "--" then rest.foldlM (fun a text => grammar.operand text a) arguments
      else
        let read := match text.toList with
          | '-' :: '-' :: name => grammar.long name arguments
          | letters => grammar.short arguments letters.tail
        match read with
        | .ok (arguments, waiting) => readArguments grammar arguments waiting rest
        | .error stop => .error stop

/-- What rendering is asked to do. -/
structure RenderOptions where
  /-- The name of the template. -/
  name : String
  /-- A directory of the repository. -/
  repository : String
  templateDirs : List String
  context : Option String
  output : Option String
  settings : Option String
  deriving DecidableEq, Repr

/-- The subcommands. -/
inductive Task where
  | render (options : RenderOptions)
  | exampleSettings
  deriving DecidableEq, Repr

/-- The pages of the help. -/
inductive Page where
  | program
  | render (isLong : Bool)
  | exampleSettings
  | help
  deriving DecidableEq, Repr

/-- What is asked for. -/
inductive Request where
  | run (task : Task) (isVerbose isQuiet : Bool)
  | help (page : Page)
  | version
  /-- The arguments are no command line of the program. -/
  | refused
  deriving DecidableEq, Repr

namespace Request

/-- The options of all commands. -/
def globalFlags : List Flag :=
  [{ name := "verbose", letter := some 'v' }, { name := "quiet", letter := some 'q' }]

/-- What the program understands before its subcommand. -/
def programGrammar : Grammar :=
  { flags := globalFlags, subcommands := ["render", "example-config", "help"], hasVersion := true }

/-- What `render` understands. -/
def renderGrammar : Grammar :=
  { flags := globalFlags ++
      [{ name := "repo", takesPath := true },
        { name := "template-dir", letter := some 't', takesPath := true, isRepeatable := true },
        { name := "context", letter := some 'c', takesPath := true },
        { name := "output", letter := some 'o', takesPath := true },
        { name := "config", takesPath := true }]
    operands := 1 }

/-- What `example-config` understands. -/
def exampleGrammar : Grammar :=
  { flags := globalFlags }

/-- Whether arguments ask for more output and for less. -/
def isContradictory (arguments : Arguments) : Bool :=
  arguments.has "verbose" && arguments.has "quiet"

/-- The task of a subcommand whose arguments have been read. -/
def task? (name : String) (arguments : Arguments) : Option Task :=
  if name = "render" then
    match arguments.operands with
    | [name] => some (.render {
        name
        repository := (arguments.value? "repo").getD "."
        templateDirs := arguments.values "template-dir"
        context := arguments.value? "context"
        output := arguments.value? "output"
        settings := arguments.value? "config" })
    | _ => none
  else some .exampleSettings

/-- The page that the arguments of `help` ask for. -/
def pageOf? : List String → Option Page
  | [] => some .program
  | ["render"] => some (.render true)
  | ["example-config"] => some .exampleSettings
  | ["help"] => some .help
  | _ => none

/-- What a subcommand is asked for, after the arguments before it. -/
def ofSubcommand (outer : Arguments) (name : String) (arguments : List String) : Request :=
  let isRender := name = "render"
  let grammar := if isRender then renderGrammar else exampleGrammar
  match readArguments grammar {} none arguments with
  | .error (.help isLong) => .help (if isRender then .render isLong else .exampleSettings)
  | .error _ => .refused
  | .ok inner =>
    if isContradictory inner || isContradictory outer then .refused
    else
      match task? name inner with
      | some task =>
        .run task (outer.has "verbose" || inner.has "verbose") (outer.has "quiet" || inner.has "quiet")
      | none => .refused

/-- What the arguments of the program ask for. -/
def parse (arguments : List String) : Request :=
  match readArguments programGrammar {} none arguments with
  | .error (.help _) => .help .program
  | .error .version => .version
  | .error .refused => .refused
  | .ok outer =>
    match outer.subcommand with
    | none => .refused
    | some ("help", names) =>
      match pageOf? names with
      | some page => .help page
      | none => .refused
    | some (name, rest) => ofSubcommand outer name rest

end Request

end ReleasePress.CommandLine
