import ReleasePress.CommandLine.Help
import ReleasePress.Log.Level
import ReleasePress.Output

/-!
# Running the program

A run is a function of its arguments and of what it finds: the files, the Git executable and the circumstances.  It
yields what is printed, an exit code and the files afterwards.

## Main declarations

* `CommandLine.Surroundings`: what a run finds.
* `CommandLine.Failure`: why rendering failed, with its text `Failure.report`.
* `CommandLine.render`: the documents of a template.
* `CommandLine.run`: the outcome of a run.
-/

namespace ReleasePress.CommandLine

open ReleasePress.Git

/-- What a run finds. -/
structure Surroundings extends Circumstances where
  files : FileTree
  executable : Executable
  /-- The log filter of the user, if there is one. -/
  logFilter : Option String

/-- Why a file of context could not be used. -/
inductive ContextFailure where
  | unreadable (path : String) (cause : FileError)
  | malformed (path : String)
  | notMapping (path : String)
  deriving DecidableEq, Repr

/-- Why rendering failed. -/
inductive Failure where
  | repository (directory : String) (cause : RepositoryError)
  | settings (cause : Settings.Failure)
  | context (cause : ContextFailure)
  | template (cause : TemplateError)
  /-- The only document is a file that is passed through. -/
  | notTemplate (name : String)
  | notSingle (name : String) (count : Nat)
  | output (cause : Output.Failure)

/-- What an invalid document is refused for. -/
def invalidDocument : String :=
  "invalid document"

/-- What failed, and why. -/
def ContextFailure.lines : ContextFailure → String × List String
  | unreadable path cause => ("Failed to read context file: " ++ path, [cause.message])
  | malformed path => ("Failed to parse context file: " ++ path, [invalidDocument])
  | notMapping path => ("Context file " ++ path ++ " must contain a mapping", [])

/-- What failed, and why. -/
def settingsLines (cause : Settings.Failure) : String × List String :=
  match cause with
  | .unreadable _ reason => (cause.message, [reason.message])
  | .malformed _ => (cause.message, [invalidDocument])

/-- What failed, and why. -/
def Failure.lines : Failure → String × List String
  | repository directory cause => ("Failed to open repository at " ++ directory, [cause.message])
  | settings cause => settingsLines cause
  | context cause => cause.lines
  | template cause => (cause.report, [])
  | notTemplate name => ("'" ++ name ++ "' is not a template", [])
  | notSingle name count =>
    ("'" ++ name ++ "' renders " ++ toString count ++ " files; pass --output to write them", [])
  | output cause => (cause.message, (cause.cause?.map FileError.message).toList)

/-- The text of a failure with its causes. -/
def Failure.report (failure : Failure) : String :=
  let (message, causes) := failure.lines
  "error: " ++ message ++ "\n" ++ String.join (causes.map fun cause => "  caused by: " ++ cause ++ "\n")

/-- The context of a file; without a file, or if it holds nothing, it is empty. -/
def contextOf (files : FileTree) : Option String → Except ContextFailure Fields
  | none => .ok []
  | some path =>
    match files.readText path with
    | .error cause => .error (.unreadable path cause)
    | .ok text =>
      match Yaml.parse? text with
      | some .null => .ok []
      | some (.object fields) => .ok fields
      | some _ => .error (.notMapping path)
      | none => .error (.malformed path)

/-- The settings that options ask for, with the template directories of the options first. -/
def settingsOf (files : FileTree) (root : String) (options : RenderOptions) :
    Except Settings.Failure Settings :=
  let found :=
    match options.settings with
    | some path => Settings.load files path
    | none => Settings.discover files root
  found.map fun settings =>
    { settings with
      templateDirs :=
        options.templateDirs.map (Path.join files.workingDirectory) ++ settings.templateDirs }

/-- What a run has done so far. -/
structure Progress where
  /-- The invocations of Git, last one first. -/
  invocations : List Invocation := []
  /-- The warnings, last one first. -/
  warnings : List Warning := []

/-- A part of a run that may fail. -/
abbrev Part := ExceptT Failure (StateM Progress)

/-- A result or a failure. -/
def settle {ε α : Type} (failure : ε → Failure) (result : Except ε α) : Part α :=
  match result with
  | .ok a => pure a
  | .error cause => throw (failure cause)

/-- The work tree of the repository that options name. -/
def openRepository (s : Surroundings) (options : RenderOptions) : Part WorkTree := do
  let (result, invocations) := (WorkTree.open_ s.executable options.repository).run (← get).invocations
  modify fun progress => { progress with invocations }
  settle (.repository options.repository) result

/-- The documents of a template, with a context read from a file after the environment is made. -/
def documentsFrom (s : Surroundings) (options : RenderOptions)
    (environment : Environment (List Invocation)) : Part Documents := do
  let context ← settle .context (contextOf s.files options.context)
  let (result, state) := (environment.renderTemplates s.files options.name context).run
    { repository := (← get).invocations }
  set (Progress.mk state.repository (state.warnings ++ (← get).warnings))
  settle .template result

/-- The documents that options ask for, and the source of their template. -/
def render (s : Surroundings) (options : RenderOptions) :
    Part (Documents × Except TemplateError TemplateSource) := do
  let tree ← openRepository s options
  let settings ← settle .settings (settingsOf s.files tree.path options)
  let tree := { tree with aliasFile := settings.aliasFile }
  match Environment.ofSettings (tree.repository s.executable s.files) settings tree.path s.toCircumstances with
  | .error cause => throw (.template cause)
  | .ok environment =>
    let documents ← documentsFrom s options environment
    return (documents, Template.resolve s.files environment.roots options.name)

/-- The text of the only document. -/
def singleDocument (name : String) : Documents → Except Failure String
  | [(_, some text)] => .ok text
  | [(_, none)] => .error (.notTemplate name)
  | documents => .error (.notSingle name documents.length)

/-- What a run yields. -/
structure Outcome where
  code : Nat
  stdout : String := ""
  stderr : String := ""
  files : FileTree
  /-- The invocations of Git, last one first. -/
  invocations : List Invocation := []

/-- What is printed after documents are written. -/
def writtenMessage (output : String) (count : Nat) : String :=
  "✓ Rendered " ++ toString count ++ " file(s) to " ++ output ++ "\n"

/-- What a run prints and the files after it, once the documents are there: they are written to the output
directory, or the only one is printed. -/
def deliver (files : FileTree) (options : RenderOptions) (isQuiet : Bool) (documents : Documents)
    (source : Except TemplateError TemplateSource) : Except Failure String × FileTree :=
  match options.output with
  | none => (singleDocument options.name documents, files)
  | some output =>
    match source with
    | .error cause => (.error (.template cause), files)
    | .ok source =>
      match (Output.writeAll output source documents).run.run files with
      | (.error cause, files) => (.error (.output cause), files)
      | (.ok (), files) =>
        (.ok (if isQuiet then "" else writtenMessage output documents.length), files)

/-- The log filter: that of the user if it can be read, and else the program's own. -/
def logFilterOf (s : Surroundings) (isVerbose isQuiet : Bool) : LogFilter :=
  (s.logFilter.bind LogFilter.parse?).getD
    (LogFilter.ofLevel (if isVerbose then .debug else if isQuiet then .error else .info))

/-- The lines of warnings, which are given last one first. -/
def warningLines (filter : LogFilter) (warnings : List Warning) : String :=
  String.join ((warnings.reverse.filter filter.shows).map fun warning =>
    " WARN " ++ warning.message ++ "\n")

/-- The outcome of rendering. -/
def runRender (s : Surroundings) (options : RenderOptions) (isVerbose isQuiet : Bool) : Outcome :=
  let (rendered, progress) := (render s options).run.run {}
  let warnings := warningLines (logFilterOf s isVerbose isQuiet) progress.warnings
  let (result, files) : Except Failure String × FileTree :=
    match rendered with
    | .error failure => (.error failure, s.files)
    | .ok (documents, source) => deliver s.files options isQuiet documents source
  match result with
  | .ok stdout =>
    { code := 0, stdout, stderr := warnings, files, invocations := progress.invocations }
  | .error failure =>
    { code := 1, stderr := warnings ++ failure.report, files
      invocations := progress.invocations }

/-- What is printed for arguments that are no command line. -/
def usageMessage : String :=
  "error: invalid arguments\n\nFor more information, try '--help'.\n"

/-- The outcome of a run. -/
def run (s : Surroundings) (arguments : List String) : Outcome :=
  match Request.parse arguments with
  | .refused => { code := 2, stderr := usageMessage, files := s.files }
  | .version => { code := 0, stdout := version, files := s.files }
  | .help page => { code := 0, stdout := page.text, files := s.files }
  | .run .exampleSettings _ _ => { code := 0, stdout := exampleSettings, files := s.files }
  | .run (.render options) isVerbose isQuiet => runRender s options isVerbose isQuiet

end ReleasePress.CommandLine
