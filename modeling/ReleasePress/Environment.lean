import ReleasePress.Markdown.FrontMatter
import ReleasePress.Settings.Basic
import ReleasePress.Template.Render
import ReleasePress.Template.Source

/-!
# Rendering templates

An environment loads templates from its search roots and renders them with one filter library.  The
header of a Markdown template becomes `headers`, unless the context already has that name.

## Main declarations

* `Environment`: the search roots and the filter library.
* `Environment.ofSettings`: the environment that settings describe.
* `Environment.renderText`: the document of one text.
* `Environment.renderTemplates`: the documents of all entries of a template, in the order of their keys.
-/

namespace ReleasePress

/-- Where templates are found and what they are rendered with. -/
structure Environment (σ : Type) where
  library : FilterLibrary σ
  /-- The search roots, in the order of the search. -/
  roots : List String

/-- Documents by key; files that are passed through have none. -/
abbrev Documents := List (String × Option String)

namespace Template

/-- Adds a message to those so far unless it is blank or among them. -/
def addMessage (messages : List String) (message : String) : List String :=
  let message := Text.trimmed message
  if message.isEmpty || messages.contains message then messages else messages ++ [message]

/-- Messages from the outside to the inside, each once, with the name of a filter that may have been meant. -/
def reasonOf (trail : List String) : String :=
  withSuggestion (match trail.foldl addMessage [] with
    | [] => "Template error (no details available)"
    | messages => "\n  → ".intercalate messages)

/-- The error of a failure in the template of a key. -/
def Failure.error (key : String) (failure : Failure) : TemplateError :=
  match failure.refusal with
  | some refusal => .contractViolation key refusal
  | none => .failed key (reasonOf failure.trail)

/-- The name of the template of a key in messages of its own. -/
def pageName (key : String) : String :=
  Text.lastSegment key

end Template

namespace Environment

variable {σ : Type}

/-- The environment of settings: relative template directories are seen from `base`. -/
def ofSettings (repository : Git.Repository σ) (settings : Settings) (base : String)
    (circumstances : Circumstances) : Except TemplateError (Environment σ) :=
  match DateFormat.ofPattern? settings.datePattern with
  | .error cause => .error (.invalidDateFormat cause)
  | .ok dates =>
    .ok {
      library := { circumstances with repository, notesRef := settings.notesRef, dates }
      roots := settings.templateDirsFrom base }

/-- The name of the front matter in contexts. -/
def headersName : String :=
  "headers"

/-- Adds warnings, last one first. -/
def warn (warnings : List Warning) : FilterLibrary.Session σ Unit :=
  modify fun s => { s with warnings := warnings ++ s.warnings }

/-- A context with the front matter of a template. -/
def withHeaders (header : Option Fields) (context : Fields) : Fields :=
  match header with
  | some fields =>
    if (Json.field? headersName context).isSome then context
    else Json.insertField headersName (.object fields) context
  | none => context

/-- A document under a key with what it is rendered from. -/
def page (environment : Environment σ) (key : String) (document : Template.Document)
    (context : Fields) : Template.Page σ :=
  { library := environment.library, name := Template.pageName key, document, context }

/-- The document of the body of a template. -/
def renderBody (environment : Environment σ) (key body : String) (context : Fields) :
    FilterLibrary.Session σ (Except TemplateError String) :=
  match Template.Document.read? body with
  | none =>
    let complaints := environment.library.complaints (Template.pageName key) body
    pure (.error (.malformed key (Template.reasonOf complaints)))
  | some document => fun filters =>
    let (result, progress) :=
      (environment.page key document context).render.run.run (.start filters)
    (match result with
      | .ok text => .ok text
      | .error failure => .error (failure.error key), progress.filters)

/-- The document of one text under a key. -/
def renderText (environment : Environment σ) (key text : String) (context : Fields) :
    FilterLibrary.Session σ (Except TemplateError String) := do
  let (body, header, warning) := FrontMatter.split (Template.isMarkdownKey key) text
  warn warning.toList
  environment.renderBody key body (withHeaders header context)

/-- The document of an entry, if it has one. -/
def renderEntry (environment : Environment σ) (key : String) (context : Fields) :
    Entry → FilterLibrary.Session σ (Except TemplateError (Option String))
  | .text contents => do
    match ← environment.renderText key contents context with
    | .ok text => pure (.ok (some text))
    | .error e => pure (.error e)
  | .passthrough => pure (.ok none)

/-- The documents of some entries, up to the first one that fails. -/
def renderEntries (environment : Environment σ) (context : Fields) :
    Entries → FilterLibrary.Session σ (Except TemplateError Documents)
  | [] => pure (.ok [])
  | (key, entry) :: entries => do
    match ← environment.renderEntry key context entry with
    | .error e => pure (.error e)
    | .ok document =>
      match ← renderEntries environment context entries with
      | .ok documents => pure (.ok ((key, document) :: documents))
      | .error e => pure (.error e)

/-- The documents of all entries of a template.  If one fails there are none. -/
def renderTemplates (environment : Environment σ) (files : FileTree) (name : String)
    (context : Fields) : FilterLibrary.Session σ (Except TemplateError Documents) := do
  let (entries, warnings) := Template.load files environment.roots name
  warn warnings
  match entries with
  | .error e => pure (.error e)
  | .ok entries => environment.renderEntries context entries

end Environment

end ReleasePress
