import ReleasePress.Files.Tree
import ReleasePress.Filter.Basic

/-!
# Errors of templates

Why a template could not be found, loaded or rendered.

## Main declarations

* `TemplateError`, with the short text `TemplateError.message` and the text for users
  `TemplateError.report`.
-/

namespace ReleasePress

/-- Why a template could not be rendered. -/
inductive TemplateError where
  /-- Neither the program nor a search root has a template of the name. -/
  | notFound (name : String) (roots : List String)
  /-- A filter refused its subject or its arguments. -/
  | contractViolation (template : String) (cause : FilterError)
  /-- The text is no template. -/
  | malformed (template reason : String)
  /-- The template failed while it was rendered. -/
  | failed (template reason : String)
  /-- A directory of templates could not be read. -/
  | unreadable (path : String) (cause : FileError)
  /-- The date pattern to fall back on is no pattern. -/
  | invalidDateFormat (cause : DateFormatError)
  deriving DecidableEq, Repr

namespace TemplateError

/-- The failure to read a directory, as it is told. -/
def readFailure (path : String) (cause : FileError) : String :=
  "IO error for operation on " ++ path ++ ": " ++ cause.message

/-- The text of an error. -/
def message : TemplateError → String
  | notFound name _ => "Template '" ++ name ++ "' not found"
  | contractViolation template cause =>
    "Filter " ++ cause.message ++ " (in '" ++ template ++ "')"
  | malformed template reason => "Template syntax error in '" ++ template ++ "': " ++ reason
  | failed template reason => "Failed to render '" ++ template ++ "': " ++ reason
  | unreadable path cause =>
    "Failed to read templates under " ++ path ++ ": " ++ readFailure path cause
  | invalidDateFormat cause => "Invalid default date format: " ++ cause.message

/-- The text of what caused an error. -/
def cause? : TemplateError → Option String
  | contractViolation _ cause => some cause.message
  | unreadable path cause => some (readFailure path cause)
  | _ => none

/-- The template in which an error occurred. -/
def template? : TemplateError → Option String
  | contractViolation template _ => some template
  | malformed template _ => some template
  | failed template _ => some template
  | _ => none

/-- Where a template was searched. -/
def searched : List String → String
  | [] => "\nNo template directories are configured.\n"
  | roots => "\nSearched:\n" ++ String.join (roots.map fun root => "  - " ++ root ++ "\n")

/-- The text of an error for users. -/
def report : TemplateError → String
  | notFound name roots =>
    "Template '" ++ name ++ "' not found\n" ++ searched roots ++
      "\nAdd a directory with --template-dir or \x60template_dirs\x60 in release-docs.toml."
  | contractViolation template cause =>
    "Invalid use of filter '" ++ cause.filter.name ++ "' in '" ++ template ++ "'\n\n  " ++
      cause.misuse.message
  | malformed template reason => "Template syntax error in '" ++ template ++ "'\n\n  " ++ reason
  | failed template reason => "Failed to render '" ++ template ++ "'\n\n  " ++ reason
  | unreadable path cause => message (unreadable path cause)
  | invalidDateFormat cause => message (invalidDateFormat cause)

end TemplateError

end ReleasePress
