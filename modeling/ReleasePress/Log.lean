import ReleasePress.Git.Error

/-!
# Warnings

What is worth telling although the work goes on: a file that is skipped, front matter that is ignored,
aliases that cannot be had.

## Main declarations

* `Warning`, with its text `Warning.message`.
-/

namespace ReleasePress

open ReleasePress.Git

/-- Something that went wrong without ending the work. -/
inductive Warning where
  | aliasesUnavailable (cause : RepositoryError)
  | notText (path : String)
  | unreadable (path reason : String)
  | symlinkSkipped (path : String)
  | keyTaken (key : String) (byTemplate : Bool)
  | headerNotMapping (found : String)
  | headerInvalid (reason : String)
  deriving DecidableEq

/-- The text of a warning. -/
def Warning.message : Warning → String
  | aliasesUnavailable cause => "Contributor aliases unavailable: " ++ cause.message
  | notText path => path ++ " is not valid UTF-8"
  | unreadable path reason => "Failed to read " ++ path ++ ": " ++ reason
  | symlinkSkipped path => "Skipping symlink " ++ path
  | keyTaken key byTemplate => "Two files map to '" ++ key ++ "'; keeping the " ++
      (if byTemplate then "template" else "first file")
  | headerNotMapping found => "Ignoring front matter: expected a mapping, found " ++ found
  | headerInvalid reason => "Ignoring front matter that is not valid YAML: " ++ reason

end ReleasePress
