import ReleasePress.Calendar.Format

/-!
# Filters by name

The filters of the library, the names of their parameters, and what a call can be refused for.  Absence
is never an error: a filter is refused only for the kind of its subject or for its arguments.

## Main declarations

* `Filter`: the filters, in the order of their registration, with `Filter.name` and
  `Filter.parameters`.
* `Misuse`: what a call is refused for, with its text `Misuse.message`.
* `FilterError`: a refused call.
-/

namespace ReleasePress

/-- The filters of the library. -/
inductive Filter where
  | get
  | contains
  | attrs
  | olderThan
  | revParse
  | objectType
  | commits
  | aliasOf
  | random
  | take
  | replace
  | formatDate
  | parseDate
  | formatMarkdown
  deriving DecidableEq, Repr

namespace Filter

/-- The filters in the order of their registration. -/
def all : List Filter :=
  [get, contains, attrs, olderThan, revParse, objectType, commits, aliasOf, random, take, replace,
    formatDate, parseDate, formatMarkdown]

/-- The name that templates use. -/
def name : Filter → String
  | get => "get"
  | contains => "contains"
  | attrs => "attrs"
  | olderThan => "older_than"
  | revParse => "rev_parse"
  | objectType => "object_type"
  | commits => "commits"
  | aliasOf => "alias"
  | random => "random"
  | take => "prefix"
  | replace => "replace"
  | formatDate => "format_date"
  | parseDate => "parse_date"
  | formatMarkdown => "format_markdown"

/-- The names of the parameters, in order. -/
def parameters : Filter → List String
  | get => ["key"]
  | contains => ["key"]
  | attrs => ["key"]
  | olderThan => ["interval"]
  | aliasOf => ["platform"]
  | take => ["n"]
  | replace => ["old", "new"]
  | formatDate => ["format", "gmt"]
  | parseDate => ["format"]
  | _ => []

/-- The filter with a name. -/
def ofName? (name : String) : Option Filter :=
  all.find? fun filter => filter.name == name

theorem mem_all (filter : Filter) : filter ∈ all := by
  cases filter <;> decide

end Filter

/-- What a call of a filter is refused for. -/
inductive Misuse where
  | keyWanted
  | memberWanted
  | opaqueSubject (kind : String)
  | optionalTextWanted
  | intervalWanted
  | noArguments
  | revisionWanted
  | idWanted
  | invalidId (text : String)
  | objectWanted
  | contactWanted
  | platformWanted
  | collectionWanted (kind : String)
  | lengthWanted
  | twoTextsWanted
  | textSubjectWanted
  | dateArguments
  | patternWanted
  | universalWanted
  | dateWanted
  | badPattern (cause : DateFormatError)
  | unknownArgument (name : String) (parameters : List String)
  deriving DecidableEq, Repr

/-- The text of a refusal. -/
def Misuse.message : Misuse → String
  | keyWanted => "requires one argument, which must be a string key"
  | memberWanted =>
    "requires one argument, which must be a key in a map or an element of a sequence"
  | opaqueSubject kind => "cannot look into a " ++ kind
  | optionalTextWanted => "allows one argument, which must be a string"
  | intervalWanted => "requires one argument, which must be a time interval such as " ++
      "\"9d\", \"9d3h\" or \"7w2d30\""
  | noArguments => "takes no arguments"
  | revisionWanted => "requires a string value or object ID"
  | idWanted => "requires a value, which must be either a string or an object ID"
  | invalidId text => "'" ++ text ++ "' is not a valid object ID"
  | objectWanted => "requires a value, which must be a Git object"
  | contactWanted => "requires one value, which must be a name and email in the format " ++
      "'Jane Doe <jdoe@example.org>'"
  | platformWanted => "allows one argument, which must be a platform like 'gitlab' or 'slack'"
  | collectionWanted kind => "takes one value, which must be a collection, not a " ++ kind
  | lengthWanted => "allows one argument, which must be a non-negative integer"
  | twoTextsWanted => "requires two arguments, which must be strings"
  | textSubjectWanted => "takes one value, which must be a string"
  | dateArguments => "allows two arguments, a format string and a bool"
  | patternWanted => "format must be a string"
  | universalWanted => "gmt must be a bool"
  | dateWanted => "takes one value, which must be a date"
  | badPattern cause => cause.message
  | unknownArgument name [] => "has no argument '" ++ name ++ "'; it takes no arguments"
  | unknownArgument name parameters =>
    "has no argument '" ++ name ++ "'; it accepts " ++ ", ".intercalate parameters

/-- A call of a filter that was refused. -/
structure FilterError where
  filter : Filter
  misuse : Misuse
  deriving DecidableEq, Repr

/-- The text of a refused call. -/
def FilterError.message (e : FilterError) : String :=
  "'" ++ e.filter.name ++ "' " ++ e.misuse.message

end ReleasePress
