import ReleasePress.Files.Path

/-!
# Templates that the program brings along

A change log and release notes for repositories without templates of their own.

## Main declarations

* `Builtin.templates`: names and texts, in the order of the names.
* `Builtin.text?`: the text of a template by name.
-/

namespace ReleasePress.Builtin

/-- The list of all commits. -/
def changelog : String :=
  "---\n" ++
  "title: Changelog\n" ++
  "---\n" ++
  "\x7b% set head = revision | default(value=\"HEAD\") | rev_parse -%\x7d\n" ++
  "# \x7b\x7b headers.title \x7d\x7d\n" ++
  "\x7b% if head %\x7d\n" ++
  "\x7b% for commit in head | commits -%\x7d\n" ++
  "- \x7b\x7b commit.summary \x7d\x7d (`\x7b\x7b commit.oid | prefix(n=7) \x7d\x7d`, " ++
  "\x7b\x7b commit.author.name \x7d\x7d)\n" ++
  "\x7b% endfor -%\x7d\n" ++
  "\x7b% else %\x7d\n" ++
  "No history available.\n" ++
  "\x7b% endif -%\x7d\n"

/-- The latest commits of a release, with the channel that a note names. -/
def releaseNotes : String :=
  "---\n" ++
  "title: Release Notes\n" ++
  "limit: 20\n" ++
  "---\n" ++
  "\x7b% set release = revision | default(value=\"HEAD\") | rev_parse -%\x7d\n" ++
  "# \x7b\x7b headers.title \x7d\x7d\x7b% if release and release.type == " ++
  "\"tag\" %\x7d for \x7b\x7b release.name \x7d\x7d\x7b% endif %\x7d\n" ++
  "\x7b% if release and release.type == \"tag\" and release.tagger %\x7d\n" ++
  "_Released \x7b\x7b release.tagger.time | format_date(format=\"%B %-d, %Y\") \x7d\x7d_\n" ++
  "\x7b% endif %\x7d\n" ++
  "\x7b% if release -%\x7d\n" ++
  "\x7b% for commit in release | commits -%\x7d\n" ++
  "\x7b% if loop.index <= headers.limit -%\x7d\n" ++
  "* \x7b\x7b commit.summary \x7d\x7d\x7b% set channel = commit | " ++
  "attrs(key=\"Release-Channel\") %\x7d\x7b% if channel %\x7d [\x7b\x7b channel " ++
  "\x7d\x7d]\x7b% endif %\x7d\n" ++
  "\x7b% endif -%\x7d\n" ++
  "\x7b% endfor -%\x7d\n" ++
  "\x7b% endif -%\x7d\n"

/-- The templates by name. -/
def templates : List (String × String) :=
  [("changelog.md", changelog), ("release-notes.md", releaseNotes)]

/-- The text of the template that a name spells. -/
def text? (name : String) : Option String :=
  (templates.find? fun (known, _) => Path.components known == Path.components name).map (·.2)

end ReleasePress.Builtin
