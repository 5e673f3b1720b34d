import ReleasePress.CommandLine.Arguments

/-!
# The texts of the command line

## Main declarations

* `CommandLine.Page.text`: the pages of the help.
* `CommandLine.version`: the name and the version of the program.
* `CommandLine.exampleSettings`: an example of a settings file.
-/

namespace ReleasePress.CommandLine

/-- The name and the version of the program. -/
def version : String :=
  "release-docs 0.3.0\n"

/-- The page of the program. -/
def programPage : String :=
  "Render changelogs and release notes from templates backed by a Git repository

Usage: release-docs [OPTIONS] <COMMAND>

Commands:
  render          Render a template, or every template in a directory
  example-config  Print an example release-docs.toml
  help            Print this message or the help of the given subcommand(s)

Options:
  -v, --verbose  Enable debug output
  -q, --quiet    Only report errors
  -h, --help     Print help
  -V, --version  Print version
"

/-- The short page of `render`. -/
def shortRenderPage : String :=
  "Render a template, or every template in a directory

Usage: release-docs render [OPTIONS] <NAME>

Arguments:
  <NAME>  Template file or directory name, e.g. \x60release\x60 or \x60changelog.base.md\x60

Options:
      --repo <REPO>
          Repository to document [default: .]
  -v, --verbose
          Enable debug output
  -q, --quiet
          Only report errors
  -t, --template-dir <TEMPLATE_DIRS>
          Template directory searched before the configured ones (repeatable)
  -c, --context <CONTEXT>
          YAML or JSON file with extra template variables
  -o, --output <OUTPUT>
          Directory to write rendered files to
      --config <CONFIG>
          Configuration file (default: release-docs.toml in the repository root)
  -h, --help
          Print help (see more with '--help')
"

/-- The long page of `render`. -/
def longRenderPage : String :=
  "Render a template, or every template in a directory.

With \x60--output\x60, rendered files are written under the output directory and non-template files of a rendered directory are copied next to them. Without it, a single rendered document is printed to stdout.

Usage: release-docs render [OPTIONS] <NAME>

Arguments:
  <NAME>
          Template file or directory name, e.g. \x60release\x60 or \x60changelog.base.md\x60

Options:
      --repo <REPO>
          Repository to document
         \x20
          [default: .]

  -v, --verbose
          Enable debug output

  -q, --quiet
          Only report errors

  -t, --template-dir <TEMPLATE_DIRS>
          Template directory searched before the configured ones (repeatable)

  -c, --context <CONTEXT>
          YAML or JSON file with extra template variables

  -o, --output <OUTPUT>
          Directory to write rendered files to

      --config <CONFIG>
          Configuration file (default: release-docs.toml in the repository root)

  -h, --help
          Print help (see a summary with '-h')
"

/-- The page of `example-config`. -/
def examplePage : String :=
  "Print an example release-docs.toml

Usage: release-docs example-config [OPTIONS]

Options:
  -v, --verbose  Enable debug output
  -q, --quiet    Only report errors
  -h, --help     Print help
"

/-- The page of `help`. -/
def helpPage : String :=
  "Print this message or the help of the given subcommand(s)

Usage: release-docs help [COMMAND]...

Arguments:
  [COMMAND]...  Print help for the subcommand(s)
"

/-- The text of a page. -/
def Page.text : Page → String
  | program => programPage
  | render isLong => if isLong then longRenderPage else shortRenderPage
  | exampleSettings => examplePage
  | help => helpPage

/-- An example of a settings file. -/
def exampleSettings : String :=
  "# release-docs configuration
#
# Place this file at the root of the repository as release-docs.toml,
# or pass it explicitly with --config.

# Template directories, searched in order. The first directory containing
# the requested name wins. Relative paths are resolved against the
# repository root.
template_dirs = [\".release-docs/templates\"]

# Notes ref read by the \x60attrs\x60 filter. Short names are expanded to
# refs/notes/<name>.
notes_ref = \"refs/notes/release\"

# Default strftime pattern used by \x60format_date\x60 and \x60parse_date\x60.
date_format = \"%a %b %-d %H:%M:%S %Y %z\"

# Contributor alias map used by the \x60alias\x60 filter.
alias_file = \".release-docs/aliases.yml\"
"

end ReleasePress.CommandLine
