import Lexicon.CommandLine.Command
import Lexicon.Text.Basic

/-!
# Help texts

The texts that are printed on request, and the messages about faults of usage, each ending in a
newline.

## Main definitions

* `Topic.text`: the help about a topic.
* `versionText`: the name and the version of the program.
* `Stop.text`, `Stop.message`: what a stop prints on standard output and on standard error.
-/

namespace Lexicon

/-- The help about a topic. -/
def Topic.text : Topic → String
  | program => unlines
      [ "Inspect the Ruka lexical vocabulary",
        "",
        "Usage: ruka <COMMAND>",
        "",
        "Commands:",
        "  vocab     Print the Markdown vocabulary reference",
        "  classify  Show how each spelling classifies into a token kind",
        "  render    Print the canonical spelling of a fixed-spelling token kind",
        "  help      Print this message or the help of the given subcommand(s)",
        "",
        "Options:",
        "  -h, --help     Print help",
        "  -V, --version  Print version" ]
  | vocab => unlines
      [ "Print the Markdown vocabulary reference",
        "",
        "Usage: ruka vocab [OPTIONS]",
        "",
        "Options:",
        "  -o, --output <PATH>  Write to this file instead of stdout",
        "  -h, --help           Print help" ]
  | classify => unlines
      [ "Show how each spelling classifies into a token kind",
        "",
        "Usage: ruka classify <SPELLING>...",
        "",
        "Arguments:",
        "  <SPELLING>...  Spellings to classify (keywords, modes, symbols, identifiers)",
        "",
        "Options:",
        "  -h, --help  Print help" ]
  | render => unlines
      [ "Print the canonical spelling of a fixed-spelling token kind",
        "",
        "Usage: ruka render <TAG>",
        "",
        "Arguments:",
        "  <TAG>  Variant name, e.g. `RangeInc`",
        "",
        "Options:",
        "  -h, --help  Print help" ]
  | help => unlines
      [ "Print this message or the help of the given subcommand(s)",
        "",
        "Usage: ruka help [COMMAND]...",
        "",
        "Arguments:",
        "  [COMMAND]...  Print help for the subcommand(s)" ]

/-- The name and the version of the program. -/
def versionText : String :=
  unlines ["ruka 0.1.0-alpha.1"]

/-- What a stop prints on standard output: the text that was asked for, and nothing for a fault. -/
def Stop.text : Stop → String
  | help topic => topic.text
  | version => versionText
  | _ => ""

/-- The message about a fault of usage. -/
def usageMessage (fault : String) : String :=
  unlines ["error: " ++ fault, "", "For more information, try '--help'."]

/-- What a stop prints on standard error: the sort of the fault, and nothing if a text was asked for.
Without any command there is nothing to point at, and the help of the program is shown instead. -/
def Stop.message : Stop → String
  | help _ | version => ""
  | noCommand => Topic.program.text
  | unknownCommand => usageMessage "unrecognized subcommand"
  | unknownArgument => usageMessage "unexpected argument found"
  | missingArgument => usageMessage "a required argument was not provided"
  | invalidValue => usageMessage "a value is required for an option but none was supplied"
  | repeatedOption => usageMessage "an option cannot be used multiple times"
  | unexpectedValue => usageMessage "unexpected value for an option that takes none"

end Lexicon
