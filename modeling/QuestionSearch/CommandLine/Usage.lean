/-!
# Usage

The text that says how the program is called.
-/

namespace QuestionSearch.CommandLine

/-- How the program is called. -/
def usageLines : List String :=
  ["Usage: nlsearch [OPTIONS] <COMMAND>",
    "",
    "Commands:",
    "  parse <QUESTION>                                 Show the best parse of a question",
    "  plan --content <FILE> <QUESTION>                 Show the plan for a question",
    "  query --content <FILE> [--limit <N>] <QUESTION>  Answer a question",
    "  grammar show|check [FILE]                        Print or check a grammar",
    "  config show|init|path                            Print settings or where they are",
    "",
    "Options:",
    "  -c, --config <FILE>    The file of settings",
    "  -v, --verbose          Say more than the settings do",
    "  -f, --format <FORMAT>  text or json",
    "  -h, --help             Print this",
    "  -V, --version          Print the version"]

/-- How the program is called, as one text. -/
def usage : String := String.join (usageLines.map fun line => line ++ "\n")

end QuestionSearch.CommandLine
