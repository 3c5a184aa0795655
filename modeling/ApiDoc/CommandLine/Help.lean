import ApiDoc.CommandLine.Arguments

/-!
# Help texts
-/

namespace ApiDoc.CommandLine

def programName : String := "jdoc"

def versionText : String := programName ++ " 0.1.0\n"

/-- Lines with a line break behind each. -/
def lines (l : List String) : String := String.join (l.map (· ++ "\n"))

def programHelp : String :=
  lines [
    "Extract a Java API model from javadoc HTML pages",
    "",
    "Usage: jdoc <COMMAND>",
    "",
    "Commands:",
    "  extract    Extract and merge the model of every documentation root",
    "  parse      Parse a single class page and print its model",
    "  constants  Parse a constants page and print its values",
    "  help       Print this message or the help of the given subcommand(s)",
    "",
    "Options:",
    "  -h, --help     Print help",
    "  -V, --version  Print version"]

def commandHelp : CommandName → String
  | .extract => lines [
      "Extract and merge the model of every documentation root",
      "",
      "Usage: jdoc extract [OPTIONS] [ROOTS]...",
      "",
      "Arguments:",
      "  [ROOTS]...  Documentation roots, in merge order (replaces `doc_roots` from the config)",
      "",
      "Options:",
      "      --config <CONFIG>    TOML config file",
      "      --format <FORMAT>    Output format: json or summary",
      "      --out <OUT>          Write the model here instead of stdout",
      "      --threads <THREADS>  Parser threads (0 = one per core)",
      "      --class <CLASS>      Only print this class (simple or fully qualified name)",
      "      --report-json        Print the run report as JSON on stderr",
      "  -h, --help               Print help"]
  | .parse => lines [
      "Parse a single class page and print its model",
      "",
      "Usage: jdoc parse [OPTIONS] <FILE>",
      "",
      "Arguments:",
      "  <FILE>  Class page to parse",
      "",
      "Options:",
      "      --json  Emit JSON",
      "  -h, --help  Print help"]
  | .constants => lines [
      "Parse a constants page and print its values",
      "",
      "Usage: jdoc constants [OPTIONS] <FILE>",
      "",
      "Arguments:",
      "  <FILE>  Constants page to parse",
      "",
      "Options:",
      "      --json  Emit JSON",
      "  -h, --help  Print help"]

def helpText : Option CommandName → String
  | none => programHelp
  | some c => commandHelp c

end ApiDoc.CommandLine
