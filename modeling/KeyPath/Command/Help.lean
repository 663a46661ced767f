import KeyPath.Command.Arguments
/-!
# Usage and help

The texts that the command gives its arguments and options. What is said of a command line that is
refused is left to the reader of arguments.
-/

namespace KeyPath.Command

def usage : String := "Usage: dig [OPTIONS] <KEY>..."

/-- What the command says when help is asked for. -/
def help : String :=
  "\n".intercalate
    ["Dig - nested key lookup into JSON and YAML documents", "", usage, "", "Arguments:",
      "  <KEY>...  Key path to follow: `:sym` for symbols, `\"text\"` for strings, " ++
        "integers for indices (negative counts from the end), anything else is a string key", "",
      "Options:",
      "  -i, --input <FILE>           Document to read (reads stdin if not specified)",
      "      --input-format <FORMAT>  Input format (detected from the file extension if not " ++
        "specified) [possible values: json, yaml]",
      "  -f, --format <FORMAT>        Output format (json, inspect) [default: json] " ++
        "[possible values: json, inspect]",
      "      --symbolize-keys         Load mapping keys as symbols instead of strings",
      "      --strict                 Fail when the key path leads nowhere",
      "  -v, --verbose...             Increase verbosity (-v info, -vv debug, -vvv trace)",
      "  -q, --quiet                  Suppress all output except errors",
      "  -h, --help                   Print help"]

end KeyPath.Command
