import QueryTemplate.Command.Basic

/-!
# Help

The help on the program and on each of its subcommands.
-/

namespace QueryTemplate.HelpTopic

/-- The lines of a help text. -/
def lines : HelpTopic → List String
  | .root => [
      "sqltpl - render SQL query templates",
      "",
      "USAGE:",
      "  sqltpl <COMMAND> [OPTIONS]",
      "",
      "COMMANDS:",
      "  render        Substitute arguments into a template",
      "  inspect       List the segments and placeholders of a template",
      "",
      "Run \x60sqltpl <command> --help\x60 for more."]
  | .render => [
      "USAGE:",
      "  sqltpl render [OPTIONS] <TEMPLATE>",
      "  sqltpl render [OPTIONS] --file <FILE>",
      "",
      "OPTIONS:",
      "  --file <FILE>         Read the template from a file",
      "  --args <JSON>         JSON array of arguments (default: [])",
      "  --args-file <FILE>    Read the JSON array of arguments from a file",
      "  --skip <N>            Insert the skip sentinel as argument N (repeatable)",
      "  --dialect <NAME>      mysql or postgres (overrides config)",
      "  --config <FILE>       Config file path (default: sqltpl.toml, optional)",
      "  -v, --verbose         Log to stderr (RUST_LOG also enables logging)",
      "  -h, --help            Print help"]
  | .inspect => [
      "USAGE:",
      "  sqltpl inspect <TEMPLATE>",
      "  sqltpl inspect --file <FILE>",
      "",
      "OPTIONS:",
      "  --file <FILE>         Read the template from a file",
      "  -h, --help            Print help"]

/-- **The help on a topic**, each line with its end. -/
def text (topic : HelpTopic) : Text :=
  topic.lines.flatMap fun line => line.toList ++ ['\n']

end QueryTemplate.HelpTopic
