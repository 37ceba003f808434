namespace TableTransfer.CommandLine

def lines (ss : List String) : String := String.join (ss.map fun s => s ++ "\n")

def versionText : String := lines ["dbrecord 0.1.0"]

inductive HelpTopic where
  | program | infer | validate | escape | splits | dialects | help
deriving DecidableEq

def HelpTopic.text : HelpTopic → String
  | program => lines [
      "Cross-dialect schema inference and validation",
      "",
      "Usage: dbrecord [OPTIONS] <COMMAND>",
      "",
      "Commands:",
      "  infer     Infer a universal schema from column metadata",
      "  validate  Validate a declared schema against column metadata",
      "  escape    Escape identifiers with the dialect's quoting",
      "  splits    Print the split queries of the configured import",
      "  dialects  List the available dialects",
      "  help      Print this message or the help of the given subcommand(s)",
      "",
      "Options:",
      "  -c, --config <CONFIG>          Path to YAML configuration file",
      "  -d, --dialect <DIALECT>        Dialect name or alias (overrides the configuration file)",
      "      --output-json              Output JSON to stdout",
      "      --log-format <LOG_FORMAT>  Log format: text or json [default: text]",
      "      --verbosity <VERBOSITY>    Log verbosity: debug, info, warn, error [default: warn]",
      "  -h, --help                     Print help",
      "  -V, --version                  Print version"]
  | infer => lines [
      "Infer a universal schema from column metadata",
      "",
      "Usage: dbrecord infer --columns <COLUMNS>",
      "",
      "Options:",
      "      --columns <COLUMNS>  Column metadata file (JSON or YAML list)",
      "  -h, --help               Print help"]
  | validate => lines [
      "Validate a declared schema against column metadata",
      "",
      "Usage: dbrecord validate [OPTIONS] --columns <COLUMNS> --schema <SCHEMA>",
      "",
      "Options:",
      "      --columns <COLUMNS>  Column metadata file (JSON or YAML list)",
      "      --schema <SCHEMA>    Declared schema file (JSON or YAML list of fields)",
      "      --role <ROLE>        Whether records are read from (source) or written to (sink) " ++
        "the columns [default: source] [possible values: source, sink]",
      "  -h, --help               Print help"]
  | escape => lines [
      "Escape identifiers with the dialect's quoting",
      "",
      "Usage: dbrecord escape [OPTIONS] <NAMES>...",
      "",
      "Arguments:",
      "  <NAMES>...  Identifiers to escape",
      "",
      "Options:",
      "      --schema <SCHEMA>  Schema qualifying every name [default: ]",
      "  -h, --help             Print help"]
  | splits => lines [
      "Print the split queries of the configured import",
      "",
      "Usage: dbrecord splits [OPTIONS]",
      "",
      "Options:",
      "      --min <MIN>  Minimum split column value returned by the bounding query",
      "      --max <MAX>  Maximum split column value returned by the bounding query",
      "  -h, --help       Print help"]
  | dialects => lines [
      "List the available dialects",
      "",
      "Usage: dbrecord dialects",
      "",
      "Options:",
      "  -h, --help  Print help"]
  | help => lines [
      "Print this message or the help of the given subcommand(s)",
      "",
      "Usage: dbrecord help [COMMAND]...",
      "",
      "Arguments:",
      "  [COMMAND]...  Print help for the subcommand(s)"]

def HelpTopic.ofName? : String → Option HelpTopic
  | "infer" => some infer
  | "validate" => some validate
  | "escape" => some escape
  | "splits" => some splits
  | "dialects" => some dialects
  | "help" => some help
  | _ => none

end TableTransfer.CommandLine
