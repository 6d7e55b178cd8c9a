import RegistrySearch.CommandLine.Command

/-!
# Help

What the program says about itself: its name, its version, and a text for each `Topic`.
-/

namespace RegistrySearch.CommandLine

/-- The name of the program, and of the directory that it keeps indexes in by default. -/
def programName : String := "regsearch"

/-- The line that tells the version. -/
def versionText : String := programName ++ " 0.3.1\n"

/-- The help on a topic. -/
def Topic.text : Topic → String
  | program =>
    "Query-scoped search over service registrations\n\n" ++
    "Usage: " ++ programName ++ " <COMMAND>\n\n" ++
    "Commands:\n" ++
    "  search  Search a JSON array of registrations and print matches as JSON\n" ++
    "  fields  Show the parsed clause tree and the fields a query needs\n" ++
    "  help    Print this message or the help of the given subcommand(s)\n\n" ++
    "Options:\n" ++
    "  -h, --help     Print help\n" ++
    "  -V, --version  Print version\n"
  | search =>
    "Search a JSON array of registrations and print matches as JSON\n\n" ++
    "Usage: " ++ programName ++ " search [OPTIONS] --records <RECORDS> <QUERY>\n\n" ++
    "Arguments:\n" ++
    "  <QUERY>  Query string, e.g. `name:/CAS.*/ AND NOT enabled:false`\n\n" ++
    "Options:\n" ++
    "  -r, --records <RECORDS>          File holding a JSON array of registration objects\n" ++
    "  -u, --user <USER>                User the search runs as (also names the index directory) " ++
    "[default: anonymous]\n" ++
    "  -a, --allow <ALLOW>              Regex over `serviceId` the user may see (repeatable)\n" ++
    "  -c, --config <CONFIG>            JSON config file (`indexRoot`, `maxResults`)\n" ++
    "      --index-root <INDEX_ROOT>    Directory holding per-user index directories " ++
    "[env: REGSEARCH_INDEX_ROOT=]\n" ++
    "      --max-results <MAX_RESULTS>  Maximum number of results to return (capped at 5000)\n" ++
    "  -h, --help                       Print help\n"
  | fields =>
    "Show the parsed clause tree and the fields a query needs\n\n" ++
    "Usage: " ++ programName ++ " fields <QUERY>\n\n" ++
    "Arguments:\n" ++
    "  <QUERY>  Query string\n\n" ++
    "Options:\n" ++
    "  -h, --help  Print help\n"

end RegistrySearch.CommandLine
