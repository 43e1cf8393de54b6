import FilterDispatch.CommandLine.Options

/-! What the program says of itself. -/

namespace FilterDispatch.CommandLine

def programHelp : List String :=
  ["Resource classification dispatch tools", "", "Usage: rc-cli <COMMAND>", "", "Commands:",
    "  replay  Replay a scenario file and print outcomes as JSON lines",
    "  stress  Fire synthetic requests concurrently and check latency budgets",
    "  help    Print this message or the help of the given subcommand(s)", "", "Options:",
    "  -h, --help  Print help"]

def replayHelp : List String :=
  ["Replay a scenario file and print outcomes as JSON lines", "",
    "Usage: rc-cli replay [OPTIONS] --scenario <SCENARIO>", "", "Options:",
    "  -s, --scenario <SCENARIO>  Scenario JSON file",
    "  -c, --config <CONFIG>      Dispatcher config JSON file",
    "  -h, --help                 Print help"]

def stressHelp : List String :=
  ["Fire synthetic requests concurrently and check latency budgets", "",
    "Usage: rc-cli stress [OPTIONS]", "", "Options:",
    "  -r, --requests <REQUESTS>  Number of requests [default: 10000]",
    "  -f, --frames <FRAMES>      Number of frames the requests are spread over [default: 16]",
    "  -c, --config <CONFIG>      Dispatcher config JSON file",
    "  -h, --help                 Print help"]

def helpHelp : List String :=
  ["Print this message or the help of the given subcommand(s)", "",
    "Usage: rc-cli help [COMMAND]...", "", "Arguments:",
    "  [COMMAND]...  Print help for the subcommand(s)"]

def helpLines : HelpTopic → List String
  | .program => programHelp
  | .replay => replayHelp
  | .stress => stressHelp
  | .help => helpHelp

end FilterDispatch.CommandLine
