import LocationDrift.Text.Basic

/-!
# Help and usage texts

The usage lines the command line prints before an error, and the help of the program and of
`show`, laid out for a width of 80 columns.
-/

namespace LocationDrift

namespace Cli

/-- The usage of the program. -/
def topUsage : String := "usage: driftscope [-h] [--version] \x7bshow\x7d ...\n"

/-- The usage of `show`. -/
def showUsage : String :=
  "usage: driftscope show [-h] [--source \x7blive,remote,taint\x7d]\n" ++
  "                       [--workspace-folder WORKSPACE_FOLDER]\n" ++
  "                       [--connection-id CONNECTION_ID] [--compact] [--verbose]\n" ++
  "                       issue_file\n"

/-- The help of the program. -/
def topHelp : String :=
  topUsage ++ "\n" ++
  "Reconcile recorded issue locations with the code on disk and print the show-\n" ++
  "all-locations payload.\n\n" ++
  "positional arguments:\n" ++
  "  \x7bshow\x7d\n" ++
  "    show      Build the display payload for one or more issues\n\n" ++
  "options:\n" ++
  "  -h, --help  show this help message and exit\n" ++
  "  --version   Print version and exit\n"

/-- The help of `show`. -/
def showHelp : String :=
  showUsage ++ "\n" ++
  "positional arguments:\n" ++
  "  issue_file            JSON file holding an issue object or a list of them\n\n" ++
  "options:\n" ++
  "  -h, --help            show this help message and exit\n" ++
  "  --source \x7blive,remote,taint\x7d, -s \x7blive,remote,taint\x7d\n" ++
  "                        Shape of the issues in the file (default: remote)\n" ++
  "  --workspace-folder WORKSPACE_FOLDER, -w WORKSPACE_FOLDER\n" ++
  "                        Workspace folder URI for relative paths in remote\n" ++
  "                        requests\n" ++
  "  --connection-id CONNECTION_ID, -c CONNECTION_ID\n" ++
  "                        Connection the issues came from (remote and taint)\n" ++
  "  --compact             Print JSON on a single line\n" ++
  "  --verbose, -v         Enable debug logging\n"

/-- The usage of a program by its name. -/
def usageOf (prog : String) : String := if prog == "driftscope" then topUsage else showUsage

/-- The help of a program by its name. -/
def helpOf (prog : String) : String := if prog == "driftscope" then topHelp else showHelp

end Cli

end LocationDrift
