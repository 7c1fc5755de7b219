import SailSim.Cli.Session
import SailSim.Cli.Recorded
import SailSim.Cli.Plot

/-!
# The command line

`sailsim COMMAND [flags]` runs one of `run`, `export`, `plot`, `version` and `help`; the
command's name is matched ignoring case, and `-h` and `--help` also ask for help. Help writes
the usage to the output and succeeds; no command, or an unknown one, writes the usage to the
error output and fails. A failing command writes `error: <message>` last to the error output,
except when it failed because help was asked for.
-/

namespace SailSim.Cli

/-- The program's version and build date. -/
def version : String := "0.1.0"

/-- The date of the build, unknown when it was not recorded. -/
def buildDate : String := "unknown"

/-- The usage of the program. -/
def usageLines : List String := [
  "usage:",
  "  sailsim run    [-config dir] [-schedule file] [-duration d] [-storage type] [-name name] [-home lon,lat,alt]",
  "  sailsim export -db file -run uuid [-format wkt|geojson]",
  "  sailsim plot   -db file -run uuid [-out track.png]",
  "  sailsim version"]

/-- Runs the program with the arguments after its name. -/
def runProgram (args : List String) (m : Machine) : Exit :=
  match args with
  | [] => m.failWith "no command given" usageLines
  | command :: rest =>
    match command.toLower with
    | "run" => runCommand rest m
    | "export" => exportCommand rest m
    | "plot" => plotCommand rest m
    | "version" => m.succeed ("sailsim " ++ version ++ " (" ++ buildDate ++ ")\n")
    | "help" | "-h" | "--help" => m.succeed (linesText usageLines)
    | _ => m.failWith ("unknown command " ++ Text.quote command) usageLines

end SailSim.Cli
