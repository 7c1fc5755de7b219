import SailSim.Archive.Server
import SailSim.Live.Viewer
import SailSim.Telemetry.Publisher
import SailSim.Disk.Basic

/-!
# The world a command runs in

A command runs over a file system, at a moment of the wall clock, with the servers it can
reach: a run archive and a live viewer through the network, and a message broker at one URL.
What the servers record lasts from one command to the next, as the files do.

A command ends with an exit code, what it wrote to its output and, line by line, to its error
output, and the world as it left it.
-/

namespace SailSim.Cli

/-- A message broker reachable at `url`, with every request it received. -/
structure BrokerLog where
  url : String
  requests : Array Telemetry.Request := #[]
  deriving Inhabited

/-- The servers a command can reach. -/
structure Services where
  network : Net.Network := default
  archive : Archive.Server := {}
  viewer : Live.Viewer := {}
  broker : Option BrokerLog := none
  deriving Inhabited

/-- What a command starts with. -/
structure Machine where
  disk : Disk
  services : Services := {}
  /-- The wall-clock time the command starts at. -/
  clock : Instant
  /-- The UUID the command gives a new run. -/
  fresh : String

/-- What a command leaves. -/
structure Exit where
  code : Nat
  stdout : String := ""
  stderr : List String := []
  disk : Disk
  services : Services

namespace Machine

/-- The command succeeded, having written `stdout`. -/
def succeed (m : Machine) (stdout : String) (stderr : List String := []) : Exit :=
  { code := 0, stdout, stderr, disk := m.disk, services := m.services }

/-- The command failed with `error`, written after what it wrote to the error output. -/
def failWith (m : Machine) (error : String) (stderr : List String := []) (stdout : String := "") : Exit :=
  { code := 1, stdout, stderr := stderr ++ ["error: " ++ error], disk := m.disk,
    services := m.services }

end Machine

end SailSim.Cli
