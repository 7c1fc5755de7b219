import SailSim.Cli.Command

/-!
# The program

`main` runs the command line over the working directory. The directory's tree is read into a
disk, the command runs over it at the wall-clock time with a fresh random UUID for a new run,
and every file and directory the command made or changed is written back, every file it
removed deleted. The command's output and error output are printed, and its exit code
returned. No servers are reachable.
-/

open System SailSim SailSim.Cli

/-- The absolute path of the entry `name` in the directory `dir`. -/
def entryPath (dir name : String) : String := if dir == "/" then "/" ++ name else dir ++ "/" ++ name

/-- Every file and directory below the directory `dir`, by absolute path. -/
partial def readTree (dir : String) : IO (List (String × Node)) := do
  let mut nodes : List (String × Node) := []
  for e in ← (FilePath.mk dir).readDir do
    let path := entryPath dir e.fileName
    match (← (FilePath.mk path).metadata.toBaseIO) with
    | .ok md =>
      match md.type with
      | .dir => nodes := nodes ++ [(path, .dir)] ++ (← readTree path)
      | .file => nodes := nodes ++ [(path, .file (← IO.FS.readBinFile path))]
      | _ => pure ()
    | .error _ => pure ()
  return nodes

/-- The wall-clock time, read from the modification time of a fresh temporary file. -/
def wallClock : IO Instant := do
  let (h, path) ← IO.FS.createTempFile
  h.flush
  let md ← path.metadata
  IO.FS.removeFile path
  return ⟨md.modified.sec, md.modified.nsec.toNat, 0⟩

/-- A random version 4 UUID. -/
def randomUuid : IO String := do
  let bs := (← IO.getRandomBytes 16).toList
  let bs := bs.set 6 ((bs.getD 6 0 &&& 0x0f) ||| 0x40)
  let bs := bs.set 8 ((bs.getD 8 0 &&& 0x3f) ||| 0x80)
  return (Uuid.mk bs).toString

/-- Writes back what the command changed. -/
def writeBack (before after : Disk) : IO Unit := do
  for (p, n) in after.nodes do
    match n, before.get? p with
    | .dir, some .dir => pure ()
    | .dir, _ => IO.FS.createDirAll p
    | .file data, some (.file old) => if data != old then IO.FS.writeBinFile p data
    | .file data, _ => IO.FS.writeBinFile p data
  for (p, n) in before.nodes do
    if (after.get? p).isNone then
      match n with
      | .file _ => IO.FS.removeFile p
      | .dir => IO.FS.removeDirAll p

/-- Runs the command line. -/
def main (args : List String) : IO UInt32 := do
  let cwd := (← IO.currentDir).toString
  let tree ← readTree cwd
  let above := if cwd == "/" then [] else Disk.ancestors cwd ++ [cwd]
  let disk : Disk := { cwd, nodes := above.map (·, Node.dir) ++ tree }
  let m : Machine := { disk, clock := ← wallClock, fresh := ← randomUuid }
  let x := runProgram args m
  writeBack disk x.disk
  let out ← IO.getStdout
  out.putStr x.stdout
  out.flush
  let err ← IO.getStderr
  for l in x.stderr do
    err.putStrLn l
  err.flush
  return x.code.toUInt32
