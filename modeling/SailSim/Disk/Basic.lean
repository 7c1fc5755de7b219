import SailSim.Disk.Path

/-!
# Files and directories

A `Disk` holds files and directories by absolute path, and a working directory against which
relative paths are read. The root is always a directory; every other directory is listed, so a
path exists only when each directory above it does.

The operations behave as the system calls a program makes: opening a path whose parent is
missing fails with *no such file or directory*, one whose parent is a file with *not a
directory*; writing a directory fails with *is a directory*; removing a directory that still
holds entries fails with *directory not empty*. A name longer than `nameMax` bytes fails with
*file name too long*, found as the path is walked from the root, name by name. An error names the operation and the path as
the caller wrote it (`open runs/x.json: no such file or directory`).
-/

namespace SailSim

/-- What a path names. -/
inductive Node where
  | file (data : ByteArray)
  | dir

/-- Why an operation on a path failed. -/
inductive Errno where
  | noEntry
  | notDir
  | isDir
  | notEmpty
  | exists
  | nameTooLong
  deriving Repr, BEq, DecidableEq

/-- The system's text of an error number. -/
def Errno.text : Errno → String
  | .noEntry => "no such file or directory"
  | .notDir => "not a directory"
  | .isDir => "is a directory"
  | .notEmpty => "directory not empty"
  | .exists => "file exists"
  | .nameTooLong => "file name too long"

/-- The longest name of a file or directory, in bytes. -/
def nameMax : Nat := 255

/-- Whether the last name of a path is longer than a name may be. -/
def tooLong (abs : String) : Bool := (Path.base abs).utf8ByteSize > nameMax

/-- A failed operation on a path. -/
structure PathError where
  op : String
  path : String
  errno : Errno
  deriving Repr, BEq

/-- `op path: reason`. -/
def PathError.message (e : PathError) : String := e.op ++ " " ++ e.path ++ ": " ++ e.errno.text

/-- Files and directories with a working directory. -/
structure Disk where
  /-- The working directory, an absolute clean path. -/
  cwd : String := "/"
  /-- Every file and directory but the root, by absolute clean path. -/
  nodes : List (String × Node) := []

namespace Disk

/-- The node at an absolute clean path, without looking at the directories above it. -/
def get? (d : Disk) (abs : String) : Option Node :=
  if abs == "/" then some .dir else (d.nodes.find? (·.1 == abs)).map (·.2)

/-- The absolute clean path of `p`. -/
def resolve (d : Disk) (p : String) : String := Path.resolve d.cwd p

/-- The absolute paths of the directories above `abs`, from the root down, the root left out. -/
def ancestors (abs : String) : List String :=
  let es := Path.elements abs
  (List.range (es.length - 1)).map fun i => "/" ++ "/".intercalate (es.take (i + 1))

/-- The node at an absolute clean path: every directory above it must exist, and every name on
the way be short enough. -/
def lookup (d : Disk) (abs : String) : Except Errno Node :=
  let rec walk : List String → Except Errno Unit
    | [] => .ok ()
    | a :: rest => if tooLong a then .error .nameTooLong else match d.get? a with
      | some .dir => walk rest
      | some (.file _) => .error .notDir
      | none => .error .noEntry
  match walk (ancestors abs) with
  | .error e => .error e
  | .ok () => if tooLong abs then .error .nameTooLong else match d.get? abs with
    | some n => .ok n
    | none => .error .noEntry

/-- Whether the parent of an absolute path is a directory, or why not. -/
def parentReady (d : Disk) (abs : String) : Except Errno Unit :=
  match d.lookup (Path.dir abs) with
  | .ok .dir => .ok ()
  | .ok (.file _) => .error .notDir
  | .error e => .error e

/-- The disk with `abs` set to `n`. -/
def put (d : Disk) (abs : String) (n : Node) : Disk :=
  if d.nodes.any (·.1 == abs) then
    { d with nodes := d.nodes.map fun e => if e.1 == abs then (abs, n) else e }
  else { d with nodes := d.nodes ++ [(abs, n)] }

/-- The disk without `abs`. -/
def drop (d : Disk) (abs : String) : Disk := { d with nodes := d.nodes.filter (·.1 != abs) }

/-- The node an empty path names: none. -/
def lookupPath (d : Disk) (p : String) : Except Errno Node :=
  if p.isEmpty then .error .noEntry else d.lookup (d.resolve p)

/-- The node `p` names. -/
def stat (d : Disk) (p : String) : Except PathError Node :=
  (d.lookupPath p).mapError (⟨"stat", p, ·⟩)

/-- Whether `p` names a directory. -/
def isDir (d : Disk) (p : String) : Bool :=
  match d.stat p with
  | .ok .dir => true
  | _ => false

/-- Whether `p` names a file. -/
def isFile (d : Disk) (p : String) : Bool :=
  match d.stat p with
  | .ok (.file _) => true
  | _ => false

/-- Makes the directory `p`; its parent must exist. -/
def mkdir (d : Disk) (p : String) : Except PathError Disk :=
  let abs := d.resolve p
  match d.lookup abs with
  | .ok _ => .error ⟨"mkdir", p, .exists⟩
  | .error .nameTooLong => .error ⟨"mkdir", p, .nameTooLong⟩
  | .error _ => match d.parentReady abs with
    | .error e => .error ⟨"mkdir", p, e⟩
    | .ok () => .ok (d.put abs .dir)

/-- Makes the directory `p` and every missing directory above it. A file on the way fails
with *not a directory*, naming the path up to that file. -/
def mkdirAll (d : Disk) (p : String) : Except PathError Disk :=
  go (Path.elements (d.resolve p)).length d p
where
  /-- Makes `p` after its parent, the parent at most `fuel` levels up. -/
  go : Nat → Disk → String → Except PathError Disk
    | fuel, d, p =>
      match d.stat p with
      | .ok .dir => .ok d
      | .ok (.file _) => .error ⟨"mkdir", p, .notDir⟩
      | .error _ => do
        let parent := Path.dir p
        let d ← match fuel with
          | fuel + 1 =>
            if parent != p && parent != "." && parent != "/" then go fuel d parent else pure d
          | 0 => pure d
        match d.mkdir p with
        | .ok d => pure d
        | .error e => if d.isDir p then pure d else .error e

/-- Writes `data` to the file `p`, creating it or replacing what it held. -/
def writeFile (d : Disk) (p : String) (data : ByteArray) : Except PathError Disk :=
  let abs := d.resolve p
  match d.lookupPath p with
  | .ok .dir => .error ⟨"open", p, .isDir⟩
  | .ok (.file _) => .ok (d.put abs (.file data))
  | .error e => if p.isEmpty || e == .nameTooLong then .error ⟨"open", p, e⟩ else
    match d.parentReady abs with
    | .error e => .error ⟨"open", p, e⟩
    | .ok () => .ok (d.put abs (.file data))

/-- Adds `data` at the end of the file `p`, creating it when missing. -/
def appendFile (d : Disk) (p : String) (data : ByteArray) : Except PathError Disk :=
  let abs := d.resolve p
  match d.lookupPath p with
  | .ok .dir => .error ⟨"open", p, .isDir⟩
  | .ok (.file old) => .ok (d.put abs (.file (old ++ data)))
  | .error e => if p.isEmpty || e == .nameTooLong then .error ⟨"open", p, e⟩ else
    match d.parentReady abs with
    | .error e => .error ⟨"open", p, e⟩
    | .ok () => .ok (d.put abs (.file data))

/-- The bytes of the file `p`. -/
def readFile (d : Disk) (p : String) : Except PathError ByteArray :=
  match d.lookupPath p with
  | .ok (.file data) => .ok data
  | .ok .dir => .error ⟨"read", p, .isDir⟩
  | .error e => .error ⟨"open", p, e⟩

/-- The names directly inside the directory at `abs`, with whether each is a directory. -/
def children (d : Disk) (abs : String) : List (String × Bool) :=
  d.nodes.filterMap fun (q, n) =>
    if Path.dir q == abs && q != abs then
      some (Path.base q, match n with | .dir => true | .file _ => false)
    else none

/-- The entries of the directory `p`, sorted by name, with whether each is a directory. -/
def readDir (d : Disk) (p : String) : Except PathError (List (String × Bool)) :=
  if p.isEmpty then .error ⟨"open", p, .noEntry⟩ else
  let abs := d.resolve p
  match d.lookup abs with
  | .ok .dir => .ok ((d.children abs).mergeSort fun a b => decide (a.1 ≤ b.1))
  | .ok (.file _) => .error ⟨"readdirent", p, .notDir⟩
  | .error e => .error ⟨"open", p, e⟩

/-- Removes the file or empty directory `p`. -/
def remove (d : Disk) (p : String) : Except PathError Disk :=
  let abs := d.resolve p
  match d.lookup abs with
  | .error e => .error ⟨"remove", p, e⟩
  | .ok (.file _) => .ok (d.drop abs)
  | .ok .dir =>
    if abs == "/" || !(d.children abs).isEmpty then .error ⟨"remove", p, .notEmpty⟩
    else .ok (d.drop abs)

/-- Every file below the working directory, by path relative to it, sorted. -/
def files (d : Disk) : List String :=
  let rel := d.nodes.filterMap fun (q, n) => match n with
    | .file _ => Path.relativeTo d.cwd q
    | .dir => none
  rel.mergeSort fun a b => decide (a ≤ b)

end Disk

end SailSim
