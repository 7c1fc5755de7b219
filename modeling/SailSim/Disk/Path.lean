import SailSim.Text.Split

/-!
# Slash-separated paths

Paths are handled as text, without looking at any file: `Path.clean` gives the shortest path
that names the same place, by dropping empty and `.` elements and cancelling each `..` with the
element before it (a `..` at the root stays at the root); `Path.join` joins the non-empty parts
and cleans the result; `Path.dir` and `Path.base` split a path at its last slash.
-/

namespace SailSim.Path

/-- Whether a path starts at the root. -/
def isAbs (p : String) : Bool := p.startsWith "/"

/-- The elements of a path after dropping empty and `.` elements and cancelling `..`; kept in
reverse order. A relative path keeps the `..` elements that nothing cancels. -/
def cancel (rooted : Bool) (acc : List String) : List String → List String
  | [] => acc
  | s :: rest =>
    if s == ".." then
      match acc with
      | x :: more => if x == ".." then cancel rooted (".." :: acc) rest else cancel rooted more rest
      | [] => if rooted then cancel rooted [] rest else cancel rooted [".."] rest
    else cancel rooted (s :: acc) rest

/-- The shortest path naming the same place: `.` for an empty relative path, `/` for the root. -/
def clean (p : String) : String :=
  if p.isEmpty then "." else
  let rooted := isAbs p
  let elems := (Text.splitAt p '/').filter fun s => s != "" && s != "."
  let body := "/".intercalate (cancel rooted [] elems).reverse
  if rooted then "/" ++ body else if body.isEmpty then "." else body

/-- The non-empty parts joined by slashes and cleaned; empty when every part is. -/
def join (parts : List String) : String :=
  match parts.filter (· != "") with
  | [] => ""
  | ps => clean ("/".intercalate ps)

/-- Everything before the last slash, cleaned; `.` when there is no slash. -/
def dir (p : String) : String :=
  let cs := p.toList
  match (cs.reverse.dropWhile (· != '/')) with
  | [] => "."
  | kept => clean (String.ofList kept.reverse)

/-- The last element, after dropping trailing slashes; `.` for the empty path and `/` for a
path of slashes only. -/
def base (p : String) : String :=
  if p.isEmpty then "." else
  let trimmed := (p.toList.reverse.dropWhile (· == '/')).reverse
  if trimmed.isEmpty then "/" else
  String.ofList (trimmed.reverse.takeWhile (· != '/')).reverse

/-- The elements of an absolute clean path, from the root. -/
def elements (p : String) : List String := (Text.splitAt p '/').filter (· != "")

/-- The absolute clean path of `p` read from the directory `cwd`. -/
def resolve (cwd p : String) : String := if isAbs p then clean p else clean (cwd ++ "/" ++ p)

/-- The path of `p` relative to the directory `root`, when `p` lies below it. -/
def relativeTo (root p : String) : Option String :=
  let pre := if root == "/" then "/" else root ++ "/"
  if p.startsWith pre then some (String.ofList (p.toList.drop pre.length)) else none

end SailSim.Path
