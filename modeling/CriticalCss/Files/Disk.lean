import CriticalCss.Text.Path
/-!
# A file system

A disk holds files, directories and symbolic links by their absolute paths,
and a working directory that relative paths start from. The root is always a
directory. A path is looked up one element at a time: every element but
the last must be a directory, or a link to one; a link's target is read
from the directory holding the link. A path with a NUL byte is invalid.

Operations fail the way system calls do, with the operation, the path as
given and the reason: `open x: no such file or directory`, `mkdir x: not
a directory`, `read x: is a directory`.

## Main definitions

* `Disk`, `Entry`: the file system.
* `Errno`, `PathError`: why an operation failed.
* `Disk.stat`, `Disk.readFile`, `Disk.writeFile`, `Disk.mkdirAll`.
* `Disk.openWrite`, `Disk.appendAt`: a file opened once and written to
  after.
-/

namespace CriticalCss.Files

open CriticalCss.Text

/-- What a path holds. An archive is a file written as named members; it
is kept by its members, since only they are ever read back. -/
inductive Entry where
  | file (data : List UInt8)
  | directory
  | link (target : String)
  | archive (members : List (String × List UInt8))
  deriving Repr, Inhabited, DecidableEq

/-- Whether an entry is a regular file. -/
def Entry.isRegular : Entry → Bool
  | .file _ | .archive _ => true
  | _ => false

/-- Why an operation on a path failed. -/
inductive Errno where
  | noEntry
  | notDirectory
  | isDirectory
  | alreadyExists
  | invalid
  | tooManyLinks
  | notEmpty
  deriving Repr, Inhabited, DecidableEq

/-- The text of a reason. -/
def Errno.message : Errno → String
  | .noEntry => "no such file or directory"
  | .notDirectory => "not a directory"
  | .isDirectory => "is a directory"
  | .alreadyExists => "file exists"
  | .invalid => "invalid argument"
  | .tooManyLinks => "too many levels of symbolic links"
  | .notEmpty => "directory not empty"

/-- A failed operation on a path. -/
structure PathError where
  op : String
  path : String
  errno : Errno
  deriving Repr, Inhabited

/-- The message of a failed operation. -/
def PathError.message (e : PathError) : String := e.op ++ " " ++ e.path ++ ": " ++ e.errno.message

/-- A file system: entries by absolute path in their shortest form, and the
working directory. -/
structure Disk where
  entries : List (String × Entry) := []
  workDir : String := "/"
  deriving Inhabited

/-- A path made absolute from the working directory, in its shortest form. -/
def Disk.absolute (d : Disk) (path : String) : String :=
  if path.startsWith "/" then pathClean path else pathClean (d.workDir ++ "/" ++ path)

/-- The entry at an absolute path in shortest form, without following it. -/
def Disk.entryAt (d : Disk) (abs : String) : Option Entry :=
  if abs == "/" then some .directory else d.entries.lookup abs

/-- The path of a child in a directory. -/
def childPath (dir name : String) : String := if dir == "/" then "/" ++ name else dir ++ "/" ++ name

/-- The elements of an absolute path. -/
def pathElements (abs : String) : List String := (abs.splitOn "/").filter (· != "")

/-- Where the elements of a path lead from a directory: the absolute path
of the last element after following links through the directories before
it, and through the last element too when `follow` is set. At most `links`
links are followed; `fuel` bounds the steps. -/
def Disk.walkFrom (d : Disk) : Nat → Nat → Bool → String → List String → Except Errno String
  | 0, _, _, _, _ => .error .tooManyLinks
  | fuel + 1, links, follow, dir, elems =>
    let targetOf (target : String) : String :=
      if target.startsWith "/" then pathClean target else pathClean (dir ++ "/" ++ target)
    match elems with
    | [] => .ok dir
    | [name] =>
      let p := childPath dir name
      match d.entryAt p with
      | some (.link target) =>
        if !follow then .ok p
        else if links == 0 then .error .tooManyLinks
        else d.walkFrom fuel (links - 1) true "/" (pathElements (targetOf target))
      | _ => .ok p
    | name :: rest =>
      let p := childPath dir name
      match d.entryAt p with
      | none => .error .noEntry
      | some (.file _) | some (.archive _) => .error .notDirectory
      | some .directory => d.walkFrom fuel links follow p rest
      | some (.link target) =>
        if links == 0 then .error .tooManyLinks
        else d.walkFrom fuel (links - 1) follow "/" (pathElements (targetOf target) ++ rest)

/-- How many links a lookup follows. -/
def linkLimit : Nat := 40

/-- The absolute path a path leads to and its entry, following links. -/
def Disk.resolve (d : Disk) (path : String) (follow : Bool := true) : Except Errno (String × Option Entry) :=
  if path.contains '\x00' then .error .invalid
  else if path.isEmpty then .error .noEntry
  else
    let elems := pathElements (d.absolute path)
    match d.walkFrom ((elems.length + 1) * (linkLimit + 2) * 64) linkLimit follow "/" elems with
    | .ok real => .ok (real, d.entryAt real)
    | .error e => .error e

/-- What a path holds, following links. -/
def Disk.stat (d : Disk) (path : String) : Except PathError Entry :=
  match d.resolve path with
  | .ok (_, some e) => .ok e
  | .ok (_, none) => .error ⟨"stat", path, .noEntry⟩
  | .error e => .error ⟨"stat", path, e⟩

/-- Whether a path leads to a directory. -/
def Disk.isDirectory (d : Disk) (path : String) : Bool :=
  match d.stat path with
  | .ok .directory => true
  | _ => false

/-- The content of a file. -/
def Disk.readFile (d : Disk) (path : String) : Except PathError (List UInt8) :=
  match d.resolve path with
  | .ok (_, some (.file data)) => .ok data
  | .ok (_, some .directory) => .error ⟨"read", path, .isDirectory⟩
  | .ok (_, _) => .error ⟨"open", path, .noEntry⟩
  | .error e => .error ⟨"open", path, e⟩

/-- The disk with an entry set at an absolute path. -/
def Disk.put (d : Disk) (abs : String) (e : Entry) : Disk :=
  if d.entries.any (·.1 == abs) then
    { d with entries := d.entries.map fun (p, old) => if p == abs then (p, e) else (p, old) }
  else { d with entries := d.entries ++ [(abs, e)] }

/-- Writes a file, creating it or replacing its content; with `append` the
data is added to the end. -/
def Disk.writeFile (d : Disk) (path : String) (data : List UInt8) (append : Bool := false) :
    Except PathError Disk :=
  match d.resolve path with
  | .error e => .error ⟨"open", path, e⟩
  | .ok (real, entry) =>
    match entry with
    | some .directory => .error ⟨"open", path, .isDirectory⟩
    | some (.file old) => .ok (d.put real (.file (if append then old ++ data else data)))
    | some (.archive _) => .ok (d.put real (.file data))
    | _ =>
      match d.entryAt (pathDir real) with
      | some .directory => .ok (d.put real (.file data))
      | some _ => .error ⟨"open", path, .notDirectory⟩
      | none => .error ⟨"open", path, .noEntry⟩

/-- Opens a file for writing, creating it when missing, and empties it
unless `append` is set: the absolute path of the file that was opened. -/
def Disk.openWrite (d : Disk) (path : String) (append : Bool) : Except PathError (Disk × String) :=
  match d.writeFile path [] append with
  | .error e => .error e
  | .ok d' =>
    match d'.resolve path with
    | .ok (real, _) => .ok (d', real)
    | .error e => .error ⟨"open", path, e⟩

/-- Adds data to the end of the file at an absolute path, as writes to an
open file do; a file that is gone is made again. -/
def Disk.appendAt (d : Disk) (abs : String) (data : List UInt8) : Disk :=
  match d.entryAt abs with
  | some (.file old) => d.put abs (.file (old ++ data))
  | some .directory => d
  | _ => d.put abs (.file data)

/-- Creates a file that must not exist yet. -/
def Disk.createNew (d : Disk) (path : String) : Except PathError Disk :=
  match d.resolve path false with
  | .ok (_, some _) => .error ⟨"open", path, .alreadyExists⟩
  | _ => d.writeFile path []

/-- Removes a file or an empty directory, not following a last link. -/
def Disk.remove (d : Disk) (path : String) : Except PathError Disk :=
  match d.resolve path false with
  | .error e => .error ⟨"remove", path, e⟩
  | .ok (_, none) => .error ⟨"remove", path, .noEntry⟩
  | .ok (real, some _) =>
    if d.entries.any (fun (p, _) => p.startsWith (real ++ "/")) then .error ⟨"remove", path, .notEmpty⟩
    else .ok { d with entries := d.entries.filter (·.1 != real) }

/-- Makes a directory whose parent exists. -/
def Disk.mkdir (d : Disk) (path : String) : Except PathError Disk :=
  match d.resolve path false with
  | .error e => .error ⟨"mkdir", path, e⟩
  | .ok (_, some _) => .error ⟨"mkdir", path, .alreadyExists⟩
  | .ok (real, none) =>
    match d.entryAt (pathDir real) with
    | some .directory => .ok (d.put real .directory)
    | some _ => .error ⟨"mkdir", path, .notDirectory⟩
    | none => .error ⟨"mkdir", path, .noEntry⟩

/-- Makes a directory and the missing directories above it; nothing when it
is a directory already. `fuel` bounds the depth. -/
def Disk.mkdirAllWith (d : Disk) : Nat → String → Except PathError Disk
  | 0, path => .error ⟨"mkdir", path, .noEntry⟩
  | fuel + 1, path =>
    match d.stat path with
    | .ok .directory => .ok d
    | .ok _ => .error ⟨"mkdir", path, .notDirectory⟩
    | .error _ => do
      let cut := path.toList.reverse.dropWhile (· == '/') |>.dropWhile (· != '/')
      let parent := String.ofList (cut.reverse.dropLast)
      let parent := if cut.isEmpty then "" else if parent.isEmpty then "/" else parent
      let d ← if parent.length > 0 && parent != "/" then d.mkdirAllWith fuel parent else pure d
      match d.mkdir path with
      | .ok d => .ok d
      | .error e => if d.isDirectory path then .ok d else .error e

/-- Makes a directory and the missing directories above it. -/
def Disk.mkdirAll (d : Disk) (path : String) : Except PathError Disk :=
  d.mkdirAllWith (path.length + 1) path

end CriticalCss.Files
