import CriticalCss.Command.Program
import CriticalCss.Files.Zip
/-!
# The command line

The program runs on a picture of the file system: the working directory,
the temporary directory, and the files the arguments name. A run whose
files on disk could change what it does is run again with those files in
the picture, until it writes nothing it has not seen, at most three more
times. Then the files it wrote are written to the real file system, an
archive as a ZIP file, the files it removed are removed, its outputs are
printed and its exit code returned.

This build drives no browser: nothing answers at a browser's address, and
none can be started, so `generate` fails to reach one.

## Main definitions

* `Launch.startDisk`: the picture a run starts from.
* `Launch.runOn`: one run on a picture.
* `main`: the command line.
-/

namespace CriticalCss.Launch

open CriticalCss.Files

/-- A browser that cannot be reached: nothing listens and none starts. -/
def noBrowser : Probe.Devtools Unit where
  answer w _ := (w, .silent)
  listens _ _ := false
  launch w bin := (w, .error ("fork/exec " ++ (if bin.isEmpty then "chrome" else bin) ++
    ": no such file or directory"))

/-- The directories from the root down to an absolute path, the root
left out. -/
def ancestors (abs : String) : List String :=
  let parts := pathElements abs
  (List.range parts.length).map fun n => "/" ++ "/".intercalate (parts.take (n + 1))

/-- The picture a run starts from: the working and temporary directories
and the files known so far, with the directories above them. -/
def startDisk (cwd tmp : String) (files : List (String × List UInt8)) : Disk :=
  let dirs := (ancestors cwd ++ ancestors tmp ++ files.flatMap fun (p, _) => ancestors (Text.pathDir p)).eraseDups
  let d : Disk := { entries := dirs.map (·, Entry.directory), workDir := cwd }
  files.foldl (fun d (p, data) => d.put p (.file data)) d

/-- The bytes of an entry written to a file: an archive as a ZIP file. -/
def entryBytes : Entry → Option (List UInt8)
  | .file data => some data
  | .archive members => some (zipArchive members)
  | _ => none

/-- The files a run left that differ from the picture it started from. -/
def written (before after : Disk) : List (String × List UInt8) :=
  after.entries.filterMap fun (p, e) =>
    match entryBytes e with
    | some data => if (before.entryAt p).bind entryBytes == some data then none else some (p, data)
    | none => none

/-- The files of the picture a run started from that it removed. -/
def removed (before after : Disk) : List String :=
  before.entries.filterMap fun (p, e) =>
    if e.isRegular && (after.entryAt p).isNone then some p else none

/-- One run on a picture: its exit code and the host it left. -/
def runOn (disk : Disk) (tmp app : String) (args : List String) : Nat × Host :=
  let h : Host := { disk, tempDir := tmp, appName := app }
  let (code, s) := (Command.runProgram noBrowser app args).run { world := (), host := h }
  (code, s.host)

/-- The path a command-line argument may name, made absolute: the value of
a flag written with `=`, or the argument itself. -/
def namedPath (cwd arg : String) : String :=
  let value := match arg.splitOn "=" with
    | _ :: v :: rest => "=".intercalate (v :: rest)
    | _ => arg
  if value.startsWith "/" then Text.pathClean value else Text.pathClean (cwd ++ "/" ++ value)

/-- The content of a file of the real file system, if it can be read. -/
def readReal (path : String) : IO (Option (List UInt8)) := do
  let .ok data ← (IO.FS.readBinFile path).toBaseIO | return none
  return some data.toList

/-- The files among paths that exist on the real file system. -/
def readAll (paths : List String) : IO (List (String × List UInt8)) := do
  let mut found := []
  for p in paths do
    if let some data ← readReal p then found := found ++ [(p, data)]
  return found

end CriticalCss.Launch

open CriticalCss CriticalCss.Launch in
/-- Runs the program on the real file system. -/
def main (args : List String) : IO UInt32 := do
  let cwd := Text.pathClean ((← IO.getEnv "PWD").getD "/")
  let tmp := Text.pathClean ((← IO.getEnv "TMPDIR").getD "/tmp")
  let app := "critcss"
  let mut known ← readAll (args.map (namedPath cwd)).eraseDups
  let mut start := startDisk cwd tmp known
  let mut (code, h) := runOn start tmp app args
  for _ in [0:3] do
    let fresh := (written start h.disk).map (·.1) |>.filter fun p => !(known.any (·.1 == p))
    let more ← readAll fresh
    if more.isEmpty then break
    known := known ++ more
    start := startDisk cwd tmp known
    (code, h) := runOn start tmp app args
  for (p, data) in written start h.disk do
    IO.FS.createDirAll (Text.pathDir p)
    IO.FS.writeBinFile p (ByteArray.mk data.toArray)
  for p in removed start h.disk do
    IO.FS.removeFile p
  (← IO.getStdout).putStr h.stdout
  (← IO.getStderr).putStr h.stderr
  return code.toUInt32
