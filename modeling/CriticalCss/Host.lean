import CriticalCss.Files.Disk
import CriticalCss.Clock.Layout
/-!
# The host of a run

A run sees its host through a disk, a clock, a directory for temporary
files, and its two output streams. The clock counts nanoseconds since the
epoch and moves on by one at every reading, so that no two readings are the
same. Temporary files are named from a pattern whose `*` is replaced by a
number; the numbers are taken in turn, and a name already taken is passed
over.

## Main definitions

* `Host`: disk, clock, temporary directory, output streams.
* `Host.now`: a reading of the clock.
* `Host.createTemp`: a new file in the temporary directory.
* `Host.abs`: a path made absolute from the working directory.
-/

namespace CriticalCss

open CriticalCss.Files CriticalCss.Clock

/-- What a run sees of the machine it runs on. -/
structure Host where
  disk : Disk := {}
  /-- Nanoseconds since the epoch; each reading moves it on by one. -/
  clock : Nat := 1767225600000000000
  /-- The directory of temporary files. -/
  tempDir : String := "/tmp"
  /-- The number the next temporary file name tries first. -/
  nextTemp : Nat := 1
  /-- The program's name, in log and file names. -/
  appName : String := "critcss"
  stdout : String := ""
  stderr : String := ""
  deriving Inhabited

/-- The moment of a count of nanoseconds since the epoch. -/
def momentOfNanos (n : Nat) : Moment := { seconds := n / 1000000000, nanos := n % 1000000000 }

/-- A reading of the clock, and the host after it. -/
def Host.now (h : Host) : Host × Nat := ({ h with clock := h.clock + 1 }, h.clock)

/-- A path made absolute from the working directory, in its shortest form. -/
def Host.abs (h : Host) (path : String) : String := h.disk.absolute path

/-- The temporary file name for a number: the pattern's last `*` replaced by
it, or the number added at the end when there is none. -/
def tempName (pattern : String) (n : Nat) : String :=
  match pattern.splitOn "*" with
  | [whole] => whole ++ toString n
  | parts => "*".intercalate parts.dropLast ++ toString n ++ parts.getLast!

/-- A path in a directory, with one separator between them. -/
def joinDir (dir name : String) : String :=
  if dir.endsWith "/" then dir ++ name else dir ++ "/" ++ name

/-- Makes a new empty file in the temporary directory, named from a
pattern: its path. Names already taken are passed over, up to `tries`
of them. -/
def Host.createTempWith (h : Host) (pattern : String) : Nat → Except PathError (Host × String)
  | 0 => .error ⟨"open", joinDir h.tempDir (tempName pattern h.nextTemp), .alreadyExists⟩
  | tries + 1 =>
    let path := joinDir h.tempDir (tempName pattern h.nextTemp)
    let h' := { h with nextTemp := h.nextTemp + 1 }
    match h.disk.createNew path with
    | .ok disk => .ok ({ h' with disk }, path)
    | .error e => if e.errno == .alreadyExists then h'.createTempWith pattern tries else .error e

/-- Makes a new empty file in the temporary directory, named from a
pattern: its path. -/
def Host.createTemp (h : Host) (pattern : String) : Except PathError (Host × String) :=
  h.createTempWith pattern 10000

/-- Appends text to the standard output. -/
def Host.print (h : Host) (s : String) : Host := { h with stdout := h.stdout ++ s }

/-- Appends text to the standard error. -/
def Host.printError (h : Host) (s : String) : Host := { h with stderr := h.stderr ++ s }

end CriticalCss
