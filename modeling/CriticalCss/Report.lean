import CriticalCss.Host
import CriticalCss.Text.Natural
/-!
# Troubleshooting reports

A report gathers files and data under names and is written, when closed,
as an archive. Its first member is the manifest: one line per name, in
natural order of the names, giving when it was stored, the name, and for a
file the path it was given by and the absolute path it stands for:
`Thu Jan  1 00:00:00 UTC 2026<TAB>final.log<TAB>x.log : /work/x.log`.
The members follow in the same order: data as it was stored, files as they
are when the report is closed. A file that is then missing or not a regular
file is left out of the members, though not out of the manifest.

A name stored again as a file must name the same path; stored again as data
it gets the moment of storing, in nanoseconds, after a dash.

The archive is written to the destination when that can be made, and to a
new temporary file otherwise.

## Main definitions

* `Report`: the stored items and the archive's file.
* `Report.prepare`, `Report.store`, `Report.storeData`, `Report.close`.
-/

namespace CriticalCss

open CriticalCss.Files CriticalCss.Clock CriticalCss.Text

/-- One stored item: a file by the path it was given and its absolute path,
or data with the moment it was stored. -/
structure ReportItem where
  given : String := ""
  actual : String := ""
  stamp : Option Nat := none
  data : Option (List UInt8) := none
  deriving Inhabited

/-- A report: the name its archive file was opened by, that file's place on
the disk, and the items by name. -/
structure Report where
  fileName : String
  target : String
  items : List (String × ReportItem) := []
  deriving Inhabited

/-- The disk path an opened file's writes go to. -/
def openedAt (h : Host) (path : String) : String :=
  match h.disk.resolve path with
  | .ok (real, _) => real
  | .error _ => h.abs path

/-- A new empty report writing to a destination, or to a temporary file
when the destination cannot be made. -/
def Report.prepare (h : Host) (destination : String) : Except String (Host × Report) :=
  match h.disk.writeFile destination [] with
  | .ok disk =>
    let h := { h with disk }
    .ok (h, { fileName := destination, target := openedAt h destination })
  | .error _ =>
    match h.createTemp (h.appName ++ "-report.*.zip") with
    | .ok (h, path) => .ok (h, { fileName := path, target := path })
    | .error e => .error ("unable to create report: " ++ e.message)

/-- The absolute name of the report's file. -/
def Report.name (h : Host) (r : Report) : String := h.abs r.fileName

/-- The item stored under a name. -/
def Report.find? (r : Report) (name : String) : Option ReportItem := r.items.lookup name

/-- The report with an item set under a name. -/
def Report.set (r : Report) (name : String) (item : ReportItem) : Report :=
  { r with items := (r.items.filter (·.1 != name)) ++ [(name, item)] }

/-- Stores a file under a name, to be read when the report is closed. A
name already given to another path is refused with the text of the fault. -/
def Report.store (h : Host) (r : Report) (name path : String) : Except String Report :=
  match r.find? name with
  | some old =>
    if old.given != path then
      .error ("Attempt to overwrite file in the report for [" ++ name ++ "]: was " ++
        old.given ++ ", now " ++ path)
    else .ok (r.set name { given := path, actual := h.abs path })
  | none => .ok (r.set name { given := path, actual := h.abs path })

/-- Stores data under a name; a name already used gets the moment of
storing after a dash. -/
def Report.storeData (h : Host) (r : Report) (name : String) (data : List UInt8) : Host × Report :=
  let (h, stamp) := h.now
  let name := if (r.find? name).isSome then name ++ "-" ++ toString stamp else name
  (h, r.set name { stamp := some stamp, data := some data })

/-- The universal time of a clock reading as `date` writes it. -/
def unixDateText (nanos : Nat) : String :=
  (momentOfNanos nanos).format "Mon Jan _2 15:04:05 MST 2006"

/-- The manifest of items in the order given, files stamped with `now`. -/
def manifestText (now : Nat) (items : List (String × ReportItem)) : String :=
  String.join (items.map fun (name, item) =>
    unixDateText (item.stamp.getD now) ++ "\t" ++ name ++ "\t" ++ item.given ++ " : " ++
      item.actual ++ "\n")

/-- The member of an item when the report is closed: its data, or the
content of its file when that is a regular file. -/
def memberOf (h : Host) (item : ReportItem) : Option (List UInt8) :=
  match item.data with
  | some data => some data
  | none =>
    match h.disk.stat item.actual with
    | .ok (.file data) => some data
    | .ok (.archive _) => some []
    | _ => none

/-- Closes a report: its archive written to its file. -/
def Report.close (h : Host) (r : Report) : Host :=
  let (h, now) := h.now
  let items := naturalSortOn (·.1) r.items
  let manifest := (manifestText now items).toUTF8.toList
  let members := items.filterMap fun (name, item) => (memberOf h item).map (name, ·)
  { h with disk := h.disk.put r.target (.archive (("MANIFEST", manifest) :: members)) }

end CriticalCss
