/-!
# Slash-separated paths

Paths as in urls and on Unix: elements separated by slashes, a leading slash
for a rooted path. The shortest form of a path joins repeated slashes, drops
`.` elements and lets each `..` take back the element before it (at the root
it has nothing to take back and is dropped).

## Main definitions

* `pathBase`, `pathDir`, `pathExt`: the last element, the rest, and the
  extension of the last element.
* `pathClean`: the shortest form of a path.
-/

namespace CriticalCss.Text

/-- The last element of a slash-separated path, `.` for the empty path and
`/` for a path of slashes. -/
def pathBase (p : String) : String :=
  if p.isEmpty then "."
  else
    let trimmed := (p.toList.reverse.dropWhile (· == '/')).reverse
    if trimmed.isEmpty then "/"
    else String.ofList ((trimmed.reverse.takeWhile (· != '/')).reverse)

/-- The extension of the last element of a path: from its last dot. -/
def pathExt (p : String) : String :=
  let last := (p.toList.reverse.takeWhile (· != '/')).reverse
  match last.reverse.findIdx? (· == '.') with
  | some i => String.ofList (last.drop (last.length - 1 - i))
  | none => ""

/-- A slash-separated path in its shortest form: repeated slashes joined,
`.` elements dropped, `..` elements taking back the element before them. -/
def pathClean (p : String) : String :=
  if p.isEmpty then "."
  else
    let rooted := p.startsWith "/"
    let parts := (p.splitOn "/").filter fun e => !e.isEmpty && e != "."
    let folded := parts.foldl (fun (acc : List String) e =>
      if e == ".." then
        match acc with
        | a :: rest => if a == ".." then e :: acc else rest
        | [] => if rooted then [] else [e]
      else e :: acc) []
    let body := "/".intercalate folded.reverse
    if rooted then "/" ++ body else if body.isEmpty then "." else body

/-- All but the last element of a path, in its shortest form. -/
def pathDir (p : String) : String :=
  let cs := p.toList
  let dirPart := (cs.reverse.dropWhile (· != '/')).reverse
  pathClean (String.ofList dirPart)

end CriticalCss.Text
