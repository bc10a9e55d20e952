import CriticalCss.Url.Basic

/-!
# Resolving references

A reference is resolved against a base url as a browser resolves a link: a
reference with a scheme or an authority stands alone, an empty reference keeps
the base's query and fragment, and a relative path is joined to the base's
directory, with `.` and `..` segments removed.

## Main definitions

* `resolvePath`: joining a reference path to a base path.
* `Url.resolve`: the url a reference names, read against a base.
-/

namespace CriticalCss.Url

/-- The segments of a path between its slashes; at least one. -/
def segments (bs : List UInt8) : List (List UInt8) :=
  bs.splitOn 0x2f

/-- The written path after one more segment: `.` is dropped, `..` removes the
last segment, anything else is appended. `first` tells that nothing follows
the leading slash yet. -/
def stepSegment : List UInt8 × Bool → List UInt8 → List UInt8 × Bool
  | (dst, _), [0x2e] => (dst, false)
  | (dst, _), [0x2e, 0x2e] =>
    let str := dst.drop 1
    match lastIndexOf 0x2f str with
    | none => ([0x2f], true)
    | some i => (0x2f :: str.take i, false)
  | (dst, first), elem => (dst ++ (if first then [] else [0x2f]) ++ elem, false)

/-- The path a reference path names when read in the directory of a base
path, with dot segments removed; a trailing `.` or `..` leaves a trailing
slash. -/
def resolvePath (base ref : List UInt8) : List UInt8 :=
  let full :=
    if ref.isEmpty then base
    else if ref.head? != some 0x2f then
      match lastIndexOf 0x2f base with
      | some i => base.take (i + 1) ++ ref
      | none => ref
    else ref
  if full.isEmpty then []
  else
    let elems := segments full
    let (dst, _) := elems.foldl stepSegment ([0x2f], true)
    let dst := match elems.getLast? with
      | some [0x2e] | some [0x2e, 0x2e] => dst ++ [0x2f]
      | _ => dst
    match dst with
    | 0x2f :: 0x2f :: rest => 0x2f :: rest
    | _ => dst

/-- Sets a path already escaped, keeping the url when it is not. -/
def setEscapedPath (u : Url) (p : List UInt8) : Url :=
  match u.withPath p with
  | .ok v => v
  | .error _ => u

/-- The url that `ref` names when read against `base`. -/
def resolve (base ref : Url) : Url :=
  let url := if ref.scheme.isEmpty then { ref with scheme := base.scheme } else ref
  if !ref.scheme.isEmpty || !ref.host.isEmpty || ref.user.isSome then
    url.setEscapedPath (resolvePath ref.escapedPath [])
  else if !ref.rootless.isEmpty then
    { url with user := none, host := [], path := [] }
  else
    let keepsBase := ref.path.isEmpty && !ref.forceQuery && ref.rawQuery.isEmpty
    let url :=
      if keepsBase then
        if ref.fragment.isEmpty then
          { url with rawQuery := base.rawQuery, fragment := base.fragment,
                     rawFragment := base.rawFragment }
        else { url with rawQuery := base.rawQuery }
      else url
    if ref.path.isEmpty && !base.rootless.isEmpty then
      { url with rootless := base.rootless, user := none, host := [], path := [] }
    else
      let url := { url with host := base.host, user := base.user }
      url.setEscapedPath (resolvePath base.escapedPath ref.escapedPath)

end CriticalCss.Url
