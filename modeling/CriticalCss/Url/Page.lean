import CriticalCss.Url.Basic

/-!
# Page locations

The pages to analyse are named by absolute urls: `http`, `https` or `file`.
Each is checked and written in its standard form; the first bad one stops the
check.

## Main definitions

* `PageUrlError`: why a page location is refused.
* `pageUrls`: the standard forms of the page locations.
-/

namespace CriticalCss.Url

open CriticalCss.Text

/-- A refused page location. -/
inductive PageUrlError where
  /-- The text is not a url. -/
  | unreadable (text : String) (cause : ParseError)
  /-- The url is not an absolute `http`, `https` or `file` url. -/
  | notAbsolute (text : String)
deriving Repr

/-- The message of a refused page location. -/
def PageUrlError.message : PageUrlError → String
  | .unreadable t e => "bad page url " ++ quote t ++ ": " ++ e.message
  | .notAbsolute t => "bad page url " ++ quote t ++ ": absolute http(s) or file url expected"

/-- Whether a scheme names a page that can be loaded. -/
def pageScheme (s : String) : Bool :=
  s == "http" || s == "https" || s == "file"

/-- The standard form of each page location, or the first refusal. -/
def pageUrls : List String → Except PageUrlError (List String)
  | [] => .ok []
  | a :: rest =>
    match Url.parse a with
    | .error e => .error (.unreadable a e)
    | .ok u =>
      if pageScheme u.scheme then
        (pageUrls rest).map (u.render :: ·)
      else .error (.notAbsolute a)

end CriticalCss.Url
