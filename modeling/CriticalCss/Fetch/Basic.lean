import CriticalCss.Content.Charset
import CriticalCss.Content.Kind
import CriticalCss.Failure
import CriticalCss.Text.Path
import CriticalCss.Url.Basic
/-!
# Fetching stylesheets

A stylesheet is fetched by its url and read as text.

* The url must read as a url; otherwise the request cannot be made.
* `file` urls are served from a tree of files by their decoded path in its
  shortest form: a missing file is answered with status 404 and a path
  holding a NUL byte with status 500. A file's media type comes from its
  extension, or is sniffed from its content.
* `http` and `https` urls need a host, and are then sent over the network,
  which this library does not reach; any other scheme is refused.
* A status outside 200 to 299 fails the fetch.
* At most one byte more than the size limit is read, a count made in 64-bit
  signed arithmetic that wraps: the largest limit reads nothing. Content over
  the limit fails the fetch, and so does content with a binary signature.
* The content is read as text in its encoding (see `decodeSheet`).

A fetcher may keep the texts it fetched in a cache of a fixed number of
entries, by url, dropping the least recently used; a cached url is answered
from the cache without a request. Failed fetches are not cached.

## Main definitions

* `FileTree`: files served by path.
* `FetchConfig`: the size limit, the cache size and an encoding for all
  stylesheets.
* `Fetcher.receive`: a stylesheet's text read from a response.
* `Fetcher.fetch`: a stylesheet's text, and the fetcher with its cache
  updated.
* `Fetcher.notes`: what a fetch tells as it goes.
-/

namespace CriticalCss.Fetch

open CriticalCss.Text CriticalCss.Content

/-- Files served by path. -/
structure FileTree where
  files : List (String × List UInt8) := []

/-- The tree with the file at a path replaced. -/
def FileTree.write (t : FileTree) (path : String) (data : List UInt8) : FileTree :=
  { files := (path, data) :: t.files.filter (·.1 != path) }

/-- A response: its status, its media type and its body. -/
structure Response where
  status : Nat
  contentType : String
  body : List UInt8

/-- The response of a file tree to a request for a path: the file with its
media type by extension or by sniffing, or an error status. -/
def FileTree.serve (t : FileTree) (path : List UInt8) : Response :=
  if path.contains 0 then ⟨500, "text/plain; charset=utf-8", Url.bytesOf "500 Internal Server Error\n"⟩
  else
    let name := pathClean ("/" ++ Url.textOf path)
    match t.files.find? (fun (p, _) => pathClean p == name) with
    | some (_, body) =>
      let contentType := (typeByExtension (pathExt name)).getD (sniffContentType body)
      ⟨200, contentType, body⟩
    | none => ⟨404, "text/plain; charset=utf-8", Url.bytesOf "404 page not found\n"⟩

/-- The text of a url in a failure: its standard text with any password
masked. -/
def shownUrl (u : Url) : String :=
  match u.user with
  | some ui =>
    if ui.password.isSome then Url.render { u with user := some { ui with password := some (Url.bytesOf "***") } }
    else u.render
  | none => u.render

/-- A host without an empty port, as in `example.com:`. -/
def dropEmptyPort (host : List UInt8) : List UInt8 :=
  let lastColon := (host.zipIdx.filter (·.1 == 0x3a)).getLast?.map (·.2)
  let lastBracket := (host.zipIdx.filter (·.1 == 0x5d)).getLast?.map (·.2)
  let hasPort := match lastColon, lastBracket with
    | some c, some b => c > b
    | some _, none => true
    | none, _ => false
  if hasPort && host.getLast? == some 0x3a then host.dropLast else host

/-- The response to a request for a url, or why no response came. -/
def request (tree : FileTree) (url : String) : Except Failure Response :=
  match Url.parse url with
  | .error e => .error (.wrapped "unable to create request: " (.urlError "parse" e.text (.plain e.cause.message)))
  | .ok u =>
    let u := { u with host := dropEmptyPort u.host }
    let shown := shownUrl u
    if u.scheme == "file" then .ok (tree.serve u.path)
    else if u.scheme == "http" || u.scheme == "https" then
      if u.host.isEmpty then .error (.urlError "Get" shown (.plain "http: no Host in request URL"))
      else .error (.urlError "Get" shown (.plain ("dial tcp: lookup " ++ u.hostname ++ ": no such host")))
    else .error (.urlError "Get" shown (.plain ("unsupported protocol scheme " ++ quote u.scheme)))

/-- How stylesheets are fetched: the size limit in bytes, the number of texts
to cache (none when not positive) and an encoding for all stylesheets. -/
structure FetchConfig where
  maxSize : Int := 1048576
  cacheSize : Int := 0
  forced : Option Text.Encoding := none

/-- A fetcher: its configuration and its cached texts by url, the most
recently used first. -/
structure Fetcher where
  config : FetchConfig
  cache : List (String × String) := []

/-- The cached text of a url. -/
def Fetcher.cached? (f : Fetcher) (url : String) : Option String :=
  if f.config.cacheSize > 0 then f.cache.lookup url else none

/-- The fetcher with a url's text as the most recently used entry, dropping
the least recently used entries over the cache size. -/
def Fetcher.remember (f : Fetcher) (url text : String) : Fetcher :=
  if f.config.cacheSize > 0 then
    { f with cache := ((url, text) :: f.cache.filter (·.1 != url)).take f.config.cacheSize.toNat }
  else f

/-- The number of bytes of a body read for a size limit: one more than the
limit, added in 64-bit signed arithmetic, which wraps (modulo 2^64). A count
that is not positive reads nothing. -/
def readLimit (maxSize : Int) : Nat :=
  ((maxSize + 1).bmod 18446744073709551616).toNat

/-- The text of a stylesheet's content served with a media type, or why it
is not a stylesheet. -/
def readSheet (config : FetchConfig) (body : List UInt8) (contentType : String) : Except Failure String :=
  let data := body.take (readLimit config.maxSize)
  if (data.length : Int) > config.maxSize then
    .error (.plain ("stylesheet is larger than " ++ toString config.maxSize ++ " bytes"))
  else match FileKind.detect data with
    | some k => .error (.plain ("binary content (" ++ k.mediaType ++ ") instead of stylesheet"))
    | none => .ok (decodeSheet config.forced data contentType)

/-- Reads the stylesheet of a url from the response to its request: its
text or why it could not be read, and the fetcher with the text cached. -/
def Fetcher.receive (f : Fetcher) (url : String) (resp : Response) : Fetcher × Except Failure String :=
  if resp.status < 200 || resp.status > 299 then
    (f, .error (.plain ("unexpected HTTP status " ++ toString resp.status)))
  else
    match readSheet f.config resp.body resp.contentType with
    | .ok text => (f.remember url text, .ok text)
    | .error e => (f, .error e)

/-- Fetches a stylesheet: its text or why it could not be fetched, and the
fetcher with its cache updated. -/
def Fetcher.fetch (f : Fetcher) (tree : FileTree) (url : String) : Fetcher × Except Failure String :=
  match f.cached? url with
  | some text => (f.remember url text, .ok text)
  | none =>
    match request tree url with
    | .error e => (f, .error e)
    | .ok resp => f.receive url resp

/-- What a fetch tells as it goes. -/
inductive FetchNote where
  /-- The text of a url was answered from the cache. -/
  | cached (url : String)
  /-- The encoding a stylesheet's bytes were found to be in, by its web name. -/
  | detected (encoding : String)
  /-- A stylesheet was read: its status and its size in bytes. -/
  | fetched (url : String) (status : Nat) (bytes : Nat)
  deriving Repr

/-- What a fetch of a url tells, in order: a cache hit; or, for a
stylesheet that is read, the encoding it was found to be in unless one is
chosen for all stylesheets, then its status and size. A fetch that fails
tells nothing. -/
def Fetcher.notes (f : Fetcher) (tree : FileTree) (url : String) : List FetchNote :=
  match f.cached? url with
  | some _ => [.cached url]
  | none =>
    match request tree url with
    | .error _ => []
    | .ok resp =>
      if resp.status < 200 || resp.status > 299 then []
      else match readSheet f.config resp.body resp.contentType with
        | .error _ => []
        | .ok _ =>
          let data := resp.body.take (readLimit f.config.maxSize)
          let found := match f.config.forced with
            | some _ => []
            | none => [FetchNote.detected (determineEncoding data (withCharsetRule data resp.contentType)).webName]
          found ++ [.fetched url resp.status data.length]

end CriticalCss.Fetch
