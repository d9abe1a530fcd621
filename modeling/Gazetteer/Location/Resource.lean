import Gazetteer.Location.Path
import Gazetteer.Location.Url
import Gazetteer.Text.Quoted

/-!
# Location/Resource — files named by a path, by text or by a URL

A file is named by a `Path`, or by text that is a bare path or a `file:` URL. The path of a URL has
its escapes replaced twice over. A scheme of one letter belongs to the path.
-/

namespace Gazetteer

/-- The name of a file. -/
inductive Resource where
  | path (p : Path)
  | text (s : String)
deriving Repr, DecidableEq, Inhabited

namespace Resource

/-- Why a text names no file. -/
inductive Flaw where
  | host (flaw : Location.HostFlaw)
  /-- A URL with another scheme. -/
  | notAFile (text : String)
deriving Repr, DecidableEq

/-- The text of a flaw. -/
def Flaw.message : Flaw → String
  | host .unbalanced => "Invalid IPv6 URL"
  | host (.notAddress h) =>
    Text.quote h ++ " does not appear to be an IPv4 or IPv6 address"
  | host .version4 => "An IPv4 address cannot be in brackets"
  | host .future => "IPvFuture address is invalid"
  | host (.delimiter h) =>
    "netloc '" ++ h ++ "' contains invalid characters under NFKC normalization"
  | notAFile s => "Not a file resource: " ++ s

/-- The name as it was given. -/
def shown : Resource → String
  | path p => p.text
  | text s => s

/-- The path of the file that is named. -/
def toPath : Resource → Except Flaw Path
  | path p => .ok p
  | text s =>
    match Location.Url.parse s.toList with
    | .error flaw => .error (.host flaw)
    | .ok url =>
      if url.scheme = ['f', 'i', 'l', 'e'] then
        .ok (Path.ofString (String.ofList (Location.unescape (Location.unescape url.path))))
      else if url.scheme.length ≤ 1 then .ok (Path.ofString s)
      else .error (.notAFile s)

end Resource

/-- The `file:` URL of a path, seen from a working directory. -/
def Path.toUrl (here p : Path) : String :=
  "file://" ++ String.ofList (Location.escape (here.join p).text.toList)

end Gazetteer
