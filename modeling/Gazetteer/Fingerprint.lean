import Gazetteer.Digest
import Gazetteer.Files
import Gazetteer.Location.Resource
import Gazetteer.Text.Blank

/-!
# Fingerprint — what a dictionary was built from, in one number

The fingerprint of a configuration and a query is a short digest of both, each with its runs of
blanks collapsed, so that a change of layout leaves it as it is. Bytes of the configuration that are
not UTF-8 take part as they are. A configuration that cannot be read leaves the query alone.
-/

namespace Gazetteer

namespace Text

/-- Whether a symbol is a blank. -/
def Symbol.isBlank : Symbol → Bool
  | .char c => Text.isBlank c
  | .stray _ => false

/-- Writes one space for each maximal run of blanks, stray bytes being none. -/
def collapseSymbols : List Symbol → List Symbol
  | [] => []
  | s :: rest =>
    if s.isBlank then
      match rest with
      | [] => [.char ' ']
      | t :: _ => if t.isBlank then collapseSymbols rest else .char ' ' :: collapseSymbols rest
    else s :: collapseSymbols rest

end Text

namespace Fingerprint

/-- A text with its runs of blanks collapsed. -/
def normalized (s : String) : String := String.ofList (Text.collapseBlanks s.toList)

/-- The bytes that are digested; `config` is the content of the configuration, if it can be read. -/
def material (config : Option (List UInt8)) (query : String) : List UInt8 :=
  let query := Text.encode (Text.collapseBlanks query.toList)
  match config with
  | none => query
  | some bytes =>
    query ++ 0x3b :: Text.encodeSymbols (Text.collapseSymbols (Text.decodeSymbols bytes))

/-- The content of a configuration, if it can be read. -/
def configBytes (files : Files) (config : Resource) : Option (List UInt8) :=
  match config.toPath with
  | .error _ => none
  | .ok p =>
    match files.readBytes p with
    | .ok bytes => some bytes
    | .error _ => none

/-- The fingerprint of a configuration and a query. -/
def compute (files : Files) (config : Resource) (query : String) : Nat :=
  Digest.short (material (configBytes files config) query)

end Fingerprint

end Gazetteer
