import Gazetteer.Feeder.Basic
import Gazetteer.Json.Reader
import Gazetteer.Rehearsal.Tables
import Gazetteer.Value.Reading

/-!
# Rehearsal/Script — rehearsals written down as data

Everything that a rehearsal answers from a table is read here from data: a fault is a pair of its
kind and its message, and an entry of a table either has a fault as its `error` or says what is
answered.
-/

namespace Gazetteer

open Reading

instance : Readable Fault where
  read v := do
    let (kind, message) : String × String ← Readable.read v
    return .outside ((Kind.ofName? kind).getD .runtime) message none

/-- The fault of an entry, or else what a reading gives. -/
def Reading.outcome {α : Type} (reading : Reading α) : Reading (Except Fault α) := do
  match ← maybe "error" with
  | some fault => return .error fault
  | none => return .ok (← reading)

/-- A row written as pairs of columns and values. -/
def Row.ofValue (v : Value) : Except Fault Row := do
  return Row.ofCells (← Readable.read v)

/-- Rows, and the fault that ends them. -/
def Rows.reading : Reading Rows := do
  let rows : List Value ← given "rows" []
  return ⟨← rows.mapM fun row => (Row.ofValue row : Except Fault Row), ← maybe "then_error"⟩

instance : Readable Prepared :=
  ⟨within do return ⟨← given "contains" "", ← outcome Rows.reading⟩⟩

instance : Readable PreparedTable := ⟨within do
  return { answers := ← given "responses" [], refusal := ← maybe "connection_error" }⟩

/-- The answer of a server; without a `payload` its body is no JSON. -/
def Response.reading : Reading Response := do
  let json : Except String Value ← match ← member? "payload" with
    | some v => pure (.ok v)
    | none => do pure (.error (← given "json_error" "no json"))
  return { status := ← given "status" 200, body := ← given "text" "", json }

instance : Readable (Except Fault Response) := ⟨within (outcome Response.reading)⟩

instance : Readable PreparedReply :=
  ⟨within do return ⟨← given "contains" "", ← outcome Response.reading⟩⟩

instance : Readable PreparedNetwork :=
  ⟨within do return { check := ← maybe "get", replies := ← given "post" [] }⟩

instance : Readable Rdf.Import where
  read v := do
    let (kind, text) : String × String ← Readable.read v
    return if kind == "iri" then .iri text else .literal text

instance : Readable Rdf.PreparedFile := ⟨within do
  return ⟨← need "location", ← outcome do return (← given "triples" 0, ← given "imports" [])⟩⟩

instance : Readable Rdf.PreparedAnswer := ⟨within do
  return ⟨← given "contains" "", ← outcome do
    return { form := ← given "type" "SELECT", columns := (← maybe "vars").getD []
             rows := ← given "rows" [], failure := ← maybe "then_error" }⟩⟩

instance : Readable Rdf.PreparedEngine :=
  ⟨within do return { files := ← given "parse" [], answers := ← given "query" [] }⟩

/-- The bytes that pairs of hexadecimal digits stand for. -/
def hexBytes : List Char → List UInt8
  | high :: low :: rest =>
    UInt8.ofNat (16 * (Json.hexDigit? high).getD 0 + (Json.hexDigit? low).getD 0) :: hexBytes rest
  | _ => []

/-- The content of a file: bytes as `hex`, or a `text`. -/
def Files.content : Reading (List UInt8) := do
  match ← maybe "hex" with
  | some (digits : String) => return hexBytes digits.toList
  | none => return Text.encode (← given "text" "").toList

/-- The tree with the file or the directory that is written down; directories on the way to it are
made. -/
def Files.place (files : Files) : Reading Files := do
  let path : Path ← need "path"
  let result ← if ← given "dir" false then pure (files.makeDirectories path) else do
    pure (files.writeAlong path (← Files.content))
  match result with
  | (none, files) => return files
  | (some flaw, _) => throw (.file flaw path.text)

instance : Readable Cue :=
  ⟨within do return ⟨← need "lexeme", ← outcome (given "records" [])⟩⟩

instance : Readable Rehearsal := ⟨within do
  return { scripts := ← given "documents" [], bulk := ← given "bulk" [] }⟩

end Gazetteer
