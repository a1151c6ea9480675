/-
  LoggingOperator.Kube.Envelope — OBJECTS AS THEY ARE SENT AND RECEIVED.

  Objects of any kind travel in one envelope: what they are (`apiVersion` and
  `kind`), their metadata, and everything else as it is.  Opening the envelope
  brings the metadata into its own form, so that unknown metadata is lost, and
  fails if the metadata cannot be read.

  What an object is stays with it only if both fields are texts and none is
  repeated.  They are looked for from the front: those before the first one
  that is wrong, and that one itself, are lost; the others stay as they are.
-/
import LoggingOperator.Kube.Metadata

namespace LoggingOperator

open Json Json.Record

namespace Envelope

/-! ## §1. What an object is -/

/-- Does the field say what the object is? -/
def isTypeField (key : String) : Bool :=
  key == "apiVersion" || key == "kind"

/-- The fields without those that say what the object is, up to the first of
    them that is wrong.  `seen` are the ones before. -/
def dropType (seen : List String) : List (String × Json) → List (String × Json)
  | [] => []
  | (key, value) :: rest =>
    if isTypeField key then
      if seen.contains key || value.string?.isNone then rest else dropType (key :: seen) rest
    else (key, value) :: dropType seen rest

/-- Do the fields say what the object is? -/
def isTyped (fields : List (String × Json)) : Bool :=
  let said := fields.filter fun field => isTypeField field.1
  said.all (fun field => field.2.string?.isSome)
    && (said.map (·.1) == ["apiVersion", "kind"] || said.map (·.1) == ["kind", "apiVersion"])

/-- The fields besides the metadata that come out of the envelope. -/
def contents (fields : List (String × Json)) : List (String × Json) :=
  if isTyped fields then fields else dropType [] fields

/-! ## §2. Opening the envelope -/

/-- The object with this metadata and these other fields; of two fields with one
    key the later one counts. -/
def assemble (metadata : Metadata) (fields : List (String × Json)) : Json :=
  .ofFields (always "metadata" metadata.toJson ++ (contents fields).reverse)

/-- Is it the field with the metadata? -/
def isMetadata (key : String) : Bool :=
  key == "metadata"

/-- An object as it comes out of its envelope. -/
def open? (v : Json) : Option Json := do
  let metadata ← defaulted (← object? v) "metadata" {} Metadata.ofJson?
  let fields ← v.fields?
  return assemble metadata (fields.filter fun field => !isMetadata field.1)

/-- The metadata among the fields of a document, where it may not be repeated. -/
def metadata? (depth : Nat) (fields : List (String × Document)) : Option Metadata :=
  match fields.filter fun field => isMetadata field.1 with
  | [] => some {}
  | [(_, d)] => (Metadata.layout.settle? depth d).bind Metadata.ofJson?
  | _ => none

/-- The object that comes out of the envelope in a document. -/
def ofDocument? : Document → Option Json
  | .object fields => do
    let depth := Document.maxDepth - 1
    let fields ← fields.mapM fun (pieces, d) => (Piece.text? pieces).map (·, d)
    let metadata ← metadata? depth fields
    let others ← (fields.filter fun field => !isMetadata field.1).mapM fun (key, d) =>
      (Layout.whole.settle? depth d).map (key, ·)
    return assemble metadata others
  | _ => none

end Envelope

end LoggingOperator
