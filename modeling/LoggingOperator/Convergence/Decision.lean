/-
  LoggingOperator.Convergence.Decision — CREATE, UPDATE OR LEAVE ALONE.

  What to do with a desired object depends on what is stored: nothing — it is
  created; an object that lacks something declared, or still has something no
  longer declared — it is updated; otherwise it is left alone.

  Whatever is written carries the desired object in an annotation, so that a
  later pass can tell a field dropped from the declaration from a default of
  the server.  An update also carries the version that was read, so that it
  fails if somebody wrote in between, and what others put there: annotations
  under keys of their own and the addresses of a Service.
-/
import LoggingOperator.Convergence.Comparable
import LoggingOperator.Convergence.Containment
import LoggingOperator.Json.Printer
import LoggingOperator.Json.Reader
import LoggingOperator.Kube.Object

namespace LoggingOperator

namespace Convergence

/-! ## §1. Deciding -/

/-- What to do with a desired object. -/
inductive Decision where
  | create
  | skip
  | update
deriving DecidableEq, Repr

/-- The word for a decision. -/
def Decision.word : Decision → String
  | .create => "create"
  | .skip => "skip"
  | .update => "update"

/-- The desired object of the last write, if the stored object has a readable
    record of it. -/
def lastApplied? (stored : Json) : Option Json :=
  ((stored.at? ["metadata", "annotations", lastAppliedKey]).bind Json.string?).bind Json.read?

/-- Was a field dropped since the last write? -/
def hasDropped (kind : Kind) (desired stored : Json) : Bool :=
  match lastApplied? stored with
  | some last =>
    (comparable kind last).dropped (comparable kind desired) (comparable kind stored)
  | none => false

/-- What to do with `desired` when `stored` is there. -/
def decide (kind : Kind) (desired : Json) : Option Json → Decision
  | none => .create
  | some stored =>
    if !(comparable kind stored).contains (comparable kind desired) then .update
    else if hasDropped kind desired stored then .update
    else .skip

/-! ## §2. What is written -/

/-- Change the annotations of an object.  Metadata and annotations are made
    where they are missing; `none` if one of the three is not an object. -/
def mapAnnotations? (change : List (String × Json) → List (String × Json)) :
    Json → Option Json
  | .object fields =>
    match (Keyed.get? "metadata" fields).getD .empty with
    | .object metadata =>
      match (Keyed.get? "annotations" metadata).getD .empty with
      | .object annotations =>
        let metadata := Keyed.insert "annotations" (.object (change annotations)) metadata
        some (.object (Keyed.insert "metadata" (.object metadata) fields))
      | _ => none
    | _ => none
  | _ => none

/-- The desired object with the record of itself. -/
def withLastApplied (desired : Json) : Except StoreError Json :=
  match mapAnnotations? (Keyed.insert lastAppliedKey (.string desired.text)) desired with
  | some object => .ok object
  | none => .error (.invalid "object is not a JSON map")

/-- The object to send for a create. -/
def prepareCreate (desired : Json) : Except StoreError Json :=
  withLastApplied desired

/-- Copy the fields of `source` that are there. -/
def carry (source : Json) (fields : List String) (target : Json) : Json :=
  fields.foldl (fun target field =>
    match source.get? field with
    | some value => target.set field value
    | none => target) target

/-- Metadata fields that an update keeps. -/
def carriedFields : List String :=
  ["resourceVersion", "creationTimestamp", "managedFields", "uid"]

/-- Add the annotations of others, under keys that are not set yet. -/
def adopt (foreign : List (String × Json)) (annotations : List (String × Json)) :
    List (String × Json) :=
  foreign.foldl (fun annotations (key, value) => Keyed.insertIfNew key value annotations)
    annotations

/-- The object to send for an update of `stored`. -/
def prepareUpdate (kind : Kind) (desired stored : Json) : Except StoreError Json := do
  let next ← withLastApplied desired
  let next := next.modify "metadata" (carry ((stored.get? "metadata").getD .null) carriedFields)
  let next := match (stored.at? ["metadata", "annotations"]).bind Json.fields? with
    | some foreign => (mapAnnotations? (adopt foreign) next).getD next
    | none => next
  if kind = .service then
    return next.modify "spec" (carry ((stored.get? "spec").getD .null) ["clusterIP", "clusterIPs"])
  else return next

end Convergence

end LoggingOperator
