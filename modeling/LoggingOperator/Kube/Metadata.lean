/-
  LoggingOperator.Kube.Metadata — OBJECT METADATA.

  Every object has metadata: what it is called, who owns it, its labels and
  annotations, and what the server keeps about it.  Reading metadata drops the
  fields that are not listed here and brings times into UTC.

  In the documents of the platform every field may be repeated.  Each type says
  which fields it looks at (`layout`).
-/
import LoggingOperator.Json.Document
import LoggingOperator.Json.Record
import LoggingOperator.StringMap
import LoggingOperator.Time.Instant

namespace LoggingOperator

open Json Json.Record

namespace Instant

/-- A time in object metadata. -/
def toJson (t : Instant) : Json :=
  .string t.text

/-- A time in a lease. -/
def toMicroJson (t : Instant) : Json :=
  .string t.microText

/-- A time, given as its text. -/
def ofJson? (v : Json) : Option Instant :=
  v.string?.bind ofText?

end Instant

namespace StringMap

/-- A map looks at every field. -/
def layout : Layout :=
  .loose (fun v => (ofJson? v).isSome) fun _ => some .whole

end StringMap

/-- The object that an object belongs to; it is deleted with its owner. -/
structure OwnerReference where
  apiVersion : String := ""
  blockOwnerDeletion : Option Bool := none
  controller : Option Bool := none
  kind : String := ""
  name : String := ""
  uid : String := ""
deriving DecidableEq

namespace OwnerReference

def toJson (r : OwnerReference) : Json :=
  .ofFields
    (always "apiVersion" (.string r.apiVersion)
      ++ ifSome "blockOwnerDeletion" .bool r.blockOwnerDeletion
      ++ ifSome "controller" .bool r.controller
      ++ always "kind" (.string r.kind)
      ++ always "name" (.string r.name)
      ++ always "uid" (.string r.uid))

def ofJson? (v : Json) : Option OwnerReference := do
  let v ← object? v
  return {
    apiVersion := ← zeroed v "apiVersion" "" string?
    blockOwnerDeletion := ← optional v "blockOwnerDeletion" bool?
    controller := ← optional v "controller" bool?
    kind := ← zeroed v "kind" "" string?
    name := ← zeroed v "name" "" string?
    uid := ← zeroed v "uid" "" string? }

def layout : Layout :=
  .loose (fun v => (ofJson? v).isSome) fun key =>
    if key ∈ ["apiVersion", "blockOwnerDeletion", "controller", "kind", "name", "uid"] then
      some .whole
    else none

end OwnerReference

/-- Which fields a writer manages. -/
structure ManagedFields where
  apiVersion : Option String := none
  fieldsType : Option String := none
  fields : Option Json := none
  manager : Option String := none
  operation : Option String := none
  subresource : Option String := none
  time : Option Instant := none
deriving DecidableEq

namespace ManagedFields

def toJson (m : ManagedFields) : Json :=
  .ofFields
    (ifSome "apiVersion" .string m.apiVersion
      ++ ifSome "fieldsType" .string m.fieldsType
      ++ ifSome "fieldsV1" id m.fields
      ++ ifSome "manager" .string m.manager
      ++ ifSome "operation" .string m.operation
      ++ ifSome "subresource" .string m.subresource
      ++ ifSome "time" Instant.toJson m.time)

def ofJson? (v : Json) : Option ManagedFields := do
  let v ← object? v
  return {
    apiVersion := ← optional v "apiVersion" string?
    fieldsType := ← optional v "fieldsType" string?
    fields := ← optional v "fieldsV1" some
    manager := ← optional v "manager" string?
    operation := ← optional v "operation" string?
    subresource := ← optional v "subresource" string?
    time := ← optional v "time" Instant.ofJson? }

def layout : Layout :=
  .loose (fun v => (ofJson? v).isSome) fun key =>
    if key ∈ ["apiVersion", "fieldsType", "fieldsV1", "manager", "operation", "subresource",
        "time"] then
      some .whole
    else none

end ManagedFields

/-- What every object says about itself. -/
structure Metadata where
  annotations : Option StringMap := none
  creationTimestamp : Option Instant := none
  deletionGracePeriodSeconds : Option Int64 := none
  deletionTimestamp : Option Instant := none
  finalizers : Option (List String) := none
  generateName : Option String := none
  generation : Option Int64 := none
  labels : Option StringMap := none
  managedFields : Option (List ManagedFields) := none
  name : Option String := none
  ns : Option String := none
  ownerReferences : Option (List OwnerReference) := none
  resourceVersion : Option String := none
  selfLink : Option String := none
  uid : Option String := none
deriving DecidableEq

namespace Metadata

def toJson (m : Metadata) : Json :=
  .ofFields
    (ifSome "annotations" StringMap.toJson m.annotations
      ++ ifSome "creationTimestamp" Instant.toJson m.creationTimestamp
      ++ ifSome "deletionGracePeriodSeconds" int64 m.deletionGracePeriodSeconds
      ++ ifSome "deletionTimestamp" Instant.toJson m.deletionTimestamp
      ++ ifSome "finalizers" strings m.finalizers
      ++ ifSome "generateName" .string m.generateName
      ++ ifSome "generation" int64 m.generation
      ++ ifSome "labels" StringMap.toJson m.labels
      ++ ifSome "managedFields" (writeList ManagedFields.toJson) m.managedFields
      ++ ifSome "name" .string m.name
      ++ ifSome "namespace" .string m.ns
      ++ ifSome "ownerReferences" (writeList OwnerReference.toJson) m.ownerReferences
      ++ ifSome "resourceVersion" .string m.resourceVersion
      ++ ifSome "selfLink" .string m.selfLink
      ++ ifSome "uid" .string m.uid)

def ofJson? (v : Json) : Option Metadata := do
  let v ← object? v
  return {
    annotations := ← optional v "annotations" StringMap.ofJson?
    creationTimestamp := ← optional v "creationTimestamp" Instant.ofJson?
    deletionGracePeriodSeconds := ← optional v "deletionGracePeriodSeconds" int64?
    deletionTimestamp := ← optional v "deletionTimestamp" Instant.ofJson?
    finalizers := ← optional v "finalizers" textList
    generateName := ← optional v "generateName" string?
    generation := ← optional v "generation" int64?
    labels := ← optional v "labels" StringMap.ofJson?
    managedFields := ← optional v "managedFields" (listOf ManagedFields.ofJson?)
    name := ← optional v "name" string?
    ns := ← optional v "namespace" string?
    ownerReferences := ← optional v "ownerReferences" (listOf OwnerReference.ofJson?)
    resourceVersion := ← optional v "resourceVersion" string?
    selfLink := ← optional v "selfLink" string?
    uid := ← optional v "uid" string? }

def layout : Layout :=
  .loose (fun v => (ofJson? v).isSome) fun key =>
    match key with
    | "annotations" | "labels" => some StringMap.layout
    | "managedFields" => some (.list ManagedFields.layout)
    | "ownerReferences" => some (.list OwnerReference.layout)
    | key =>
      if key ∈ ["creationTimestamp", "deletionGracePeriodSeconds", "deletionTimestamp",
          "finalizers", "generateName", "generation", "name", "namespace", "resourceVersion",
          "selfLink", "uid"] then
        some .whole
      else none

/-- The name, or else the stem from which the server makes one. -/
def anyName (m : Metadata) : String :=
  (m.name.or m.generateName).getD ""

end Metadata

end LoggingOperator
