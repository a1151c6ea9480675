/-
  LoggingOperator.Declaration.Index — DECLARED INDEX TEMPLATES AND LIFECYCLES.

  Index templates and lifecycle policies are kept inside a search cluster.  A
  declaration of one says which cluster, and what the entry should be there.
  These declarations have no status.
-/
import LoggingOperator.Declaration.Basic
import LoggingOperator.Declaration.Security

namespace LoggingOperator

open Json Json.Record

/-- The status of a declaration that has none. -/
inductive NoStatus
deriving DecidableEq

namespace NoStatus

def toJson : NoStatus → Json :=
  nofun

end NoStatus

/-! ## §1. Index templates -/

/-- Settings of the indices made from a template. -/
structure TemplateSettings where
  shards : Int32 := 1
  replicas : Int32 := 1
  lifecycle : Option String := none
  rolloverAlias : Option String := none
deriving DecidableEq

namespace TemplateSettings

def toJson (s : TemplateSettings) : Json :=
  .ofFields
    (always "shards" (int32 s.shards)
      ++ always "replicas" (int32 s.replicas)
      ++ ifSome "lifecycleName" .string s.lifecycle
      ++ ifSome "rolloverAlias" .string s.rolloverAlias)

def ofJson? (v : Json) : Option TemplateSettings := do
  let v ← record? ["shards", "replicas", "lifecycleName", "rolloverAlias"] 0 v
  let default : TemplateSettings := {}
  return {
    shards := ← defaulted v "shards" default.shards int32?
    replicas := ← defaulted v "replicas" default.replicas int32?
    lifecycle := ← optional v "lifecycleName" string?
    rolloverAlias := ← optional v "rolloverAlias" string? }

end TemplateSettings

/-- What an index template should be. -/
structure IndexTemplateSpec where
  enabled : Bool := true
  address : ManagementAddress
  patterns : List String
  settings : TemplateSettings := {}
deriving DecidableEq

namespace IndexTemplateSpec

def toJson (s : IndexTemplateSpec) : Json :=
  .ofFields
    (always "enabled" (.bool s.enabled)
      ++ always "elasticsearch" s.address.toJson
      ++ always "indexPatterns" (strings s.patterns)
      ++ always "settings" s.settings.toJson)

def ofJson? (v : Json) : Option IndexTemplateSpec := do
  let v ← record? ["enabled", "elasticsearch", "indexPatterns", "settings"] 3 v
  return {
    enabled := ← defaulted v "enabled" true bool?
    address := ← required v "elasticsearch" ManagementAddress.ofJson?
    patterns := ← required v "indexPatterns" textList
    settings := ← defaulted v "settings" {} TemplateSettings.ofJson? }

end IndexTemplateSpec

/-- A declared index template. -/
abbrev IndexTemplate := Declaration IndexTemplateSpec NoStatus

namespace IndexTemplate

def toJson (it : IndexTemplate) : Json :=
  Declaration.toJson .indexTemplate IndexTemplateSpec.toJson NoStatus.toJson it

def ofJson? (v : Json) : Option IndexTemplate :=
  Declaration.ofJson? IndexTemplateSpec.ofJson? Declaration.withoutStatus v

end IndexTemplate

/-! ## §2. Lifecycles -/

/-- When writing moves on to a fresh index. -/
structure Rollover where
  maxSize : String
  maxAge : String
deriving DecidableEq

namespace Rollover

def toJson (r : Rollover) : Json :=
  .ofFields
    (always "maxSize" (.string r.maxSize)
      ++ always "maxAge" (.string r.maxAge))

def ofJson? (v : Json) : Option Rollover := do
  let v ← record? ["maxSize", "maxAge"] 2 v
  return {
    maxSize := ← required v "maxSize" string?
    maxAge := ← required v "maxAge" string? }

end Rollover

/-- When an index is deleted. -/
structure Expiry where
  minAge : String
deriving DecidableEq

namespace Expiry

def toJson (e : Expiry) : Json :=
  .ofFields (always "minAge" (.string e.minAge))

def ofJson? (v : Json) : Option Expiry := do
  let v ← record? ["minAge"] 1 v
  return { minAge := ← required v "minAge" string? }

end Expiry

/-- What a lifecycle policy should be. -/
structure IndexLifecycleSpec where
  enabled : Bool := true
  address : ManagementAddress
  rollover : Rollover
  expiry : Expiry
deriving DecidableEq

namespace IndexLifecycleSpec

def toJson (s : IndexLifecycleSpec) : Json :=
  .ofFields
    (always "enabled" (.bool s.enabled)
      ++ always "elasticsearch" s.address.toJson
      ++ always "rollover" s.rollover.toJson
      ++ always "delete" s.expiry.toJson)

def ofJson? (v : Json) : Option IndexLifecycleSpec := do
  let v ← record? ["enabled", "elasticsearch", "rollover", "delete"] 4 v
  return {
    enabled := ← defaulted v "enabled" true bool?
    address := ← required v "elasticsearch" ManagementAddress.ofJson?
    rollover := ← required v "rollover" Rollover.ofJson?
    expiry := ← required v "delete" Expiry.ofJson? }

end IndexLifecycleSpec

/-- A declared lifecycle policy. -/
abbrev IndexLifecycle := Declaration IndexLifecycleSpec NoStatus

namespace IndexLifecycle

def toJson (il : IndexLifecycle) : Json :=
  Declaration.toJson .indexLifecycle IndexLifecycleSpec.toJson NoStatus.toJson il

def ofJson? (v : Json) : Option IndexLifecycle :=
  Declaration.ofJson? IndexLifecycleSpec.ofJson? Declaration.withoutStatus v

end IndexLifecycle

end LoggingOperator
