/-
  LoggingOperator.Manifest.Index — BODIES OF INDEX TEMPLATES AND LIFECYCLES.

  What is sent to a search cluster so that it has a declared index template or
  lifecycle policy.
-/
import LoggingOperator.Declaration.Index

namespace LoggingOperator.Manifest

open Json Json.Record

/-- The body of an index template. -/
def templateBody (spec : IndexTemplateSpec) : Json :=
  let s := spec.settings
  .ofFields [
    ("index_patterns", strings spec.patterns),
    ("settings", .ofFields
      (always "index.number_of_shards" (int32 s.shards)
        ++ always "index.number_of_replicas" (int32 s.replicas)
        ++ ifSome "index.lifecycle.name" .string s.lifecycle
        ++ ifSome "index.lifecycle.rollover_alias" .string s.rolloverAlias))]

/-- The body of a lifecycle policy: indices roll over and are deleted later. -/
def policyBody (spec : IndexLifecycleSpec) : Json :=
  let rollover : Json := .ofFields [
    ("max_size", .string spec.rollover.maxSize),
    ("max_age", .string spec.rollover.maxAge)]
  let hot : Json := .ofFields [("actions", .ofFields [("rollover", rollover)])]
  let delete : Json := .ofFields [
    ("min_age", .string spec.expiry.minAge),
    ("actions", .ofFields [("delete", .empty)])]
  .ofFields [("policy", .ofFields [("phases", .ofFields [("hot", hot), ("delete", delete)])])]

end LoggingOperator.Manifest
