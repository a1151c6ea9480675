/-
  LoggingOperator.Convergence.Comparable — WHAT TAKES PART IN A COMPARISON.

  A stored object has fields that nobody declared: its status, what the
  platform keeps in its metadata, addresses and defaults that the server
  fills in.  `comparable` leaves out exactly these, on the desired and on the
  stored side, and spells resource quantities by their exact values.

  The metadata of a workload is left out altogether, since the platform owns
  it once the workload exists.
-/
import LoggingOperator.Kube.Kind
import LoggingOperator.Quantity

namespace LoggingOperator

namespace Convergence

/-- The annotation that holds the desired object as it was last written. -/
def lastAppliedKey : String := "logging.lograft.io/last-applied"

/-- Metadata fields that the platform owns. -/
def platformFields : List String :=
  ["resourceVersion", "uid", "creationTimestamp", "generation", "managedFields", "selfLink"]

/-- Fields that say what an object is or how it fares. -/
def envelopeFields : List String :=
  ["status", "kind", "apiVersion"]

/-- An object without its envelope; a workload also without its metadata. -/
def stripEnvelope (kind : Kind) (object : Json) : Json :=
  let object := object.removeAll envelopeFields
  if kind.isWorkload then object.remove "metadata" else object

/-- An object without the platform's metadata and without the record of the
    last write. -/
def stripMetadata (object : Json) : Json :=
  object.modify "metadata" fun metadata =>
    (metadata.removeAll platformFields).modify "annotations" (·.remove lastAppliedKey)

/-- A volume claim template without what the server adds to it. -/
def stripClaim (claim : Json) : Json :=
  ((claim.removeAll envelopeFields).modify "metadata" (·.remove "creationTimestamp")).modify
    "spec" (·.removeAll ["volumeName", "volumeMode"])

/-- An object without the fields that the server fills in for its kind. -/
def stripAssigned (kind : Kind) (object : Json) : Json :=
  match kind with
  | .statefulSet => object.modifyAt ["spec", "volumeClaimTemplates"] (·.mapItems stripClaim)
  | .service => object.modify "spec" (·.removeAll ["clusterIP", "clusterIPs", "ipFamilies"])
  | _ => object

/-- The part of an object that is compared. -/
def comparable (kind : Kind) (object : Json) : Json :=
  Quantity.canonicalize (stripAssigned kind (stripMetadata (stripEnvelope kind object)))

end Convergence

end LoggingOperator
