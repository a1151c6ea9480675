/-
  LoggingOperator.Lease.Basic — LEASES.

  Of several operators only the one that holds a lease does anything.  A lease
  names its holder and says when it was taken, when it was last renewed and for
  how long it is good.  It is free for others once it has not been renewed for
  longer than that.
-/
import LoggingOperator.Kube.Metadata

namespace LoggingOperator

open Json Json.Record

/-- Who holds a lease, and since when. -/
structure LeaseSpec where
  acquireTime : Option Instant := none
  holder : Option String := none
  durationSeconds : Option Int32 := none
  /-- How often the holder changed. -/
  transitions : Option Int32 := none
  renewTime : Option Instant := none
deriving DecidableEq

namespace LeaseSpec

def toJson (s : LeaseSpec) : Json :=
  .ofFields
    (ifSome "acquireTime" Instant.toMicroJson s.acquireTime
      ++ ifSome "holderIdentity" .string s.holder
      ++ ifSome "leaseDurationSeconds" int32 s.durationSeconds
      ++ ifSome "leaseTransitions" int32 s.transitions
      ++ ifSome "renewTime" Instant.toMicroJson s.renewTime)

def ofJson? (v : Json) : Option LeaseSpec := do
  let v ← object? v
  return {
    acquireTime := ← optional v "acquireTime" Instant.ofJson?
    holder := ← optional v "holderIdentity" string?
    durationSeconds := ← optional v "leaseDurationSeconds" int32?
    transitions := ← optional v "leaseTransitions" int32?
    renewTime := ← optional v "renewTime" Instant.ofJson? }

def layout : Layout :=
  .loose (fun v => (ofJson? v).isSome) fun key =>
    if key ∈ ["acquireTime", "holderIdentity", "leaseDurationSeconds", "leaseTransitions",
        "renewTime"] then
      some .whole
    else none

/-- The last moment at which the lease is good, if it was ever renewed. -/
def goodUntil (s : LeaseSpec) : Option Instant :=
  s.renewTime.map fun renewed => renewed.addSeconds (s.durationSeconds.getD 0).toInt

/-- Has the lease run out?  At its last moment it has not, and a lease that was
    never renewed has. -/
def expired (s : LeaseSpec) (now : Instant) : Bool :=
  match s.goodUntil with
  | some last => decide (last < now)
  | none => true

end LeaseSpec

/-- A lease as an object of the platform. -/
structure Lease where
  metadata : Metadata := {}
  spec : Option LeaseSpec := none
deriving DecidableEq

namespace Lease

/-- The kind of leases. -/
def kindName : String := "Lease"

/-- Group and version of leases. -/
def apiVersion : String := "coordination.k8s.io/v1"

def toJson (l : Lease) : Json :=
  .ofFields
    (always "apiVersion" (.string apiVersion)
      ++ always "kind" (.string kindName)
      ++ always "metadata" l.metadata.toJson
      ++ ifSome "spec" LeaseSpec.toJson l.spec)

/-- This very text and nothing else. -/
def exactly? (expected : String) (v : Json) : Option Unit :=
  if v.string? = some expected then some () else none

/-- The lease that an object is.  An object of another kind is none. -/
def ofJson? (v : Json) : Option Lease := do
  let v ← object? v
  let () ← defaulted v "apiVersion" () (exactly? apiVersion)
  let () ← defaulted v "kind" () (exactly? kindName)
  return {
    metadata := ← zeroed v "metadata" {} Metadata.ofJson?
    spec := ← optional v "spec" LeaseSpec.ofJson? }

def layout : Layout :=
  .loose (fun v => (ofJson? v).isSome) fun key =>
    match key with
    | "apiVersion" | "kind" => some .whole
    | "metadata" => some Metadata.layout
    | "spec" => some LeaseSpec.layout
    | _ => none

/-- The lease that a document is. -/
def ofDocument? : Document → Option Lease :=
  Document.readAs? layout ofJson?

end Lease

end LoggingOperator
