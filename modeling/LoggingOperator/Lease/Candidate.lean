/-
  LoggingOperator.Lease.Candidate — TAKING AND RENEWING A LEASE.

  A candidate looks at its clock, reads the lease, and writes at most once.  It
  takes the lease if there is none, if nobody holds it, or if it has run out,
  and it renews a lease that it holds already.  The write carries the version of
  the lease that was read, so that of two candidates only one gets through.

  Main definitions:
    * `Candidate.next`    — what the candidate wants to write;
    * `Candidate.attempt` — the requests of one attempt.
-/
import LoggingOperator.Http.Exchange
import LoggingOperator.Http.Target
import LoggingOperator.Kube.Answer
import LoggingOperator.Kube.Path
import LoggingOperator.Lease.Basic

namespace LoggingOperator

open Http (Exchange Reply Request)

/-- Somebody who wants to hold a lease. -/
structure Candidate where
  /-- Where the lease is. -/
  ns : String
  name : String
  identity : String
  /-- For how many seconds the lease is good after it was renewed. -/
  duration : Nat
deriving DecidableEq, Repr

namespace Candidate

/-! ## §1. What to write -/

/-- The duration as it is written; it has to fit 32 bits. -/
def writtenDuration (c : Candidate) : Int32 :=
  Int32.ofNat (min c.duration 2147483647)

/-- Does the candidate hold the lease? -/
def holds (c : Candidate) (s : LeaseSpec) : Bool :=
  s.holder == some c.identity

/-- May the candidate write the lease? -/
def mayTake (c : Candidate) (s : LeaseSpec) (now : Instant) : Bool :=
  s.holder.isNone || c.holds s || s.expired now

/-- A lease that is written for the first time. -/
def first (c : Candidate) (now : Instant) : LeaseSpec where
  holder := some c.identity
  durationSeconds := some c.writtenDuration
  acquireTime := some now
  renewTime := some now
  transitions := some 0

/-- A lease that is there, as the candidate writes it.  Whoever holds it
    already keeps the time at which it was taken. -/
def next (c : Candidate) (old : LeaseSpec) (now : Instant) : LeaseSpec :=
  let transitions := old.transitions.getD 0
  { holder := some c.identity
    durationSeconds := some c.writtenDuration
    acquireTime := if c.holds old then old.acquireTime else some now
    renewTime := some now
    transitions := some (if c.holds old then transitions else transitions + 1) }

/-! ## §2. The requests -/

/-- What leases are served as. -/
def resource : Resource where
  group := "coordination.k8s.io"
  version := "v1"
  plural := "leases"

/-- Read the lease. -/
def readRequest (c : Candidate) : Option Request :=
  Request.aimed? .get (resource.object (some c.ns) c.name)

/-- Create the lease. -/
def createRequest (c : Candidate) (now : Instant) : Option Request :=
  let lease : Lease := { metadata := { name := some c.name }, spec := some (c.first now) }
  Request.aimed? .post (resource.collection (some c.ns) ++ "?") lease.toJson

/-- Replace the lease that was read. -/
def replaceRequest (c : Candidate) (lease : Lease) (now : Instant) : Option Request :=
  let lease := { lease with spec := some (c.next (lease.spec.getD {}) now) }
  Request.aimed? .put (resource.object (some c.ns) c.name ++ "?") lease.toJson

/-! ## §3. An attempt -/

/-- The lease that a reply stands for; there is none if the platform says
    so. -/
def found (reply : Option Reply) : Except Kube.Failure (Option Lease) :=
  match Kube.answer Lease.ofDocument? reply with
  | .ok lease => .ok (some lease)
  | .error (.refused r) => if r.reason = "NotFound" then .ok none else .error (.refused r)
  | .error f => .error f

/-- Did the write get through?  A conflict means that somebody else was
    faster. -/
def written (reply : Option Reply) : Except Kube.Failure Bool :=
  match Kube.answer Lease.ofDocument? reply with
  | .ok _ => .ok true
  | .error (.refused r) => if r.code = 409 then .ok false else .error (.refused r)
  | .error f => .error f

/-- Send a request and go on with its reply. -/
def sending {α : Type} (request : Option Request)
    (next : Option Reply → Exchange (Except Kube.Failure α)) :
    Exchange (Except Kube.Failure α) :=
  match request with
  | some request => .send request next
  | none => .done (.error .lost)

/-- Write the lease, given what was found. -/
def take (c : Candidate) (now : Instant) :
    Option Lease → Exchange (Except Kube.Failure Bool)
  | none => sending (c.createRequest now) fun reply => .done (written reply)
  | some lease =>
    if c.mayTake (lease.spec.getD {}) now then
      sending (c.replaceRequest lease now) fun reply => .done (written reply)
    else .done (.ok false)

/-- One attempt to hold the lease from this moment on.  The answer says whether
    the candidate holds it now. -/
def attempt (c : Candidate) (now : Instant) : Exchange (Except Kube.Failure Bool) :=
  sending c.readRequest fun reply =>
    match found reply with
    | .ok lease => c.take now lease
    | .error f => .done (.error f)

end Candidate

end LoggingOperator
