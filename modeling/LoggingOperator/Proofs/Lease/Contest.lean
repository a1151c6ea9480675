/-
  LoggingOperator.Proofs.Lease.Contest — CANDIDATES FOR ONE LEASE.

  Any number of candidates try to hold one lease.  Each makes one attempt after
  the other: it looks at the clock and goes through the requests of
  `Candidate.attempt`, and what happens between two of its requests is open.
  All look at one clock, which never goes back and counts microseconds.

  The platform keeps the lease as a document and gives every stored document a
  version of its own.  It is trusted with little (`Handled`): it stores the spec
  that was sent, it creates the lease only if there is none, and it replaces it
  only if the write carries the version of the stored lease.  Everything else
  may happen: a request gets lost or is refused for any reason, a read gives an
  older document, a write takes effect and is answered by a failure or not at
  all, and a request that the candidate gave up still takes effect later, while
  the candidate is at its next attempt.

  Main definitions:
    * `Contest`   — the candidates;
    * `Handled`   — what the platform may do with a request;
    * `Step`      — one step of a contest;
    * `Reachable` — the states that a contest can come to.
-/
import LoggingOperator.Kube.Object
import LoggingOperator.Lease.Candidate
import LoggingOperator.Proofs.Time.Timestamp
import Mathlib.Logic.Function.Basic

namespace LoggingOperator.Leadership

open Http (Exchange Reply Request)
open Json

/-! ## §1. Candidates -/

/-- Candidates for one lease, each with an identity of its own. -/
structure Contest (ι : Type) where
  /-- Where the lease is. -/
  ns : String
  name : String
  identity : ι → String
  /-- For how many seconds a candidate wants to hold the lease. -/
  duration : ι → Nat
  distinct : Function.Injective identity

/-- One of the candidates. -/
def Contest.candidate {ι : Type} (c : Contest ι) (i : ι) : Candidate where
  ns := c.ns
  name := c.name
  identity := c.identity i
  duration := c.duration i

/-! ## §2. The platform -/

/-- The version of a stored document. -/
def version? (d : Json) : Option String :=
  d.metaString? "resourceVersion"

/-- May this body be written?  A lease is created only if there is none.  It is
    replaced only by a body without a version, or with that of the stored one.
    Stored documents are listed with the newest first. -/
def Accepts (stored : List Json) (request : Request) (body : Json) : Prop :=
  request.body = some body ∧
    match request.method with
    | .post => stored = []
    | .put => ∀ newest, stored.head? = some newest →
        version? body = none ∨ version? body = version? newest
    | _ => False

/-- The document that is stored for a body: it has the spec that was sent, and a
    version that none had before. -/
structure Stores (stored : List Json) (body d : Json) : Prop where
  canonical : d.Canonical
  spec : d.get? "spec" = body.get? "spec"
  version : ∃ v, version? d = some v
  fresh : ∀ older ∈ stored, version? older ≠ version? d

/-- What the platform may do with a request about the lease: how it is answered,
    and what is stored. -/
inductive Handled (stored : List Json) (request : Request) :
    Option Reply → Option Json → Prop
  | lost : Handled stored request none none
  | refused {reply : Reply} (failure : reply.isFailure = true) :
    Handled stored request (some reply) none
  /-- A read may give an older document. -/
  | read {reply : Reply} {d : Json} (method : request.method = .get) (mem : d ∈ stored)
    (success : reply.isFailure = false)
    (body : Document.ofText? reply.body = Document.ofText? d.text) :
    Handled stored request (some reply) none
  /-- A write that changes nothing gives no new version. -/
  | unchanged {reply : Option Reply} {body newest : Json} (accepts : Accepts stored request body)
    (head : stored.head? = some newest) (same : body.get? "spec" = newest.get? "spec") :
    Handled stored request reply none
  | written {reply : Option Reply} {body d : Json} (accepts : Accepts stored request body)
    (stores : Stores stored body d) : Handled stored request reply (some d)

/-! ## §3. States -/

/-- A stored document, and whose attempt wrote it that looked at the clock at
    `sampled`. -/
structure Revision (ι : Type) where
  document : Json
  author : ι
  sampled : Instant

/-- An attempt that is under way. -/
structure Attempt where
  /-- What the clock said. -/
  sampled : Instant
  rest : Exchange (Except Kube.Failure Bool)

/-- A request that a candidate gave up and that may still arrive. -/
structure Stray (ι : Type) where
  author : ι
  sampled : Instant
  request : Request

/-- An attempt that ended with the answer that the candidate holds the lease. -/
structure Win (ι : Type) where
  winner : ι
  sampled : Instant
  /-- When the attempt came to its end. -/
  completed : Instant

/-- A state of a contest. -/
structure State (ι : Type) where
  clock : Instant
  /-- What was stored, the newest first. -/
  revisions : List (Revision ι) := []
  running : ι → Option Attempt := fun _ => none
  strays : List (Stray ι) := []
  wins : List (Win ι) := []

namespace State

variable {ι : Type}

/-- The stored documents, the newest first. -/
def documents (s : State ι) : List Json :=
  s.revisions.map (·.document)

/-- Store a document, if there is one, that an attempt wrote. -/
def store (s : State ι) (i : ι) (sampled : Instant) : Option Json → State ι
  | none => s
  | some d => { s with revisions := ⟨d, i, sampled⟩ :: s.revisions }

/-- Go on with an attempt, or end it. -/
def proceed [DecidableEq ι] (s : State ι) (i : ι) (attempt : Option Attempt) : State ι :=
  { s with running := Function.update s.running i attempt }

end State

/-! ## §4. Steps -/

variable {ι : Type} [DecidableEq ι]

/-- One step of a contest. -/
inductive Step (c : Contest ι) : State ι → State ι → Prop
  | tick {s : State ι} {later : Instant} (le : s.clock ≤ later) (whole : later.OnMicrosecond) :
    Step c s { s with clock := later }
  /-- A candidate looks at the clock. -/
  | start {s : State ι} {i : ι} (idle : s.running i = none) :
    Step c s (s.proceed i (some ⟨s.clock, (c.candidate i).attempt s.clock⟩))
  /-- The platform handles a request, and the candidate learns of it or not. -/
  | answer {s : State ι} {i : ι} {sampled : Instant} {request : Request}
    {next : Option Reply → Exchange (Except Kube.Failure Bool)} {reply : Option Reply}
    {d : Option Json} (asks : s.running i = some ⟨sampled, .send request next⟩)
    (handled : Handled s.documents request reply d) :
    Step c s ((s.store i sampled d).proceed i (some ⟨sampled, next reply⟩))
  /-- A candidate gives up a request, which is still on its way. -/
  | giveUp {s : State ι} {i : ι} {sampled : Instant} {request : Request}
    {next : Option Reply → Exchange (Except Kube.Failure Bool)}
    (asks : s.running i = some ⟨sampled, .send request next⟩) :
    Step c s { s.proceed i (some ⟨sampled, next none⟩) with
      strays := ⟨i, sampled, request⟩ :: s.strays }
  /-- A request arrives that was given up. -/
  | arrive {s : State ι} {stray : Stray ι} {reply : Option Reply} {d : Option Json}
    (mem : stray ∈ s.strays) (handled : Handled s.documents stray.request reply d) :
    Step c s (s.store stray.author stray.sampled d)
  | win {s : State ι} {i : ι} {sampled : Instant}
    (won : s.running i = some ⟨sampled, .done (.ok true)⟩) :
    Step c s { s.proceed i none with wins := ⟨i, sampled, s.clock⟩ :: s.wins }
  | stop {s : State ι} {i : ι} {sampled : Instant} {result : Except Kube.Failure Bool}
    (ended : s.running i = some ⟨sampled, .done result⟩) (lost : result ≠ .ok true) :
    Step c s (s.proceed i none)

/-- The states that a contest can come to, from any time and without a lease. -/
inductive Reachable (c : Contest ι) : State ι → Prop
  | start {clock : Instant} (whole : clock.OnMicrosecond) : Reachable c { clock }
  | step {s s' : State ι} (h : Reachable c s) (hs : Step c s s') : Reachable c s'

end LoggingOperator.Leadership
