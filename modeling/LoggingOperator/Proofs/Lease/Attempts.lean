/-
  LoggingOperator.Proofs.Lease.Attempts — WHAT AN ATTEMPT WRITES.

  An attempt reads the lease and writes at most once.  Whatever it writes is
  either the first spec of a candidate that found no lease, or what the
  candidate makes of a stored revision that it read and may replace, under the
  version of that revision (`Sound`).  This stays true of a request for as long
  as it is on its way, whatever is stored meanwhile, since revisions are only
  ever added.

  Main results:
    * `Candidate.attempt_cases`, `Candidate.afterRead_cases` — all that an attempt
      can do;
    * `lease_of_found` — what a candidate knows of a stored lease;
    * `phase_attempt`, `phase_answered` — in which phases an attempt can be, and
      how the answer to a request moves it on;
    * `Sound.spec_of_accepts` — what is written if the platform accepts it.
-/
import LoggingOperator.Proofs.Lease.Contest
import LoggingOperator.Proofs.Lease.Reading

namespace LoggingOperator

open Http (Exchange Reply Request)
open Json

namespace Candidate

/-! ## §1. The course of an attempt -/

/-- What an attempt does after the answer to its read. -/
def afterRead (c : Candidate) (now : Instant) (reply : Option Reply) :
    Exchange (Except Kube.Failure Bool) :=
  match found reply with
  | .ok lease => c.take now lease
  | .error f => .done (.error f)

/-- An attempt starts with a read. -/
theorem attempt_cases (c : Candidate) (now : Instant) :
    c.attempt now = .done (.error .lost)
      ∨ ∃ request, c.readRequest = some request
        ∧ c.attempt now = .send request (c.afterRead now) := by
  rw [attempt]
  cases c.readRequest with
  | none => exact Or.inl rfl
  | some request => exact Or.inr ⟨request, rfl, rfl⟩

/-- **After its read an attempt fails, creates the lease, or replaces the lease that
    it found**, if it may. -/
theorem afterRead_cases (c : Candidate) (now : Instant) (reply : Option Reply) :
    (∃ result, result ≠ .ok true ∧ c.afterRead now reply = .done result)
      ∨ ∃ request, c.afterRead now reply = .send request (fun reply => .done (written reply))
        ∧ (c.createRequest now = some request
          ∨ ∃ lease, found reply = .ok (some lease) ∧ c.mayTake (lease.spec.getD {}) now = true
            ∧ c.replaceRequest lease now = some request) := by
  rw [afterRead]
  cases found reply with
  | error f => exact Or.inl ⟨.error f, by simp, rfl⟩
  | ok o =>
    cases o with
    | none =>
      dsimp only
      rw [take]
      cases c.createRequest now with
      | none => exact Or.inl ⟨.error .lost, by simp, rfl⟩
      | some request => exact Or.inr ⟨request, rfl, Or.inl rfl⟩
    | some lease =>
      dsimp only
      rw [take]
      split
      · next hmay =>
        cases hreplace : c.replaceRequest lease now with
        | none => exact Or.inl ⟨.error .lost, by simp, rfl⟩
        | some request => exact Or.inr ⟨request, rfl, Or.inr ⟨lease, rfl, hmay, hreplace⟩⟩
      · exact Or.inl ⟨.ok false, by simp, rfl⟩

end Candidate

namespace Leadership

variable {ι : Type}

/-! ## §2. What is recorded -/

/-- The document of the revision records this spec, which its author wrote. -/
structure Records (c : Contest ι) (r : Revision ι) (s : LeaseSpec) : Prop where
  canonical : r.document.Canonical
  spec : r.document.get? "spec" = some s.toJson
  recordable : s.Recordable
  holder : s.holder = some (c.identity r.author)
  duration : s.durationSeconds = some (c.candidate r.author).writtenDuration
  renewed : s.renewTime = some r.sampled

/-- The last moment of a lease that a candidate took or renewed at `sampled`. -/
def Contest.goodUntil (c : Contest ι) (i : ι) (sampled : Instant) : Instant :=
  sampled.addSeconds (c.candidate i).writtenDuration.toInt

namespace Records

variable {c : Contest ι} {r : Revision ι} {s : LeaseSpec} {i : ι} {now : Instant}

/-- The holder of the lease is known by its identity. -/
theorem holds_iff (h : Records c r s) : (c.candidate i).holds s = true ↔ r.author = i := by
  rw [Candidate.holds, h.holder, beq_iff_eq, Option.some.injEq]
  exact c.distinct.eq_iff

/-- **Who may take the lease**: the one who holds it, and anybody after its last
    moment. -/
theorem mayTake_iff (h : Records c r s) :
    (c.candidate i).mayTake s now = true ↔ r.author = i ∨ c.goodUntil r.author r.sampled < now := by
  have hexpired : s.expired now = true ↔ c.goodUntil r.author r.sampled < now := by
    rw [LeaseSpec.expired, LeaseSpec.goodUntil, h.renewed, h.duration]
    exact decide_eq_true_iff
  have hnone : s.holder.isNone = false := by
    rw [h.holder]
    rfl
  rw [Candidate.mayTake, hnone, Bool.false_or, Bool.or_eq_true, h.holds_iff, hexpired]

/-- What a candidate makes of a recorded spec is recorded exactly. -/
theorem recordable_next (h : Records c r s) (hnow : now.OnMicrosecond) :
    ((c.candidate i).next s now).Recordable where
  acquired t ht := by
    simp only [Candidate.next] at ht
    split at ht
    · exact h.recordable.acquired t ht
    · cases ht
      exact hnow
  renewed t ht := by
    cases ht
    exact hnow

end Records

theorem recordable_first (c : Candidate) {now : Instant} (hnow : now.OnMicrosecond) :
    (c.first now).Recordable where
  acquired t ht := by
    cases ht
    exact hnow
  renewed t ht := by
    cases ht
    exact hnow

/-! ## §3. Requests on their way -/

/-- What a candidate may have sent: a read, the first lease, or what it makes of a
    revision that it read. -/
inductive Sound (c : Contest ι) (revisions : List (Revision ι)) (i : ι) (sampled : Instant)
    (request : Request) : Prop
  | read (sent : (c.candidate i).readRequest = some request)
  | create (sent : (c.candidate i).createRequest sampled = some request)
  | replace {r : Revision ι} {old : LeaseSpec} {lease : Lease} (mem : r ∈ revisions)
    (records : Records c r old) (spec : lease.spec = some old)
    (version : lease.metadata.resourceVersion = version? r.document)
    (may : (c.candidate i).mayTake old sampled = true) (own : r.author = i → r.sampled ≤ sampled)
    (sent : (c.candidate i).replaceRequest lease sampled = some request)

theorem parts_of_aimed? {method : Http.Method} {path : String} {body : Option Json}
    {request : Request} (h : Request.aimed? method path body = some request) :
    request.method = method ∧ request.body = body := by
  obtain ⟨target, -, rfl⟩ := Option.map_eq_some_iff.1 h
  exact ⟨rfl, rfl⟩

namespace Sound

variable {c : Contest ι} {revisions : List (Revision ι)} {i : ι} {sampled : Instant}
  {request : Request}

/-- Revisions are only added. -/
theorem grow {revisions' : List (Revision ι)} (h : Sound c revisions i sampled request)
    (hsub : revisions ⊆ revisions') : Sound c revisions' i sampled request := by
  cases h with
  | read sent => exact .read sent
  | create sent => exact .create sent
  | replace mem records spec version may own sent =>
    exact .replace (hsub mem) records spec version may own sent

/-- **What is written if the platform accepts it**: the first spec where nothing is
    stored, or the next one after a revision whose version the body carries. -/
theorem spec_of_accepts (h : Sound c revisions i sampled request) {stored : List Json} {body : Json}
    (ha : Accepts stored request body) :
    ∃ new : LeaseSpec, body.get? "spec" = some new.toJson
      ∧ (stored = [] ∧ new = (c.candidate i).first sampled
        ∨ ∃ r ∈ revisions, ∃ old, Records c r old ∧ new = (c.candidate i).next old sampled
          ∧ version? body = version? r.document ∧ request.method = .put
          ∧ (c.candidate i).mayTake old sampled = true ∧ (r.author = i → r.sampled ≤ sampled)) := by
  obtain ⟨hbody, haccepts⟩ := ha
  cases h with
  | read sent =>
    rw [(parts_of_aimed? sent).1] at haccepts
    exact haccepts.elim
  | create sent =>
    obtain ⟨hmethod, hsent⟩ := parts_of_aimed? sent
    rw [hmethod] at haccepts
    rw [hsent] at hbody
    cases hbody
    exact ⟨_, Lease.spec_toJson rfl, Or.inl ⟨haccepts, rfl⟩⟩
  | replace mem records spec version may own sent =>
    obtain ⟨hmethod, hsent⟩ := parts_of_aimed? sent
    rw [hsent, spec] at hbody
    cases hbody
    refine ⟨_, Lease.spec_toJson rfl, Or.inr ⟨_, mem, _, records, rfl, ?_, hmethod, may, own⟩⟩
    exact (Lease.version_toJson _).trans version

end Sound

/-! ## §4. Replies -/

/-- What can be read is in a reply that is no failure. -/
theorem reply_of_answer {α : Type} {read : Document → Option α} {reply : Option Reply} {a : α}
    (h : Kube.answer read reply = .ok a) :
    ∃ r, reply = some r ∧ r.isFailure = false
      ∧ ∃ doc, Document.ofText? r.body = some doc ∧ read doc = some a := by
  cases reply with
  | none => cases h
  | some r =>
    rw [Kube.answer] at h
    split at h
    · cases h
    · next hsuccess =>
      refine ⟨r, rfl, Bool.eq_false_of_not_eq_true hsuccess, ?_⟩
      split at h
      · next hread =>
        cases h
        exact Option.bind_eq_some_iff.1 hread
      · cases h

/-- A lease that was found is in the reply. -/
theorem answer_of_found {reply : Option Reply} {lease : Lease}
    (h : Candidate.found reply = .ok (some lease)) :
    ∃ r, reply = some r ∧ r.isFailure = false
      ∧ ∃ doc, Document.ofText? r.body = some doc ∧ Lease.ofDocument? doc = some lease := by
  rw [Candidate.found] at h
  split at h
  · next hanswer =>
    cases h
    exact reply_of_answer hanswer
  · split at h <;> cases h
  · cases h

/-- **What a read shows is what is stored**, with the spec that was written and the
    version of the document. -/
theorem lease_of_found {d : Json} {s : LeaseSpec} (hs : s.Recordable) (hd : d.Canonical)
    (hspec : d.get? "spec" = some s.toJson) (hversion : ∃ v, version? d = some v) {reply : Reply}
    (hbody : Document.ofText? reply.body = Document.ofText? d.text) {lease : Lease}
    (hfound : Candidate.found (some reply) = .ok (some lease)) :
    lease.spec = some s ∧ lease.metadata.resourceVersion = version? d := by
  obtain ⟨v, hv⟩ := hversion
  obtain ⟨_, hr, -, doc, hdoc, hlease⟩ := answer_of_found hfound
  cases hr
  rw [hbody] at hdoc
  have hread := Lease.version_of_document hd (by rw [hspec]; rfl) hv hdoc hlease
  exact ⟨Lease.spec_of_document hs hd hspec hdoc hlease, hread.trans hv.symm⟩

/-- A write got through only if the reply says so. -/
theorem reply_of_written {reply : Option Reply} (h : Candidate.written reply = .ok true) :
    ∃ r, reply = some r ∧ r.isFailure = false := by
  rw [Candidate.written] at h
  split at h
  · next hanswer =>
    obtain ⟨r, hr, hsuccess, -⟩ := reply_of_answer hanswer
    exact ⟨r, hr, hsuccess⟩
  · split at h <;> cases h
  · cases h

/-! ## §5. Phases of an attempt -/

/-- Where an attempt is: before the answer to its read, before the answer to its
    write, or at its end.  If it ends well, its spec was stored. -/
inductive Phase (c : Contest ι) (revisions : List (Revision ι)) (i : ι) (sampled : Instant) :
    Exchange (Except Kube.Failure Bool) → Prop
  | reading {request : Request} (sent : (c.candidate i).readRequest = some request) :
    Phase c revisions i sampled (.send request ((c.candidate i).afterRead sampled))
  | writing {request : Request} (sound : Sound c revisions i sampled request)
    (write : request.method ≠ .get) :
    Phase c revisions i sampled (.send request fun reply => .done (Candidate.written reply))
  | ended {result : Except Kube.Failure Bool}
    (stored : result = .ok true → ∃ r ∈ revisions, r.author = i ∧ r.sampled = sampled) :
    Phase c revisions i sampled (.done result)

section

variable {c : Contest ι} {revisions : List (Revision ι)} {i : ι} {sampled : Instant}

/-- An attempt that failed or did not get the lease. -/
theorem Phase.of_ne {result : Except Kube.Failure Bool} (h : result ≠ .ok true) :
    Phase c revisions i sampled (.done result) :=
  .ended fun heq => absurd heq h

theorem Phase.grow {e : Exchange (Except Kube.Failure Bool)} {revisions' : List (Revision ι)}
    (h : Phase c revisions i sampled e) (hsub : revisions ⊆ revisions') :
    Phase c revisions' i sampled e := by
  cases h with
  | reading sent => exact .reading sent
  | writing sound write => exact .writing (sound.grow hsub) write
  | ended stored =>
    refine .ended fun heq => ?_
    obtain ⟨r, hr, hauthor⟩ := stored heq
    exact ⟨r, hsub hr, hauthor⟩

/-- An attempt starts with a read. -/
theorem phase_attempt (c : Contest ι) (revisions : List (Revision ι)) (i : ι) (sampled : Instant) :
    Phase c revisions i sampled ((c.candidate i).attempt sampled) := by
  rcases (c.candidate i).attempt_cases sampled with heq | ⟨request, sent, heq⟩
  · rw [heq]
    exact .of_ne nofun
  · rw [heq]
    exact .reading sent

/-- The answer to a read leads to a write or to the end, if the lease that it shows is
    a revision. -/
theorem phase_afterRead {reply : Option Reply}
    (hshown : ∀ lease, Candidate.found reply = .ok (some lease) →
      ∃ r ∈ revisions, ∃ old, Records c r old ∧ lease.spec = some old
        ∧ lease.metadata.resourceVersion = version? r.document
        ∧ (r.author = i → r.sampled ≤ sampled)) :
    Phase c revisions i sampled ((c.candidate i).afterRead sampled reply) := by
  rcases (c.candidate i).afterRead_cases sampled reply with
    ⟨result, hlost, heq⟩ | ⟨request, heq, hcreate | ⟨lease, hfound, may, hreplace⟩⟩
  · rw [heq]
    exact .of_ne hlost
  · rw [heq]
    refine .writing (.create hcreate) ?_
    rw [(parts_of_aimed? hcreate).1]
    decide
  · obtain ⟨r, mem, old, records, spec, version, own⟩ := hshown lease hfound
    rw [spec, Option.getD_some] at may
    rw [heq]
    refine .writing (.replace mem records spec version may own hreplace) ?_
    rw [(parts_of_aimed? hreplace).1]
    decide

/-- **The answer to a read moves an attempt on**: nothing is stored by a read, and
    what it shows is a revision. -/
theorem phase_answered
    (hstored : ∀ r ∈ revisions, (∃ s, Records c r s) ∧ ∃ v, version? r.document = some v)
    (hown : ∀ r ∈ revisions, r.author = i → r.sampled ≤ sampled) {request : Request}
    (hget : request.method = .get) {reply : Option Reply} {d : Option Json}
    (h : Handled (revisions.map (·.document)) request reply d) :
    d = none ∧ Phase c revisions i sampled ((c.candidate i).afterRead sampled reply) := by
  have hnot : ∀ body, ¬ Accepts (revisions.map (·.document)) request body := by
    rintro body ⟨-, haccepts⟩
    rw [hget] at haccepts
    exact haccepts
  cases h with
  | lost =>
    refine ⟨rfl, phase_afterRead fun lease hfound => ?_⟩
    obtain ⟨r, hr, -⟩ := answer_of_found hfound
    cases hr
  | refused failure =>
    refine ⟨rfl, phase_afterRead fun lease hfound => ?_⟩
    obtain ⟨r, hr, hsuccess, -⟩ := answer_of_found hfound
    cases hr
    rw [failure] at hsuccess
    cases hsuccess
  | read method mem success body =>
    obtain ⟨r, hmem, rfl⟩ := List.mem_map.1 mem
    obtain ⟨⟨old, hrecords⟩, hversion⟩ := hstored r hmem
    refine ⟨rfl, phase_afterRead fun lease hfound => ?_⟩
    obtain ⟨hspec, hread⟩ := lease_of_found hrecords.recordable hrecords.canonical hrecords.spec
      hversion body hfound
    exact ⟨r, hmem, old, hrecords, hspec, hread, hown r hmem⟩
  | unchanged accepts => exact absurd accepts (hnot _)
  | written accepts => exact absurd accepts (hnot _)

end

end Leadership

end LoggingOperator
