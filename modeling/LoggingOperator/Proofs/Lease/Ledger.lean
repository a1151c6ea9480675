/-
  LoggingOperator.Proofs.Lease.Ledger — ALL WRITES OF A LEASE.

  The candidates of a contest make attempts at one lease.  Here every attempt
  has a name of its own: whose it is, and a number.  Attempts may overlap, also
  those of one candidate, and each looks at a clock of its own, which may go
  back and counts nanoseconds.

  The ledger keeps the writes that took effect, the newest first, with the
  attempt that each belongs to.  The platform answers honestly (`Served`): a
  write that it refuses has no effect, a lease is created only if there is none,
  and it is replaced only under the version that is stored.  A request or its
  reply may still get lost, a read may give an older document, and a request
  that was given up may arrive later, more than once.

  Main definitions:
    * `Instant.truncated` — a time as a lease records it;
    * `Ledger`            — the writes, the attempts, and requests given up;
    * `Served`            — what the platform does with a request;
    * `Ledger.Step`, `Ledger.Reachable` — how the ledger comes about;
    * `changes`, `seat`   — how often the holder changed, and the write that made
      the present holder the holder.
-/
import LoggingOperator.Proofs.Lease.SingleLeader

namespace LoggingOperator

open Http (Exchange Reply Request)
open Json Json.Record

/-! ## §1. Times as they are recorded -/

namespace Instant

/-- The instant to the microsecond. -/
def truncated (t : Instant) : Instant where
  seconds := t.seconds
  nanos := t.nanos - t.nanos % 1000
  nanos_lt := by
    have h := t.nanos_lt
    omega

/-- What is cut off is not written. -/
@[simp] theorem microText_truncated (t : Instant) : t.truncated.microText = t.microText := by
  have hmicros : (t.nanos - t.nanos % 1000) % 1000000000 / 1000 = t.nanos % 1000000000 / 1000 := by
    omega
  have hleap : t.truncated.isLeap = t.isLeap := by
    refine decide_eq_decide.2 ?_
    simp only [truncated]
    omega
  rw [microText, microText, secondsText, secondsText, hleap]
  simp only [truncated, hmicros]

@[simp] theorem truncated_truncated (t : Instant) : t.truncated.truncated = t.truncated := by
  have hnanos : (t.nanos - t.nanos % 1000) % 1000 = 0 := by omega
  simp [truncated, hnanos]

end Instant

namespace LeaseSpec

/-- The spec as it is recorded. -/
def recorded (s : LeaseSpec) : LeaseSpec :=
  { s with
    acquireTime := s.acquireTime.map Instant.truncated
    renewTime := s.renewTime.map Instant.truncated }

/-- It is written alike. -/
theorem toJson_recorded (s : LeaseSpec) : s.recorded.toJson = s.toJson := by
  have htime : ∀ (k : String) (o : Option Instant),
      ifSome k Instant.toMicroJson (o.map Instant.truncated) = ifSome k Instant.toMicroJson o := by
    intro k o
    cases o with
    | none => rfl
    | some t => simp [ifSome, Instant.toMicroJson]
  simp only [toJson, recorded, htime]

end LeaseSpec

namespace Leadership

/-! ## §2. The ledger -/

/-- A write that took effect: the document that is stored since then, and the
    attempt that wrote it. -/
structure Entry (ι : Type) extends Revision ι where
  number : Nat

/-- A request of an attempt that looked at its clock at `sampled`. -/
structure Mail (ι : Type) where
  attempt : ι × Nat
  sampled : Instant
  request : Request

/-- What was written, the newest first, how far each attempt came that was started,
    and the requests that were given up. -/
structure Ledger (ι : Type) where
  entries : List (Entry ι) := []
  attempts : ι × Nat → Option Attempt := fun _ => none
  strays : List (Mail ι) := []

variable {ι : Type}

/-- The attempt that wrote an entry. -/
def Entry.attempt (e : Entry ι) : ι × Nat :=
  (e.author, e.number)

/-- The entry of a request that stored a document. -/
def Mail.entry (m : Mail ι) (d : Json) : Entry ι where
  document := d
  author := m.attempt.1
  sampled := m.sampled
  number := m.attempt.2

/-- The stored documents, the newest first. -/
def documents (entries : List (Entry ι)) : List Json :=
  entries.map (·.document)

/-- With the document, if a request stored one. -/
def enter (entries : List (Entry ι)) (m : Mail ι) : Option Json → List (Entry ι)
  | none => entries
  | some d => m.entry d :: entries

theorem suffix_enter (entries : List (Entry ι)) (m : Mail ι) (o : Option Json) :
    entries <:+ enter entries m o := by
  cases o with
  | none => exact List.suffix_refl _
  | some d => exact List.suffix_cons _ _

/-- What is entered belongs to the attempt that sent it. -/
theorem mem_or_of_mem_enter {entries : List (Entry ι)} {m : Mail ι} {o : Option Json} {e : Entry ι}
    (h : e ∈ enter entries m o) : e ∈ entries ∨ e.attempt = m.attempt := by
  cases o with
  | none => exact Or.inl h
  | some d =>
    rcases List.mem_cons.1 h with rfl | h
    · exact Or.inr rfl
    · exact Or.inl h

/-- What the platform does with a request about the lease: how it answers, and which
    document the lease is after a write that took effect.  No such write is
    answered by a failure. -/
inductive Served (stored : List Json) (request : Request) : Option Reply → Option Json → Prop
  | lost : Served stored request none none
  | refused {reply : Reply} (failure : reply.isFailure = true) :
    Served stored request (some reply) none
  /-- A read may give an older document. -/
  | read {reply : Reply} {d : Json} (method : request.method = .get) (mem : d ∈ stored)
    (success : reply.isFailure = false)
    (body : Document.ofText? reply.body = Document.ofText? d.text) :
    Served stored request (some reply) none
  /-- A write that changes nothing gives no new version. -/
  | unchanged {reply : Option Reply} {body newest : Json} (accepts : Accepts stored request body)
    (head : stored.head? = some newest) (same : body.get? "spec" = newest.get? "spec")
    (success : ∀ r, reply = some r → r.isFailure = false) :
    Served stored request reply (some newest)
  | written {reply : Option Reply} {body d : Json} (accepts : Accepts stored request body)
    (stores : Stores stored body d) (success : ∀ r, reply = some r → r.isFailure = false) :
    Served stored request reply (some d)

namespace Served

variable {stored : List Json} {request : Request} {reply : Option Reply} {d : Json}

/-- **What took effect was accepted.** -/
theorem effect (h : Served stored request reply (some d)) :
    ∃ body, Accepts stored request body ∧ d.get? "spec" = body.get? "spec"
      ∧ (Stores stored body d ∨ stored.head? = some d) := by
  cases h with
  | unchanged accepts head same => exact ⟨_, accepts, same.symm, Or.inr head⟩
  | written accepts stores => exact ⟨_, accepts, stores.spec, Or.inl stores⟩

/-- It is answered by no failure. -/
theorem success (h : Served stored request reply (some d)) :
    ∀ r, reply = some r → r.isFailure = false := by
  cases h with
  | unchanged _ _ _ success => exact success
  | written _ _ success => exact success

/-- A read has no effect. -/
theorem eq_none {o : Option Json} (h : Served stored request reply o)
    (hget : request.method = .get) : o = none := by
  cases o with
  | none => rfl
  | some d =>
    obtain ⟨body, ⟨-, haccepts⟩, -⟩ := h.effect
    rw [hget] at haccepts
    exact haccepts.elim

end Served

section

variable [DecidableEq ι]

namespace Ledger

/-- An attempt goes on. -/
def proceed (l : Ledger ι) (a : ι × Nat) (t : Attempt) : Ledger ι :=
  { l with attempts := Function.update l.attempts a (some t) }

/-- One step of the candidates or of the platform. -/
inductive Step (c : Contest ι) : Ledger ι → Ledger ι → Prop
  /-- A candidate looks at its clock, at any moment that can be written. -/
  | start {l : Ledger ι} {a : ι × Nat} {now : Instant} (new : l.attempts a = none)
    (dated : now.truncated.OnMicrosecond) :
    Step c l (l.proceed a ⟨now, (c.candidate a.1).attempt now⟩)
  /-- The platform serves a request, and the candidate learns of it or not. -/
  | answer {l : Ledger ι} {a : ι × Nat} {sampled : Instant} {request : Request}
    {next : Option Reply → Exchange (Except Kube.Failure Bool)} {reply : Option Reply}
    {d : Option Json} (asks : l.attempts a = some ⟨sampled, .send request next⟩)
    (served : Served (documents l.entries) request reply d) :
    Step c l { l.proceed a ⟨sampled, next reply⟩ with
      entries := enter l.entries ⟨a, sampled, request⟩ d }
  /-- A candidate gives up a request, which is still on its way. -/
  | giveUp {l : Ledger ι} {a : ι × Nat} {sampled : Instant} {request : Request}
    {next : Option Reply → Exchange (Except Kube.Failure Bool)}
    (asks : l.attempts a = some ⟨sampled, .send request next⟩) :
    Step c l { l.proceed a ⟨sampled, next none⟩ with
      strays := ⟨a, sampled, request⟩ :: l.strays }
  /-- A request arrives that was given up. -/
  | arrive {l : Ledger ι} {m : Mail ι} {reply : Option Reply} {d : Option Json}
    (mem : m ∈ l.strays) (served : Served (documents l.entries) m.request reply d) :
    Step c l { l with entries := enter l.entries m d }

/-- The ledgers that come about, from the time at which there is no lease. -/
inductive Reachable (c : Contest ι) : Ledger ι → Prop
  | start : Reachable c {}
  | step {l l' : Ledger ι} (h : Reachable c l) (hs : Step c l l') : Reachable c l'

end Ledger

/-! ## §3. Holders -/

/-- How often the holder changed, over entries with the newest first. -/
def changes : List (Entry ι) → Nat
  | new :: old :: older => changes (old :: older) + if new.author = old.author then 0 else 1
  | _ => 0

/-- The entry that made the author of `e` the holder, given the older ones. -/
def seat (e : Entry ι) : List (Entry ι) → Entry ι
  | [] => e
  | old :: older => if e.author = old.author then seat old older else e

/-- **Since its seat the holder only renewed**, and somebody else held the lease
    before, or nobody. -/
theorem exists_seat (e : Entry ι) (older : List (Entry ι)) :
    ∃ renewals before, e :: older = renewals ++ seat e older :: before
      ∧ (∀ r ∈ renewals, r.author = e.author) ∧ (seat e older).author = e.author
      ∧ ∀ old, before.head? = some old → old.author ≠ e.author := by
  induction older generalizing e with
  | nil => exact ⟨[], [], rfl, nofun, rfl, nofun⟩
  | cons old older ih =>
    by_cases hsame : e.author = old.author
    · obtain ⟨renewals, before, heq, hrenewals, hseat, hbefore⟩ := ih old
      rw [seat, if_pos hsame, hsame]
      refine ⟨e :: renewals, before, congrArg (e :: ·) heq, ?_, hseat, hbefore⟩
      exact List.forall_mem_cons.2 ⟨hsame, hrenewals⟩
    · rw [seat, if_neg hsame]
      refine ⟨[], old :: older, rfl, nofun, rfl, fun old' hold => ?_⟩
      obtain rfl := Option.some.inj hold
      exact Ne.symm hsame

theorem seat_mem (e : Entry ι) (older : List (Entry ι)) : seat e older ∈ e :: older := by
  obtain ⟨renewals, before, heq, -⟩ := exists_seat e older
  rw [heq]
  exact List.mem_append_right _ List.mem_cons_self

/-- What the lease should say after a write, given the older ones. -/
def Contest.booked (c : Contest ι) (e : Entry ι) (older : List (Entry ι)) : LeaseSpec where
  holder := some (c.identity e.author)
  durationSeconds := some (c.candidate e.author).writtenDuration
  acquireTime := some (seat e older).sampled.truncated
  renewTime := some e.sampled.truncated
  transitions := some (Int32.ofNat (changes (e :: older)))

/-- **The first spec says what it should.** -/
theorem recorded_first (c : Contest ι) (e : Entry ι) :
    ((c.candidate e.author).first e.sampled).recorded = c.booked e [] := rfl

/-- **The next spec says what it should**, if the one before does. -/
theorem recorded_next (c : Contest ι) (e old : Entry ι) (older : List (Entry ι)) :
    ((c.candidate e.author).next (c.booked old older) e.sampled).recorded
      = c.booked e (old :: older) := by
  have hholds : (c.candidate e.author).holds (c.booked old older) = true ↔ e.author = old.author := by
    rw [Candidate.holds, Contest.booked, beq_iff_eq, Option.some.injEq]
    exact c.distinct.eq_iff.trans eq_comm
  by_cases hsame : e.author = old.author
  · have hours := hholds.2 hsame
    simp only [Candidate.next, hours, if_true]
    simp only [LeaseSpec.recorded, Contest.booked, seat, changes, if_pos hsame, Option.map_some,
      Instant.truncated_truncated, Option.getD_some, Nat.add_zero]
    rfl
  · have hother := Bool.eq_false_iff.2 (mt hholds.1 hsame)
    have hcount : Int32.ofNat (changes (old :: older)) + 1
        = Int32.ofNat (changes (old :: older) + 1) := (Int32.ofNat_add _ _).symm
    simp only [Candidate.next, hother, Bool.false_eq_true, if_false]
    simp only [LeaseSpec.recorded, Contest.booked, seat, changes, if_neg hsame, Option.map_some,
      Option.getD_some, hcount]
    rfl

end

end Leadership

end LoggingOperator
