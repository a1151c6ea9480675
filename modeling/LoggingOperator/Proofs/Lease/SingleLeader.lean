/-
  LoggingOperator.Proofs.Lease.SingleLeader — AT MOST ONE HOLDS THE LEASE.

  An attempt that ends well makes its candidate the leader until the duration
  that it wrote has passed since it looked at the clock, that last moment
  included.  Whoever takes the lease from another looked at the clock later than
  that, or could not have replaced what it read: so two candidates are never
  leaders at one time (`single_leader`).

  The argument is about the stored revisions alone.  Each may follow each older
  one (`Follows`): by the same candidate, which looked at the clock no earlier,
  or after the last moment of the older one.  A write is accepted only under the
  version of the newest revision, so it is the newest that was read, and
  following is transitive.  An attempt looked at the clock before it read, so
  what is needed besides is that no revision of a candidate is ahead of the
  attempt that it is at (`UnderWay`).
-/
import LoggingOperator.Proofs.Lease.Attempts
import Mathlib.Data.List.Pairwise

namespace LoggingOperator.Leadership

open Http (Exchange Reply Request)
open Json

variable {ι : Type}

/-! ## §1. One revision after another -/

section

variable {c : Contest ι}

theorem writtenDuration_nonneg (c : Candidate) : 0 ≤ c.writtenDuration.toInt := by
  have hlt : min c.duration 2147483647 < 2 ^ 31 := by omega
  rw [Candidate.writtenDuration, Int32.toInt_ofNat_of_lt hlt]
  omega

/-- A revision that may come after an older one. -/
def Follows (c : Contest ι) (old new : Revision ι) : Prop :=
  old.author = new.author ∧ old.sampled ≤ new.sampled
    ∨ c.goodUntil old.author old.sampled < new.sampled

/-- A lease is good for some time. -/
theorem le_goodUntil {i : ι} {t : Instant} (h : t.OnMicrosecond) : t ≤ c.goodUntil i t := by
  have hnonneg := writtenDuration_nonneg (c.candidate i)
  rw [Contest.goodUntil, Instant.le_iff, Instant.rank_addSeconds h]
  omega

/-- A lease that is renewed later is good for longer. -/
theorem goodUntil_le {i : ι} {t t' : Instant} (h : t.OnMicrosecond) (h' : t'.OnMicrosecond)
    (hle : t ≤ t') : c.goodUntil i t ≤ c.goodUntil i t' := by
  rw [Contest.goodUntil, Contest.goodUntil, Instant.le_iff, Instant.rank_addSeconds h,
    Instant.rank_addSeconds h']
  rw [Instant.le_iff] at hle
  omega

/-- Following is transitive. -/
theorem Follows.trans {a b d : Revision ι} (ha : a.sampled.OnMicrosecond)
    (hb : b.sampled.OnMicrosecond) (hab : Follows c a b) (hbd : Follows c b d) : Follows c a d := by
  have hgood : b.sampled ≤ c.goodUntil b.author b.sampled := le_goodUntil hb
  rcases hab with ⟨hauthor, hle⟩ | hlt
  · have hgood' : c.goodUntil a.author a.sampled ≤ c.goodUntil b.author b.sampled := by
      rw [hauthor]
      exact goodUntil_le ha hb hle
    rcases hbd with ⟨hauthor', hle'⟩ | hlt'
    · exact Or.inl ⟨hauthor.trans hauthor', Int.le_trans hle hle'⟩
    · exact Or.inr (Int.lt_of_le_of_lt hgood' hlt')
  · rcases hbd with ⟨-, hle'⟩ | hlt'
    · exact Or.inr (Int.lt_of_lt_of_le hlt hle')
    · exact Or.inr (Int.lt_trans hlt (Int.lt_of_le_of_lt hgood hlt'))

end

/-! ## §2. The stored revisions -/

/-- What is stored at a time: each revision is what its author wrote, no two have
    one version, and each may follow each older one. -/
structure Log (c : Contest ι) (clock : Instant) (revisions : List (Revision ι)) : Prop where
  records : ∀ r ∈ revisions, (∃ s, Records c r s) ∧ ∃ v, version? r.document = some v
  whole : ∀ r ∈ revisions, r.sampled.OnMicrosecond
  past : ∀ r ∈ revisions, r.sampled ≤ clock
  distinct : revisions.Pairwise fun new old => version? old.document ≠ version? new.document
  follows : revisions.Pairwise fun new old => Follows c old new

namespace Log

variable {c : Contest ι} {clock sampled : Instant} {revisions : List (Revision ι)} {i : ι}
  {request : Request}

theorem empty (c : Contest ι) (clock : Instant) : Log c clock [] where
  records := nofun
  whole := nofun
  past := nofun
  distinct := .nil
  follows := .nil

theorem later {clock' : Instant} (h : Log c clock revisions) (hle : clock ≤ clock') :
    Log c clock' revisions where
  records := h.records
  whole := h.whole
  past r hr := Int.le_trans (h.past r hr) hle
  distinct := h.distinct
  follows := h.follows

/-- The revision that an accepted write replaces is the newest. -/
theorem newest_of_accepts (h : Log c clock revisions) {body : Json} {r : Revision ι}
    (hr : r ∈ revisions) (hmethod : request.method = .put)
    (hversion : version? body = version? r.document)
    (ha : Accepts (revisions.map (·.document)) request body) :
    ∃ older, revisions = r :: older := by
  obtain ⟨-, haccepts⟩ := ha
  rw [hmethod] at haccepts
  obtain ⟨-, v, hv⟩ := h.records r hr
  cases revisions with
  | nil => cases hr
  | cons newest older =>
    have hnewest : version? r.document = version? newest.document := by
      rcases haccepts newest.document rfl with hnone | hsame
      · rw [hversion, hv] at hnone
        cases hnone
      · exact hversion.symm.trans hsame
    rcases List.mem_cons.1 hr with rfl | hr
    · exact ⟨older, rfl⟩
    · exact absurd hnewest ((List.pairwise_cons.1 h.distinct).1 r hr)

/-- What an accepted write records, and that it may follow all that is stored. -/
theorem spec_of_accepts (h : Log c clock revisions) (hs : Sound c revisions i sampled request)
    (hwhole : sampled.OnMicrosecond) {body : Json}
    (ha : Accepts (revisions.map (·.document)) request body) :
    ∃ new : LeaseSpec, body.get? "spec" = some new.toJson ∧ new.Recordable
      ∧ new.holder = some (c.identity i)
      ∧ new.durationSeconds = some (c.candidate i).writtenDuration
      ∧ new.renewTime = some sampled
      ∧ ∀ d, ∀ r ∈ revisions, Follows c r ⟨d, i, sampled⟩ := by
  obtain ⟨new, hnew, ⟨hempty, rfl⟩ | ⟨r, hr, old, hrecords, rfl, hversion, hmethod, hmay, hown⟩⟩ :=
    hs.spec_of_accepts ha
  · refine ⟨_, hnew, recordable_first _ hwhole, rfl, rfl, rfl, fun d r hr => ?_⟩
    rw [List.map_eq_nil_iff.1 hempty] at hr
    cases hr
  · refine ⟨_, hnew, hrecords.recordable_next hwhole, rfl, rfl, rfl, fun d r' hr' => ?_⟩
    have hfollows : Follows c r ⟨d, i, sampled⟩ := by
      rcases hrecords.mayTake_iff.1 hmay with hauthor | hexpired
      · exact Or.inl ⟨hauthor, hown hauthor⟩
      · exact Or.inr hexpired
    obtain ⟨older, rfl⟩ := h.newest_of_accepts hr hmethod hversion ha
    rcases List.mem_cons.1 hr' with rfl | hr'
    · exact hfollows
    · have hr'' := List.mem_cons_of_mem r hr'
      have hbefore : Follows c r' r := (List.pairwise_cons.1 h.follows).1 r' hr'
      exact hbefore.trans (h.whole r' hr'') (h.whole r hr) hfollows

/-- **A write that is accepted goes on with the log.** -/
theorem written (h : Log c clock revisions) (hs : Sound c revisions i sampled request)
    (hwhole : sampled.OnMicrosecond) (hle : sampled ≤ clock) {body d : Json}
    (ha : Accepts (revisions.map (·.document)) request body)
    (hstores : Stores (revisions.map (·.document)) body d) :
    Log c clock (⟨d, i, sampled⟩ :: revisions) := by
  obtain ⟨new, hnew, hrecordable, hholder, hduration, hrenewed, hfollows⟩ :=
    h.spec_of_accepts hs hwhole ha
  have hrecords : Records c ⟨d, i, sampled⟩ new :=
    ⟨hstores.canonical, hstores.spec.trans hnew, hrecordable, hholder, hduration, hrenewed⟩
  refine ⟨?_, ?_, ?_, ?_, ?_⟩
  · exact List.forall_mem_cons.2 ⟨⟨⟨new, hrecords⟩, hstores.version⟩, h.records⟩
  · exact List.forall_mem_cons.2 ⟨hwhole, h.whole⟩
  · exact List.forall_mem_cons.2 ⟨hle, h.past⟩
  · exact List.pairwise_cons.2
      ⟨fun r hr => hstores.fresh r.document (List.mem_map_of_mem hr), h.distinct⟩
  · exact List.pairwise_cons.2 ⟨hfollows d, h.follows⟩

/-- **A write that got through is stored**: as a new revision, or because the newest
    one says the same. -/
theorem stored_of_written (h : Log c clock revisions) (hs : Sound c revisions i sampled request)
    (hwhole : sampled.OnMicrosecond) (hwrite : request.method ≠ .get) {reply : Option Reply}
    {d : Option Json} (hd : Handled (revisions.map (·.document)) request reply d)
    (hreply : Candidate.written reply = .ok true) :
    (∃ document, d = some document) ∨ ∃ r ∈ revisions, r.author = i ∧ r.sampled = sampled := by
  obtain ⟨r, rfl, hsuccess⟩ := reply_of_written hreply
  cases hd with
  | refused failure =>
    rw [failure] at hsuccess
    cases hsuccess
  | read method => exact absurd method hwrite
  | written => exact Or.inl ⟨_, rfl⟩
  | @unchanged _ body newest accepts head same =>
    obtain ⟨new, hnew, hrecordable, hholder, -, hrenewed, -⟩ := h.spec_of_accepts hs hwhole accepts
    obtain ⟨first, hfirst, rfl⟩ : ∃ first ∈ revisions, first.document = newest := by
      cases revisions with
      | nil => cases head
      | cons first older => exact ⟨first, List.mem_cons_self, Option.some.inj head⟩
    obtain ⟨⟨s, hrecords⟩, -⟩ := h.records first hfirst
    -- The newest revision records the same spec, so its author and time are the same.
    rw [hnew, hrecords.spec] at same
    have heq : new = s :=
      LeaseSpec.eq_of_toJson_eq hrecordable hrecords.recordable (Option.some.inj same)
    rw [heq] at hholder hrenewed
    refine Or.inr ⟨first, hfirst, ?_, ?_⟩
    · exact c.distinct (Option.some.inj (hrecords.holder.symm.trans hholder))
    · exact Option.some.inj (hrecords.renewed.symm.trans hrenewed)

end Log

/-! ## §3. The invariant of a contest -/

/-- An attempt that is under way: it looked at the clock after all that its
    candidate wrote before, or may still write. -/
structure UnderWay (c : Contest ι) (clock : Instant) (revisions : List (Revision ι))
    (strays : List (Stray ι)) (i : ι) (a : Attempt) : Prop where
  whole : a.sampled.OnMicrosecond
  past : a.sampled ≤ clock
  own : ∀ r ∈ revisions, r.author = i → r.sampled ≤ a.sampled
  strays : ∀ m ∈ strays, m.author = i → m.sampled ≤ a.sampled
  phase : Phase c revisions i a.sampled a.rest

/-- A request that a candidate sent. -/
structure Sent (c : Contest ι) (clock : Instant) (revisions : List (Revision ι)) (m : Stray ι) :
    Prop where
  whole : m.sampled.OnMicrosecond
  past : m.sampled ≤ clock
  sound : Sound c revisions m.author m.sampled m.request

/-- What an attempt left behind that ended well. -/
structure Kept (revisions : List (Revision ι)) (w : Win ι) : Prop where
  past : w.sampled ≤ w.completed
  stored : ∃ r ∈ revisions, r.author = w.winner ∧ r.sampled = w.sampled

/-- What holds in every state of a contest. -/
structure Inv (c : Contest ι) (s : State ι) : Prop where
  whole : s.clock.OnMicrosecond
  log : Log c s.clock s.revisions
  running : ∀ i a, s.running i = some a → UnderWay c s.clock s.revisions s.strays i a
  strays : ∀ m ∈ s.strays, Sent c s.clock s.revisions m
  wins : ∀ w ∈ s.wins, Kept s.revisions w

namespace Inv

variable {c : Contest ι} {s : State ι}

theorem start {clock : Instant} (h : clock.OnMicrosecond) : Inv c { clock } where
  whole := h
  log := .empty c clock
  running := nofun
  strays m hm := by cases hm
  wins w hw := by cases hw

/-- Time passes. -/
theorem tick (h : Inv c s) {later : Instant} (hle : s.clock ≤ later)
    (hwhole : later.OnMicrosecond) : Inv c { s with clock := later } where
  whole := hwhole
  log := h.log.later hle
  running i a ha :=
    have hi := h.running i a ha
    { hi with past := Int.le_trans hi.past hle }
  strays m hm :=
    have hi := h.strays m hm
    { hi with past := Int.le_trans hi.past hle }
  wins := h.wins

/-- A request is handled.  Its candidate is at the attempt that sent it, or at a
    later one, or at none. -/
theorem store (h : Inv c s) {m : Stray ι} (hm : Sent c s.clock s.revisions m)
    (hrunning : ∀ a, s.running m.author = some a → m.sampled ≤ a.sampled) {reply : Option Reply}
    {d : Option Json} (hd : Handled s.documents m.request reply d) :
    Inv c (s.store m.author m.sampled d) := by
  cases hd with
  | lost | refused | read | unchanged => exact h
  | @written _ body d accepts stores =>
    have hsub : s.revisions ⊆ ⟨d, m.author, m.sampled⟩ :: s.revisions := List.subset_cons_self _ _
    refine ⟨h.whole, h.log.written hm.sound hm.whole hm.past accepts stores, ?_, ?_, ?_⟩
    · intro i a ha
      have hi := h.running i a ha
      refine ⟨hi.whole, hi.past, List.forall_mem_cons.2 ⟨?_, hi.own⟩, hi.strays, hi.phase.grow hsub⟩
      rintro rfl
      exact hrunning a ha
    · intro m' hm'
      have hi := h.strays m' hm'
      exact ⟨hi.whole, hi.past, hi.sound.grow hsub⟩
    · intro w hw
      obtain ⟨r, hr, hw'⟩ := (h.wins w hw).stored
      exact ⟨(h.wins w hw).past, r, hsub hr, hw'⟩

/-- A request is given up. -/
theorem giveUp (h : Inv c s) {m : Stray ι} (hm : Sent c s.clock s.revisions m)
    (hrunning : ∀ a, s.running m.author = some a → m.sampled ≤ a.sampled) :
    Inv c { s with strays := m :: s.strays } := by
  refine ⟨h.whole, h.log, fun i a ha => ?_, List.forall_mem_cons.2 ⟨hm, h.strays⟩, h.wins⟩
  have hi := h.running i a ha
  refine ⟨hi.whole, hi.past, hi.own, List.forall_mem_cons.2 ⟨?_, hi.strays⟩, hi.phase⟩
  rintro rfl
  exact hrunning a ha

/-- What a running attempt asks for, it has sent. -/
theorem sent (h : Inv c s) {i : ι} {sampled : Instant} {request : Request}
    {next : Option Reply → Exchange (Except Kube.Failure Bool)}
    (hasks : s.running i = some ⟨sampled, .send request next⟩) :
    Sent c s.clock s.revisions ⟨i, sampled, request⟩ := by
  have hi := h.running i _ hasks
  have hphase : Phase c s.revisions i sampled (.send request next) := hi.phase
  refine ⟨hi.whole, hi.past, ?_⟩
  cases hphase with
  | reading sent => exact .read sent
  | writing sound => exact sound

section

variable [DecidableEq ι]

/-- An attempt starts, goes on or ends. -/
theorem proceed (h : Inv c s) {i : ι} {attempt : Option Attempt}
    (hi : ∀ a, attempt = some a → UnderWay c s.clock s.revisions s.strays i a) :
    Inv c (s.proceed i attempt) := by
  refine ⟨h.whole, h.log, fun j a ha => ?_, h.strays, h.wins⟩
  by_cases hji : j = i
  · subst hji
    exact hi a (by simpa [State.proceed] using ha)
  · exact h.running j a (by simpa [State.proceed, hji] using ha)

/-- An attempt goes on after its request was handled. -/
theorem answered (h : Inv c s) {i : ι} {sampled : Instant} {request : Request}
    {next : Option Reply → Exchange (Except Kube.Failure Bool)}
    (hasks : s.running i = some ⟨sampled, .send request next⟩)
    {reply : Option Reply} {d : Option Json} (hd : Handled s.documents request reply d) :
    Inv c ((s.store i sampled d).proceed i (some ⟨sampled, next reply⟩)) := by
  have hi := h.running i _ hasks
  have hstore : Inv c (s.store i sampled d) := by
    refine h.store (h.sent hasks) (fun a ha => ?_) hd
    rw [show s.running i = some a from ha] at hasks
    cases hasks
    exact Int.le_refl _
  have hi' := hstore.running i ⟨sampled, .send request next⟩ (by cases d <;> exact hasks)
  refine hstore.proceed fun a ha => ?_
  cases ha
  refine ⟨hi'.whole, hi'.past, hi'.own, hi'.strays, ?_⟩
  have hphase : Phase c s.revisions i sampled (.send request next) := hi.phase
  show Phase c (s.store i sampled d).revisions i sampled (next reply)
  cases hphase with
  | reading sent =>
    obtain ⟨rfl, hphase⟩ := phase_answered h.log.records hi.own (parts_of_aimed? sent).1 hd
    exact hphase
  | writing sound write =>
    refine .ended fun hreply => ?_
    rcases h.log.stored_of_written sound hi.whole write hd hreply with
      ⟨document, rfl⟩ | ⟨r, hr, heq⟩
    · exact ⟨_, List.mem_cons_self, rfl, rfl⟩
    · cases d with
      | none => exact ⟨r, hr, heq⟩
      | some document => exact ⟨r, List.mem_cons_of_mem _ hr, heq⟩

/-- **Every step keeps the invariant.** -/
theorem step {s' : State ι} (h : Inv c s) (hs : Step c s s') : Inv c s' := by
  cases hs with
  | tick le whole => exact h.tick le whole
  | @start i idle =>
    refine h.proceed fun a ha => ?_
    cases ha
    refine ⟨h.whole, Int.le_refl _, fun r hr _ => h.log.past r hr,
      fun m hm _ => (h.strays m hm).past, ?_⟩
    dsimp only
    exact phase_attempt c s.revisions i s.clock
  | answer asks handled => exact h.answered asks handled
  | @giveUp i sampled request next asks =>
    -- To the candidate it is as if the request had been lost.
    refine (h.answered asks .lost).giveUp (m := ⟨i, sampled, request⟩) (h.sent asks) fun a ha => ?_
    have ha' : some (⟨sampled, next none⟩ : Attempt) = some a := by
      simpa [State.proceed, State.store] using ha
    cases ha'
    exact Int.le_refl _
  | @arrive m reply d mem handled =>
    exact h.store (h.strays m mem) (fun a ha => (h.running m.author a ha).strays m mem rfl) handled
  | @win i sampled won =>
    have hi := h.running i _ won
    have hphase : Phase c s.revisions i sampled (.done (.ok true)) := hi.phase
    have hnext : Inv c (s.proceed i none) := h.proceed nofun
    refine ⟨h.whole, h.log, hnext.running, h.strays, List.forall_mem_cons.2 ⟨⟨hi.past, ?_⟩, h.wins⟩⟩
    cases hphase with
    | ended stored => exact stored rfl
  | stop ended lost => exact h.proceed nofun

end

end Inv

/-- **It holds in every state that a contest can come to.** -/
theorem inv_of_reachable [DecidableEq ι] {c : Contest ι} {s : State ι} (h : Reachable c s) :
    Inv c s := by
  induction h with
  | start whole => exact .start whole
  | step _ hs ih => exact ih.step hs

/-! ## §4. At most one leader -/

section

variable {c : Contest ι} {s : State ι}

/-- The spec in a stored document. -/
def Revision.spec? (r : Revision ι) : Option LeaseSpec :=
  (r.document.get? "spec").bind LeaseSpec.ofJson?

theorem Records.spec?_eq {r : Revision ι} {spec : LeaseSpec} (h : Records c r spec) :
    r.spec? = some spec := by
  rw [Revision.spec?, h.spec, Option.bind_some]
  exact LeaseSpec.ofJson?_of_shown spec.shown_toJson h.recordable

variable [DecidableEq ι]

/-- Of two candidates that won, the lease of one ended before the other looked at
    the clock. -/
theorem apart_of_wins (h : Reachable c s) {w w' : Win ι} (hw : w ∈ s.wins) (hw' : w' ∈ s.wins)
    (hne : w.winner ≠ w'.winner) :
    c.goodUntil w.winner w.sampled < w'.sampled ∨ c.goodUntil w'.winner w'.sampled < w.sampled := by
  have hinv := inv_of_reachable h
  obtain ⟨r, hr, hauthor, hsampled⟩ := (hinv.wins w hw).stored
  obtain ⟨r', hr', hauthor', hsampled'⟩ := (hinv.wins w' hw').stored
  rw [← hauthor, ← hauthor'] at hne
  have hpair : Follows c r r' ∨ Follows c r' r := by
    let Either (new old : Revision ι) : Prop := Follows c old new ∨ Follows c new old
    have hsymm : Std.Symm Either := ⟨fun _ _ => Or.symm⟩
    have heither : s.revisions.Pairwise Either := hinv.log.follows.imp Or.inl
    exact heither.forall hr' hr fun heq => hne (congrArg _ heq.symm)
  rw [← hauthor, ← hauthor', ← hsampled, ← hsampled']
  rcases hpair with (⟨hsame, -⟩ | hlt) | (⟨hsame, -⟩ | hlt)
  · exact absurd hsame hne
  · exact Or.inl hlt
  · exact absurd hsame.symm hne
  · exact Or.inr hlt

/-- **At most one holds the lease.**  At no time have two candidates come to the end
    of attempts that made them leaders until then or longer.  And where the holder
    that is recorded changes, the recorded time of the old one, with the recorded
    duration, ended before the new one looked at the clock. -/
theorem single_leader (h : Reachable c s) :
    (∀ w ∈ s.wins, ∀ w' ∈ s.wins, w.winner ≠ w'.winner → ∀ now, w.completed ≤ now →
        w'.completed ≤ now →
        ¬ (now ≤ c.goodUntil w.winner w.sampled ∧ now ≤ c.goodUntil w'.winner w'.sampled))
      ∧ ∀ newer new old older, s.revisions = newer ++ new :: old :: older →
        ∃ recorded recorded', old.spec? = some recorded ∧ new.spec? = some recorded'
          ∧ recorded'.holder = some (c.identity new.author)
          ∧ recorded'.renewTime = some new.sampled
          ∧ (recorded.holder ≠ recorded'.holder → ∃ renewed duration,
              recorded.renewTime = some renewed ∧ recorded.durationSeconds = some duration
                ∧ renewed.addSeconds duration.toInt < new.sampled) := by
  have hinv := inv_of_reachable h
  refine ⟨?_, ?_⟩
  · rintro w hw w' hw' hne now hcompleted hcompleted' ⟨hnow, hnow'⟩
    have hpast := (hinv.wins w hw).past
    have hpast' := (hinv.wins w' hw').past
    rcases apart_of_wins h hw hw' hne with hlt | hlt
    · simp only [Instant.le_iff, Instant.lt_iff] at *
      omega
    · simp only [Instant.le_iff, Instant.lt_iff] at *
      omega
  · intro newer new old older heq
    have hnew : new ∈ s.revisions := by simp [heq]
    have hold : old ∈ s.revisions := by simp [heq]
    obtain ⟨⟨recorded, hrecords⟩, -⟩ := hinv.log.records old hold
    obtain ⟨⟨recorded', hrecords'⟩, -⟩ := hinv.log.records new hnew
    refine ⟨recorded, recorded', hrecords.spec?_eq, hrecords'.spec?_eq, hrecords'.holder,
      hrecords'.renewed, fun hholder => ⟨_, _, hrecords.renewed, hrecords.duration, ?_⟩⟩
    have hfollows : Follows c old new := by
      have hpairs := hinv.log.follows
      rw [heq] at hpairs
      exact (List.pairwise_cons.1 (List.pairwise_append.1 hpairs).2.1).1 old List.mem_cons_self
    rcases hfollows with ⟨hsame, -⟩ | hlt
    · refine absurd ?_ hholder
      rw [hrecords.holder, hrecords'.holder, hsame]
    · exact hlt

end

/-! ## §5. A lease that changes hands -/

section

variable [DecidableEq ι] {c : Contest ι} {s : State ι}

/-- An attempt that gets through while nothing else happens. -/
theorem Reachable.turn (h : Reachable c s) {i : ι} (hidle : s.running i = none)
    {read write : Request} (hread : (c.candidate i).readRequest = some read)
    {shown reply : Option Reply} (hshown : Handled s.documents read shown none)
    (hnext : (c.candidate i).afterRead s.clock shown
      = .send write fun reply => .done (Candidate.written reply))
    {d : Json} (hwrite : Handled s.documents write reply (some d))
    (hwritten : Candidate.written reply = .ok true) :
    Reachable c { s with
      revisions := ⟨d, i, s.clock⟩ :: s.revisions
      wins := ⟨i, s.clock, s.clock⟩ :: s.wins } := by
  let started := s.proceed i (some ⟨s.clock, (c.candidate i).attempt s.clock⟩)
  have hasks : started.running i
      = some ⟨s.clock, .send read ((c.candidate i).afterRead s.clock)⟩ := by
    have hattempt : (c.candidate i).attempt s.clock
        = .send read ((c.candidate i).afterRead s.clock) := by
      rw [Candidate.attempt, hread]
      rfl
    simp [started, State.proceed, hattempt]
  let informed := started.proceed i (some ⟨s.clock, (c.candidate i).afterRead s.clock shown⟩)
  have hwrites : informed.running i
      = some ⟨s.clock, .send write fun reply => .done (Candidate.written reply)⟩ := by
    simp [informed, State.proceed, hnext]
  let answered := (informed.store i s.clock (some d)).proceed i
    (some ⟨s.clock, .done (Candidate.written reply)⟩)
  have hwon : answered.running i = some ⟨s.clock, .done (.ok true)⟩ := by
    simp [answered, State.proceed, hwritten]
  have hinformed : Reachable c informed := (h.step (.start hidle)).step (.answer hasks hshown)
  have hwin := (hinformed.step (.answer hwrites hwrite)).step (.win hwon)
  -- Nothing is left of the attempt that was under way.
  simp only [started, informed, State.proceed, State.store, Function.update_idem] at hwin
  rwa [Function.update_eq_self_iff.2 hidle.symm] at hwin

end

/-- Two candidates for one lease. -/
def rivals : Contest Bool where
  ns := "logging"
  name := "operator"
  identity i := if i then "second" else "first"
  duration _ := 15
  distinct := by
    intro i j
    cases i <;> cases j <;> decide

/-- When the first of the two takes the lease. -/
def taken : Instant where
  seconds := 1735689600
  nanos := 250000000

/-- The first microsecond after the last moment of that lease. -/
def lapsed : Instant where
  seconds := 1735689615
  nanos := 250001000

/-- What the first of the two writes. -/
def takenSpec : LeaseSpec :=
  (rivals.candidate false).first taken

/-- What the second makes of it once it has run out. -/
def lapsedSpec : LeaseSpec :=
  (rivals.candidate true).next takenSpec lapsed

/-- A lease with this spec. -/
def leaseOf (version : Option String) (spec : LeaseSpec) : Lease where
  metadata := { name := some rivals.name, resourceVersion := version }
  spec := some spec

/-- The reply with a lease. -/
def leaseReply (lease : Lease) : Reply where
  status := 200
  body := lease.toJson.text

/-- The reply that there is no lease. -/
def notFound : Reply where
  status := 404
  body := "\x7b\"status\":\"Failure\",\"reason\":\"NotFound\",\"code\":404\x7d"

/-- A lease that is read back from its text is the answer of that reply. -/
theorem answer_leaseReply {lease : Lease}
    (h : (document? lease.toJson).bind Lease.ofDocument? = some lease) :
    Kube.answer Lease.ofDocument? (some (leaseReply lease)) = .ok lease := by
  have hsuccess : (leaseReply lease).isFailure = false := rfl
  have hread : (Document.ofText? (leaseReply lease).body).bind Lease.ofDocument? = some lease := by
    rw [leaseReply, ofText?_text, h]
  simp only [Kube.answer, hsuccess, hread, Bool.false_eq_true, if_false]

/-- After each of the two took the lease, one after the other. -/
def takeover : State Bool where
  clock := lapsed
  revisions := [⟨(leaseOf (some "2") lapsedSpec).toJson, true, lapsed⟩,
    ⟨(leaseOf (some "1") takenSpec).toJson, false, taken⟩]
  wins := [⟨true, lapsed, lapsed⟩, ⟨false, taken, taken⟩]

/-- A lease is stored under a new version. -/
theorem stores_leaseOf {stored : List Json} {body : Json} {version : String} {spec : LeaseSpec}
    (hspec : body.get? "spec" = some spec.toJson)
    (hfresh : ∀ older ∈ stored, version? older ≠ some version) :
    Stores stored body (leaseOf (some version) spec).toJson := by
  have hversion : version? (leaseOf (some version) spec).toJson = some version :=
    Lease.version_toJson _
  refine ⟨Lease.canonical_toJson rfl, (Lease.spec_toJson rfl).trans hspec.symm, ⟨_, hversion⟩, ?_⟩
  rwa [hversion]

/-- What each of the two asks for first. -/
def readLease : Request where
  method := .get
  target := "/apis/coordination.k8s.io/v1/namespaces/logging/leases/operator"

theorem readRequest_rivals (i : Bool) : (rivals.candidate i).readRequest = some readLease := by
  cases i <;> decide +kernel

/-- What the first of the two sends to create the lease. -/
def createLease : Request where
  method := .post
  target := "/apis/coordination.k8s.io/v1/namespaces/logging/leases?"
  body := some (leaseOf none takenSpec).toJson

/-- What the second sends to replace it. -/
def replaceLease : Request where
  method := .put
  target := "/apis/coordination.k8s.io/v1/namespaces/logging/leases/operator?"
  body := some (leaseOf (some "1") lapsedSpec).toJson

/-- The lease that the first has created is read back. -/
theorem answer_taken : Kube.answer Lease.ofDocument?
    (some (leaseReply (leaseOf (some "1") takenSpec))) = .ok (leaseOf (some "1") takenSpec) :=
  answer_leaseReply (by decide +kernel)

/-- And so is the lease that the second has replaced. -/
theorem answer_lapsed : Kube.answer Lease.ofDocument?
    (some (leaseReply (leaseOf (some "2") lapsedSpec))) = .ok (leaseOf (some "2") lapsedSpec) :=
  answer_leaseReply (by decide +kernel)

theorem afterRead_notFound : (rivals.candidate false).afterRead taken (some notFound)
    = .send createLease fun reply => .done (Candidate.written reply) := by
  rw [Candidate.afterRead, show Candidate.found (some notFound) = .ok none by decide +kernel]
  rfl

theorem afterRead_taken : (rivals.candidate true).afterRead lapsed
      (some (leaseReply (leaseOf (some "1") takenSpec)))
    = .send replaceLease fun reply => .done (Candidate.written reply) := by
  rw [Candidate.afterRead, Candidate.found, answer_taken]
  rfl

theorem stores_taken :
    Stores [] (leaseOf none takenSpec).toJson (leaseOf (some "1") takenSpec).toJson :=
  stores_leaseOf (Lease.spec_toJson rfl) (List.forall_mem_nil _)

theorem stores_lapsed : Stores [(leaseOf (some "1") takenSpec).toJson]
    (leaseOf (some "1") lapsedSpec).toJson (leaseOf (some "2") lapsedSpec).toJson := by
  refine stores_leaseOf (Lease.spec_toJson rfl) fun older hmem => ?_
  obtain rfl := List.mem_singleton.1 hmem
  rw [version?, Lease.version_toJson]
  decide

/-- The second one writes under the version that is stored. -/
theorem accepts_lapsed : Accepts [(leaseOf (some "1") takenSpec).toJson] replaceLease
    (leaseOf (some "1") lapsedSpec).toJson := by
  refine ⟨rfl, ?_⟩
  rintro _ ⟨⟩
  refine Or.inr ?_
  rw [version?, version?, Lease.version_toJson, Lease.version_toJson]
  rfl

/-- The first of the two creates the lease. -/
theorem reachable_taken : Reachable rivals {
    clock := taken
    revisions := [⟨(leaseOf (some "1") takenSpec).toJson, false, taken⟩]
    wins := [⟨false, taken, taken⟩] } := by
  have hstart : Reachable rivals { clock := taken } := .start ⟨rfl, by decide, by decide, by decide⟩
  have hwritten :
      Candidate.written (some (leaseReply (leaseOf (some "1") takenSpec))) = .ok true := by
    rw [Candidate.written, answer_taken]
  exact hstart.turn rfl (readRequest_rivals false) (.refused rfl) afterRead_notFound
    (.written ⟨rfl, rfl⟩ stores_taken) hwritten

/-- The second one replaces it after its last moment. -/
theorem reachable_takeover : Reachable rivals takeover := by
  have hlater := reachable_taken.step (.tick (show taken ≤ lapsed by decide)
    ⟨rfl, by decide, by decide, by decide⟩)
  have hwritten :
      Candidate.written (some (leaseReply (leaseOf (some "2") lapsedSpec))) = .ok true := by
    rw [Candidate.written, answer_lapsed]
  have hshown : Handled [(leaseOf (some "1") takenSpec).toJson] readLease
      (some (leaseReply (leaseOf (some "1") takenSpec))) none :=
    .read rfl List.mem_cons_self rfl rfl
  exact hlater.turn rfl (readRequest_rivals true) hshown afterRead_taken
    (.written accepts_lapsed stores_lapsed) hwritten

/-- The second candidate takes the lease as soon as the first may have lost it. -/
theorem single_leader_takeover :
    Reachable rivals takeover
      ∧ (∀ now, lapsed ≤ now →
          ¬ (now ≤ rivals.goodUntil true lapsed ∧ now ≤ rivals.goodUntil false taken))
      ∧ taken.addSeconds 15 < lapsed := by
  obtain ⟨hwins, hrevisions⟩ := single_leader reachable_takeover
  refine ⟨reachable_takeover, fun now hnow => ?_, ?_⟩
  · have hpast : taken ≤ now := Int.le_trans (show taken ≤ lapsed by decide) hnow
    exact hwins _ List.mem_cons_self _ (List.mem_cons_of_mem _ List.mem_cons_self) nofun now hnow
      hpast
  · obtain ⟨recorded, recorded', hrecorded, hrecorded', -, -, hchanged⟩ := hrevisions [] _ _ [] rfl
    have hold : some takenSpec = some recorded := by
      rw [← hrecorded]
      decide +kernel
    have hnew : some lapsedSpec = some recorded' := by
      rw [← hrecorded']
      decide +kernel
    cases hold
    cases hnew
    obtain ⟨renewed, duration, hrenewed, hduration, hlt⟩ := hchanged (by decide)
    cases hrenewed
    cases hduration
    exact hlt

end LoggingOperator.Leadership
