/-
  LoggingOperator.Proofs.Lease.Bookkeeping — THE LEASE SAYS WHAT HAPPENED.

  A candidate derives what it writes from the lease that it read: it counts one
  change more if it takes the lease from another, and keeps the time at which it
  took the lease if it holds it already.  So the lease that is stored should
  tell its whole past: who holds it, how often that changed, since when the
  holder holds it, and when it wrote last (`bookkeeping`).

  A write takes effect only under the version that is stored, so it continues
  the newest entry of the ledger, whenever it was read (`Books.newest`).  If
  that entry says what it should, so does the new one (`Books.cons`).  And what
  an attempt wrote is known from its end: nothing, if it was told that somebody
  else leads or was refused, because then the only write that it sent was
  refused, if it sent one (`Stage`).
-/
import LoggingOperator.Proofs.Lease.Ledger

namespace LoggingOperator.Leadership

open Http (Exchange Reply Request)
open Json

variable {ι : Type} [DecidableEq ι] {c : Contest ι} {entries : List (Entry ι)}

/-! ## §1. The books -/

/-- The document of an entry says what it should. -/
structure Booked (c : Contest ι) (e : Entry ι) (older : List (Entry ι)) : Prop where
  canonical : e.document.Canonical
  spec : e.document.get? "spec" = some (c.booked e older).toJson
  version : ∃ v, version? e.document = some v

/-- All entries say what they should, and a version names one document. -/
structure Books (c : Contest ι) (entries : List (Entry ι)) : Prop where
  booked : ∀ e older, (e :: older) <:+ entries → Booked c e older
  dated : ∀ e ∈ entries, e.sampled.truncated.OnMicrosecond
  named : ∀ e ∈ entries, ∀ e' ∈ entries,
    version? e.document = version? e'.document → e.document = e'.document

/-- What a candidate may have sent: a read, the first lease, or what it makes of an
    entry that it read. -/
inductive Draft (c : Contest ι) (entries : List (Entry ι)) (i : ι) (sampled : Instant)
    (request : Request) : Prop
  | read (sent : (c.candidate i).readRequest = some request)
  | create (sent : (c.candidate i).createRequest sampled = some request)
  | replace {old : Entry ι} {older : List (Entry ι)} {lease : Lease}
    (suffix : (old :: older) <:+ entries) (spec : lease.spec = some (c.booked old older))
    (version : lease.metadata.resourceVersion = version? old.document)
    (sent : (c.candidate i).replaceRequest lease sampled = some request)

/-- Entries are only added. -/
theorem Draft.grow {entries' : List (Entry ι)} {i : ι} {sampled : Instant} {request : Request}
    (h : Draft c entries i sampled request) (hgrown : entries <:+ entries') :
    Draft c entries' i sampled request := by
  cases h with
  | read sent => exact .read sent
  | create sent => exact .create sent
  | replace suffix spec version sent => exact .replace (suffix.trans hgrown) spec version sent

namespace Books

variable {old : Entry ι} {older : List (Entry ι)} {request : Request} {body : Json}

theorem empty (c : Contest ι) : Books c [] where
  booked _ _ hsuffix := absurd (List.suffix_nil.1 hsuffix) (List.cons_ne_nil _ _)
  dated := nofun
  named := nofun

/-- What is booked is recorded exactly. -/
theorem recordable (h : Books c entries) (hsuffix : (old :: older) <:+ entries) :
    (c.booked old older).Recordable where
  acquired t ht := by
    cases ht
    exact h.dated _ (hsuffix.subset (seat_mem old older))
  renewed t ht := by
    cases ht
    exact h.dated _ (hsuffix.subset List.mem_cons_self)

/-- **The version that was read is that of the newest entry**, or the write is
    refused; and then the newest entry says what was read. -/
theorem newest (h : Books c entries) (hsuffix : (old :: older) <:+ entries)
    (haccepts : ∀ newest, (documents entries).head? = some newest →
      version? body = none ∨ version? body = version? newest)
    (hversion : version? body = version? old.document) :
    ∃ new rest, entries = new :: rest ∧ c.booked new rest = c.booked old older := by
  cases entries with
  | nil => exact absurd (List.suffix_nil.1 hsuffix) (List.cons_ne_nil _ _)
  | cons new rest =>
    have hold := h.booked old older hsuffix
    have hnew := h.booked new rest (List.suffix_refl _)
    have hsame : version? old.document = version? new.document := by
      rcases haccepts new.document rfl with hnone | hsame
      · obtain ⟨v, hv⟩ := hold.version
        rw [hversion, hv] at hnone
        cases hnone
      · exact hversion.symm.trans hsame
    have hdocument : old.document = new.document :=
      h.named old (hsuffix.subset List.mem_cons_self) new List.mem_cons_self hsame
    have hspec : (c.booked new rest).toJson = (c.booked old older).toJson := by
      refine Option.some.inj ?_
      rw [← hnew.spec, ← hold.spec, hdocument]
    exact ⟨new, rest, rfl, LeaseSpec.eq_of_toJson_eq (h.recordable (List.suffix_refl _))
      (h.recordable hsuffix) hspec⟩

/-- **What is written says what it should**, if the platform accepts it. -/
theorem spec_of_accepts (h : Books c entries) {e : Entry ι}
    (hdraft : Draft c entries e.author e.sampled request)
    (haccepts : Accepts (documents entries) request body) :
    body.get? "spec" = some (c.booked e entries).toJson := by
  obtain ⟨hbody, haccepts⟩ := haccepts
  cases hdraft with
  | read sent =>
    rw [(parts_of_aimed? sent).1] at haccepts
    exact haccepts.elim
  | create sent =>
    obtain ⟨hmethod, hsent⟩ := parts_of_aimed? sent
    rw [hmethod] at haccepts
    rw [hsent] at hbody
    cases hbody
    obtain rfl := List.map_eq_nil_iff.1 haccepts
    rw [← recorded_first, LeaseSpec.toJson_recorded]
    exact Lease.spec_toJson rfl
  | replace suffix spec version sent =>
    obtain ⟨hmethod, hsent⟩ := parts_of_aimed? sent
    rw [hmethod] at haccepts
    rw [hsent, spec] at hbody
    cases hbody
    obtain ⟨new, rest, rfl, hbooked⟩ :=
      h.newest suffix haccepts ((Lease.version_toJson _).trans version)
    rw [← recorded_next, hbooked, LeaseSpec.toJson_recorded]
    exact Lease.spec_toJson rfl

/-- **A write that takes effect goes on with the books.** -/
theorem cons (h : Books c entries) {m : Mail ι} {reply : Option Reply} {d : Json}
    (hdraft : Draft c entries m.attempt.1 m.sampled m.request)
    (hdated : m.sampled.truncated.OnMicrosecond)
    (hserved : Served (documents entries) m.request reply (some d)) :
    Books c (m.entry d :: entries) := by
  obtain ⟨body, haccepts, hspec, hstored⟩ := hserved.effect
  have hbooked : d.get? "spec" = some (c.booked (m.entry d) entries).toJson :=
    hspec.trans (h.spec_of_accepts (e := m.entry d) hdraft haccepts)
  -- The document is new, or it is that of the newest entry.
  have hdocument : d.Canonical ∧ (∃ v, version? d = some v)
      ∧ ∀ e ∈ entries, version? e.document = version? d → e.document = d := by
    rcases hstored with hstores | hnewest
    · refine ⟨hstores.canonical, hstores.version, fun e he hsame => ?_⟩
      exact absurd hsame (hstores.fresh e.document (List.mem_map_of_mem he))
    · cases entries with
      | nil => cases hnewest
      | cons new rest =>
        obtain rfl : new.document = d := Option.some.inj hnewest
        have hnew := h.booked new rest (List.suffix_refl _)
        exact ⟨hnew.canonical, hnew.version, fun e he => h.named e he new List.mem_cons_self⟩
  obtain ⟨hcanonical, hversion, hnamed⟩ := hdocument
  refine ⟨fun e older hsuffix => ?_, List.forall_mem_cons.2 ⟨hdated, h.dated⟩, ?_⟩
  · rcases List.suffix_cons_iff.1 hsuffix with heq | hsuffix
    · obtain ⟨rfl, rfl⟩ := List.cons.inj heq
      exact ⟨hcanonical, hbooked, hversion⟩
    · exact h.booked e older hsuffix
  · refine List.forall_mem_cons.2 ⟨List.forall_mem_cons.2 ⟨fun _ => rfl, fun e he hsame => ?_⟩,
      fun e he => List.forall_mem_cons.2 ⟨hnamed e he, h.named e he⟩⟩
    exact (hnamed e he hsame.symm).symm

end Books

/-! ## §2. Attempts -/

/-- An attempt wrote nothing, and none of its requests is still on its way. -/
structure Silent (entries : List (Entry ι)) (strays : List (Mail ι)) (a : ι × Nat) : Prop where
  entries : ∀ e ∈ entries, e.attempt ≠ a
  strays : ∀ m ∈ strays, m.attempt ≠ a

/-- How far an attempt came, and what is known of its write. -/
inductive Stage (c : Contest ι) (entries : List (Entry ι)) (strays : List (Mail ι)) (a : ι × Nat)
    (sampled : Instant) : Exchange (Except Kube.Failure Bool) → Prop
  | reading {request : Request} (silent : Silent entries strays a)
    (sent : (c.candidate a.1).readRequest = some request) :
    Stage c entries strays a sampled (.send request ((c.candidate a.1).afterRead sampled))
  | writing {request : Request} (silent : Silent entries strays a)
    (draft : Draft c entries a.1 sampled request) (write : request.method ≠ .get) :
    Stage c entries strays a sampled (.send request fun reply => .done (Candidate.written reply))
  | won (wrote : ∃ e ∈ entries, e.attempt = a ∧ e.sampled = sampled) :
    Stage c entries strays a sampled (.done (.ok true))
  /-- The attempt failed, and its candidate knows that it wrote nothing. -/
  | failed {result : Except Kube.Failure Bool} (silent : Silent entries strays a)
    (lost : result ≠ .ok true) : Stage c entries strays a sampled (.done result)
  /-- The attempt failed, and its candidate does not know what became of its request. -/
  | uncertain {failure : Kube.Failure} (unanswered : ∀ r, failure ≠ .refused r) :
    Stage c entries strays a sampled (.done (.error failure))

section

variable {strays : List (Mail ι)} {a : ι × Nat} {sampled : Instant}

/-- An attempt that got no answer. -/
theorem Stage.of_lost : Stage c entries strays a sampled (.done (.error .lost)) := by
  refine .uncertain ?_
  rintro _ ⟨⟩

/-- An attempt starts with a read. -/
theorem stage_attempt (c : Contest ι) (sampled : Instant) (h : Silent entries strays a) :
    Stage c entries strays a sampled ((c.candidate a.1).attempt sampled) := by
  rcases (c.candidate a.1).attempt_cases sampled with heq | ⟨request, sent, heq⟩
  · rw [heq]
    exact .of_lost
  · rw [heq]
    exact .reading h sent

/-- The answer to a read leads to a write or to the end, if the lease that it shows is
    that of an entry. -/
theorem stage_afterRead (h : Silent entries strays a) {reply : Option Reply}
    (hshown : ∀ lease, Candidate.found reply = .ok (some lease) →
      ∃ old older, (old :: older) <:+ entries ∧ lease.spec = some (c.booked old older)
        ∧ lease.metadata.resourceVersion = version? old.document) :
    Stage c entries strays a sampled ((c.candidate a.1).afterRead sampled reply) := by
  rcases (c.candidate a.1).afterRead_cases sampled reply with
    ⟨result, lost, heq⟩ | ⟨request, heq, hcreate | ⟨lease, hfound, -, hreplace⟩⟩
  · rw [heq]
    exact .failed h lost
  · rw [heq]
    refine .writing h (.create hcreate) ?_
    rw [(parts_of_aimed? hcreate).1]
    decide
  · obtain ⟨old, older, suffix, spec, version⟩ := hshown lease hfound
    rw [heq]
    refine .writing h (.replace suffix spec version hreplace) ?_
    rw [(parts_of_aimed? hreplace).1]
    decide

/-- **The answer to a read moves an attempt on.**  What it shows is an entry. -/
theorem stage_shown (hbooks : Books c entries) (h : Silent entries strays a) {request : Request}
    {reply : Option Reply} {o : Option Json}
    (hserved : Served (documents entries) request reply o) (hget : request.method = .get) :
    Stage c entries strays a sampled ((c.candidate a.1).afterRead sampled reply) := by
  refine stage_afterRead h fun lease hfound => ?_
  obtain ⟨r, rfl, hsuccess, -⟩ := answer_of_found hfound
  obtain rfl := hserved.eq_none hget
  cases hserved with
  | refused failure =>
    rw [failure] at hsuccess
    cases hsuccess
  | read _ mem _ body =>
    obtain ⟨e, he, rfl⟩ := List.mem_map.1 mem
    obtain ⟨newer, older, rfl⟩ := List.append_of_mem he
    have hsuffix : (e :: older) <:+ newer ++ e :: older := List.suffix_append _ _
    have hbooked := hbooks.booked e older hsuffix
    have hlease := lease_of_found (hbooks.recordable hsuffix) hbooked.canonical hbooked.spec
      hbooked.version body hfound
    exact ⟨e, older, hsuffix, hlease⟩

/-- **The answer to a write ends an attempt.**  A refusal means that nothing was
    written. -/
theorem stage_written (h : Silent entries strays a) {request : Request}
    (hwrite : request.method ≠ .get) {reply : Option Reply} {o : Option Json}
    (hserved : Served (documents entries) request reply o) :
    Stage c (enter entries ⟨a, sampled, request⟩ o) strays a sampled
      (.done (Candidate.written reply)) := by
  cases o with
  | none =>
    cases hserved with
    | lost => exact .of_lost
    | refused failure =>
      refine .failed h fun hwritten => ?_
      obtain ⟨r, hr, hsuccess⟩ := reply_of_written hwritten
      cases hr
      rw [failure] at hsuccess
      cases hsuccess
    | read method => exact absurd method hwrite
  | some d =>
    cases reply with
    | none => exact .of_lost
    | some r =>
      have hsuccess := hserved.success r rfl
      simp only [Candidate.written, Kube.answer, hsuccess, Bool.false_eq_true, if_false]
      cases (Document.ofText? r.body).bind Lease.ofDocument? with
      | none =>
        refine .uncertain ?_
        rintro _ ⟨⟩
      | some lease => exact .won ⟨_, List.mem_cons_self, rfl, rfl⟩

variable {entries' : List (Entry ι)} {strays' : List (Mail ι)}

omit [DecidableEq ι] in
/-- Whatever other attempts do, an attempt that is silent stays so. -/
theorem Silent.grow (h : Silent entries strays a)
    (hentries : ∀ e ∈ entries', e ∈ entries ∨ e.attempt ≠ a)
    (hstrays : ∀ m ∈ strays', m ∈ strays ∨ m.attempt ≠ a) : Silent entries' strays' a where
  entries e he := (hentries e he).elim (h.entries e) id
  strays m hm := (hstrays m hm).elim (h.strays m) id

/-- And an attempt stays where it is. -/
theorem Stage.grow {rest : Exchange (Except Kube.Failure Bool)}
    (h : Stage c entries strays a sampled rest) (hgrown : entries <:+ entries')
    (hsilent : Silent entries strays a → Silent entries' strays' a) :
    Stage c entries' strays' a sampled rest := by
  cases h with
  | reading silent sent => exact .reading (hsilent silent) sent
  | writing silent draft write => exact .writing (hsilent silent) (draft.grow hgrown) write
  | won wrote =>
    obtain ⟨e, he, hattempt⟩ := wrote
    exact .won ⟨e, hgrown.subset he, hattempt⟩
  | failed silent lost => exact .failed (hsilent silent) lost
  | uncertain unanswered => exact .uncertain unanswered

/-- A candidate that gets no answer does not know what became of its request. -/
theorem Stage.unanswered {request : Request}
    {next : Option Reply → Exchange (Except Kube.Failure Bool)}
    (h : Stage c entries strays a sampled (.send request next)) :
    Stage c entries' strays' a sampled (next none) := by
  cases h with
  | reading => exact .of_lost
  | writing => exact .of_lost

end

/-! ## §3. The invariant of a ledger -/

/-- A request that an attempt sent. -/
structure Posted (c : Contest ι) (entries : List (Entry ι)) (m : Mail ι) : Prop where
  dated : m.sampled.truncated.OnMicrosecond
  draft : Draft c entries m.attempt.1 m.sampled m.request

theorem Posted.grow {entries' : List (Entry ι)} {m : Mail ι} (h : Posted c entries m)
    (hgrown : entries <:+ entries') : Posted c entries' m :=
  ⟨h.dated, h.draft.grow hgrown⟩

theorem Books.enter (h : Books c entries) {m : Mail ι} (hm : Posted c entries m)
    {reply : Option Reply} {o : Option Json}
    (hserved : Served (documents entries) m.request reply o) : Books c (enter entries m o) := by
  cases o with
  | none => exact h
  | some d => exact h.cons hm.draft hm.dated hserved

namespace Ledger

/-- What holds of every ledger. -/
structure Inv (c : Contest ι) (l : Ledger ι) : Prop where
  books : Books c l.entries
  new : ∀ a, l.attempts a = none → Silent l.entries l.strays a
  dated : ∀ a t, l.attempts a = some t → t.sampled.truncated.OnMicrosecond
  stages : ∀ a t, l.attempts a = some t → Stage c l.entries l.strays a t.sampled t.rest
  posted : ∀ m ∈ l.strays, Posted c l.entries m

namespace Inv

variable {l : Ledger ι}

theorem start (c : Contest ι) : Inv c {} where
  books := .empty c
  new _ _ := ⟨nofun, nofun⟩
  dated := nofun
  stages := nofun
  posted m hm := by cases hm

/-- What a running attempt asks for, it has sent. -/
theorem asked (h : Inv c l) {a : ι × Nat} {sampled : Instant} {request : Request}
    {next : Option Reply → Exchange (Except Kube.Failure Bool)}
    (hasks : l.attempts a = some ⟨sampled, .send request next⟩) :
    Posted c l.entries ⟨a, sampled, request⟩ := by
  have hstage : Stage c l.entries l.strays a sampled (.send request next) := h.stages a _ hasks
  refine ⟨h.dated a _ hasks, ?_⟩
  cases hstage with
  | reading _ sent => exact .read sent
  | writing _ draft => exact draft

/-- An attempt goes on after its request was served. -/
theorem answered (h : Inv c l) {a : ι × Nat} {sampled : Instant} {request : Request}
    {next : Option Reply → Exchange (Except Kube.Failure Bool)}
    (hasks : l.attempts a = some ⟨sampled, .send request next⟩) {reply : Option Reply}
    {o : Option Json} (hserved : Served (documents l.entries) request reply o) :
    Stage c (enter l.entries ⟨a, sampled, request⟩ o) l.strays a sampled (next reply) := by
  have hstage : Stage c l.entries l.strays a sampled (.send request next) := h.stages a _ hasks
  cases hstage with
  | reading silent sent =>
    have hget := (parts_of_aimed? sent).1
    obtain rfl := hserved.eq_none hget
    exact stage_shown h.books silent hserved hget
  | writing silent draft write => exact stage_written silent write hserved

/-- **One attempt goes on**, and what is new belongs to it; so the others stay where
    they are. -/
theorem settle (h : Inv c l) {a : ι × Nat} {t : Attempt} {entries : List (Entry ι)}
    {strays : List (Mail ι)} (hgrown : l.entries <:+ entries)
    (hentries : ∀ e ∈ entries, e ∈ l.entries ∨ e.attempt = a)
    (hstrays : ∀ m ∈ strays, m ∈ l.strays ∨ m.attempt = a) (hbooks : Books c entries)
    (hposted : ∀ m ∈ strays, Posted c entries m) (hdated : t.sampled.truncated.OnMicrosecond)
    (hstage : Stage c entries strays a t.sampled t.rest) :
    Inv c { entries, strays, attempts := Function.update l.attempts a (some t) } := by
  have hothers : ∀ b, b ≠ a → Silent l.entries l.strays b → Silent entries strays b := by
    intro b hb hsilent
    refine hsilent.grow (fun e he => ?_) fun m hm => ?_
    · exact (hentries e he).imp_right fun heq => heq.trans_ne hb.symm
    · exact (hstrays m hm).imp_right fun heq => heq.trans_ne hb.symm
  refine ⟨hbooks, fun b hb => ?_, fun b t' hb => ?_, fun b t' hb => ?_, hposted⟩
  · rcases eq_or_ne b a with rfl | hne
    · simp at hb
    · exact hothers b hne (h.new b (by simpa [hne] using hb))
  · rcases eq_or_ne b a with rfl | hne
    · obtain rfl : t = t' := by simpa using hb
      exact hdated
    · exact h.dated b t' (by simpa [hne] using hb)
  · rcases eq_or_ne b a with rfl | hne
    · obtain rfl : t = t' := by simpa using hb
      exact hstage
    · exact (h.stages b t' (by simpa [hne] using hb)).grow hgrown (hothers b hne)

/-- **Every step keeps the invariant.** -/
theorem step {l' : Ledger ι} (h : Inv c l) (hs : Step c l l') : Inv c l' := by
  cases hs with
  | @start a now new dated =>
    refine h.settle (List.suffix_refl _) (fun _ => Or.inl) (fun _ => Or.inl) h.books h.posted dated ?_
    dsimp only
    exact stage_attempt c now (h.new a new)
  | @answer a sampled request next reply o asks served =>
    have hasked := h.asked asks
    have hgrown := suffix_enter l.entries ⟨a, sampled, request⟩ o
    exact h.settle hgrown (fun _ => mem_or_of_mem_enter) (fun _ => Or.inl)
      (h.books.enter hasked served) (fun m hm => (h.posted m hm).grow hgrown) hasked.dated
      (h.answered asks served)
  | @giveUp a sampled request next asks =>
    have hasked := h.asked asks
    have hstage : Stage c l.entries l.strays a sampled (.send request next) := h.stages a _ asks
    refine h.settle (List.suffix_refl _) (fun _ => Or.inl) (fun m hm => ?_) h.books
      (List.forall_mem_cons.2 ⟨hasked, h.posted⟩) hasked.dated hstage.unanswered
    rcases List.mem_cons.1 hm with rfl | hm
    · exact Or.inr rfl
    · exact Or.inl hm
  | @arrive m reply o mem served =>
    have hgrown := suffix_enter l.entries m o
    cases hm : l.attempts m.attempt with
    | none => exact absurd rfl ((h.new _ hm).strays m mem)
    | some t =>
      -- The attempt stays where it is: as one of its requests was on its way, it is not silent.
      have hstage : Stage c (enter l.entries m o) l.strays m.attempt t.sampled t.rest :=
        (h.stages _ t hm).grow hgrown fun silent => absurd rfl (silent.strays m mem)
      have hsettled := h.settle hgrown (fun _ => mem_or_of_mem_enter) (fun _ => Or.inl)
        (h.books.enter (h.posted m mem) served) (fun m hm => (h.posted m hm).grow hgrown)
        (h.dated _ t hm) hstage
      rwa [← hm, Function.update_eq_self] at hsettled

end Inv

/-- **It holds of every ledger that comes about.** -/
theorem inv_of_reachable {l : Ledger ι} (h : Reachable c l) : Inv c l := by
  induction h with
  | start => exact .start c
  | step _ hs ih => exact ih.step hs

end Ledger

/-! ## §4. What the lease says -/

/-- The spec that is read from the document of an entry. -/
theorem Books.spec?_eq (h : Books c entries) {e : Entry ι} {older : List (Entry ι)}
    (hsuffix : (e :: older) <:+ entries) : e.spec? = some (c.booked e older) := by
  rw [Revision.spec?, (h.booked e older hsuffix).spec, Option.bind_some]
  exact LeaseSpec.ofJson?_of_shown (c.booked e older).shown_toJson (h.recordable hsuffix)

/-- **The lease says what happened.**  After every write that took effect it names
    the writer as its holder; it counts how often the holder changed, as long as
    that fits; it was renewed when the writer looked at its clock, and acquired when
    the holder looked at its clock for the write that made it the holder, however
    often it renewed the lease since then.  An attempt that got through has written
    one of the entries, and one that found another holder or was refused has written
    none. -/
theorem bookkeeping {l : Ledger ι} (h : Ledger.Reachable c l) :
    (∀ newer e older, l.entries = newer ++ e :: older → changes (e :: older) < 2 ^ 31 →
      ∃ spec transitions, e.spec? = some spec ∧ spec.holder = some (c.identity e.author)
        ∧ spec.transitions = some transitions ∧ transitions.toInt = changes (e :: older)
        ∧ spec.renewTime = some e.sampled.truncated
        ∧ ∃ renewals taking before, e :: older = renewals ++ taking :: before
            ∧ (∀ r ∈ renewals, r.author = e.author) ∧ taking.author = e.author
            ∧ (∀ old, before.head? = some old → old.author ≠ e.author)
            ∧ spec.acquireTime = some taking.sampled.truncated)
      ∧ ∀ a sampled result, l.attempts a = some ⟨sampled, .done result⟩ →
          (result = .ok true → ∃ e ∈ l.entries, e.attempt = a ∧ e.sampled = sampled)
            ∧ (result = .ok false ∨ (∃ r, result = .error (.refused r)) →
                ∀ e ∈ l.entries, e.attempt ≠ a) := by
  have hinv := Ledger.inv_of_reachable h
  refine ⟨fun newer e older heq hcount => ?_, fun a sampled result hended => ?_⟩
  · have hsuffix : (e :: older) <:+ l.entries := ⟨newer, heq.symm⟩
    obtain ⟨renewals, before, hsplit, hrenewals, hseat, hbefore⟩ := exists_seat e older
    exact ⟨_, _, hinv.books.spec?_eq hsuffix, rfl, rfl, Int32.toInt_ofNat_of_lt hcount, rfl,
      renewals, _, before, hsplit, hrenewals, hseat, hbefore, rfl⟩
  · have hstage : Stage c l.entries l.strays a sampled (.done result) := hinv.stages a _ hended
    cases hstage with
    | won wrote =>
      refine ⟨fun _ => wrote, ?_⟩
      rintro (hlost | ⟨r, hrefused⟩)
      · cases hlost
      · cases hrefused
    | failed silent lost => exact ⟨fun hwon => absurd hwon lost, fun _ => silent.entries⟩
    | uncertain unanswered =>
      refine ⟨fun hwon => ?_, ?_⟩
      · cases hwon
      · rintro (hlost | ⟨r, hrefused⟩)
        · cases hlost
        · exact absurd (Except.error.inj hrefused) (unanswered r)

/-! ## §5. A lease that is handed over -/

namespace Ledger.Reachable

variable {l : Ledger ι} {a : ι × Nat} {now : Instant} {read write : Request}
  {shown reply : Option Reply}

/-- An attempt whose read is answered at once. -/
theorem look (h : Reachable c l) (hnew : l.attempts a = none)
    (hdated : now.truncated.OnMicrosecond) (hread : (c.candidate a.1).readRequest = some read)
    (hshown : Served (documents l.entries) read shown none) :
    Reachable c (l.proceed a ⟨now, (c.candidate a.1).afterRead now shown⟩) := by
  let started := l.proceed a ⟨now, (c.candidate a.1).attempt now⟩
  have hasks : started.attempts a
      = some ⟨now, .send read ((c.candidate a.1).afterRead now)⟩ := by
    have hattempt : (c.candidate a.1).attempt now
        = .send read ((c.candidate a.1).afterRead now) := by
      rw [Candidate.attempt, hread]
      rfl
    simp [started, proceed, hattempt]
  have hanswered := (h.step (.start hnew hdated)).step (.answer hasks hshown)
  simpa only [started, proceed, enter, Function.update_idem] using hanswered

/-- And whose write gets through. -/
theorem turn (h : Reachable c l) (hnew : l.attempts a = none)
    (hdated : now.truncated.OnMicrosecond) (hread : (c.candidate a.1).readRequest = some read)
    (hshown : Served (documents l.entries) read shown none)
    (hnext : (c.candidate a.1).afterRead now shown
      = .send write fun reply => .done (Candidate.written reply))
    {d : Json} (hwrite : Served (documents l.entries) write reply (some d))
    (hwritten : Candidate.written reply = .ok true) :
    Reachable c { l.proceed a ⟨now, .done (.ok true)⟩ with
      entries := ⟨⟨d, a.1, now⟩, a.2⟩ :: l.entries } := by
  have hlooked := h.look hnew hdated hread hshown
  have hasks : (l.proceed a ⟨now, (c.candidate a.1).afterRead now shown⟩).attempts a
      = some ⟨now, .send write fun reply => .done (Candidate.written reply)⟩ := by
    simp [proceed, hnext]
  have hanswered := hlooked.step (.answer hasks hwrite)
  simpa only [proceed, enter, Mail.entry, Function.update_idem, hwritten] using hanswered

end Ledger.Reachable

/-- The first of two candidates takes the lease, the second finds it taken, and takes
    it once it has run out. -/
def handover : Ledger Bool where
  entries := [⟨⟨(leaseOf (some "2") lapsedSpec).toJson, true, lapsed⟩, 1⟩,
    ⟨⟨(leaseOf (some "1") takenSpec).toJson, false, taken⟩, 0⟩]
  attempts := Function.update (Function.update (Function.update (fun _ => none)
    (false, 0) (some ⟨taken, .done (.ok true)⟩)) (true, 0) (some ⟨taken, .done (.ok false)⟩))
    (true, 1) (some ⟨lapsed, .done (.ok true)⟩)

theorem reachable_handover : Ledger.Reachable rivals handover := by
  have hdated : ∀ t, t = taken ∨ t = lapsed → t.truncated.OnMicrosecond := by
    rintro _ (rfl | rfl)
    · exact ⟨rfl, by decide, by decide, by decide⟩
    · exact ⟨rfl, by decide, by decide, by decide⟩
  have hshown : Served [(leaseOf (some "1") takenSpec).toJson] readLease
      (some (leaseReply (leaseOf (some "1") takenSpec))) none :=
    .read rfl List.mem_cons_self rfl rfl
  have hmissing : Served [] readLease (some notFound) none := .refused rfl
  have hcreate : Served [] createLease (some (leaseReply (leaseOf (some "1") takenSpec)))
      (some (leaseOf (some "1") takenSpec).toJson) := by
    refine .written ⟨rfl, rfl⟩ stores_taken ?_
    rintro _ ⟨⟩
    rfl
  have hreplace : Served [(leaseOf (some "1") takenSpec).toJson] replaceLease
      (some (leaseReply (leaseOf (some "2") lapsedSpec)))
      (some (leaseOf (some "2") lapsedSpec).toJson) := by
    refine .written accepts_lapsed stores_lapsed ?_
    rintro _ ⟨⟩
    rfl
  have hcreated := Ledger.Reachable.start.turn (c := rivals) (a := (false, 0)) rfl
    (hdated taken (Or.inl rfl)) (readRequest_rivals false) hmissing afterRead_notFound hcreate
    (by rw [Candidate.written, answer_taken])
  -- In between the second candidate finds that the lease is taken.
  have hlooked := hcreated.look (a := (true, 0)) rfl (hdated taken (Or.inl rfl))
    (readRequest_rivals true) hshown
  have hfound : (rivals.candidate true).afterRead taken
      (some (leaseReply (leaseOf (some "1") takenSpec))) = .done (.ok false) := by
    rw [Candidate.afterRead, Candidate.found, answer_taken]
    rfl
  rw [hfound] at hlooked
  exact hlooked.turn (a := (true, 1)) rfl (hdated lapsed (Or.inr rfl)) (readRequest_rivals true)
    hshown afterRead_taken hreplace (by rw [Candidate.written, answer_lapsed])

/-- The lease counts that it was handed over, and the attempt in between left no
    trace. -/
theorem bookkeeping_handover :
    Ledger.Reachable rivals handover
      ∧ (∃ e ∈ handover.entries, ∃ spec, e.spec? = some spec ∧ spec.holder = some "second"
          ∧ spec.transitions = some 1 ∧ spec.renewTime = some lapsed)
      ∧ ∀ e ∈ handover.entries, e.attempt ≠ (true, 0) := by
  obtain ⟨hentries, hattempts⟩ := bookkeeping reachable_handover
  obtain ⟨spec, transitions, hspec, hholder, htransitions, hcount, hrenewed, -⟩ :=
    hentries [] _ _ rfl (by decide)
  obtain rfl : transitions = 1 := Int32.toInt_inj.1 hcount
  refine ⟨reachable_handover, ⟨_, List.mem_cons_self, spec, hspec, hholder, htransitions, hrenewed⟩,
    (hattempts (true, 0) taken (.ok false) rfl).2 (Or.inl rfl)⟩

end LoggingOperator.Leadership
