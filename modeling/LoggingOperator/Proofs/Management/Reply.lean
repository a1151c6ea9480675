/-
  LoggingOperator.Proofs.Management.Reply — WHAT A REPLY IS READ AS.

  One lemma for each reply that a server may give.  A report and a token are
  read from the fields that they know, whatever else is said; what is not there
  is no error; a token name that is taken is one.

  A body that a server keeps is sent as a text and read again (`fetched`).  It
  comes back as it is if it has no fractions and is not nested too deep
  (`fetched_of_exact`).  A fraction may come back with another last digit, and
  what is nested too deep is not read at all.
-/
import LoggingOperator.Proofs.Json.Seen
import LoggingOperator.Proofs.Management.Server

namespace LoggingOperator.Management

open Http (Reply)
open Json Json.Record

/-! ## §1. What a reply is read as -/

section Replies

variable {reply : Reply}

theorem success_of_ok (ok : reply.status = 200) : success (some reply) = .ok reply.body := by
  rw [success, Reply.isSuccess, ok]
  rfl

theorem success_of_missing (missing : reply.status = 404) :
    success (some reply) = .error (.status 404 reply.body) := by
  rw [success, Reply.isSuccess, missing]
  rfl

theorem success_of_conflict (conflict : reply.status = 409) :
    success (some reply) = .error (.status 409 reply.body) := by
  rw [success, Reply.isSuccess, conflict]
  rfl

/-- What is read of a reply depends on its text only by the document that it is. -/
theorem document_of_ok {α : Type} {layout : Layout} {read : Json → Option α}
    (ok : reply.status = 200) :
    document layout read (some reply)
      = ((Document.ofText? reply.body).bind (Document.readAs? layout read)).elim
          (.error (.decode "error decoding response body")) .ok := by
  simp only [document, success_of_ok ok, Bind.bind, Except.bind]
  cases (Document.ofText? reply.body).bind (Document.readAs? layout read) <;> rfl

/-- A record is read from the fields that it knows, whatever else is said. -/
theorem document_of_tellsFields {α : Type} {layouts : List (String × Layout)}
    {read : Json → Option α} {known : List (String × Json)} {a : α} (ok : reply.status = 200)
    (tells : TellsFields reply.body known)
    (hseen : ∀ key inner, Keyed.get? key layouts = some inner →
      ∃ v y, (key, v) ∈ known ∧ Seen inner 126 v y)
    (hread : ∀ w : Json, w.isObject = true →
      (∀ key v inner, (key, v) ∈ known → Keyed.get? key layouts = some inner →
        ∃ y, w.get? key = some y ∧ Seen inner 126 v y) → read w = some a) :
    document (.strict layouts) read (some reply) = .ok a := by
  obtain ⟨fields, hcanonical, htells, hreadable, hfields⟩ := tells
  obtain ⟨d, hd⟩ := Option.isSome_iff_exists.1 hreadable
  have hdocument : document? (.object fields) = some d := by
    rw [← ofText?_text, ← htells, hd]
  obtain ⟨w, hw, hobject⟩ := Seen.exists_of_strict layouts 126 hcanonical hdocument
    fun key x inner hx hinner => by
      obtain ⟨v, y, hmem, hy⟩ := hseen key inner hinner
      cases (hfields (key, v) hmem).symm.trans hx
      exact ⟨y, hy⟩
  have hsees : Seen (.strict layouts) (126 + 1) (.object fields) w := ⟨d, hdocument, hw⟩
  have ha : read w = some a := hread w hobject fun key v inner hmem hinner =>
    Seen.known hcanonical hsees hinner (hfields (key, v) hmem)
  have hsettled : Document.readAs? (.strict layouts) read d = some a := by
    rw [Document.readAs?]
    exact (congrArg (Option.bind · read) hw).trans ha
  rw [document_of_ok ok, hd, Option.bind_some, hsettled]
  rfl

theorem read_health {report : HealthReport} (ok : reply.status = 200)
    (tells : TellsFields reply.body report.fields) : read (some reply) .health = .ok report := by
  have hcolour : ("status", Json.string report.colour) ∈ report.fields :=
    List.mem_cons_of_mem _ List.mem_cons_self
  have hshards : ("active_shards", int64 report.activeShards) ∈ report.fields :=
    List.mem_cons_self
  refine document_of_tellsFields ok tells (fun key inner h => ?_) fun w hobject hw => ?_
  · rw [Keyed.get?_cons, Keyed.get?_cons] at h
    split at h
    · next hkey => exact hkey ▸ ⟨_, _, hcolour, Seen.string_iff.2 rfl⟩
    · split at h
      · next hkey => exact hkey ▸ ⟨_, _, hshards, Seen.of_integer⟩
      · cases h
  · obtain ⟨y, hy, hseen⟩ := hw _ _ _ hcolour rfl
    obtain ⟨z, hz, hseen'⟩ := hw _ _ _ hshards rfl
    rw [Seen.string_iff.1 hseen] at hy
    rw [Seen.eq_of_integer hseen'] at hz
    have hstatus : required w "status" string? = some report.colour := required_eq hy rfl
    have hactive : defaulted w "active_shards" 0 int64? = some report.activeShards :=
      defaulted_eq hz (int64?_int64 _)
    rw [HealthReport.ofJson?, object?, if_pos hobject]
    simp [hstatus, hactive]

theorem read_token {token : ServiceToken} {id : TokenId} (ok : reply.status = 200)
    (tells : TellsFields reply.body [("token", .object token.fields)]) :
    read (some reply) (.createToken id) = .ok token := by
  have hcanonical : (Json.object token.fields).Canonical := token.canonical_fields
  have hname : Keyed.get? "name" token.fields = some (.string token.name) := rfl
  have hvalue : Keyed.get? "value" token.fields = some (.string token.value) := rfl
  refine document_of_tellsFields ok tells (fun key inner h => ?_) fun w hobject hw => ?_
  · rw [Keyed.get?_cons] at h
    split at h
    · next hkey =>
      cases h
      obtain ⟨d, hd, -⟩ := settle?_document _ 126 hcanonical ⟨125, rfl, trivial, trivial, trivial⟩
      -- Both fields are texts, which are seen as they are.
      obtain ⟨y, hy, -⟩ := Seen.exists_of_strict [("name", .whole), ("value", .whole)] 125
        hcanonical hd fun k x inner hx _ => by
          have hmem := Keyed.mem_of_get? hx
          simp only [ServiceToken.fields, List.mem_cons, Prod.mk.injEq, List.not_mem_nil,
            or_false] at hmem
          rcases hmem with ⟨-, rfl⟩ | ⟨-, rfl⟩ <;> exact ⟨_, Seen.string_iff.2 rfl⟩
      exact ⟨_, y, List.mem_singleton.2 (by rw [hkey]), d, hd, hy⟩
    · cases h
  · obtain ⟨y, hy, hseen⟩ := hw _ _ _ (List.mem_singleton.2 rfl) rfl
    obtain ⟨hinner, -⟩ := Seen.get?_of_object hcanonical hseen
    obtain ⟨n, hn, hseenName⟩ := Seen.known hcanonical hseen rfl hname
    obtain ⟨v, hv, hseenValue⟩ := Seen.known hcanonical hseen rfl hvalue
    rw [Seen.string_iff.1 hseenName] at hn
    rw [Seen.string_iff.1 hseenValue] at hv
    have hreadName : required y "name" string? = some token.name := required_eq hn rfl
    have hreadValue : required y "value" string? = some token.value := required_eq hv rfl
    have htoken : required w "token" ServiceToken.ofJson? = some token := by
      refine required_eq hy ?_
      rw [ServiceToken.ofJson?, object?, if_pos hinner]
      simp [hreadName, hreadValue]
    rw [issuedToken?, object?, if_pos hobject]
    simpa using htoken

theorem read_taken {id : TokenId} (conflict : reply.status = 409) :
    read (some reply) (.createToken id) = .error (.status 409 reply.body) := by
  show document tokenLayout issuedToken? (some reply) = _
  rw [document, success_of_conflict conflict]
  rfl

/-- What is read of a body that a server keeps under a name: it is sent as a text, wrapped
    under its name. -/
def fetched (name : String) (body : Json) : Except ManagementError (Option Json) :=
  read (some (replyOk (.object [(name, body)]))) (.get .template name)

theorem read_found {kind : EntryKind} {name : String} {body : Json} (ok : reply.status = 200)
    (tells : Tells reply.body (.object [(name, body)])) :
    read (some reply) (.get kind name) = fetched name body := by
  have hsame : document .whole some (some reply)
      = document .whole some (some (replyOk (.object [(name, body)]))) := by
    rw [document_of_ok ok, document_of_ok rfl, tells]
    rfl
  exact congrArg (fun answer => orAbsent none (answer.map fun v => unwrap? v name)) hsame

theorem read_absent {kind : EntryKind} {name : String} (missing : reply.status = 404) :
    read (some reply) (.get kind name) = .ok none := by
  show orAbsent none ((document .whole some (some reply)).map _) = _
  rw [document, success_of_missing missing]
  rfl

theorem read_put {kind : EntryKind} {name : String} {body : Json} (ok : reply.status = 200) :
    read (some reply) (.put kind name body) = .ok () := by
  show (success (some reply)).map _ = _
  rw [success_of_ok ok]
  rfl

/-- Whether there was anything to delete is not told apart. -/
theorem orAbsent_success (gone : reply.status = 200 ∨ reply.status = 404) :
    orAbsent () ((success (some reply)).map fun _ => ()) = .ok () := by
  rcases gone with ok | missing
  · rw [success_of_ok ok]
    rfl
  · rw [success_of_missing missing]
    rfl

end Replies

/-! ## §2. What becomes of a body -/

/-- A body is fetched as what its text is read as. -/
theorem fetched_eq (name : String) (body : Json) :
    fetched name body = (Json.read? (Json.object [(name, body)]).text).elim
      (.error (.decode "error decoding response body")) fun v => .ok (v.get? name) := by
  show orAbsent none ((document .whole some (some _)).map _) = _
  rw [document_of_ok rfl]
  have hread : (Document.ofText? (replyOk (.object [(name, body)])).body).bind
      (Document.readAs? .whole some) = Json.read? (Json.object [(name, body)]).text := by
    refine congrArg _ (funext fun d => ?_)
    rw [Document.readAs?, Option.bind_fun_some]
    rfl
  rw [hread]
  cases Json.read? (Json.object [(name, body)]).text <;> rfl

/-- A body under its name is an object with one field. -/
theorem canonical_wrapped (name : String) {body : Json} (hbody : body.Canonical) :
    (Json.object [(name, body)]).Canonical :=
  canonical_object.2 ⟨List.pairwise_singleton _ _, by simpa using hbody⟩

theorem get?_wrapped (name : String) (body : Json) :
    (Json.object [(name, body)]).get? name = some body := by
  rw [get?_object, Keyed.get?_cons, if_pos rfl]

/-- A body without fractions is fetched as it is, unless it is nested too deep. -/
theorem fetched_of_exact {name : String} {body : Json} (hbody : body.Canonical)
    (hexact : body.Exact 126) : fetched name body = .ok (some body) := by
  rw [fetched_eq, read?_text (canonical_wrapped name hbody) ⟨126, rfl, hexact, trivial⟩]
  exact congrArg Except.ok (get?_wrapped name body)

/-- Any other body is fetched with other numbers at most, or not at all. -/
theorem fetched_sameShape (name : String) {body : Json} (hbody : body.Canonical) :
    (∃ w, fetched name body = .ok (some w) ∧ SameShape w body)
      ∨ ∃ message, fetched name body = .error (.decode message) := by
  rw [fetched_eq]
  cases hread : Json.read? (Json.object [(name, body)]).text with
  | none => exact Or.inr ⟨_, rfl⟩
  | some v =>
    have hshape : SameShape v (.object [(name, body)]) :=
      sameShape_of_read?_text (canonical_wrapped name hbody) hread
    have hinner : ∀ p, ((v.get? name).bind (·.head? p)).map Head.skeleton
        = (body.head? p).map Head.skeleton := by
      intro p
      have hp := hshape (.key name :: p)
      rwa [head?_key, head?_key, get?_wrapped] at hp
    cases hw : v.get? name with
    | none =>
      have hroot := hinner []
      rw [hw] at hroot
      cases hroot
    | some w =>
      refine Or.inl ⟨w, by rw [Option.elim, hw], fun p => ?_⟩
      have hp := hinner p
      rwa [hw] at hp

/-! ## §3. Bodies that do not come back -/

/-- An array in an array, and so on. -/
def nested : Nat → Json
  | 0 => .null
  | n + 1 => .array [nested n]

theorem settle?_nested {n depth : Nat} (h : depth < n) {d : Document}
    (hd : document? (nested n) = some d) : Layout.whole.settle? depth d = none := by
  induction n generalizing depth d with
  | zero => exact absurd h (Nat.not_lt_zero depth)
  | succ n ih =>
    obtain ⟨ds, hds, rfl⟩ := Option.map_eq_some_iff.1 hd
    obtain ⟨inner, hinner, hmap⟩ := Option.bind_eq_some_iff.1 hds
    cases hmap
    cases depth with
    | zero => rfl
    | succ depth =>
      have hnone : Layout.whole.settle? depth inner = none := ih (Nat.lt_of_succ_lt_succ h) hinner
      rw [Layout.settle?, Layout.item, Layout.settleItems?, hnone]
      · rfl
      all_goals
        intro _ heq
        cases heq

/-- What is nested deeper than 126 cannot be fetched. -/
theorem fetched_nested {n : Nat} (h : 126 < n) (name : String) :
    fetched name (nested n) = .error (.decode "error decoding response body") := by
  have hread : Json.read? (Json.object [(name, nested n)]).text = none := by
    rw [Json.read?, ofText?_text, document?, documentFields?, documentFields?]
    cases hd : document? (nested n) with
    | none => rfl
    | some d =>
      show Layout.whole.settle? (126 + 1) (.object [(Reader.pieces name, d)]) = none
      rw [Layout.settle?, Layout.settleFields?, Layout.settleFields?, text?_pieces]
      simp [Layout.known?, settle?_nested h hd]
  rw [fetched_eq, hread]
  rfl

/-- A float that is read back as the one below it: its text is `3.1024966462791674`. -/
def fraction : Binary64 where
  negative := false
  mantissa := 6986201370050536
  exponent := -51

/-- The mantissa of a value that is a float. -/
def mantissa? : Json → Option Nat
  | .number (.double x) => some x.mantissa
  | _ => none

theorem fetched_fraction :
    fetched "logs" (.number (.double fraction)) ≠ .ok (some (.number (.double fraction))) := by
  have hread : (((Json.read? (Json.object [("logs", .number (.double fraction))]).text).bind
      (Json.get? "logs")).bind mantissa?) = some 6986201370050535 := by
    decide +kernel
  intro h
  rw [fetched_eq] at h
  cases hv : Json.read? (Json.object [("logs", .number (.double fraction))]).text with
  | none =>
    rw [hv] at hread
    cases hread
  | some v =>
    rw [hv] at h hread
    have hget : v.get? "logs" = some (.number (.double fraction)) := Except.ok.inj h
    rw [Option.bind_some, hget] at hread
    cases hread

end LoggingOperator.Management
