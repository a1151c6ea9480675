/-
  LoggingOperator.Proofs.Management.Server — WHAT A SERVER OF THE API DOES.

  A server of the management API keeps templates, policies and tokens.  `Served`
  tells which reply it may give to a call and what it keeps afterwards.  An entry
  is sent wrapped under its name, a token is not issued twice, and a deletion
  may tell whether there was anything to delete.  How a text is spelled, and
  what else a report holds, is left to the server.

  Main definitions:
    * `Contents`  — what a server keeps;
    * `Served`    — a call, the reply to it, and what is kept afterwards;
    * `Serves`    — a server all of whose replies are such;
    * `serve`     — a server that keeps its contents and nothing else.
-/
import LoggingOperator.Proofs.Json.Exact
import LoggingOperator.Proofs.Management.Request

namespace LoggingOperator.Management

open Http (Exchange Reply Request)
open Json

/-! ## §1. Contents -/

/-- What a server keeps: the bodies of entries, and which tokens are issued. -/
structure Contents where
  entries : EntryKind → String → Option Json := fun _ _ => none
  tokens : TokenId → Bool := fun _ => false

namespace Contents

/-- Keep this body under a name, or none. -/
def setEntry (c : Contents) (kind : EntryKind) (name : String) (body : Option Json) : Contents :=
  { c with entries := fun k n => if k = kind ∧ n = name then body else c.entries k n }

/-- Count a token as issued, or as not issued. -/
def setToken (c : Contents) (id : TokenId) (issued : Bool) : Contents :=
  { c with tokens := fun i => if i = id then issued else c.tokens i }

end Contents

/-! ## §2. Replies -/

/-- The text is read as the text of this value is. -/
def Tells (text : String) (v : Json) : Prop :=
  Document.ofText? text = Document.ofText? v.text

/-- The text is that of an object with these fields, and maybe with others. -/
def TellsFields (text : String) (known : List (String × Json)) : Prop :=
  ∃ fields, (Json.object fields).Canonical ∧ Tells text (.object fields)
    ∧ (Document.ofText? text).isSome = true
    ∧ ∀ field ∈ known, Keyed.get? field.1 fields = some field.2

/-- The fields of a report. -/
def HealthReport.fields (report : HealthReport) : List (String × Json) :=
  [("active_shards", int64 report.activeShards), ("status", .string report.colour)]

/-- The fields of a token that is told. -/
def ServiceToken.fields (token : ServiceToken) : List (String × Json) :=
  [("name", .string token.name), ("value", .string token.value)]

/-- A server that keeps `c`, reports `report` and issues tokens with `value` may give this reply
    to the call, and keep the last contents afterwards. -/
inductive Served (report : HealthReport) (value : String) (c : Contents) :
    Call → Reply → Contents → Prop
  | health {reply : Reply} (ok : reply.status = 200)
    (tells : TellsFields reply.body report.fields) : Served report value c .health reply c
  | issued {id : TokenId} {reply : Reply} (free : c.tokens id = false) (ok : reply.status = 200)
    (tells : TellsFields reply.body [("token", .object (ServiceToken.fields ⟨id.name, value⟩))]) :
    Served report value c (.createToken id) reply (c.setToken id true)
  | taken {id : TokenId} {reply : Reply} (issued : c.tokens id = true)
    (conflict : reply.status = 409) : Served report value c (.createToken id) reply c
  | revoked {id : TokenId} {reply : Reply} (gone : reply.status = 200 ∨ reply.status = 404) :
    Served report value c (.deleteToken id) reply (c.setToken id false)
  | found {kind : EntryKind} {name : String} {body : Json} {reply : Reply}
    (stored : c.entries kind name = some body) (ok : reply.status = 200)
    (tells : Tells reply.body (.object [(name, body)])) :
    Served report value c (.get kind name) reply c
  | absent {kind : EntryKind} {name : String} {reply : Reply}
    (unset : c.entries kind name = none) (missing : reply.status = 404) :
    Served report value c (.get kind name) reply c
  | put {kind : EntryKind} {name : String} {body : Json} {reply : Reply}
    (ok : reply.status = 200) :
    Served report value c (.put kind name body) reply (c.setEntry kind name (some body))
  | deleted {kind : EntryKind} {name : String} {reply : Reply}
    (gone : reply.status = 200 ∨ reply.status = 404) :
    Served report value c (.delete kind name) reply (c.setEntry kind name none)

/-- A server whose state `s` keeps `view s` serves every call that comes as a
    request under its root. -/
def Serves {σ : Type} (server : Exchange.Server σ) (root : String) (report : HealthReport)
    (value : String) (view : σ → Contents) : Prop :=
  ∀ (call : Call) (request : Request) (s : σ), call.resource.Plain →
    request.method = call.method → request.target = root ++ call.path →
    request.body = call.body? →
    ∃ reply, (server request s).1 = some reply
      ∧ Served report value (view s) call reply (view (server request s).2)

/-! ## §3. A server -/

/-- What a server makes of a request. -/
inductive Verdict where
  | done
  | missing
  | conflict

namespace Verdict

/-- The status that says so. -/
def status : Verdict → UInt16
  | .done => 200
  | .missing => 404
  | .conflict => 409

theorem status_range (verdict : Verdict) : 100 ≤ verdict.status ∧ verdict.status < 1000 := by
  cases verdict <;> decide

/-- The reply that says so. -/
def reply (verdict : Verdict) (body : String) : Reply :=
  ⟨verdict.status, body, verdict.status_range⟩

end Verdict

/-- A success, with a value. -/
def replyOk (v : Json) : Reply :=
  Verdict.done.reply v.text

/-- There is no such thing. -/
def replyMissing : Reply :=
  Verdict.missing.reply ""

/-- There is such a thing already. -/
def replyConflict : Reply :=
  Verdict.conflict.reply ""

/-- The reply of a server that tells what it does not find. -/
def Contents.reply (c : Contents) (report : HealthReport) (value : String) : Call → Reply
  | .health => replyOk (.object report.fields)
  | .createToken id =>
    if c.tokens id then replyConflict
    else replyOk (.object [("token", .object (ServiceToken.fields ⟨id.name, value⟩))])
  | .deleteToken id => if c.tokens id then replyOk .empty else replyMissing
  | .get kind name =>
    match c.entries kind name with
    | some body => replyOk (.object [(name, body)])
    | none => replyMissing
  | .put .. => replyOk .empty
  | .delete kind name => if (c.entries kind name).isSome then replyOk .empty else replyMissing

/-- What it keeps afterwards. -/
def Contents.after (c : Contents) : Call → Contents
  | .health | .get .. => c
  | .createToken id => c.setToken id true
  | .deleteToken id => c.setToken id false
  | .put kind name body => c.setEntry kind name (some body)
  | .delete kind name => c.setEntry kind name none

/-- A server that keeps its contents and nothing else.  What is no call is not found. -/
def serve (root : String) (report : HealthReport) (value : String) : Exchange.Server Contents :=
  fun request c =>
    match Call.asked? root request with
    | some call => (some (c.reply report value call), c.after call)
    | none => (some replyMissing, c)

/-- The text of an object without floats tells its fields. -/
theorem tellsFields_text {fields : List (String × Json)}
    (hcanonical : (Json.object fields).Canonical)
    (hexact : (Json.object fields).Exact Document.maxDepth) :
    TellsFields (Json.object fields).text fields := by
  obtain ⟨d, hd, -⟩ := settle?_document _ Document.maxDepth hcanonical hexact
  refine ⟨fields, hcanonical, rfl, by rw [ofText?_text, hd]; rfl, fun field hfield => ?_⟩
  exact hcanonical.sorted.get?_of_mem hfield

/-- Two fields in key order are an object. -/
theorem canonical_pair {k k' : String} {v v' : Json} (hlt : k < k') (hv : v.Canonical)
    (hv' : v'.Canonical) : (Json.object [(k, v), (k', v')]).Canonical := by
  refine canonical_object.2 ⟨?_, ?_⟩
  · exact List.pairwise_pair.2 hlt
  · simpa using ⟨hv, hv'⟩

theorem tellsFields_health (report : HealthReport) :
    TellsFields (Json.object report.fields).text report.fields :=
  tellsFields_text (canonical_pair (by decide) trivial trivial)
    ⟨126, rfl, trivial, trivial, trivial⟩

theorem ServiceToken.canonical_fields (token : ServiceToken) :
    (Json.object token.fields).Canonical :=
  canonical_pair (by decide) trivial trivial

theorem tellsFields_token (token : ServiceToken) :
    TellsFields (Json.object [("token", .object token.fields)]).text
      [("token", .object token.fields)] := by
  refine tellsFields_text (canonical_object.2 ⟨List.pairwise_singleton _ _, ?_⟩)
    ⟨126, rfl, ⟨125, rfl, trivial, trivial, trivial⟩, trivial⟩
  simpa using token.canonical_fields

theorem Contents.setToken_self {c : Contents} {id : TokenId} {issued : Bool}
    (h : c.tokens id = issued) : c.setToken id issued = c := by
  have htokens : (fun i => if i = id then issued else c.tokens i) = c.tokens := by
    funext i
    split
    · next heq => rw [heq, h]
    · rfl
  rw [setToken, htokens]

theorem served_reply (report : HealthReport) (value : String) (c : Contents) (call : Call) :
    Served report value c call (c.reply report value call) (c.after call) := by
  cases call with
  | health => exact .health rfl (tellsFields_health report)
  | createToken id =>
    show Served report value c _ (if c.tokens id then _ else _) (c.setToken id true)
    split
    · next hissued =>
      rw [Contents.setToken_self hissued]
      exact .taken hissued rfl
    · next hfree => exact .issued (Bool.eq_false_iff.2 hfree) rfl (tellsFields_token _)
  | deleteToken id =>
    show Served report value c _ (if c.tokens id then _ else _) _
    split
    · exact .revoked (Or.inl rfl)
    · exact .revoked (Or.inr rfl)
  | get kind name =>
    cases hstored : c.entries kind name with
    | some body =>
      rw [Contents.reply, hstored]
      exact .found hstored rfl rfl
    | none =>
      rw [Contents.reply, hstored]
      exact .absent hstored rfl
  | put kind name body => exact .put rfl
  | delete kind name =>
    show Served report value c _ (if (c.entries kind name).isSome then _ else _) _
    split
    · exact .deleted (Or.inl rfl)
    · exact .deleted (Or.inr rfl)

/-- **It is a server of the management API.** -/
theorem serves_serve (root : String) (report : HealthReport) (value : String) :
    Serves (serve root report value) root report value id := by
  intro call request c hplain hmethod htarget hbody
  have hasked : Call.asked? root request = some call :=
    Call.asked?_request hplain hmethod htarget hbody
  refine ⟨c.reply report value call, ?_, ?_⟩
  · rw [serve, hasked]
  · rw [serve, hasked]
    exact served_reply report value c call

end LoggingOperator.Management
