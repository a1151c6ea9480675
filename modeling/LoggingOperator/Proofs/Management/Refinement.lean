/-
  LoggingOperator.Proofs.Management.Refinement — THE API OVER HTTP AND IN MEMORY.

  Passes are tried out on a cluster held in memory, and run against one that is
  reached over HTTP.  If that one is a server of the management API and starts
  with the same contents, both answer alike and end with the same contents
  (`http_refines_memory`).

  One call is compared first (`mirrors_served`), with one case for each reply
  that a server may give.  The sequence follows by induction, the cluster having
  all along what the server keeps (`Mirrors`).

  They differ where a body does not come back as it was put, and where the
  address or a name in the path leads elsewhere (`http_differs_from_memory`).

  Main definitions:
    * `Mirrors`   — the cluster in memory has what the server keeps;
    * `overHttp`, `inMemory`  — the answers to a sequence of calls.
-/
import LoggingOperator.Management.Cluster
import LoggingOperator.Proofs.Management.Reply

namespace LoggingOperator.Management

open Http (Exchange Reply Url)
open Json

/-! ## §1. One call -/

namespace Cluster

theorem mem_tokens_addToken {c : Cluster} {id : TokenId} {text : String} :
    text ∈ (c.addToken id).tokens ↔ text = id.text ∨ text ∈ c.tokens := by
  unfold addToken
  split
  · next hissued =>
    have hmem : id.text ∈ c.tokens := List.contains_iff_mem.1 hissued
    exact ⟨Or.inr, fun h => h.elim (fun heq => heq ▸ hmem) fun h => h⟩
  · exact List.mem_cons

theorem mem_tokens_removeToken {c : Cluster} {id : TokenId} {text : String} :
    text ∈ (c.removeToken id).tokens ↔ text ∈ c.tokens ∧ text ≠ id.text := by
  simp [removeToken]

theorem body?_mapEntries_insert (c : Cluster) (kind k : EntryKind) (name n : String)
    (body : Json) : (c.mapEntries kind (Keyed.insert name body)).body? k n
      = if k = kind ∧ n = name then some body else c.body? k n := by
  cases kind <;> cases k <;>
    simp [body?, entries, mapEntries, Keyed.get?_insert, eq_comm]

theorem body?_mapEntries_erase (c : Cluster) (kind k : EntryKind) (name n : String) :
    (c.mapEntries kind (Keyed.erase name)).body? k n
      = if k = kind ∧ n = name then none else c.body? k n := by
  cases kind <;> cases k <;>
    simp [body?, entries, mapEntries, Keyed.get?_erase, eq_comm]

end Cluster

/-- A cluster in memory reports what the server reports, issues tokens with the same value, and
    has what the server keeps.  Tokens are compared as far as their names can stand in a path. -/
structure Mirrors (report : HealthReport) (value : String) (c : Contents) (cluster : Cluster) :
    Prop where
  health : cluster.health = .ok report
  token : cluster.token = .ok value
  entries : ∀ kind name, cluster.body? kind name = c.entries kind name
  tokens : ∀ id, (Resource.token id).Plain → (id.text ∈ cluster.tokens ↔ c.tokens id = true)

namespace Mirrors

variable {report : HealthReport} {value : String} {c : Contents} {cluster : Cluster}

theorem record (h : Mirrors report value c cluster) (endpoint : Endpoint) (call : Call) :
    Mirrors report value c (cluster.record endpoint call) := by
  refine ⟨h.health, h.token, fun kind name => ?_, h.tokens⟩
  rw [← h.entries kind name]
  cases kind <;> rfl

theorem hasToken (h : Mirrors report value c cluster) {id : TokenId}
    (hplain : (Resource.token id).Plain) : cluster.hasToken id = c.tokens id :=
  Bool.eq_iff_iff.2 (List.contains_iff_mem.trans (h.tokens id hplain))

/-- A token that is not issued is issued. -/
theorem issue_free (h : Mirrors report value c cluster) {id : TokenId}
    (hplain : (Resource.token id).Plain) (free : c.tokens id = false) :
    cluster.issue id = (.ok ⟨id.name, value⟩, cluster.addToken id) := by
  rw [Cluster.issue, h.token]
  show (if cluster.hasToken id then _ else _) = _
  rw [h.hasToken hplain, free]
  rfl

/-- One that is issued is not issued again. -/
theorem issue_taken (h : Mirrors report value c cluster) {id : TokenId}
    (hplain : (Resource.token id).Plain) (issued : c.tokens id = true) :
    cluster.issue id = (.error (.status 409 "version_conflict_engine_exception"), cluster) := by
  rw [Cluster.issue, h.token]
  show (if cluster.hasToken id then _ else _) = _
  rw [h.hasToken hplain, issued]
  rfl

theorem addToken (h : Mirrors report value c cluster) {id : TokenId}
    (hplain : (Resource.token id).Plain) :
    Mirrors report value (c.setToken id true) (cluster.addToken id) := by
  obtain ⟨tokens, hadded⟩ : ∃ tokens, cluster.addToken id = { cluster with tokens } := by
    unfold Cluster.addToken
    split
    · exact ⟨cluster.tokens, rfl⟩
    · exact ⟨_, rfl⟩
  refine ⟨by rw [hadded]; exact h.health, by rw [hadded]; exact h.token, fun kind name => ?_,
    fun id' hplain' => ?_⟩
  · rw [hadded]
    show _ = c.entries kind name
    rw [← h.entries kind name]
    cases kind <;> rfl
  · rw [Cluster.mem_tokens_addToken, TokenId.text_inj hplain' hplain, h.tokens id' hplain']
    show _ ↔ (if id' = id then true else c.tokens id') = true
    split <;> simp [*]

theorem removeToken (h : Mirrors report value c cluster) {id : TokenId}
    (hplain : (Resource.token id).Plain) :
    Mirrors report value (c.setToken id false) (cluster.removeToken id) := by
  refine ⟨h.health, h.token, fun kind name => ?_, fun id' hplain' => ?_⟩
  · show _ = c.entries kind name
    rw [← h.entries kind name]
    cases kind <;> rfl
  · rw [Cluster.mem_tokens_removeToken, Ne, TokenId.text_inj hplain' hplain, h.tokens id' hplain']
    show _ ↔ (if id' = id then false else c.tokens id') = true
    split <;> simp [*]

/-- A change to the entries of both sides, if it is the same. -/
theorem mapEntries (h : Mirrors report value c cluster) {kind : EntryKind} {name : String}
    {body : Option Json} {change : List (String × Json) → List (String × Json)}
    (hchange : ∀ k n, (cluster.mapEntries kind change).body? k n
      = if k = kind ∧ n = name then body else cluster.body? k n) :
    Mirrors report value (c.setEntry kind name body) (cluster.mapEntries kind change) := by
  have hframe : (cluster.mapEntries kind change).health = cluster.health
      ∧ (cluster.mapEntries kind change).token = cluster.token
      ∧ (cluster.mapEntries kind change).tokens = cluster.tokens := by
    cases kind <;> exact ⟨rfl, rfl, rfl⟩
  obtain ⟨hhealth, htoken, htokens⟩ := hframe
  refine ⟨hhealth.trans h.health, htoken.trans h.token, fun k n => ?_, fun id hplain => ?_⟩
  · rw [hchange, h.entries]
    rfl
  · rw [htokens]
    exact h.tokens id hplain

end Mirrors

/-- The answer of a cluster in memory as it arrives over HTTP: a body is fetched. -/
def arriving : (call : Call) → Except ManagementError call.Answer →
    Except ManagementError call.Answer
  | .get _ name, .ok (some body) => fetched name body
  | _, answer => answer

/-- An error without its texts. -/
def ManagementError.faded : ManagementError → ManagementError
  | .transport _ => .transport ""
  | .status code _ => .status code ""
  | .decode _ => .decode ""

/-- **One call**: what is read of the reply is what the cluster in memory answers, and
    afterwards that cluster still has what the server keeps. -/
theorem mirrors_served {report : HealthReport} {value : String} {c c' : Contents}
    {cluster : Cluster} {call : Call} {reply : Reply} (hmirrors : Mirrors report value c cluster)
    (hplain : call.resource.Plain) (h : Served report value c call reply c') :
    (read (some reply) call).mapError ManagementError.faded
        = (arriving call (cluster.act call).1).mapError ManagementError.faded
      ∧ Mirrors report value c' (cluster.act call).2 := by
  cases h with
  | health ok tells =>
    refine ⟨?_, hmirrors⟩
    show _ = Except.mapError _ cluster.health
    rw [read_health ok tells, hmirrors.health]
  | @issued id _ free ok tells =>
    have hact : cluster.act (.createToken id) = (.ok ⟨id.name, value⟩, cluster.addToken id) :=
      hmirrors.issue_free hplain free
    rw [hact, read_token ok tells]
    exact ⟨rfl, hmirrors.addToken hplain⟩
  | @taken id _ issued conflict =>
    have hact : cluster.act (.createToken id)
        = (.error (.status 409 "version_conflict_engine_exception"), cluster) :=
      hmirrors.issue_taken hplain issued
    rw [hact, read_taken conflict]
    exact ⟨rfl, hmirrors⟩
  | revoked gone =>
    refine ⟨?_, hmirrors.removeToken hplain⟩
    show Except.mapError _ (orAbsent () _) = _
    rw [orAbsent_success gone]
    rfl
  | @found kind name body _ stored ok tells =>
    refine ⟨?_, hmirrors⟩
    show _ = Except.mapError _ (arriving (.get kind name) (.ok (cluster.body? kind name)))
    rw [read_found ok tells, hmirrors.entries, stored]
    rfl
  | @absent kind name _ unset missing =>
    refine ⟨?_, hmirrors⟩
    show _ = Except.mapError _ (arriving (.get kind name) (.ok (cluster.body? kind name)))
    rw [read_absent missing, hmirrors.entries, unset]
    rfl
  | put ok =>
    refine ⟨?_, hmirrors.mapEntries fun k n => cluster.body?_mapEntries_insert _ k _ n _⟩
    rw [read_put ok]
    rfl
  | deleted gone =>
    refine ⟨?_, hmirrors.mapEntries fun k n => cluster.body?_mapEntries_erase _ k _ n⟩
    show Except.mapError _ (orAbsent () _) = _
    rw [orAbsent_success gone]
    rfl

/-! ## §2. A sequence of calls -/

/-- A call and what it was answered with. -/
structure Answered where
  call : Call
  answer : Except ManagementError call.Answer

namespace Answered

/-- As it arrives over HTTP. -/
def arriving (a : Answered) : Answered :=
  ⟨a.call, Management.arriving a.call a.answer⟩

/-- Was the call a success? -/
def isOk (a : Answered) : Bool :=
  a.answer.toOption.isSome

/-- Without the texts of errors. -/
def faded (a : Answered) : Answered :=
  ⟨a.call, a.answer.mapError ManagementError.faded⟩

end Answered

/-- The answers of a server to calls over HTTP, and its state afterwards. -/
def overHttp {σ : Type} (server : Exchange.Server σ) :
    List (Endpoint × Call) → σ → List Answered × σ
  | [], s => ([], s)
  | (endpoint, call) :: calls, s =>
    let replied := (exchange endpoint call).runOn server s
    let later := overHttp server calls replied.2
    (⟨call, replied.1⟩ :: later.1, later.2)

/-- The answers of a cluster in memory, and the cluster afterwards. -/
def inMemory : List (Endpoint × Call) → Cluster → List Answered × Cluster
  | [], cluster => ([], cluster)
  | (endpoint, call) :: calls, cluster =>
    let answered := cluster.answer endpoint call
    let later := inMemory calls answered.2
    (⟨call, answered.1⟩ :: later.1, later.2)

section Run

variable {σ : Type} {server : Exchange.Server σ} {root value : String} {report : HealthReport}
  {view : σ → Contents}

/-- A call over HTTP is answered with what is read of a reply that a server may give. -/
theorem runOn_exchange (hserver : Serves server root report value view) {endpoint : Endpoint}
    {call : Call} (hreaches : endpoint.Reaches root) (hplain : call.resource.Plain) (s : σ) :
    ∃ reply, ((exchange endpoint call).runOn server s).1 = read (some reply) call
      ∧ Served report value (view s) call reply
          (view ((exchange endpoint call).runOn server s).2) := by
  obtain ⟨authorization, hrequest⟩ := request?_of_reaches hreaches hplain
  obtain ⟨reply, hreply, hserved⟩ := hserver call {
    method := call.method
    target := root ++ call.path
    authorization
    body := call.body? } s hplain rfl rfl rfl
  refine ⟨reply, ?_, ?_⟩
  · rw [exchange, hrequest]
    show read (server _ s).1 call = _
    rw [hreply]
  · rw [exchange, hrequest]
    exact hserved

/-- **A sequence of calls**, by induction: the cluster has all along what the server keeps. -/
theorem mirrors_overHttp (hserver : Serves server root report value view)
    {calls : List (Endpoint × Call)} (hcalls : ∀ p ∈ calls, p.1.Reaches root ∧ p.2.resource.Plain)
    {s : σ} {cluster : Cluster} (hmirrors : Mirrors report value (view s) cluster) :
    (overHttp server calls s).1.map Answered.faded
        = (inMemory calls cluster).1.map (fun a => a.arriving.faded)
      ∧ Mirrors report value (view (overHttp server calls s).2) (inMemory calls cluster).2 := by
  induction calls generalizing s cluster with
  | nil => exact ⟨rfl, hmirrors⟩
  | cons p calls ih =>
    obtain ⟨endpoint, call⟩ := p
    obtain ⟨hreaches, hplain⟩ := hcalls (endpoint, call) List.mem_cons_self
    obtain ⟨reply, hread, hserved⟩ := runOn_exchange hserver hreaches hplain s
    obtain ⟨hanswer, hnext⟩ := mirrors_served (hmirrors.record endpoint call) hplain hserved
    obtain ⟨hlater, hlast⟩ := ih (fun q hq => hcalls q (List.mem_cons_of_mem _ hq)) hnext
    refine ⟨?_, hlast⟩
    have hfirst : Answered.faded ⟨call, ((exchange endpoint call).runOn server s).1⟩
        = (Answered.mk call (cluster.answer endpoint call).1).arriving.faded := by
      rw [hread]
      exact congrArg (Answered.mk call) hanswer
    exact List.cons_eq_cons.2 ⟨hfirst, hlater⟩

end Run

/-! ## §3. The refinement -/

/-- A cluster with nothing in it. -/
def blank : Cluster where
  health := .ok ⟨"green", 1⟩
  token := .ok "value"

theorem mirrors_blank : Mirrors ⟨"green", 1⟩ "value" {} blank where
  health := rfl
  token := rfl
  entries := fun kind _ => by cases kind <;> rfl
  tokens := fun _ _ => iff_of_false List.not_mem_nil Bool.false_ne_true

/-- The address of a server. -/
def es : Endpoint where
  base := "http://es:9200"

/-- The same with a slash at its end. -/
def esSlash : Endpoint :=
  { es with base := es.base ++ "/" }

theorem reaches_es : es.Reaches "" := by
  have hclean : es.base.toList.all (fun c => c != '?' && c != '#') = true := by decide +kernel
  refine ⟨fun c hc => ?_, by decide +kernel⟩
  simpa using List.all_eq_true.1 hclean c hc

/-- Putting a body and fetching it again. -/
def putAndGet (body : Json) : List (Endpoint × Call) :=
  [(esSlash, .put .template "logs" body), (es, .get .template "logs")]

theorem reaches_putAndGet (body : Json) :
    ∀ p ∈ putAndGet body, p.1.Reaches "" ∧ p.2.resource.Plain := by
  have hplain : (Resource.entry .template "logs").Plain := by decide +kernel
  intro p hp
  rcases List.mem_cons.1 hp with rfl | hp
  · exact ⟨Endpoint.reaches_slash.2 reaches_es, hplain⟩
  · obtain rfl := List.mem_singleton.1 hp
    exact ⟨reaches_es, hplain⟩

/-- A token is asked for twice and taken back, an entry is looked for and deleted, and the
    cluster is asked how it is. -/
def tokenTwice : List (Endpoint × Call) :=
  [(es, .createToken ⟨"elastic", "kibana", "sa"⟩),
    (esSlash, .createToken ⟨"elastic", "kibana", "sa"⟩),
    (es, .deleteToken ⟨"elastic", "kibana", "sa"⟩), (es, .get .policy "daily"),
    (esSlash, .delete .policy "daily"), (es, .health)]

theorem reaches_tokenTwice : ∀ p ∈ tokenTwice, p.1.Reaches "" ∧ p.2.resource.Plain := by
  have haddress : ∀ p ∈ tokenTwice, p.1 = es ∨ p.1 = esSlash := by decide +kernel
  have hplain : ∀ p ∈ tokenTwice, p.2.resource.Plain := by decide +kernel
  intro p hp
  refine ⟨?_, hplain p hp⟩
  rcases haddress p hp with heq | heq
  · exact heq ▸ reaches_es
  · exact heq ▸ Endpoint.reaches_slash.2 reaches_es

section Refinement

variable {σ : Type} {server : Exchange.Server σ} {root value : String} {report : HealthReport}
  {view : σ → Contents}

/-- **The API over HTTP does what a cluster in memory does.**  Any calls to a server that starts
    with the contents of the cluster are answered as by the cluster, and leave both with the same
    contents.  The address has to lead to the server, with any slashes at its end, and the names
    have to stand in a path as they are.  A body is answered as it is fetched: that is the body
    itself if it has no fractions and is nested at most 126 deep, and otherwise one of the same
    shape, or an error. -/
theorem http_refines_memory (hserver : Serves server root report value view)
    (calls : List (Endpoint × Call)) (hcalls : ∀ p ∈ calls, p.1.Reaches root ∧ p.2.resource.Plain)
    {s : σ} {cluster : Cluster} (hmirrors : Mirrors report value (view s) cluster) :
    (overHttp server calls s).1.map Answered.faded
        = (inMemory calls cluster).1.map (fun a => a.arriving.faded)
      ∧ Mirrors report value (view (overHttp server calls s).2) (inMemory calls cluster).2
      ∧ (∀ name (body : Json), body.Canonical → body.Exact 126 →
          fetched name body = .ok (some body))
      ∧ ∀ name (body : Json), body.Canonical →
          (∃ w, fetched name body = .ok (some w) ∧ SameShape w body)
            ∨ ∃ message, fetched name body = .error (.decode message) := by
  obtain ⟨hanswers, hlast⟩ := mirrors_overHttp hserver hcalls hmirrors
  exact ⟨hanswers, hlast, fun _ _ => fetched_of_exact, fun name _ => fetched_sameShape name⟩

end Refinement

theorem http_refines_memory_es :
    Serves (serve "" ⟨"green", 1⟩ "value") "" ⟨"green", 1⟩ "value" id
      ∧ Mirrors ⟨"green", 1⟩ "value" {} blank
      ∧ (∀ p ∈ putAndGet (.string "body") ++ tokenTwice, p.1.Reaches "" ∧ p.2.resource.Plain)
      ∧ (overHttp (serve "" ⟨"green", 1⟩ "value") (putAndGet (.string "body") ++ tokenTwice)
            {}).1.map Answered.faded
          = (inMemory (putAndGet (.string "body") ++ tokenTwice) blank).1.map
              (fun a => a.arriving.faded)
      ∧ (inMemory (putAndGet (.string "body") ++ tokenTwice) blank).1.map Answered.isOk
          = [true, true, true, false, true, true, true, true]
      ∧ fetched "logs" (.string "body") = .ok (some (.string "body")) := by
  have hcalls : ∀ p ∈ putAndGet (.string "body") ++ tokenTwice,
      p.1.Reaches "" ∧ p.2.resource.Plain :=
    List.forall_mem_append.2 ⟨reaches_putAndGet _, reaches_tokenTwice⟩
  have hrefines := http_refines_memory (serves_serve "" ⟨"green", 1⟩ "value") _ hcalls mirrors_blank
  exact ⟨serves_serve _ _ _, mirrors_blank, hcalls, hrefines.1, by decide +kernel,
    hrefines.2.2.1 "logs" _ trivial trivial⟩

/-! ## §4. Where they differ -/

/-- The calls are answered differently by a server and by a cluster that both start with nothing. -/
def Differ (calls : List (Endpoint × Call)) : Prop :=
  (overHttp (serve "" ⟨"green", 1⟩ "value") calls {}).1.map Answered.faded
    ≠ (inMemory calls blank).1.map Answered.faded

theorem differ_of_isOk {calls : List (Endpoint × Call)}
    (h : ((overHttp (serve "" ⟨"green", 1⟩ "value") calls {}).1.map Answered.faded).map
        Answered.isOk ≠ ((inMemory calls blank).1.map Answered.faded).map Answered.isOk) :
    Differ calls :=
  fun hsame => h (congrArg _ hsame)

/-- A body that is not fetched as it is makes a difference. -/
theorem differ_of_fetched {body : Json} (h : fetched "logs" body ≠ .ok (some body)) :
    Differ (putAndGet body) := by
  intro hsame
  rw [(mirrors_overHttp (serves_serve "" ⟨"green", 1⟩ "value") (reaches_putAndGet body)
    mirrors_blank).1] at hsame
  obtain ⟨-, htail⟩ := List.cons_eq_cons.1 hsame
  obtain ⟨hget, -⟩ := List.cons_eq_cons.1 htail
  have hanswer : (fetched "logs" body).mapError ManagementError.faded = .ok (some body) :=
    eq_of_heq (Answered.mk.inj hget).2
  cases hfetched : fetched "logs" body with
  | ok found =>
    rw [hfetched] at hanswer
    exact h (hfetched.trans hanswer)
  | error e =>
    rw [hfetched] at hanswer
    cases hanswer

/-- **Where they differ**: if the address is no address, or has a query or a fragment that takes
    up the path; if a name holds a slash, even if it is only that of the account; if a body is
    nested too deep; and if it has a fraction that is not read back. -/
theorem http_differs_from_memory :
    Serves (serve "" ⟨"green", 1⟩ "value") "" ⟨"green", 1⟩ "value" id
      ∧ Mirrors ⟨"green", 1⟩ "value" {} blank
      ∧ (Resource.entry .template "logs").Plain
      ∧ (Url.Plain "kibana".toList ∧ Url.Plain "sa".toList)
      ∧ Differ [({ base := "es:9200" }, .delete .template "logs")]
      ∧ Differ [({ base := "http://es:9200/?pretty" }, .put .template "logs" .null)]
      ∧ Differ [({ base := "http://es:9200/#logs" }, .put .template "logs" .null)]
      ∧ Differ [(es, .createToken ⟨"elastic/x", "kibana", "sa"⟩)]
      ∧ Differ (putAndGet (nested 127))
      ∧ Differ (putAndGet (.number (.double fraction))) := by
  refine ⟨serves_serve _ _ _, mirrors_blank, by decide +kernel, by decide +kernel,
    differ_of_isOk (by decide +kernel), differ_of_isOk (by decide +kernel),
    differ_of_isOk (by decide +kernel), differ_of_isOk (by decide +kernel),
    differ_of_fetched ?_, differ_of_fetched fetched_fraction⟩
  rw [fetched_nested (by decide)]
  exact nofun

end LoggingOperator.Management
