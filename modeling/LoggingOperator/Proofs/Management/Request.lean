/-
  LoggingOperator.Proofs.Management.Request — THE REQUEST FOR A CALL, AND BACK.

  A call is about a resource: the health of the cluster, a token, or an entry.
  Its request names the resource by a path, under the root that the address of
  the cluster leads to.  If the names of the resource can stand in a path as
  they are, the path arrives as it was meant (`request?_of_reaches`), and method,
  path and body tell the call (`asked?_request`).

  Main definitions:
    * `Resource`           — what a call is about;
    * `Endpoint.Reaches`   — the root that an address leads to;
    * `Call.asked?`        — the call that a request is for.
-/
import LoggingOperator.Management.Remote
import LoggingOperator.Proofs.Http.Url

namespace LoggingOperator.Management

open Http (Method Request Url)

/-! ## §1. Resources -/

/-- What a call is about. -/
inductive Resource where
  | health
  | token (id : TokenId)
  | entry (kind : EntryKind) (name : String)
deriving DecidableEq

namespace Resource

/-- The names that tell it from others of its kind. -/
def names : Resource → List String
  | health => []
  | token id => [id.account, id.service, id.name]
  | entry _ name => [name]

/-- The names can stand in a path as they are. -/
def Plain (resource : Resource) : Prop :=
  ∀ name ∈ resource.names, Url.Plain name.toList

instance (resource : Resource) : Decidable resource.Plain :=
  inferInstanceAs (Decidable (∀ name ∈ resource.names, Url.Plain name.toList))

/-- The segments of its path. -/
def segments : Resource → List String
  | health => ["_cluster", "health"]
  | token id =>
    ["_security", "service", id.account, id.service, "credential", "token", id.name]
  | entry .template name => ["_template", name]
  | entry .policy name => ["_ilm", "policy", name]

/-- The resource with these segments. -/
def ofSegments? : List String → Option Resource
  | ["_cluster", "health"] => some health
  | ["_security", "service", account, service, "credential", "token", name] =>
    some (token ⟨account, service, name⟩)
  | ["_template", name] => some (entry .template name)
  | ["_ilm", "policy", name] => some (entry .policy name)
  | _ => none

theorem ofSegments?_segments (resource : Resource) :
    ofSegments? resource.segments = some resource := by
  rcases resource with _ | id | ⟨kind, name⟩
  · rfl
  · rfl
  · cases kind <;> rfl

theorem segments_ne_nil (resource : Resource) : resource.segments ≠ [] := by
  rcases resource with _ | id | ⟨kind, name⟩
  · exact List.cons_ne_nil _ _
  · exact List.cons_ne_nil _ _
  · cases kind <;> exact List.cons_ne_nil _ _

/-- The words around the names can stand in a path, too. -/
theorem Plain.segments {resource : Resource} (h : resource.Plain) :
    ∀ s ∈ resource.segments, Url.Plain s.toList := by
  have hwords : ∀ s ∈ ["_cluster", "health", "_security", "service", "credential", "token",
      "_template", "_ilm", "policy"], Url.Plain s.toList := by
    decide +kernel
  have hsplit : ∀ s ∈ resource.segments, s ∈ resource.names ∨ s ∈ ["_cluster", "health",
      "_security", "service", "credential", "token", "_template", "_ilm", "policy"] := by
    rcases resource with _ | id | ⟨_ | _, name⟩ <;> simp [Resource.segments, names]
  intro s hs
  exact (hsplit s hs).elim (h s) (hwords s)

end Resource

/-- The text of a token is a path without its first slash. -/
theorem TokenId.segments_text {id : TokenId} (h : (Resource.token id).Plain) :
    Url.segments id.text.toList = [id.account.toList, id.service.toList, id.name.toList] := by
  have haccount : Url.Plain id.account.toList := h _ List.mem_cons_self
  have hservice : Url.Plain id.service.toList := h _ (List.mem_cons_of_mem _ List.mem_cons_self)
  have hname : Url.Plain id.name.toList :=
    h _ (List.mem_cons_of_mem _ (List.mem_cons_of_mem _ List.mem_cons_self))
  have htext : id.text.toList
      = id.account.toList ++ Url.pathOf [id.service.toList, id.name.toList] := by
    show (id.account ++ "/" ++ id.service ++ "/" ++ id.name).toList = _
    simp [Url.pathOf]
  rw [htext, Url.segments_pathOf haccount]
  intro s hs
  rcases List.mem_cons.1 hs with rfl | hs
  · exact hservice
  · exact List.mem_singleton.1 hs ▸ hname

/-- So tokens with such names are told apart by their texts. -/
theorem TokenId.text_inj {id id' : TokenId} (h : (Resource.token id).Plain)
    (h' : (Resource.token id').Plain) : id.text = id'.text ↔ id = id' := by
  refine ⟨fun htext => ?_, congrArg text⟩
  have hsegments := segments_text h
  rw [htext, segments_text h'] at hsegments
  obtain ⟨account, service, name⟩ := id
  obtain ⟨account', service', name'⟩ := id'
  simpa [String.toList_inj, eq_comm] using hsegments

/-! ## §2. The resource of a call -/

namespace Call

/-- What a call is about. -/
def resource : Call → Resource
  | .health => .health
  | .createToken id | .deleteToken id => .token id
  | .get kind name | .put kind name _ | .delete kind name => .entry kind name

/-- The call that does something with a resource. -/
def ofResource? : Method → Option Json → Resource → Option Call
  | .get, none, .health => some .health
  | .post, none, .token id => some (.createToken id)
  | .delete, none, .token id => some (.deleteToken id)
  | .get, none, .entry kind name => some (.get kind name)
  | .put, some body, .entry kind name => some (.put kind name body)
  | .delete, none, .entry kind name => some (.delete kind name)
  | _, _, _ => none

theorem ofResource?_resource (call : Call) :
    ofResource? call.method call.body? call.resource = some call := by
  cases call <;> rfl

/-- The path of a call names its resource. -/
theorem toList_path (call : Call) :
    call.path.toList = Url.pathOf (call.resource.segments.map String.toList) := by
  cases call with
  | health => simp [path, resource, Resource.segments, Url.pathOf]
  | createToken id | deleteToken id =>
    show ("/_security/service/" ++ id.account ++ "/" ++ id.service ++ "/credential/token/"
      ++ id.name).toList = _
    simp [resource, Resource.segments, Url.pathOf]
  | get kind name | put kind name _ | delete kind name =>
    cases kind with
    | template =>
      show ("/_template/" ++ name).toList = _
      simp [resource, Resource.segments, Url.pathOf]
    | policy =>
      show ("/_ilm/policy/" ++ name).toList = _
      simp [resource, Resource.segments, Url.pathOf]

/-- The segments of its resource are those of a path, the first one not empty. -/
theorem exists_toList_path {call : Call} (h : call.resource.Plain) :
    ∃ s rest, call.resource.segments.map String.toList = s :: rest ∧ Url.Plain s
      ∧ (∀ t ∈ rest, Url.Plain t) ∧ call.path.toList = '/' :: (s ++ Url.pathOf rest) := by
  obtain ⟨s, rest, hsegments⟩ := List.exists_cons_of_ne_nil call.resource.segments_ne_nil
  have hplain := h.segments
  rw [hsegments] at hplain
  refine ⟨s.toList, rest.map String.toList, by rw [hsegments]; rfl, hplain s List.mem_cons_self,
    fun t ht => ?_, by rw [toList_path, hsegments]; rfl⟩
  obtain ⟨t, hmem, rfl⟩ := List.mem_map.1 ht
  exact hplain t (List.mem_cons_of_mem s hmem)

/-- The call that a request is for, on a server with this root. -/
def asked? (root : String) (request : Request) : Option Call :=
  if root.toList <+: request.target.toList then
    let path := request.target.toList.drop root.toList.length
    (Resource.ofSegments? ((Url.segments (path.drop 1)).map String.ofList)).bind
      (ofResource? request.method request.body)
  else none

/-- **Method, path and body tell the call.** -/
theorem asked?_request {call : Call} (h : call.resource.Plain) {root : String} {request : Request}
    (hmethod : request.method = call.method) (htarget : request.target = root ++ call.path)
    (hbody : request.body = call.body?) : asked? root request = some call := by
  obtain ⟨s, rest, hsegments, hs, hrest, hpath⟩ := exists_toList_path h
  have hnames : (s :: rest).map String.ofList = call.resource.segments := by
    rw [← hsegments, List.map_map]
    simp
  rw [asked?, hmethod, htarget, hbody, String.toList_append, if_pos (List.prefix_append _ _)]
  simp only [List.drop_left]
  rw [hpath, List.drop_succ_cons, List.drop_zero, Url.segments_pathOf hs hrest, hnames,
    Resource.ofSegments?_segments]
  exact ofResource?_resource call

end Call

/-! ## §3. The target of a request -/

namespace Endpoint

variable {endpoint : Endpoint} {root : String}

/-- The address of a cluster leads to the paths under a root.  It has neither
    query nor fragment; whether it ends in slashes does not matter. -/
structure Reaches (endpoint : Endpoint) (root : String) : Prop where
  clean : ∀ c ∈ endpoint.base.toList, c ≠ '?' ∧ c ≠ '#'
  target : (Url.ofText? (endpoint.url "")).map (·.target) = some (root ++ "/")

/-- The address without the slashes at its end. -/
def trunk (endpoint : Endpoint) : List Char :=
  (endpoint.base.toList.reverse.dropWhile (· == '/')).reverse

theorem Reaches.trunk_clean (h : endpoint.Reaches root) : ∀ c ∈ endpoint.trunk, c ≠ '?' ∧ c ≠ '#' :=
  fun c hc => h.clean c (List.mem_reverse.1 ((List.dropWhile_suffix _).mem (List.mem_reverse.1 hc)))

/-- **A slash more or less at the end** of an address does not matter. -/
theorem reaches_slash :
    Reaches { endpoint with base := endpoint.base ++ "/" } root ↔ endpoint.Reaches root := by
  have hurl : Endpoint.url { endpoint with base := endpoint.base ++ "/" } "" = endpoint.url "" := by
    simp [url]
  constructor
  · rintro ⟨hclean, htarget⟩
    refine ⟨fun c hc => hclean c ?_, hurl ▸ htarget⟩
    rw [String.toList_append]
    exact List.mem_append_left _ hc
  · rintro ⟨hclean, htarget⟩
    refine ⟨fun c hc => ?_, hurl.symm ▸ htarget⟩
    rw [String.toList_append] at hc
    rcases List.mem_append.1 hc with hc | hc
    · exact hclean c hc
    · obtain rfl : c = '/' := by simpa using hc
      decide

/-- The address of a path that starts with one slash. -/
theorem url_of_path {path : String} {s rest : List Char} (hs : Url.Plain s)
    (hpath : path.toList = '/' :: (s ++ rest)) :
    endpoint.url path = String.ofList (endpoint.trunk ++ path.toList) := by
  obtain ⟨c, cs, rfl⟩ := List.exists_cons_of_ne_nil hs.ne_nil
  have hslash : (c == '/') = false := by
    have hinert := (hs.inert List.mem_cons_self).isSlash_eq
    simp only [Url.isSlash, Bool.or_eq_false_iff] at hinert
    exact hinert.1
  have hdrop : path.toList.dropWhile (· == '/') = c :: cs ++ rest := by
    rw [hpath, List.dropWhile_cons_of_pos rfl, List.cons_append,
      List.dropWhile_cons_of_neg (by rw [hslash]; exact Bool.false_ne_true)]
  rw [url, hdrop, hpath]
  rfl

end Endpoint

/-- **The path of a call arrives as it was meant**, whoever it is sent as. -/
theorem request?_of_reaches {endpoint : Endpoint} {root : String} {call : Call}
    (h : endpoint.Reaches root) (hplain : call.resource.Plain) :
    ∃ authorization, request? endpoint call = some {
      method := call.method
      target := root ++ call.path
      authorization
      body := call.body? } := by
  obtain ⟨s, rest, -, hs, hrest, hpath⟩ := Call.exists_toList_path hplain
  obtain ⟨u, hu, htarget⟩ := Option.map_eq_some_iff.1 h.target
  obtain ⟨root', hroot, hbehind⟩ := Url.ofText?_behind h.trunk_clean (u := u) hu
  have heq : root' = root.toList := by
    rw [hroot] at htarget
    have hlists := congrArg String.toList htarget
    rw [String.toList_ofList, String.toList_append] at hlists
    exact List.append_cancel_right hlists
  subst heq
  have hsegments : '/' :: (s ++ Url.pathOf rest) = Url.pathOf (s :: rest) := rfl
  have hsent := hbehind (s :: rest) (List.cons_ne_nil s rest) fun t ht =>
    (List.mem_cons.1 ht).elim (fun heq => heq ▸ hs) (hrest t)
  refine ⟨u.authorization <|> endpoint.authorization, ?_⟩
  rw [request?, endpoint.url_of_path hs hpath, hpath, hsegments, hsent, ← hsegments, ← hpath,
    ← String.toList_append, String.ofList_toList]
  rfl

/-- A name and a password in the address go into the header, not into the path. -/
example : request? { base := "http://elastic:secret@es:9200/" } .health = some {
    method := .get, target := "/_cluster/health"
    authorization := some "Basic ZWxhc3RpYzpzZWNyZXQ=" } := by
  decide +kernel

end LoggingOperator.Management
