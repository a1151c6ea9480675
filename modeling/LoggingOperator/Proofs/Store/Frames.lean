/-
  LoggingOperator.Proofs.Store.Frames — WHAT AN OPERATION LEAVES ALONE.

  Whatever is done to a store in memory, and however often, every operation
  has a frame (`Framed`): it reaches no further than the object under its own
  key, an update does not reach the status and the identity of that object,
  and a status write reaches nothing else than its status and its version.
  An operation that is refused leaves all objects and all counters as they
  were, whyever it was refused.

  Main results:
    * `framed_perform` — every operation, in any store, has its frame;
    * `framed_run`     — so does every operation of a run, and what no
      operation of the run reaches is at its end as it was.
-/
import LoggingOperator.Proofs.Store.Replaced

namespace LoggingOperator

/-! ## §1. Keys -/

/-- **Two objects share a key** if they are of one kind and have one name, and
    are in one namespace, where objects of the kind live in one. -/
theorem StoreKey.of_eq_iff {kind kind' : Kind} {ns ns' : Option String} {name name' : String} :
    StoreKey.of kind ns name = StoreKey.of kind' ns' name'
      ↔ kind = kind' ∧ name = name' ∧ (kind.namespaced = true → ns.getD "" = ns'.getD "") := by
  constructor
  · intro h
    obtain ⟨rfl, hns, hname⟩ := StoreKey.mk.injEq .. ▸ h
    refine ⟨rfl, hname, fun hkind => ?_⟩
    rwa [if_pos hkind, if_pos hkind] at hns
  · rintro ⟨rfl, rfl, hns⟩
    unfold StoreKey.of
    split
    · next hkind => rw [hns hkind]
    · rfl

/-! ## §2. Fields that are set or kept -/

namespace Json

theorem get?_set_of_ne {k key : String} (hk : key ≠ k) (v x : Json) :
    (v.set key x).get? k = v.get? k := by
  cases v with
  | object fields => rw [get?_set, if_neg hk]
  | _ => rfl

end Json

namespace Store

open Json

/-- To set a field of the metadata leaves all other fields, whatever is there. -/
theorem metaField?_setMeta_of_ne {field k : String} (hk : field ≠ k) (value v : Json) :
    (setMeta field value v).metaField? k = v.metaField? k := by
  have hset : ∀ m : Json, (m.set field value).get? k = m.get? k :=
    fun m => get?_set_of_ne hk m value
  rw [metaField?, metaField?, setMeta, get?_modify, if_pos rfl]
  cases hmetadata : v.get? "metadata" with
  | some metadata =>
    rw [setIfNew_of_get? hmetadata, hmetadata]
    exact hset metadata
  | none =>
    -- The metadata that is made for the field has no other one.
    cases v with
    | object fields =>
      have hnew : (Json.object fields).setIfNew "metadata" .empty
          = .object (Keyed.insert "metadata" .empty fields) := by
        rw [setIfNew, Keyed.insertIfNew, Keyed.has, show Keyed.get? "metadata" fields = none
          from hmetadata]
        rfl
      rw [hnew, get?_object, Keyed.get?_insert, if_pos rfl]
      exact hset .empty
    | _ => rfl

/-- The fields of an object that its status write does not reach. -/
structure SameButStatus (current stored : Json) : Prop where
  fields : ∀ k, k ≠ "status" → k ≠ "metadata" → stored.get? k = current.get? k
  metadata : ∀ k, k ≠ "resourceVersion" → stored.metaField? k = current.metaField? k
  /-- Metadata that is there is not removed, nor made to be of another form. -/
  form : ∀ m, current.get? "metadata" = some m →
    stored.get? "metadata" = some m ∨ ∃ before after, m = .object before
      ∧ stored.get? "metadata" = some (.object after)
  /-- What is no object is not touched at all. -/
  whole : (∀ fields, current ≠ .object fields) → stored = current

theorem SameButStatus.refl (v : Json) : SameButStatus v v :=
  ⟨fun _ _ _ => rfl, fun _ _ => rfl, fun _ hm => Or.inl hm, fun _ => rfl⟩

theorem SameButStatus.trans {u v w : Json} (h : SameButStatus u v) (h' : SameButStatus v w) :
    SameButStatus u w where
  fields := fun k hs hm => (h'.fields k hs hm).trans (h.fields k hs hm)
  metadata := fun k hk => (h'.metadata k hk).trans (h.metadata k hk)
  form := fun m hm => by
    rcases h.form m hm with hsame | ⟨before, after, rfl, hafter⟩
    · exact h'.form m hsame
    · rcases h'.form _ hafter with hsame | ⟨_, last, -, hlast⟩
      · exact Or.inr ⟨before, after, rfl, hsame⟩
      · exact Or.inr ⟨before, last, rfl, hlast⟩
  whole := fun hu => by
    obtain rfl := h.whole hu
    exact h'.whole hu

/-- What an update does not reach: the status, and the identity that is there. -/
structure SameIdentity (current stored : Json) : Prop where
  status : stored.get? "status" = current.get? "status"
  identity : ∀ field ∈ ["uid", "creationTimestamp"], ∀ value,
    current.metaField? field = some value → stored.metaField? field = some value

theorem SameIdentity.refl (v : Json) : SameIdentity v v :=
  ⟨rfl, fun _ _ _ h => h⟩

theorem SameIdentity.trans {u v w : Json} (h : SameIdentity u v) (h' : SameIdentity v w) :
    SameIdentity u w :=
  ⟨h'.status.trans h.status, fun field hfield value hvalue =>
    h'.identity field hfield value (h.identity field hfield value hvalue)⟩

theorem sameIdentity_replaced {object : Json} (h : object.HasMetadata) (kind : Kind)
    (current : Json) (version : String) :
    SameIdentity current (replaced kind current object (.string version)) := by
  refine ⟨get?_status_replaced h, fun field hfield value hvalue => ?_⟩
  have hown : field = "uid" ∨ field = "creationTimestamp" := by simpa using hfield
  have hne : field ≠ "resourceVersion" := by
    rcases hown with rfl | rfl <;> decide
  rw [metaField?_replaced h hne, if_pos hown, hvalue, Option.some_or]

theorem sameButStatus_restated (current object version : Json) :
    SameButStatus current (restated current object version) where
  fields := fun k hstatus hmetadata => by
    rw [restated, get?_setMeta_of_ne hmetadata.symm, get?_set_of_ne hstatus.symm]
  metadata := fun k hversion => by
    rw [restated, metaField?_setMeta_of_ne hversion.symm]
    exact metaField?_congr (get?_metadata_set _ _ (by decide)) k
  form := fun m hm => by
    have hset : (current.set "status" ((object.get? "status").getD .null)).get? "metadata"
        = some m := (get?_metadata_set _ _ (by decide)).trans hm
    cases m with
    | object before => exact Or.inr ⟨before, _, rfl, get?_setMeta hset _ _⟩
    | _ =>
      rw [restated, setMeta, setIfNew_of_get? hset, get?_modify, if_pos rfl, hset]
      exact Or.inl rfl
  whole := fun h => by
    cases current with
    | object fields => exact absurd rfl (h fields)
    | _ => rfl

/-! ## §3. Operations -/

/-- What can be done to a store. -/
inductive Operation where
  | call (request : StoreCall)
  /-- Somebody else stores an object. -/
  | insert (kind : Kind) (object : Json)
  /-- Somebody else changes an object in any way. -/
  | mutate (kind : Kind) (ns : Option String) (name : String) (change : Json → Json)
  /-- The next such call is made to fail. -/
  | failNext (op : StoreOp) (kind : Kind) (e : StoreError)

/-- What an operation returns. -/
inductive Returned where
  | answer (answer : Except StoreError Json)
  | found (found : Bool)
  | nothing

namespace Operation

/-- Carry out an operation. -/
def perform : Operation → Store → Returned × Store
  | .call request, s => (.answer (s.answer request).1, (s.answer request).2)
  | .insert kind incoming, s =>
    (.answer (.ok (s.insert kind incoming).1), (s.insert kind incoming).2)
  | .mutate kind ns name change, s =>
    (.found (s.mutate (.of kind ns name) change).1, (s.mutate (.of kind ns name) change).2)
  | .failNext op kind e, s => (.nothing, { s with failures := s.failures ++ [(op, kind, e)] })

/-- The key of the object that an operation is about, if it has a name. -/
def key? : Operation → Option StoreKey
  | .call request => request.name.toOption.map (StoreKey.of request.kind request.ns?)
  | .insert kind incoming =>
    some (.of kind incoming.namespace? ((incoming.metaString? "name").getD ""))
  | .mutate kind ns name _ => some (.of kind ns name)
  | .failNext .. => none

end Operation

/-- An operation that was carried out. -/
structure Transition where
  before : Store
  operation : Operation
  returned : Returned
  after : Store

namespace Transition

/-- Carry out an operation. -/
def of (operation : Operation) (s : Store) : Transition where
  before := s
  operation := operation
  returned := (operation.perform s).1
  after := (operation.perform s).2

/-- The operation returned an error. -/
def Refused (t : Transition) : Prop :=
  ∃ e, t.returned = .answer (.error e)

/-- The operation changed the object under the key, or may have. -/
def Reaches (t : Transition) (key : StoreKey) : Prop :=
  t.operation.key? = some key ∧ ¬ t.Refused

end Transition

/-- The objects and all counters of a store are as they were. -/
structure SameContents (s s' : Store) : Prop where
  objects : s'.objects = s.objects
  version : s'.version = s.version
  addresses : s'.addresses = s.addresses

theorem SameContents.trans {s t u : Store} (h : SameContents s t) (h' : SameContents t u) :
    SameContents s u :=
  ⟨h'.objects.trans h.objects, h'.version.trans h.version, h'.addresses.trans h.addresses⟩

/-- The objects of stores with the same contents. -/
theorem SameContents.object? {s s' : Store} (h : SameContents s s') (key : StoreKey) :
    s'.object? key = s.object? key :=
  object?_congr h.objects key

/-- Why a call is refused. -/
inductive Refusal (s : Store) (call : StoreCall) : StoreError → Prop
  | unnamed {e : StoreError} (unnamed : call.name = .error e) : Refusal s call e
  | injected {e : StoreError} (pending : (call.op, call.kind, e) ∈ s.failures) :
    Refusal s call e
  | missing {name : String} (named : call.name = .ok name) (expects : call.op ≠ .create)
    (absent : s.object? (.of call.kind call.ns? name) = none) :
    Refusal s call (.notFound call.kind name)
  | taken {name : String} {current : Json} (named : call.name = .ok name)
    (creates : call.op = .create)
    (found : s.object? (.of call.kind call.ns? name) = some current) :
    Refusal s call (.alreadyExists call.kind name)
  | stale {name message : String} {object current : Json} (named : call.name = .ok name)
    (writes : call = .update call.kind object ∨ call = .replaceStatus call.kind object)
    (found : s.object? (.of call.kind call.ns? name) = some current)
    (stale : checkVersion object current = .error (.conflict message)) :
    Refusal s call (.conflict message)

/-- **The frame of an operation.** -/
structure Framed (t : Transition) : Prop where
  /-- An update keeps status, uid and time of creation, whatever was sent. -/
  updated : ∀ kind object stored, t.operation = .call (.update kind object) →
    t.returned = .answer (.ok stored) → ∃ key current, t.operation.key? = some key
      ∧ t.before.object? key = some current ∧ t.after.object? key = some stored
      ∧ SameIdentity current stored
  /-- A status write changes the status and the version alone. -/
  restated : ∀ kind object stored, t.operation = .call (.replaceStatus kind object) →
    t.returned = .answer (.ok stored) → ∃ key current, t.operation.key? = some key
      ∧ t.before.object? key = some current ∧ t.after.object? key = some stored
      ∧ SameButStatus current stored
  /-- No operation reaches an object under another key. -/
  elsewhere : ∀ key, t.operation.key? ≠ some key → t.after.object? key = t.before.object? key
  /-- What returns an error is refused for a reason, and changes nothing. -/
  refused : ∀ e, t.returned = .answer (.error e) → SameContents t.before t.after
    ∧ ∃ call, t.operation = .call call ∧ Refusal t.before call e
  /-- What is not there is not changed. -/
  missed : t.returned = .found false → t.after.objects = t.before.objects

/-! ## §4. One operation -/

/-- A call is refused for its name, made to fail, or carried out after it was
    recorded. -/
theorem answer_cases (call : StoreCall) (s : Store) :
    (∃ e, call.name = .error e ∧ s.answer call = (.error e, s))
      ∨ ∃ name recorded, call.name = .ok name ∧ SameContents s recorded
        ∧ ((∃ e, (call.op, call.kind, e) ∈ s.failures ∧ s.answer call = (.error e, recorded))
          ∨ s.answer call = recorded.act call (.of call.kind call.ns? name)) := by
  cases hname : call.name with
  | error e => exact Or.inl ⟨e, rfl, by rw [answer, hname]⟩
  | ok name =>
    refine Or.inr ⟨name, (s.record call.op call.kind name).2, rfl, ⟨rfl, rfl, rfl⟩, ?_⟩
    cases htaken : (takeFailure call.op call.kind s.failures).1 with
    | some e =>
      refine Or.inl ⟨e, (mem_of_takeFailure s.failures).1 e htaken, ?_⟩
      simp only [answer, hname, record, htaken]
    | none =>
      refine Or.inr ?_
      simp only [answer, hname, record, htaken]

section

variable {key : StoreKey} {s after : Store} {call : StoreCall} {answer : Except StoreError Json}

/-- A call that is carried out and refused leaves the store as it is. -/
theorem Acted.refused {before : Store} {e : StoreError} {name : String}
    (hsame : SameContents before s) (hname : call.name = .ok name)
    (h : Acted (.of call.kind call.ns? name) s call (.error e) after) :
    after = s ∧ Refusal before call e := by
  cases h with
  | missing expects absent =>
    exact ⟨rfl, .missing hname expects ((hsame.object? _).symm.trans absent)⟩
  | taken found => exact ⟨rfl, .taken hname rfl ((hsame.object? _).symm.trans found)⟩
  | staleUpdate found stale =>
    exact ⟨rfl, .stale hname (Or.inl rfl) ((hsame.object? _).symm.trans found) stale⟩
  | staleStatus found stale =>
    exact ⟨rfl, .stale hname (Or.inr rfl) ((hsame.object? _).symm.trans found) stale⟩

/-- An update that is carried out. -/
theorem Acted.sameIdentity {kind : Kind} {object stored : Json} (hobject : object.HasMetadata)
    (h : Acted key s (.update kind object) (.ok stored) after) :
    ∃ current, s.object? key = some current ∧ after.object? key = some stored
      ∧ SameIdentity current stored := by
  cases h with
  | updated found fresh =>
    exact ⟨_, found, (object?_put key _ _).trans (if_pos rfl), sameIdentity_replaced hobject _ _ _⟩

/-- A status write that is carried out. -/
theorem Acted.sameButStatus {kind : Kind} {object stored : Json}
    (h : Acted key s (.replaceStatus kind object) (.ok stored) after) :
    ∃ current, s.object? key = some current ∧ after.object? key = some stored
      ∧ SameButStatus current stored := by
  cases h with
  | restated found fresh =>
    exact ⟨_, found, (object?_put key _ _).trans (if_pos rfl), sameButStatus_restated _ _ _⟩

/-- A call that is carried out changes no object under another key. -/
theorem Acted.object?_of_ne {own : StoreKey} (h : Acted own s call answer after)
    (hkey : own ≠ key) : after.object? key = s.object? key := by
  rcases h.objects_eq with ⟨stored, -, -, hobjects⟩ | ⟨-, rfl⟩
  · exact (object?_of_stored hobjects key).trans (if_neg hkey)
  · rfl

end

variable {t : Transition} {call : StoreCall}

/-- A refused call has its frame. -/
theorem framed_of_refused {e : StoreError} (hoperation : t.operation = .call call)
    (hreturned : t.returned = .answer (.error e)) (hsame : SameContents t.before t.after)
    (hrefusal : Refusal t.before call e) : Framed t where
  updated := fun _ _ _ _ h => by cases hreturned.symm.trans h
  restated := fun _ _ _ _ h => by cases hreturned.symm.trans h
  elsewhere := fun key _ => hsame.object? key
  refused := fun _ h => by
    cases hreturned.symm.trans h
    exact ⟨hsame, call, hoperation, hrefusal⟩
  missed := fun _ => hsame.objects

/-- A call that is carried out, once it was recorded, has its frame. -/
theorem framed_of_acted {recorded : Store} {name : String} {answer : Except StoreError Json}
    (hoperation : t.operation = .call call) (hreturned : t.returned = .answer answer)
    (hname : call.name = .ok name) (hsame : SameContents t.before recorded)
    (h : Acted (.of call.kind call.ns? name) recorded call answer t.after) : Framed t := by
  have hkey : t.operation.key? = some (.of call.kind call.ns? name) := by
    rw [hoperation, Operation.key?, hname]
    rfl
  cases answer with
  | error e =>
    obtain ⟨hafter, hrefusal⟩ := h.refused hsame hname
    exact framed_of_refused hoperation hreturned (hafter ▸ hsame) hrefusal
  | ok stored =>
    refine ⟨fun kind object stored' hcall hstored => ?_,
      fun kind object stored' hcall hstored => ?_, fun key hother => ?_, fun e herror => ?_,
      fun hfound => ?_⟩
    · cases hoperation.symm.trans hcall
      cases hreturned.symm.trans hstored
      obtain ⟨current, hfound, hafter, hidentity⟩ :=
        h.sameIdentity (hasMetadata_of_name hname)
      exact ⟨_, current, hkey, (hsame.object? _).symm.trans hfound, hafter, hidentity⟩
    · cases hoperation.symm.trans hcall
      cases hreturned.symm.trans hstored
      obtain ⟨current, hfound, hafter, hstatus⟩ := h.sameButStatus
      exact ⟨_, current, hkey, (hsame.object? _).symm.trans hfound, hafter, hstatus⟩
    · have hne : StoreKey.of call.kind call.ns? name ≠ key := fun heq =>
        hother (hkey.trans (congrArg some heq))
      exact (h.object?_of_ne hne).trans (hsame.object? key)
    · cases hreturned.symm.trans herror
    · cases hreturned.symm.trans hfound

theorem framed_call (call : StoreCall) (s : Store) : Framed (.of (.call call) s) := by
  rcases answer_cases call s with ⟨e, hname, hanswer⟩ | ⟨name, recorded, hname, hsame, hend⟩
  · refine framed_of_refused (e := e) rfl ?_ ?_ (.unnamed hname)
    · exact congrArg (fun result => Returned.answer result.1) hanswer
    · rw [Transition.of, Operation.perform, hanswer]
      exact ⟨rfl, rfl, rfl⟩
  rcases hend with ⟨e, hpending, hanswer⟩ | hanswer
  · refine framed_of_refused (e := e) rfl ?_ ?_ (.injected hpending)
    · exact congrArg (fun result => Returned.answer result.1) hanswer
    · rw [Transition.of, Operation.perform, hanswer]
      exact hsame
  · have hacted := acted call (.of call.kind call.ns? name) recorded
    rw [← hanswer] at hacted
    exact framed_of_acted rfl rfl hname hsame hacted

/-- What somebody else does has its frame if it reaches the object under its key
    alone. -/
theorem framed_of_foreign (hforeign : ∀ call, t.operation ≠ .call call)
    (hreturned : ¬ t.Refused)
    (helsewhere : ∀ key, t.operation.key? ≠ some key → t.after.object? key = t.before.object? key)
    (hmissed : t.returned = .found false → t.after.objects = t.before.objects) : Framed t where
  updated := fun _ _ _ h => absurd h (hforeign _)
  restated := fun _ _ _ h => absurd h (hforeign _)
  elsewhere := helsewhere
  refused := fun e h => absurd ⟨e, h⟩ hreturned
  missed := hmissed

theorem framed_insert (kind : Kind) (incoming : Json) (s : Store) :
    Framed (.of (.insert kind incoming) s) := by
  refine framed_of_foreign (fun _ h => by cases h) (fun ⟨_, h⟩ => by cases h)
    (fun key hother => ?_) (fun h => by cases h)
  refine (object?_put _ _ _).trans ((if_neg fun heq => hother (congrArg some heq)).trans ?_)
  exact object?_congr (objects_stampNew kind incoming s) key

theorem framed_mutate (kind : Kind) (ns : Option String) (name : String) (change : Json → Json)
    (s : Store) : Framed (.of (.mutate kind ns name change) s) := by
  have hbump : s.bump.2.object? (.of kind ns name) = s.object? (.of kind ns name) := rfl
  refine framed_of_foreign (fun _ h => by cases h) (fun ⟨_, h⟩ => by cases h)
    (fun key hother => ?_) (fun hmissed => ?_)
  · have hne : StoreKey.of kind ns name ≠ key := fun heq => hother (congrArg some heq)
    simp only [Transition.of, Operation.perform, mutate, hbump]
    split
    · exact (object?_put _ _ _).trans (if_neg hne)
    · rfl
  · simp only [Transition.of, Operation.perform, mutate, hbump] at hmissed ⊢
    split at hmissed
    · cases hmissed
    · rfl

/-- **Every operation has its frame**, whatever is stored and whatever is made to
    fail. -/
theorem framed_perform (operation : Operation) (s : Store) : Framed (.of operation s) := by
  cases operation with
  | call request => exact framed_call request s
  | insert kind incoming => exact framed_insert kind incoming s
  | mutate kind ns name change => exact framed_mutate kind ns name change s
  | failNext op kind e =>
    exact framed_of_foreign (fun _ h => by cases h) (fun ⟨_, h⟩ => by cases h) (fun _ _ => rfl)
      (fun h => by cases h)

/-! ## §5. Runs of operations -/

/-- What is done, operation after operation. -/
def transitions : List Operation → Store → List Transition
  | [], _ => []
  | operation :: rest, s => .of operation s :: transitions rest (operation.perform s).2

/-- The store after all operations. -/
def performed (operations : List Operation) (s : Store) : Store :=
  operations.foldl (fun s operation => (operation.perform s).2) s

theorem performed_cons (operation : Operation) (rest : List Operation) (s : Store) :
    performed (operation :: rest) s = performed rest (operation.perform s).2 := rfl

theorem framed_transitions (operations : List Operation) (s : Store) :
    ∀ t ∈ transitions operations s, Framed t := by
  induction operations generalizing s with
  | nil => exact fun t ht => by cases ht
  | cons operation rest ih =>
    intro t ht
    rcases List.mem_cons.1 ht with rfl | ht
    · exact framed_perform operation s
    · exact ih _ t ht

theorem eq_of_mem_transitions {operations : List Operation} {s : Store}
    (h : t ∈ transitions operations s) : t = .of t.operation t.before := by
  induction operations generalizing s with
  | nil => cases h
  | cons operation rest ih =>
    rcases List.mem_cons.1 h with rfl | h
    · rfl
    · exact ih h

/-- A call of a run that is not refused is answered by an object. -/
theorem answered_of_not_refused {operations : List Operation} {s : Store}
    (h : t ∈ transitions operations s) (hcall : t.operation = .call call)
    (haccepted : ¬ t.Refused) : ∃ stored, t.returned = .answer (.ok stored) := by
  have hreturned : t.returned = .answer (t.before.answer call).1 := by
    rw [eq_of_mem_transitions h, hcall]
    rfl
  cases hanswer : (t.before.answer call).1 with
  | error e => exact absurd ⟨e, by rw [hreturned, hanswer]⟩ haccepted
  | ok stored => exact ⟨stored, by rw [hreturned, hanswer]⟩

theorem Framed.object?_of_not_reaches {key : StoreKey} (h : Framed t) (hkey : ¬ t.Reaches key) :
    t.after.object? key = t.before.object? key := by
  by_cases hown : t.operation.key? = some key
  · obtain ⟨e, he⟩ : t.Refused := Classical.byContradiction fun hrefused => hkey ⟨hown, hrefused⟩
    exact (h.refused e he).1.object? key
  · exact h.elsewhere key hown

/-- **From operations to runs.**  A relation between the object before and after
    that all operations respect which reach it holds between its first and its last
    state. -/
theorem performed_related {R : Json → Json → Prop} (hrefl : ∀ v, R v v)
    (htrans : ∀ u v w, R u v → R v w → R u w) {key : StoreKey} {operations : List Operation}
    {s : Store}
    (hreach : ∀ t ∈ transitions operations s, t.Reaches key → ∃ current stored,
      t.before.object? key = some current ∧ t.after.object? key = some stored ∧ R current stored)
    {object : Json} (hobject : s.object? key = some object) :
    ∃ stored, (performed operations s).object? key = some stored ∧ R object stored := by
  induction operations generalizing s object with
  | nil => exact ⟨object, hobject, hrefl object⟩
  | cons operation rest ih =>
    have hrest := fun t ht => hreach t (List.mem_cons_of_mem _ ht)
    rw [performed_cons]
    by_cases hfirst : (Transition.of operation s).Reaches key
    · obtain ⟨current, next, hcurrent, hnext, hrelated⟩ := hreach _ List.mem_cons_self hfirst
      cases hobject.symm.trans hcurrent
      obtain ⟨stored, hstored, hlater⟩ := ih hrest hnext
      exact ⟨stored, hstored, htrans _ _ _ hrelated hlater⟩
    · exact ih hrest (((framed_perform operation s).object?_of_not_reaches hfirst).trans hobject)

/-- What no operation reaches stays as it is. -/
theorem object?_performed {key : StoreKey} {operations : List Operation} {s : Store}
    (h : ∀ t ∈ transitions operations s, ¬ t.Reaches key) :
    (performed operations s).object? key = s.object? key := by
  induction operations generalizing s with
  | nil => rfl
  | cons operation rest ih =>
    rw [performed_cons, ih fun t ht => h t (List.mem_cons_of_mem _ ht)]
    exact (framed_perform operation s).object?_of_not_reaches (h _ List.mem_cons_self)

/-- Operations that are all refused do nothing. -/
theorem sameContents_performed {operations : List Operation} {s : Store}
    (h : ∀ t ∈ transitions operations s, t.Refused) : SameContents s (performed operations s) := by
  induction operations generalizing s with
  | nil => exact ⟨rfl, rfl, rfl⟩
  | cons operation rest ih =>
    obtain ⟨e, he⟩ := h _ List.mem_cons_self
    exact ((framed_perform operation s).refused e he).1.trans
      (ih fun t ht => h t (List.mem_cons_of_mem _ ht))

/-- **The frames of a run.**  Every operation of a run has its frame.  What none of
    them reaches stays; an object that is only updated keeps status and identity, and
    one that is only given statuses keeps all else; and where every operation is
    refused, the contents of the store are as they were. -/
theorem framed_run (operations : List Operation) (s : Store) :
    (∀ t ∈ transitions operations s, Framed t)
      ∧ (∀ key, (∀ t ∈ transitions operations s, ¬ t.Reaches key) →
          (performed operations s).object? key = s.object? key)
      ∧ (∀ key object, s.object? key = some object →
          (∀ t ∈ transitions operations s, t.Reaches key →
            ∃ kind sent, t.operation = .call (.update kind sent)) →
          ∃ stored, (performed operations s).object? key = some stored
            ∧ SameIdentity object stored)
      ∧ (∀ key object, s.object? key = some object →
          (∀ t ∈ transitions operations s, t.Reaches key →
            ∃ kind sent, t.operation = .call (.replaceStatus kind sent)) →
          ∃ stored, (performed operations s).object? key = some stored
            ∧ SameButStatus object stored)
      ∧ ((∀ t ∈ transitions operations s, t.Refused) →
          SameContents s (performed operations s))
      ∧ ∀ (kind kind' : Kind) (ns ns' : Option String) (name name' : String),
          StoreKey.of kind ns name = StoreKey.of kind' ns' name'
            ↔ kind = kind' ∧ name = name'
              ∧ (kind.namespaced = true → ns.getD "" = ns'.getD "") := by
  have hframed := framed_transitions operations s
  refine ⟨hframed, fun key hkey => object?_performed hkey,
    fun key object hobject hupdates => ?_, fun key object hobject hstatuses => ?_,
    sameContents_performed, fun _ _ _ _ _ _ => StoreKey.of_eq_iff⟩
  · refine performed_related SameIdentity.refl (fun _ _ _ => SameIdentity.trans)
      (fun t ht hreaches => ?_) hobject
    obtain ⟨kind, sent, hcall⟩ := hupdates t ht hreaches
    obtain ⟨stored, hstored⟩ := answered_of_not_refused ht hcall hreaches.2
    obtain ⟨own, current, hown, hframe⟩ := (hframed t ht).updated kind sent stored hcall hstored
    cases hreaches.1.symm.trans hown
    exact ⟨current, stored, hframe⟩
  · refine performed_related SameButStatus.refl (fun _ _ _ => SameButStatus.trans)
      (fun t ht hreaches => ?_) hobject
    obtain ⟨kind, sent, hcall⟩ := hstatuses t ht hreaches
    obtain ⟨stored, hstored⟩ := answered_of_not_refused ht hcall hreaches.2
    obtain ⟨own, current, hown, hframe⟩ := (hframed t ht).restated kind sent stored hcall hstored
    cases hreaches.1.symm.trans hown
    exact ⟨current, stored, hframe⟩

/-- A status that is sent along with an update is not stored, and the update that is
    made to fail uses no version up. -/
example :
    let sent : Json := .object [("metadata", .object [("name", .string "a")]),
      ("status", .object [("bogus", .bool true)])]
    let s : Store := { stamps := fun _ => ⟨"u", "t"⟩ }
    let after := performed [.insert .secret (sent.remove "status"),
      .failNext .update .secret (.transport "down"), .call (.update .secret sent),
      .call (.update .secret sent)] s
    after.version = 2 ∧ after.object? (.of .secret none "a") = some (.object
      [("metadata", .object [("creationTimestamp", .string "t"), ("name", .string "a"),
        ("resourceVersion", .string "2"), ("uid", .string "u")])]) := by
  decide +kernel

end Store

end LoggingOperator
