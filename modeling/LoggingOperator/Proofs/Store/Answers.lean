/-
  LoggingOperator.Proofs.Store.Answers — EVERY END OF A CALL.

  A call to the object store without a name is refused, one that is made to
  fail does nothing, and any other is carried out (`Answered`).  A call that
  is carried out ends in one of eight ways (`Acted`), which say what was found
  under the key and what is left there.  No other object changes.
-/
import LoggingOperator.Proofs.Convergence.Converge

namespace LoggingOperator.Store

open Json

variable {key : StoreKey} {s after : Store} {call : StoreCall}
  {answer : Except StoreError Json}

/-! ## §1. Calls that are carried out -/

/-- An object whose status was replaced, as the store leaves it. -/
def restated (current object version : Json) : Json :=
  setMeta "resourceVersion" version
    (current.set "status" ((object.get? "status").getD .null))

/-- The ends of a call on the object under a key. -/
inductive Acted (key : StoreKey) (s : Store) :
    StoreCall → Except StoreError Json → Store → Prop
  | read {kind : Kind} {name : String} {ns : Option String} {object : Json}
    (found : s.object? key = some object) :
    Acted key s (.get kind name ns) (.ok object) s
  /-- There is nothing to read or to change. -/
  | missing {call : StoreCall} (expects : call.op ≠ .create) (absent : s.object? key = none) :
    Acted key s call (.error (.notFound call.kind key.name)) s
  | taken {kind : Kind} {object current : Json} (found : s.object? key = some current) :
    Acted key s (.create kind object) (.error (.alreadyExists kind key.name)) s
  | created {kind : Kind} {object : Json} (absent : s.object? key = none) :
    Acted key s (.create kind object) (.ok (s.stampNew kind object).1)
      ((s.stampNew kind object).2.put key (s.stampNew kind object).1)
  | staleUpdate {kind : Kind} {object current : Json} {message : String}
    (found : s.object? key = some current)
    (stale : checkVersion object current = .error (.conflict message)) :
    Acted key s (.update kind object) (.error (.conflict message)) s
  | updated {kind : Kind} {object current : Json} (found : s.object? key = some current)
    (fresh : checkVersion object current = .ok ()) :
    Acted key s (.update kind object) (.ok (replaced kind current object s.bump.1))
      (s.bump.2.put key (replaced kind current object s.bump.1))
  | staleStatus {kind : Kind} {object current : Json} {message : String}
    (found : s.object? key = some current)
    (stale : checkVersion object current = .error (.conflict message)) :
    Acted key s (.replaceStatus kind object) (.error (.conflict message)) s
  | restated {kind : Kind} {object current : Json} (found : s.object? key = some current)
    (fresh : checkVersion object current = .ok ()) :
    Acted key s (.replaceStatus kind object) (.ok (restated current object s.bump.1))
      (s.bump.2.put key (restated current object s.bump.1))

/-- A version is refused by a conflict. -/
theorem checkVersion_error {incoming current : Json} {e : StoreError}
    (h : checkVersion incoming current = .error e) : ∃ message, e = .conflict message := by
  unfold checkVersion at h
  split at h
  · split at h
    · cases h
    · cases h
      exact ⟨_, rfl⟩
  · cases h

/-- **A call that is carried out ends in one of these ways.** -/
theorem acted (call : StoreCall) (key : StoreKey) (s : Store) :
    Acted key s call (s.act call key).1 (s.act call key).2 := by
  cases call with
  | get kind name ns =>
    simp only [act, get]
    cases hfound : s.object? key with
    | none => exact @Acted.missing key s (.get kind name ns) (fun h => by cases h) hfound
    | some object => exact .read hfound
  | create kind object =>
    cases hfound : s.object? key with
    | none =>
      rw [act, create_of_absent hfound]
      exact .created hfound
    | some current =>
      rw [act, create_of_present hfound]
      exact .taken hfound
  | update kind object =>
    cases hfound : s.object? key with
    | none =>
      simp only [act, update, hfound]
      exact @Acted.missing key s (.update kind object) (fun h => by cases h) hfound
    | some current =>
      cases hversion : checkVersion object current with
      | error e =>
        obtain ⟨message, rfl⟩ := checkVersion_error hversion
        simp only [act, update, hfound, hversion]
        exact .staleUpdate hfound hversion
      | ok _ =>
        rw [act, update_of_present hfound hversion]
        exact .updated hfound hversion
  | replaceStatus kind object =>
    cases hfound : s.object? key with
    | none =>
      simp only [act, replaceStatus, hfound]
      exact @Acted.missing key s (.replaceStatus kind object) (fun h => by cases h) hfound
    | some current =>
      cases hversion : checkVersion object current with
      | error e =>
        obtain ⟨message, rfl⟩ := checkVersion_error hversion
        simp only [act, replaceStatus, hfound, hversion]
        exact .staleStatus hfound hversion
      | ok _ =>
        simp only [act, replaceStatus, hfound, hversion]
        exact .restated hfound hversion

/-- Where no failure is pending, a call on a named object is carried out. -/
theorem acted_of_quiet (hfailures : s.failures = []) {name : String}
    (hname : call.name = .ok name) :
    Acted (StoreKey.of call.kind call.ns? name) (s.noted call name) call (s.answer call).1
      (s.answer call).2 := by
  rw [← inject_none hfailures call, answer_inject_none hname]
  exact acted call _ _

/-! ## §2. Calls that are answered -/

/-- The ends of a call. -/
inductive Answered (injected : Option StoreError) (s : Store) (call : StoreCall) :
    Except StoreError Json → Store → Prop
  /-- The object has no name. -/
  | unnamed {e : StoreError} {after : Store} (unnamed : call.name = .error e)
    (same : after.objects = s.objects) (version : after.version = s.version) :
    Answered injected s call (.error e) after
  /-- The call was made to fail. -/
  | injected {e : StoreError} {after : Store} (made : injected = some e)
    (same : after.objects = s.objects) (version : after.version = s.version) :
    Answered injected s call (.error e) after
  | acted {name : String} {answer : Except StoreError Json} {after : Store}
    (named : call.name = .ok name)
    (acted : Acted (StoreKey.of call.kind call.ns? name) (s.noted call name) call answer after) :
    Answered injected s call answer after

/-- **Every answer is one of these.** -/
theorem answered {injected : Option StoreError}
    (h : (s.inject call injected).answer call = (answer, after)) :
    Answered injected s call answer after := by
  cases hname : call.name with
  | error e =>
    rw [answer_inject_unnamed hname] at h
    cases h
    exact .unnamed hname rfl rfl
  | ok name =>
    cases hinjected : injected with
    | some e =>
      rw [hinjected, answer_inject_some hname] at h
      cases h
      exact .injected rfl rfl rfl
    | none =>
      rw [hinjected, answer_inject_none hname] at h
      have hacted := Store.acted call (StoreKey.of call.kind call.ns? name) (s.noted call name)
      rw [h] at hacted
      exact .acted hname hacted

/-! ## §3. What is under a key afterwards -/

/-- A write leaves every other object as it is. -/
theorem object?_put (k : StoreKey) (object : Json) (s : Store) :
    (s.put k object).object? key = if k = key then some object else s.object? key :=
  Keyed.get?_insert key k object s.objects

theorem objects_stampNew (kind : Kind) (object : Json) (s : Store) :
    (s.stampNew kind object).2.objects = s.objects :=
  (stampNew_frame kind object s).1

/-- The objects after a call: one was written, or none. -/
theorem Acted.objects_eq (h : Acted key s call answer after) :
    (∃ stored, call.op.isWrite = true ∧ answer = .ok stored
        ∧ after.objects = Keyed.insert key stored s.objects)
      ∨ (call.op = .get ∨ ∃ e, answer = .error e) ∧ after = s := by
  cases h with
  | read found => exact Or.inr ⟨Or.inl rfl, rfl⟩
  | created absent =>
    refine Or.inl ⟨_, rfl, rfl, ?_⟩
    rw [put, objects_stampNew]
  | updated found fresh => exact Or.inl ⟨_, rfl, rfl, rfl⟩
  | restated found fresh => exact Or.inl ⟨_, rfl, rfl, rfl⟩
  | missing | taken | staleUpdate | staleStatus => exact Or.inr ⟨Or.inr ⟨_, rfl⟩, rfl⟩

/-- What is created was not there. -/
theorem Acted.absent {object stored : Json} {kind : Kind}
    (h : Acted key s (.create kind object) (.ok stored) after) : s.object? key = none := by
  cases h with
  | created absent => exact absent

/-- **What is under a key stays there until the key is written.** -/
theorem Answered.object?_eq {injected : Option StoreError}
    (h : Answered injected s call answer after)
    (hkey : ∀ name stored, call.name = .ok name → call.op.isWrite = true → answer = .ok stored →
      key ≠ StoreKey.of call.kind call.ns? name) :
    after.object? key = s.object? key := by
  cases h with
  | unnamed _ same _ => exact object?_congr same key
  | injected _ same _ => exact object?_congr same key
  | acted named acted =>
    rcases acted.objects_eq with ⟨stored, hwrite, hanswer, hobjects⟩ | ⟨-, rfl⟩
    · exact (object?_of_stored hobjects key).trans
        (if_neg (Ne.symm (hkey _ stored named hwrite hanswer)))
    · rfl

end LoggingOperator.Store
