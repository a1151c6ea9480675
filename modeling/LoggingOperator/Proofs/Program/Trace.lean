/-
  LoggingOperator.Proofs.Program.Trace — PROGRAMS CALL BY CALL.

  An `Event` is a call together with its answer, or a change by somebody else.
  A program makes one call at a time: `Follows p event p'` if the next call of
  `p` is that of the event and `p'` is how it goes on with the answer, and
  `Happens env w event w'` if the two stores may give this answer.

  Which events a program may cause, and when, is said by a `Monitor`: a state
  that follows the events, and what is allowed in it.  `Obeys m post p s` if
  `p`, watched by `m` from the state `s` on, only does what is allowed, however
  its calls are answered, and ends in states of `post`.  It is shown by one
  rule for each way to put programs together.
-/
import LoggingOperator.Proofs.Program.Environment

namespace LoggingOperator

open Management (Call Cluster Endpoint ManagementError)

/-! ## §1. Events -/

/-- What is done to an object store or a search cluster. -/
inductive Event where
  /-- A call to the object store, and its answer. -/
  | store (call : StoreCall) (answer : Except StoreError Json)
  /-- A call to the management API, and its answer. -/
  | manage (endpoint : Endpoint) (call : Call) (answer : Except ManagementError call.Answer)
  /-- Somebody else stored an object. -/
  | insert (kind : Kind) (object : Json)
  /-- Somebody else changed the object under a key, if it was found. -/
  | mutate (key : StoreKey) (found : Bool)

namespace Program

variable {ε ε' α β : Type}

/-- The next call of a program, with an answer, and how the program goes on. -/
inductive Follows : Program ε α → Event → Program ε α → Prop
  | store (call : StoreCall) (next : Except StoreError Json → Program ε α)
    (answer : Except StoreError Json) :
    Follows (.store call next) (.store call answer) (next answer)
  | manage (endpoint : Endpoint) (call : Call)
    (next : Except ManagementError call.Answer → Program ε α)
    (answer : Except ManagementError call.Answer) :
    Follows (.manage endpoint call next) (.manage endpoint call answer) (next answer)

/-- The next call of a program is that of a longer one. -/
theorem Follows.bind {p p' : Program ε α} {event : Event} (h : Follows p event p')
    (f : α → Program ε β) : Follows (p.bind f) event (p'.bind f) := by
  cases h with
  | store call next answer => exact .store call _ answer
  | manage endpoint call next answer => exact .manage endpoint call _ answer

theorem Follows.handle {p p' : Program ε α} {event : Event} (h : Follows p event p')
    (f : ε → Program ε' α) : Follows (p.handle f) event (p'.handle f) := by
  cases h with
  | store call next answer => exact .store call _ answer
  | manage endpoint call next answer => exact .manage endpoint call _ answer

/-- A call is answered in this way, and leaves this world. -/
inductive Happens (env : Environment) (w : World) : Event → World → Prop
  | store {call : StoreCall} {injected : Option StoreError} {answer : Except StoreError Json}
    {after : Store} (may : ∀ e, injected = some e → env.injects e)
    (answered : (w.store.inject call injected).answer call = (answer, after)) :
    Happens env w (.store call answer) { w with store := after }
  | manage {endpoint : Endpoint} {call : Call} {answer : Except ManagementError call.Answer}
    {after : Cluster} (may : env.answers w.cluster endpoint call answer after) :
    Happens env w (.manage endpoint call answer) { w with cluster := after }

variable {env : Environment} {w w' : World} {call : StoreCall} {answer : Except StoreError Json}

/-- Where no failure is pending, the store may answer as it does. -/
theorem happens_store (hfailures : w.store.failures = [])
    (hanswer : (w.store.answer call).1 = answer) :
    Happens env w (.store call answer) { w with store := (w.store.answer call).2 } := by
  subst hanswer
  have hanswered : (w.store.inject call none).answer call = w.store.answer call := by
    rw [Store.inject_none hfailures]
  exact .store (by simp) hanswered

end Program

/-! ## §2. Monitors -/

/-- A state that follows events, and which events are allowed in it. -/
structure Monitor (σ : Type) where
  next : σ → Event → σ
  allows : σ → Event → Prop

namespace Program

variable {ε ε' α β σ : Type}

/-- However its calls are answered, the program does what the monitor allows,
    and when it ends, its result and the state of the monitor are in `post`. -/
def Obeys (m : Monitor σ) (post : Except ε α → σ → Prop) : Program ε α → σ → Prop
  | .done a, s => post (.ok a) s
  | .fail e, s => post (.error e) s
  | .store call next, s => ∀ answer,
    m.allows s (.store call answer) ∧ Obeys m post (next answer) (m.next s (.store call answer))
  | .manage endpoint call next, s => ∀ answer,
    m.allows s (.manage endpoint call answer)
      ∧ Obeys m post (next answer) (m.next s (.manage endpoint call answer))

variable {m : Monitor σ} {post : Except ε α → σ → Prop} {s : σ} {p p' : Program ε α}

/-- **One call**: it is allowed, and what is left of the program obeys. -/
theorem Follows.obeys {event : Event} (h : Follows p event p') (hp : p.Obeys m post s) :
    m.allows s event ∧ p'.Obeys m post (m.next s event) := by
  cases h with
  | store call next answer => exact hp answer
  | manage endpoint call next answer => exact hp answer

/-! ## §3. Rules -/

theorem Obeys.mono {mid : Except ε α → σ → Prop} (h : p.Obeys m mid s)
    (himp : ∀ r s, mid r s → post r s) : p.Obeys m post s := by
  induction p generalizing s with
  | done a => exact himp _ _ h
  | fail e => exact himp _ _ h
  | store call next ih => exact fun answer => ⟨(h answer).1, ih answer (h answer).2⟩
  | manage endpoint call next ih => exact fun answer => ⟨(h answer).1, ih answer (h answer).2⟩

/-- A program and then another one. -/
theorem Obeys.bind {mid : Except ε α → σ → Prop} {post : Except ε β → σ → Prop}
    {f : α → Program ε β} (h : p.Obeys m mid s)
    (hok : ∀ a s, mid (.ok a) s → (f a).Obeys m post s)
    (herror : ∀ e s, mid (.error e) s → post (.error e) s) : (p.bind f).Obeys m post s := by
  induction p generalizing s with
  | done a => exact hok a s h
  | fail e => exact herror e s h
  | store call next ih => exact fun answer => ⟨(h answer).1, ih answer (h answer).2⟩
  | manage endpoint call next ih => exact fun answer => ⟨(h answer).1, ih answer (h answer).2⟩

/-- A program with a way to go on when it fails. -/
theorem Obeys.handle {mid : Except ε α → σ → Prop} {post : Except ε' α → σ → Prop}
    {f : ε → Program ε' α} (h : p.Obeys m mid s)
    (hok : ∀ a s, mid (.ok a) s → post (.ok a) s)
    (herror : ∀ e s, mid (.error e) s → (f e).Obeys m post s) : (p.handle f).Obeys m post s := by
  induction p generalizing s with
  | done a => exact hok a s h
  | fail e => exact herror e s h
  | store call next ih => exact fun answer => ⟨(h answer).1, ih answer (h answer).2⟩
  | manage endpoint call next ih => exact fun answer => ⟨(h answer).1, ih answer (h answer).2⟩

theorem Obeys.mapError {post : Except ε' α → σ → Prop} {f : ε → ε'}
    (h : p.Obeys m (fun r => post (r.mapError f)) s) : (p.mapError f).Obeys m post s :=
  h.handle (fun _ _ => id) fun _ _ => id

theorem obeys_ofExcept {post : Except ε' α → σ → Prop} {f : ε → ε'} {r : Except ε α}
    (h : post (r.mapError f) s) : (ofExcept f r : Program ε' α).Obeys m post s := by
  cases r with
  | ok a => exact h
  | error e => exact h

/-! ## §4. Programs that only do what is always allowed -/

/-- Every event that the program causes is allowed, and every result is in
    `post`. -/
structure Does (allowed : Event → Prop) (post : Except ε α → Prop) (p : Program ε α) : Prop where
  obeys : p.Obeys (σ := Unit) ⟨fun _ _ => (), fun _ => allowed⟩ (fun r _ => post r) ()

variable {allowed : Event → Prop} {ends : Except ε α → Prop}

theorem Does.mono {allowed' : Event → Prop} {ends' : Except ε α → Prop}
    (h : p.Does allowed ends) (hallowed : ∀ event, allowed event → allowed' event)
    (hends : ∀ r, ends r → ends' r) : p.Does allowed' ends' := by
  obtain ⟨h⟩ := h
  constructor
  induction p with
  | done a => exact hends _ h
  | fail e => exact hends _ h
  | store call next ih => exact fun answer => ⟨hallowed _ (h answer).1, ih answer (h answer).2⟩
  | manage endpoint call next ih =>
    exact fun answer => ⟨hallowed _ (h answer).1, ih answer (h answer).2⟩

theorem does_done {a : α} (h : ends (.ok a)) : (done a : Program ε α).Does allowed ends :=
  ⟨h⟩

theorem does_fail {e : ε} (h : ends (.error e)) : (fail e : Program ε α).Does allowed ends :=
  ⟨h⟩

theorem does_store {call : StoreCall} {next : Except StoreError Json → Program ε α}
    (hcall : ∀ answer, allowed (.store call answer))
    (hnext : ∀ answer, (next answer).Does allowed ends) : (store call next).Does allowed ends :=
  ⟨fun answer => ⟨hcall answer, (hnext answer).obeys⟩⟩

theorem does_manage {endpoint : Endpoint} {call : Call}
    {next : Except ManagementError call.Answer → Program ε α}
    (hcall : ∀ answer, allowed (.manage endpoint call answer))
    (hnext : ∀ answer, (next answer).Does allowed ends) :
    (manage endpoint call next).Does allowed ends :=
  ⟨fun answer => ⟨hcall answer, (hnext answer).obeys⟩⟩

theorem Does.bind {mid : Except ε α → Prop} {ends : Except ε β → Prop} {f : α → Program ε β}
    (h : p.Does allowed mid) (hok : ∀ a, mid (.ok a) → (f a).Does allowed ends)
    (herror : ∀ e, mid (.error e) → ends (.error e)) : (p.bind f).Does allowed ends :=
  ⟨h.obeys.bind (fun a _ ha => (hok a ha).obeys) fun e _ => herror e⟩

theorem Does.handle {mid : Except ε α → Prop} {ends : Except ε' α → Prop} {f : ε → Program ε' α}
    (h : p.Does allowed mid) (hok : ∀ a, mid (.ok a) → ends (.ok a))
    (herror : ∀ e, mid (.error e) → (f e).Does allowed ends) : (p.handle f).Does allowed ends :=
  ⟨h.obeys.handle (fun a _ => hok a) fun e _ he => (herror e he).obeys⟩

theorem does_ofExcept {ends : Except ε' α → Prop} {f : ε → ε'} {r : Except ε α}
    (h : ends (r.mapError f)) : (ofExcept f r : Program ε' α).Does allowed ends :=
  ⟨obeys_ofExcept h⟩

/-- A program that may only call the object store. -/
theorem Does.storeOnly (h : p.Does allowed ends)
    (hallowed : ∀ endpoint call answer, ¬ allowed (.manage endpoint call answer)) :
    p.StoreOnly := by
  obtain ⟨h⟩ := h
  induction p with
  | done a => trivial
  | fail e => trivial
  | store call next ih => exact fun answer => ih answer (h answer).2
  | manage endpoint call next =>
    exact hallowed endpoint call (.error (.transport "")) (h _).1

/-- **What a monitor always allows while its state is in `P`, and what keeps it
    there**, can be done without looking at the state. -/
theorem Does.obeys_of_keeps {m : Monitor σ} {P : σ → Prop} (h : p.Does allowed ends)
    (hkeeps : ∀ s event, P s → allowed event → m.allows s event ∧ P (m.next s event))
    (hs : P s) : p.Obeys m (fun r s' => ends r ∧ P s') s := by
  obtain ⟨h⟩ := h
  induction p generalizing s with
  | done a => exact ⟨h, hs⟩
  | fail e => exact ⟨h, hs⟩
  | store call next ih =>
    intro answer
    obtain ⟨hallows, hnext⟩ := hkeeps s _ hs (h answer).1
    exact ⟨hallows, ih answer hnext (h answer).2⟩
  | manage endpoint call next ih =>
    intro answer
    obtain ⟨hallows, hnext⟩ := hkeeps s _ hs (h answer).1
    exact ⟨hallows, ih answer hnext (h answer).2⟩

end Program

end LoggingOperator
