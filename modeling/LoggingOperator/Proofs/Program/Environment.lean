/-
  LoggingOperator.Proofs.Program.Environment — RUNNING WHERE CALLS MAY FAIL.

  `Program.run` runs a program against the two stores in memory.  What a
  program does when calls fail is said by a relation: `Runs env p w r w'` if
  `p`, started in `w`, may end with `r` in `w'`.  The environment says with
  which errors a call to the object store may fail without being carried out,
  and what the management API may answer.

    * `calm`   — nothing fails: the runs are those of `run` (`runs_calm`);
    * `wild`   — any call may fail with any error;
    * `stormy` — any call may fail with any error but "not found".

  What `run` does where failures are pending is one of these runs (`runs_run`).

  A run of a composed program is put together from runs of its parts
  (`runs_bind_iff`, `runs_handle_iff`).
-/
import LoggingOperator.Program

namespace LoggingOperator

open Management (Call Cluster Endpoint ManagementError)

namespace Store

/-- The store where the call fails with this error, or else nothing does. -/
def inject (call : StoreCall) (injected : Option StoreError) (s : Store) : Store :=
  { s with failures := match injected with
    | some e => [(call.op, call.kind, e)]
    | none => [] }

/-- The record that a call leaves. -/
def noted (call : StoreCall) (name : String) (s : Store) : Store :=
  { s with calls := s.calls ++ [⟨call.op, call.kind, name⟩], failures := [] }

/-- A call that is made to fail does nothing. -/
theorem answer_inject_some {call : StoreCall} {name : String} (h : call.name = .ok name)
    (e : StoreError) (s : Store) :
    (s.inject call (some e)).answer call = (.error e, s.noted call name) := by
  simp [answer, h, record, inject, takeFailure, noted]

/-- A call that is not made to fail is carried out. -/
theorem answer_inject_none {call : StoreCall} {name : String} (h : call.name = .ok name)
    (s : Store) :
    (s.inject call none).answer call
      = (s.noted call name).act call (StoreKey.of call.kind call.ns? name) := by
  simp [answer, h, record, inject, takeFailure, noted]

theorem answer_inject_unnamed {call : StoreCall} {e : StoreError} (h : call.name = .error e)
    (injected : Option StoreError) (s : Store) :
    (s.inject call injected).answer call = (.error e, s.inject call injected) := by
  simp [answer, h]

theorem inject_none {s : Store} (h : s.failures = []) (call : StoreCall) :
    s.inject call none = s := by
  cases s
  cases h
  rfl

theorem giveAddress_frame (kind : Kind) (v : Json) (s : Store) :
    (giveAddress kind v s).2.objects = s.objects ∧ (giveAddress kind v s).2.calls = s.calls
      ∧ (giveAddress kind v s).2.failures = s.failures := by
  unfold giveAddress
  split
  · exact ⟨rfl, rfl, rfl⟩
  · exact ⟨rfl, rfl, rfl⟩

/-- To stamp an object changes the counters of the store alone. -/
theorem stampNew_frame (kind : Kind) (v : Json) (s : Store) :
    (stampNew kind v s).2.objects = s.objects ∧ (stampNew kind v s).2.calls = s.calls
      ∧ (stampNew kind v s).2.failures = s.failures :=
  giveAddress_frame kind _ { s with version := s.version + 1 }

/-- No call makes a later one fail. -/
theorem failures_act (call : StoreCall) (key : StoreKey) (s : Store) :
    (s.act call key).2.failures = s.failures := by
  cases call with
  | get kind name ns => rfl
  | create kind object =>
    simp only [act, create]
    split
    · rfl
    · exact (stampNew_frame kind object s).2.2
  | update kind object =>
    simp only [act, update]
    split
    · rfl
    · split <;> rfl
  | replaceStatus kind object =>
    simp only [act, replaceStatus]
    split
    · rfl
    · split <;> rfl

theorem failures_answer {s : Store} (h : s.failures = []) (call : StoreCall) :
    (s.answer call).2.failures = [] := by
  cases hname : call.name with
  | error e => simp [answer, hname, h]
  | ok name =>
    rw [← inject_none h call, answer_inject_none hname, failures_act]
    rfl

/-- The store where no failure is pending. -/
def disarm (s : Store) : Store :=
  { s with failures := [] }

theorem disarm_of_nil {s : Store} (h : s.failures = []) : s.disarm = s := by
  cases s
  cases h
  rfl

/-- A pending failure that is used was pending, and the others stay. -/
theorem mem_of_takeFailure {op : StoreOp} {kind : Kind}
    (failures : List (StoreOp × Kind × StoreError)) :
    (∀ e, (takeFailure op kind failures).1 = some e → (op, kind, e) ∈ failures)
      ∧ ∀ f ∈ (takeFailure op kind failures).2, f ∈ failures := by
  induction failures with
  | nil => exact ⟨by simp [takeFailure], by simp [takeFailure]⟩
  | cons first rest ih =>
    obtain ⟨o, k, e⟩ := first
    rw [takeFailure]
    split
    · next h =>
      obtain ⟨rfl, rfl⟩ := h
      exact ⟨fun e' he => by cases he; exact List.mem_cons_self,
        fun f hf => List.mem_cons_of_mem _ hf⟩
    · refine ⟨fun e' he => List.mem_cons_of_mem _ (ih.1 e' he), fun f hf => ?_⟩
      rcases List.mem_cons.1 hf with rfl | hf
      · exact List.mem_cons_self
      · exact List.mem_cons_of_mem _ (ih.2 f hf)

theorem stampNew_disarm (kind : Kind) (object : Json) (s : Store) :
    s.disarm.stampNew kind object
      = ((s.stampNew kind object).1, (s.stampNew kind object).2.disarm) := by
  have hgive : ∀ (v : Json) (t : Store),
      t.disarm.giveAddress kind v = ((t.giveAddress kind v).1, (t.giveAddress kind v).2.disarm) := by
    intro v t
    unfold giveAddress
    split
    · rfl
    · rfl
  have hbump : s.disarm.bump = (s.bump.1, s.bump.2.disarm) := rfl
  simp only [stampNew, hbump, hgive]
  rfl

/-- The failures that are pending do not matter to a call that is carried out. -/
theorem act_disarm (call : StoreCall) (key : StoreKey) (s : Store) :
    s.disarm.act call key = ((s.act call key).1, (s.act call key).2.disarm) := by
  have hobject : s.disarm.object? key = s.object? key := rfl
  cases call with
  | get kind name ns => rfl
  | create kind object =>
    simp only [act, create, hobject]
    split
    · rfl
    · rw [stampNew_disarm]
      rfl
  | update kind object =>
    simp only [act, update, hobject]
    split
    · rfl
    · split <;> rfl
  | replaceStatus kind object =>
    simp only [act, replaceStatus, hobject]
    split
    · rfl
    · split <;> rfl

/-- A call to a store with pending failures is made to fail with one of them, or
    carried out. -/
theorem answer_disarm (call : StoreCall) (s : Store) :
    ∃ injected, (∀ e, injected = some e → ∃ f ∈ s.failures, f.2.2 = e)
      ∧ (s.disarm.inject call injected).answer call
          = ((s.answer call).1, (s.answer call).2.disarm) := by
  cases hname : call.name with
  | error e =>
    refine ⟨none, by simp, ?_⟩
    rw [answer_inject_unnamed hname, answer, hname]
    rfl
  | ok name =>
    -- The failure that the call would take is the one to inject.
    refine ⟨(takeFailure call.op call.kind s.failures).1,
      fun e he => ⟨_, (mem_of_takeFailure s.failures).1 e he, rfl⟩, ?_⟩
    cases htaken : (takeFailure call.op call.kind s.failures).1 with
    | some e =>
      rw [answer_inject_some hname]
      simp only [answer, hname, record, htaken]
      rfl
    | none =>
      rw [answer_inject_none hname]
      simp only [answer, hname, record, htaken]
      exact act_disarm call _ { s with
        calls := s.calls ++ [⟨call.op, call.kind, name⟩]
        failures := (takeFailure call.op call.kind s.failures).2 }

/-- After a call no other failures are pending than before. -/
theorem failures_answer_subset (call : StoreCall) (s : Store) :
    ∀ f ∈ (s.answer call).2.failures, f ∈ s.failures := by
  intro f hf
  rw [answer] at hf
  split at hf
  · exact hf
  · next name _ =>
    simp only [record] at hf
    cases htaken : (takeFailure call.op call.kind s.failures).1 with
    | some e =>
      rw [htaken] at hf
      exact (mem_of_takeFailure s.failures).2 f hf
    | none =>
      rw [htaken] at hf
      simp only [failures_act] at hf
      exact (mem_of_takeFailure s.failures).2 f hf

end Store

namespace Program

variable {ε ε' α β : Type}

/-! ## §1. Environments -/

/-- What may happen to the calls of a program. -/
structure Environment where
  /-- With which errors a call to the object store may fail. -/
  injects : StoreError → Prop
  /-- What the management API may answer, and the cluster after that. -/
  answers : Cluster → Endpoint → (call : Call) → Except ManagementError call.Answer → Cluster → Prop

/-- Nothing fails. -/
def calm : Environment where
  injects _ := False
  answers c endpoint call answer after := c.answer endpoint call = (answer, after)

/-- Anything may happen. -/
def wild : Environment where
  injects _ := True
  answers _ _ _ _ _ := True

/-- Every call to the object store may fail with any error but "not found", and
    the management API may answer anything. -/
def stormy : Environment where
  injects e := e.isNotFound = false
  answers _ _ _ _ _ := True

/-- The runs of a program in an environment. -/
inductive Runs (env : Environment) : Program ε α → World → Except ε α → World → Prop
  | done (value : α) (w : World) : Runs env (.done value) w (.ok value) w
  | fail (error : ε) (w : World) : Runs env (.fail error) w (.error error) w
  | store {call : StoreCall} {next : Except StoreError Json → Program ε α} {w w' : World}
    {r : Except ε α} (injected : Option StoreError) (may : ∀ e, injected = some e → env.injects e)
    (rest : Runs env (next ((w.store.inject call injected).answer call).1)
      { w with store := ((w.store.inject call injected).answer call).2 } r w') :
    Runs env (.store call next) w r w'
  | manage {endpoint : Endpoint} {call : Call}
    {next : Except ManagementError call.Answer → Program ε α} {w w' : World} {r : Except ε α}
    {answer : Except ManagementError call.Answer} {cluster : Cluster}
    (may : env.answers w.cluster endpoint call answer cluster)
    (rest : Runs env (next answer) { w with cluster } r w') :
    Runs env (.manage endpoint call next) w r w'

/-- The world where no failure is pending. -/
def World.disarm (w : World) : World :=
  { w with store := w.store.disarm }

/-- **A run is one where the calls fail as the pending failures say.** -/
theorem runs_run (env : Environment) (p : Program ε α) {w : World}
    (hstore : ∀ f ∈ w.store.failures, env.injects f.2.2)
    (hcluster : ∀ (c : Cluster) (endpoint : Endpoint) (call : Call),
      env.answers c endpoint call (c.answer endpoint call).1 (c.answer endpoint call).2) :
    Runs env p w.disarm (p.run w).1 (p.run w).2.disarm := by
  -- Each call takes at most one pending failure, which is the one that is injected.
  induction p generalizing w with
  | done a => exact .done a _
  | fail e => exact .fail e _
  | store call next ih =>
    obtain ⟨injected, hpending, hanswer⟩ := Store.answer_disarm call w.store
    refine .store injected ?_ ?_
    · intro e he
      obtain ⟨f, hf, rfl⟩ := hpending e he
      exact hstore f hf
    · show Runs env (next ((w.store.disarm.inject call injected).answer call).1)
        { w with store := ((w.store.disarm.inject call injected).answer call).2 } _ _
      rw [hanswer]
      exact ih _ (w := { w with store := (w.store.answer call).2 })
        fun f hf => hstore f (Store.failures_answer_subset call w.store f hf)
  | manage endpoint call next ih =>
    exact .manage (hcluster w.cluster endpoint call)
      (ih _ (w := { w with cluster := (w.cluster.answer endpoint call).2 }) hstore)

/-- After a run no failure is pending. -/
theorem failures_run (p : Program ε α) {w : World} (h : w.store.failures = []) :
    (p.run w).2.store.failures = [] := by
  induction p generalizing w with
  | done a => exact h
  | fail e => exact h
  | store call next ih => exact ih _ (Store.failures_answer h call)
  | manage endpoint call next ih => exact ih _ h

/-- Where no failure is pending, running is one of the runs. -/
theorem runs_of_quiet (env : Environment) (p : Program ε α) {w : World}
    (h : w.store.failures = [])
    (hcluster : ∀ (c : Cluster) (endpoint : Endpoint) (call : Call),
      env.answers c endpoint call (c.answer endpoint call).1 (c.answer endpoint call).2) :
    Runs env p w (p.run w).1 (p.run w).2 := by
  have hrun := runs_run env p (w := w) (by simp [h]) hcluster
  have hdisarm : ∀ {v : World}, v.store.failures = [] → v.disarm = v := by
    intro v hv
    rw [World.disarm, Store.disarm_of_nil hv]
  rwa [hdisarm h, hdisarm (failures_run p h)] at hrun

/-- **Running is running where nothing fails.** -/
theorem runs_calm (p : Program ε α) {w : World} (h : w.store.failures = []) :
    Runs calm p w (p.run w).1 (p.run w).2 :=
  runs_of_quiet calm p h fun _ _ _ => rfl

/-! ## §2. Runs of composed programs -/

/-- Sequences are written with `do` and read by `bind`. -/
theorem bind_eq (p : Program ε α) (f : α → Program ε β) : (p >>= f) = p.bind f := rfl

theorem pure_eq (a : α) : (pure a : Program ε α) = .done a := rfl

variable {env : Environment} {w w' : World}

theorem runs_done_iff {a : α} {r : Except ε α} :
    Runs env (.done a) w r w' ↔ r = .ok a ∧ w' = w := by
  constructor
  · intro h
    cases h
    exact ⟨rfl, rfl⟩
  · rintro ⟨rfl, rfl⟩
    exact .done a _

theorem runs_fail_iff {e : ε} {r : Except ε α} :
    Runs env (.fail e) w r w' ↔ r = .error e ∧ w' = w := by
  constructor
  · intro h
    cases h
    exact ⟨rfl, rfl⟩
  · rintro ⟨rfl, rfl⟩
    exact .fail e _

/-- A program and then another one: the first fails, or the second goes on. -/
theorem runs_bind_iff {p : Program ε α} {f : α → Program ε β} {r : Except ε β} :
    Runs env (p.bind f) w r w' ↔
      (∃ e, Runs env p w (.error e) w' ∧ r = .error e)
        ∨ ∃ a between, Runs env p w (.ok a) between ∧ Runs env (f a) between r w' := by
  -- In both directions by induction on the first program: a call of it is a call of the whole.
  constructor
  · intro h
    induction p generalizing w with
    | done a => exact Or.inr ⟨a, w, .done a w, h⟩
    | fail e =>
      obtain ⟨rfl, rfl⟩ := runs_fail_iff.1 h
      exact Or.inl ⟨e, .fail e _, rfl⟩
    | store call next ih =>
      cases h with
      | store injected may rest =>
        rcases ih _ rest with ⟨e, he, hr⟩ | ⟨a, between, ha, hf⟩
        · exact Or.inl ⟨e, .store injected may he, hr⟩
        · exact Or.inr ⟨a, between, .store injected may ha, hf⟩
    | manage endpoint call next ih =>
      cases h with
      | manage may rest =>
        rcases ih _ rest with ⟨e, he, hr⟩ | ⟨a, between, ha, hf⟩
        · exact Or.inl ⟨e, .manage may he, hr⟩
        · exact Or.inr ⟨a, between, .manage may ha, hf⟩
  · intro h
    induction p generalizing w with
    | done a =>
      rcases h with ⟨e, he, -⟩ | ⟨a', between, ha, hf⟩
      · cases he
      · cases ha
        exact hf
    | fail e =>
      rcases h with ⟨e', he, rfl⟩ | ⟨a, between, ha, -⟩
      · cases he
        exact .fail e _
      · cases ha
    | store call next ih =>
      rcases h with ⟨e, he, hr⟩ | ⟨a, between, ha, hf⟩
      · cases he with
        | store injected may rest => exact .store injected may (ih _ (Or.inl ⟨e, rest, hr⟩))
      · cases ha with
        | store injected may rest =>
          exact .store injected may (ih _ (Or.inr ⟨a, between, rest, hf⟩))
    | manage endpoint call next ih =>
      rcases h with ⟨e, he, hr⟩ | ⟨a, between, ha, hf⟩
      · cases he with
        | manage may rest => exact .manage may (ih _ (Or.inl ⟨e, rest, hr⟩))
      · cases ha with
        | manage may rest => exact .manage may (ih _ (Or.inr ⟨a, between, rest, hf⟩))

/-- A program with a way to go on when it fails. -/
theorem runs_handle_iff {p : Program ε α} {f : ε → Program ε' α} {r : Except ε' α} :
    Runs env (p.handle f) w r w' ↔
      (∃ a, Runs env p w (.ok a) w' ∧ r = .ok a)
        ∨ ∃ e between, Runs env p w (.error e) between ∧ Runs env (f e) between r w' := by
  -- As for sequences, by induction on the program that may fail.
  constructor
  · intro h
    induction p generalizing w with
    | done a =>
      obtain ⟨rfl, rfl⟩ := runs_done_iff.1 h
      exact Or.inl ⟨a, .done a _, rfl⟩
    | fail e => exact Or.inr ⟨e, w, .fail e w, h⟩
    | store call next ih =>
      cases h with
      | store injected may rest =>
        rcases ih _ rest with ⟨a, ha, hr⟩ | ⟨e, between, he, hf⟩
        · exact Or.inl ⟨a, .store injected may ha, hr⟩
        · exact Or.inr ⟨e, between, .store injected may he, hf⟩
    | manage endpoint call next ih =>
      cases h with
      | manage may rest =>
        rcases ih _ rest with ⟨a, ha, hr⟩ | ⟨e, between, he, hf⟩
        · exact Or.inl ⟨a, .manage may ha, hr⟩
        · exact Or.inr ⟨e, between, .manage may he, hf⟩
  · intro h
    induction p generalizing w with
    | done a =>
      rcases h with ⟨a', ha, rfl⟩ | ⟨e, between, he, -⟩
      · cases ha
        exact .done a _
      · cases he
    | fail e =>
      rcases h with ⟨a, ha, -⟩ | ⟨e', between, he, hf⟩
      · cases ha
      · cases he
        exact hf
    | store call next ih =>
      rcases h with ⟨a, ha, hr⟩ | ⟨e, between, he, hf⟩
      · cases ha with
        | store injected may rest => exact .store injected may (ih _ (Or.inl ⟨a, rest, hr⟩))
      · cases he with
        | store injected may rest =>
          exact .store injected may (ih _ (Or.inr ⟨e, between, rest, hf⟩))
    | manage endpoint call next ih =>
      rcases h with ⟨a, ha, hr⟩ | ⟨e, between, he, hf⟩
      · cases ha with
        | manage may rest => exact .manage may (ih _ (Or.inl ⟨a, rest, hr⟩))
      · cases he with
        | manage may rest => exact .manage may (ih _ (Or.inr ⟨e, between, rest, hf⟩))

/-- Renamed errors change nothing else. -/
theorem runs_mapError_iff {f : ε → ε'} {p : Program ε α} {r : Except ε' α} :
    Runs env (p.mapError f) w r w' ↔ ∃ r₀, Runs env p w r₀ w' ∧ r = r₀.mapError f := by
  rw [mapError, runs_handle_iff]
  constructor
  · rintro (⟨a, ha, rfl⟩ | ⟨e, between, he, hf⟩)
    · exact ⟨.ok a, ha, rfl⟩
    · obtain ⟨rfl, rfl⟩ := runs_fail_iff.1 hf
      exact ⟨.error e, he, rfl⟩
  · rintro ⟨r₀, hr₀, rfl⟩
    cases r₀ with
    | ok a => exact Or.inl ⟨a, hr₀, rfl⟩
    | error e => exact Or.inr ⟨e, w', hr₀, .fail _ _⟩

/-- A call to the object store fails as injected, or is carried out. -/
theorem runs_store_iff {call : StoreCall} {name : String} (hname : call.name = .ok name)
    {next : Except StoreError Json → Program ε α} {r : Except ε α} :
    Runs env (.store call next) w r w' ↔
      (∃ e, env.injects e
        ∧ Runs env (next (.error e)) { w with store := w.store.noted call name } r w')
      ∨ Runs env (next ((w.store.noted call name).act call
          (StoreKey.of call.kind call.ns? name)).1)
          { w with store := ((w.store.noted call name).act call
            (StoreKey.of call.kind call.ns? name)).2 } r w' := by
  constructor
  · intro h
    cases h with
    | store injected may rest =>
      cases injected with
      | none =>
        rw [Store.answer_inject_none hname] at rest
        exact Or.inr rest
      | some e =>
        rw [Store.answer_inject_some hname] at rest
        exact Or.inl ⟨e, may e rfl, rest⟩
  · rintro (⟨e, he, rest⟩ | rest)
    · refine .store (some e) (fun _ h => Option.some.inj h ▸ he) ?_
      rw [Store.answer_inject_some hname]
      exact rest
    · refine .store none (by simp) ?_
      rw [Store.answer_inject_none hname]
      exact rest

theorem runs_manage_iff {endpoint : Endpoint} {call : Call}
    {next : Except ManagementError call.Answer → Program ε α} {r : Except ε α} :
    Runs env (.manage endpoint call next) w r w' ↔
      ∃ answer cluster, env.answers w.cluster endpoint call answer cluster
        ∧ Runs env (next answer) { w with cluster } r w' := by
  constructor
  · intro h
    cases h with
    | manage may rest => exact ⟨_, _, may, rest⟩
  · rintro ⟨answer, cluster, may, rest⟩
    exact .manage may rest

/-! ## §3. Programs that leave the cluster alone -/

/-- The program never calls the management API. -/
def StoreOnly : Program ε α → Prop
  | .done _ => True
  | .fail _ => True
  | .store _ next => ∀ answer, StoreOnly (next answer)
  | .manage _ _ _ => False

theorem Runs.cluster_eq {p : Program ε α} {r : Except ε α} (hp : p.StoreOnly)
    (h : Runs env p w r w') : w'.cluster = w.cluster := by
  induction h with
  | done _ _ => rfl
  | fail _ _ => rfl
  | store _ _ _ ih => exact ih (hp _)
  | manage _ _ _ => exact hp.elim

/-- The cluster does not matter to such a program. -/
theorem run_eq_of_storeOnly {p : Program ε α} (hp : p.StoreOnly) (s : Store) (c c' : Cluster) :
    p.run ⟨s, c⟩ = ((p.run ⟨s, c'⟩).1, ⟨(p.run ⟨s, c'⟩).2.store, c⟩) := by
  induction p generalizing s with
  | done a => rfl
  | fail e => rfl
  | store call next ih => exact ih _ (hp _) _
  | manage endpoint call next => exact hp.elim

end Program

end LoggingOperator
