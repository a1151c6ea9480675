/-
  LoggingOperator.Proofs.Program.Course — A PROGRAM FROM ITS FIRST CALL TO ITS LAST.

  `Traces p events r` if `p` may make the calls of `events`, answered in that
  way, and then end with `r`.  Nothing is assumed of the answers, so whatever
  the stores hold, whoever else writes to them and whichever calls fail, the
  calls of a program are one of its traces.

  A `Script` fixes how the calls of a program are answered: which of its calls
  to the object store fail, and what the management API says.  The `course` of
  a program is what it then does: its calls, its result and the store that it
  leaves.  Every run is the course of some script (`Runs.exists_course`), and
  so is what `run` does (`exists_course_run`).

  A program `Stops` if it ends at once at any call that fails with an error
  that it does not tolerate.  Where such a call is made to fail, the course is
  that of before up to this call, and nothing after it (`Stops.stopsAt`).
-/
import LoggingOperator.Proofs.Program.Interleaving

namespace LoggingOperator

open Management (Call Endpoint ManagementError)

namespace Store

/-- What is left of a store after these calls, none of which is made to fail. -/
def replay (s : Store) : List Event → Store
  | [] => s
  | .store call _ :: later => ((s.inject call none).answer call).2.replay later
  | _ :: later => s.replay later

theorem replay_append (s : Store) (events later : List Event) :
    s.replay (events ++ later) = (s.replay events).replay later := by
  induction events generalizing s with
  | nil => rfl
  | cons event events ih => cases event <;> exact ih _

end Store

namespace Program

variable {ε ε' α β : Type}

/-! ## §1. Traces -/

/-- The calls of a program with answers, up to its end. -/
inductive Traces : Program ε α → List Event → Except ε α → Prop
  | done (value : α) : Traces (.done value) [] (.ok value)
  | fail (error : ε) : Traces (.fail error) [] (.error error)
  | call {p p' : Program ε α} {event : Event} {events : List Event} {r : Except ε α}
    (follows : Follows p event p') (rest : Traces p' events r) : Traces p (event :: events) r

section Traces

variable {events : List Event}

theorem traces_done_iff {a : α} {r : Except ε α} :
    Traces (.done a) events r ↔ events = [] ∧ r = .ok a := by
  constructor
  · intro h
    cases h with
    | done => exact ⟨rfl, rfl⟩
    | call follows _ => cases follows
  · rintro ⟨rfl, rfl⟩
    exact .done a

theorem traces_fail_iff {e : ε} {r : Except ε α} :
    Traces (.fail e) events r ↔ events = [] ∧ r = .error e := by
  constructor
  · intro h
    cases h with
    | fail => exact ⟨rfl, rfl⟩
    | call follows _ => cases follows
  · rintro ⟨rfl, rfl⟩
    exact .fail e

theorem traces_store_iff {call : StoreCall} {next : Except StoreError Json → Program ε α}
    {r : Except ε α} :
    Traces (.store call next) events r ↔
      ∃ answer later, events = .store call answer :: later ∧ Traces (next answer) later r := by
  constructor
  · intro h
    cases h with
    | call follows rest =>
      cases follows with
      | store call next answer => exact ⟨answer, _, rfl, rest⟩
  · rintro ⟨answer, later, rfl, h⟩
    exact .call (.store call next answer) h

theorem traces_manage_iff {endpoint : Endpoint} {call : Call}
    {next : Except ManagementError call.Answer → Program ε α} {r : Except ε α} :
    Traces (.manage endpoint call next) events r ↔
      ∃ answer later, events = .manage endpoint call answer :: later
        ∧ Traces (next answer) later r := by
  constructor
  · intro h
    cases h with
    | call follows rest =>
      cases follows with
      | manage endpoint call next answer => exact ⟨answer, _, rfl, rest⟩
  · rintro ⟨answer, later, rfl, h⟩
    exact .call (.manage endpoint call next answer) h

/-- A program and then another one: the first fails, or its calls are followed by
    those of the second. -/
theorem traces_bind_iff {p : Program ε α} {f : α → Program ε β} {r : Except ε β} :
    Traces (p.bind f) events r ↔
      (∃ e, Traces p events (.error e) ∧ r = .error e)
        ∨ ∃ a before after, events = before ++ after ∧ Traces p before (.ok a)
          ∧ Traces (f a) after r := by
  -- From left to right by induction on the program, back by induction on the first trace.
  constructor
  · intro h
    induction p generalizing events with
    | done a => exact Or.inr ⟨a, [], events, rfl, .done a, h⟩
    | fail e =>
      obtain ⟨rfl, rfl⟩ := traces_fail_iff.1 h
      exact Or.inl ⟨e, .fail e, rfl⟩
    | store call next ih =>
      obtain ⟨answer, later, rfl, hlater⟩ := traces_store_iff.1 h
      rcases ih answer hlater with ⟨e, he, rfl⟩ | ⟨a, before, after, rfl, ha, hf⟩
      · exact Or.inl ⟨e, traces_store_iff.2 ⟨answer, _, rfl, he⟩, rfl⟩
      · exact Or.inr ⟨a, _ :: before, after, rfl, traces_store_iff.2 ⟨answer, _, rfl, ha⟩, hf⟩
    | manage endpoint call next ih =>
      obtain ⟨answer, later, rfl, hlater⟩ := traces_manage_iff.1 h
      rcases ih answer hlater with ⟨e, he, rfl⟩ | ⟨a, before, after, rfl, ha, hf⟩
      · exact Or.inl ⟨e, traces_manage_iff.2 ⟨answer, _, rfl, he⟩, rfl⟩
      · exact Or.inr ⟨a, _ :: before, after, rfl, traces_manage_iff.2 ⟨answer, _, rfl, ha⟩, hf⟩
  · rintro (⟨e, he, rfl⟩ | ⟨a, before, after, rfl, ha, hf⟩)
    · generalize hr : Except.error e = r at he
      induction he with
      | done => cases hr
      | fail => cases hr; exact .fail e
      | call follows _ ih => exact .call (follows.bind f) (ih hr)
    · generalize hr : Except.ok a = r' at ha
      induction ha with
      | done => cases hr; exact hf
      | fail => cases hr
      | call follows _ ih => exact .call (follows.bind f) (ih hr)

/-- A program with a way to go on when it fails. -/
theorem traces_handle_iff {p : Program ε α} {f : ε → Program ε' α} {r : Except ε' α} :
    Traces (p.handle f) events r ↔
      (∃ a, Traces p events (.ok a) ∧ r = .ok a)
        ∨ ∃ e before after, events = before ++ after ∧ Traces p before (.error e)
          ∧ Traces (f e) after r := by
  -- As for sequences, with the two ends of the first program exchanged.
  constructor
  · intro h
    induction p generalizing events with
    | done a =>
      obtain ⟨rfl, rfl⟩ := traces_done_iff.1 h
      exact Or.inl ⟨a, .done a, rfl⟩
    | fail e => exact Or.inr ⟨e, [], events, rfl, .fail e, h⟩
    | store call next ih =>
      obtain ⟨answer, later, rfl, hlater⟩ := traces_store_iff.1 h
      rcases ih answer hlater with ⟨a, ha, rfl⟩ | ⟨e, before, after, rfl, he, hf⟩
      · exact Or.inl ⟨a, traces_store_iff.2 ⟨answer, _, rfl, ha⟩, rfl⟩
      · exact Or.inr ⟨e, _ :: before, after, rfl, traces_store_iff.2 ⟨answer, _, rfl, he⟩, hf⟩
    | manage endpoint call next ih =>
      obtain ⟨answer, later, rfl, hlater⟩ := traces_manage_iff.1 h
      rcases ih answer hlater with ⟨a, ha, rfl⟩ | ⟨e, before, after, rfl, he, hf⟩
      · exact Or.inl ⟨a, traces_manage_iff.2 ⟨answer, _, rfl, ha⟩, rfl⟩
      · exact Or.inr ⟨e, _ :: before, after, rfl, traces_manage_iff.2 ⟨answer, _, rfl, he⟩, hf⟩
  · rintro (⟨a, ha, rfl⟩ | ⟨e, before, after, rfl, he, hf⟩)
    · generalize hr : Except.ok a = r' at ha
      induction ha with
      | done => cases hr; exact .done a
      | fail => cases hr
      | call follows _ ih => exact .call (follows.handle f) (ih hr)
    · generalize hr : Except.error e = r' at he
      induction he with
      | done => cases hr
      | fail => cases hr; exact hf
      | call follows _ ih => exact .call (follows.handle f) (ih hr)

theorem traces_mapError_iff {f : ε → ε'} {p : Program ε α} {r : Except ε' α} :
    Traces (p.mapError f) events r ↔ ∃ r₀, Traces p events r₀ ∧ r = r₀.mapError f := by
  rw [mapError, traces_handle_iff]
  constructor
  · rintro (⟨a, ha, rfl⟩ | ⟨e, before, after, rfl, he, hf⟩)
    · exact ⟨.ok a, ha, rfl⟩
    · obtain ⟨rfl, rfl⟩ := traces_fail_iff.1 hf
      exact ⟨.error e, by rwa [List.append_nil], rfl⟩
  · rintro ⟨r₀, hr₀, rfl⟩
    cases r₀ with
    | ok a => exact Or.inl ⟨a, hr₀, rfl⟩
    | error e => exact Or.inr ⟨e, events, [], by simp, hr₀, .fail _⟩

theorem traces_ofExcept_iff {f : ε → ε'} {x : Except ε α} {r : Except ε' α} :
    Traces (ofExcept f x) events r ↔ events = [] ∧ r = x.mapError f := by
  cases x with
  | ok a => exact traces_done_iff
  | error e => exact traces_fail_iff

/-- What a program may do is what happens in its traces. -/
theorem Does.traces {allowed : Event → Prop} {ends : Except ε α → Prop} {p : Program ε α}
    {r : Except ε α} (hp : p.Does allowed ends) (h : Traces p events r) :
    (∀ event ∈ events, allowed event) ∧ ends r := by
  obtain ⟨hp⟩ := hp
  induction h with
  | done value => exact ⟨by simp, hp⟩
  | fail error => exact ⟨by simp, hp⟩
  | call follows _ ih =>
    obtain ⟨hevent, hrest⟩ := follows.obeys hp
    obtain ⟨hevents, hends⟩ := ih hrest
    exact ⟨List.forall_mem_cons.2 ⟨hevent, hevents⟩, hends⟩

/-- However a program's calls are answered, it comes to an end. -/
theorem exists_traces (p : Program ε α) : ∃ events r, Traces p events r := by
  induction p with
  | done a => exact ⟨[], _, .done a⟩
  | fail e => exact ⟨[], _, .fail e⟩
  | store call next ih =>
    obtain ⟨events, r, h⟩ := ih (.error (.transport ""))
    exact ⟨_, r, .call (.store call next _) h⟩
  | manage endpoint call next ih =>
    obtain ⟨events, r, h⟩ := ih (.error (.transport ""))
    exact ⟨_, r, .call (.manage endpoint call next _) h⟩

/-- A call that is one of a program's calls may be answered in any other way. -/
theorem Traces.reanswer {p : Program ε α} {before later : List Event} {call : StoreCall}
    {answer : Except StoreError Json} {r : Except ε α}
    (h : Traces p (before ++ .store call answer :: later) r)
    (answer' : Except StoreError Json) :
    ∃ later' r', Traces p (before ++ .store call answer' :: later') r' := by
  induction before generalizing p with
  | nil =>
    cases h with
    | call follows _ =>
      cases follows with
      | store _ next _ =>
        obtain ⟨later', r', hrest⟩ := exists_traces (next answer')
        exact ⟨later', r', .call (.store call next answer') hrest⟩
  | cons event before ih =>
    cases h with
    | call follows rest =>
      obtain ⟨later', r', hrest⟩ := ih rest
      exact ⟨later', r', .call follows hrest⟩

end Traces

/-! ## §2. Courses -/

/-- How the calls of a program are answered.  A call is known by its position
    among all calls of the program. -/
structure Script where
  /-- With which error a call to the object store fails, if it does. -/
  fault : Nat → Option StoreError
  /-- What the management API answers. -/
  answer : Nat → Endpoint → (call : Call) → Except ManagementError call.Answer

namespace Script

/-- What is left of a script after some calls. -/
def later (n : Nat) (σ : Script) : Script where
  fault k := σ.fault (k + n)
  answer k := σ.answer (k + n)

/-- No call to the object store fails. -/
def Quiet (σ : Script) : Prop :=
  ∀ k, σ.fault k = none

/-- The same script, but for one call that fails. -/
def failing (k : Nat) (e : StoreError) (σ : Script) : Script :=
  { σ with fault := fun j => if j = k then some e else σ.fault j }

/-- Nothing fails but what the management API is asked for. -/
def refusing : Script where
  fault _ := none
  answer _ _ _ := .error (.transport "connection refused")

theorem quiet_refusing : refusing.Quiet :=
  fun _ => rfl

/-- The script whose first call is answered like this. -/
def cons (fault : Option StoreError)
    (answer : Endpoint → (call : Call) → Except ManagementError call.Answer) (σ : Script) :
    Script where
  fault
    | 0 => fault
    | k + 1 => σ.fault k
  answer
    | 0 => answer
    | k + 1 => σ.answer k

variable {σ : Script}

@[simp] theorem later_zero (σ : Script) : σ.later 0 = σ := rfl

theorem later_later (m n : Nat) (σ : Script) : (σ.later m).later n = σ.later (n + m) := by
  simp only [later, Nat.add_assoc]

theorem Quiet.later (h : σ.Quiet) (n : Nat) : (σ.later n).Quiet :=
  fun k => h (k + n)

theorem fault_failing (k : Nat) (e : StoreError) (σ : Script) :
    (σ.failing k e).fault k = some e :=
  if_pos rfl

theorem fault_failing_of_ne {j k : Nat} (h : j ≠ k) {e : StoreError} :
    (σ.failing k e).fault j = σ.fault j :=
  if_neg h

theorem failing_later {n k : Nat} (h : n ≤ k) (e : StoreError) (σ : Script) :
    (σ.failing k e).later n = (σ.later n).failing (k - n) e := by
  have hpos : ∀ j, j + n = k ↔ j = k - n := by omega
  simp only [Script.later, failing, hpos]

end Script

/-- What a program did. -/
structure Course (ε α : Type) where
  events : List Event
  result : Except ε α
  store : Store

/-- The same course after some more events. -/
def Course.after (events : List Event) (c : Course ε α) : Course ε α :=
  { c with events := events ++ c.events }

@[simp] theorem Course.after_nil (c : Course ε α) : c.after [] = c := rfl

/-- What a program does where its calls are answered by a store and a script. -/
def course : Program ε α → Script → Store → Course ε α
  | .done a, _, s => ⟨[], .ok a, s⟩
  | .fail e, _, s => ⟨[], .error e, s⟩
  | .store call next, σ, s =>
    let (answer, after) := (s.inject call (σ.fault 0)).answer call
    ((next answer).course (σ.later 1) after).after [.store call answer]
  | .manage endpoint call next, σ, s =>
    let answer := σ.answer 0 endpoint call
    ((next answer).course (σ.later 1) s).after [.manage endpoint call answer]

variable {σ : Script} {s : Store}

/-- A course is a trace. -/
theorem traces_course (p : Program ε α) (σ : Script) (s : Store) :
    Traces p (p.course σ s).events (p.course σ s).result := by
  induction p generalizing σ s with
  | done a => exact .done a
  | fail e => exact .fail e
  | store call next ih => exact .call (.store call next _) (ih _ _ _)
  | manage endpoint call next ih => exact .call (.manage endpoint call next _) (ih _ _ _)

/-- **Every run is the course of a script.** -/
theorem Runs.exists_course {env : Environment} {p : Program ε α} {w w' : World} {r : Except ε α}
    (h : Runs env p w r w') :
    ∃ σ, (p.course σ w.store).result = r ∧ (p.course σ w.store).store = w'.store := by
  -- The script says of each call what was answered in the run.
  induction h with
  | done value w => exact ⟨⟨fun _ => none, fun _ _ _ => .error (.transport "")⟩, rfl, rfl⟩
  | fail error w => exact ⟨⟨fun _ => none, fun _ _ _ => .error (.transport "")⟩, rfl, rfl⟩
  | store injected _ _ ih =>
    obtain ⟨σ, hresult, hstore⟩ := ih
    exact ⟨σ.cons injected fun _ _ => .error (.transport ""), hresult, hstore⟩
  | @manage endpoint call next _ _ _ answer _ _ _ ih =>
    obtain ⟨σ, hresult, hstore⟩ := ih
    let answers (_ : Endpoint) (call' : Call) : Except ManagementError call'.Answer :=
      if h : call = call' then h ▸ answer else .error (.transport "")
    have hanswer : answers endpoint call = answer := dif_pos rfl
    have hcourse : ∀ s, (Program.manage endpoint call next).course (σ.cons none answers) s
        = ((next answer).course σ s).after [.manage endpoint call answer] := by
      intro s
      show ((next (answers endpoint call)).course σ s).after
        [.manage endpoint call (answers endpoint call)] = _
      rw [hanswer]
    exact ⟨σ.cons none answers, by rw [hcourse]; exact hresult, by rw [hcourse]; exact hstore⟩

/-- **What running does is the course of a script**, whichever failures are
    pending. -/
theorem exists_course_run (p : Program ε α) (w : World) :
    ∃ σ, (p.course σ w.store.disarm).result = (p.run w).1
      ∧ (p.course σ w.store.disarm).store = (p.run w).2.store.disarm :=
  (runs_run wild p (by simp [wild]) fun _ _ _ => trivial).exists_course

/-- A course where no call fails is a run where nothing fails, for a program that
    calls the object store alone. -/
theorem runs_course {p : Program ε α} (hp : p.StoreOnly) {σ : Script} (hσ : σ.Quiet)
    (s : Store) (c : Management.Cluster) :
    Runs calm p ⟨s, c⟩ (p.course σ s).result ⟨(p.course σ s).store, c⟩ := by
  induction p generalizing σ s with
  | done a => exact .done a _
  | fail e => exact .fail e _
  | store call next ih =>
    refine .store none nofun ?_
    simp only [course, hσ 0]
    exact ih _ (hp _) (hσ.later 1) _
  | manage endpoint call next => exact hp.elim

/-! ## §3. Courses of composed programs -/

/-- Running two programs one after the other. -/
theorem course_bind (p : Program ε α) (f : α → Program ε β) (σ : Script) (s : Store) :
    (p.bind f).course σ s = match p.course σ s with
      | ⟨events, .ok a, t⟩ => ((f a).course (σ.later events.length) t).after events
      | ⟨events, .error e, t⟩ => ⟨events, .error e, t⟩ := by
  induction p generalizing σ s with
  | done a => rfl
  | fail e => rfl
  | store call next ih =>
    simp only [bind, course, ih]
    generalize (next _).course _ _ = c
    obtain ⟨events, r, t⟩ := c
    cases r with
    | ok a => simp [Course.after, Script.later_later]
    | error e => rfl
  | manage endpoint call next ih =>
    simp only [bind, course, ih]
    generalize (next _).course _ _ = c
    obtain ⟨events, r, t⟩ := c
    cases r with
    | ok a => simp [Course.after, Script.later_later]
    | error e => rfl

/-- Running a program and then, if it fails, going on with its error. -/
theorem course_handle (p : Program ε α) (f : ε → Program ε' α) (σ : Script) (s : Store) :
    (p.handle f).course σ s = match p.course σ s with
      | ⟨events, .ok a, t⟩ => ⟨events, .ok a, t⟩
      | ⟨events, .error e, t⟩ => ((f e).course (σ.later events.length) t).after events := by
  induction p generalizing σ s with
  | done a => rfl
  | fail e => rfl
  | store call next ih =>
    simp only [handle, course, ih]
    generalize (next _).course _ _ = c
    obtain ⟨events, r, t⟩ := c
    cases r with
    | ok a => rfl
    | error e => simp [Course.after, Script.later_later]
  | manage endpoint call next ih =>
    simp only [handle, course, ih]
    generalize (next _).course _ _ = c
    obtain ⟨events, r, t⟩ := c
    cases r with
    | ok a => rfl
    | error e => simp [Course.after, Script.later_later]

section Composed

variable {p : Program ε α} {events : List Event} {t : Store}

/-- A program that ends well, and then another one. -/
theorem course_bind_of_ok {a : α} (h : p.course σ s = ⟨events, .ok a, t⟩) (f : α → Program ε β) :
    (p.bind f).course σ s = ((f a).course (σ.later events.length) t).after events := by
  rw [course_bind, h]

theorem course_bind_of_result {a : α} (h : (p.course σ s).result = .ok a) (f : α → Program ε β) :
    (p.bind f).course σ s = ((f a).course (σ.later (p.course σ s).events.length)
      (p.course σ s).store).after (p.course σ s).events := by
  apply course_bind_of_ok
  rw [← h]

/-- A program that fails, and then another one. -/
theorem course_bind_of_error {e : ε} (h : p.course σ s = ⟨events, .error e, t⟩)
    (f : α → Program ε β) : (p.bind f).course σ s = ⟨events, .error e, t⟩ := by
  rw [course_bind, h]

theorem course_mapError (p : Program ε α) (f : ε → ε') (σ : Script) (s : Store) :
    (p.mapError f).course σ s
      = ⟨(p.course σ s).events, (p.course σ s).result.mapError f, (p.course σ s).store⟩ := by
  rw [mapError, course_handle]
  generalize p.course σ s = c
  obtain ⟨events, r, t⟩ := c
  cases r with
  | ok a => rfl
  | error e => simp only [course, Course.after, List.append_nil]; rfl

/-- Where the same calls fail, the management API does not matter to a program
    that never calls it. -/
theorem course_congr {τ : Script} (hp : p.StoreOnly) (h : σ.fault = τ.fault) (s : Store) :
    p.course σ s = p.course τ s := by
  induction p generalizing σ τ s with
  | done a => rfl
  | fail e => rfl
  | store call next ih =>
    have hlater : (σ.later 1).fault = (τ.later 1).fault := by
      funext k
      exact congrFun h (k + 1)
    simp only [course, h, ih _ (hp _) hlater]
  | manage endpoint call next => exact hp.elim

/-! ## §4. Where a call is made to fail -/

/-- Where no call fails, what is left is what the calls made of the store. -/
theorem course_store (hσ : σ.Quiet) (p : Program ε α) (s : Store) :
    (p.course σ s).store = s.replay (p.course σ s).events := by
  induction p generalizing σ s with
  | done a => rfl
  | fail e => rfl
  | store call next ih =>
    simp only [course, Course.after, List.singleton_append, Store.replay, hσ 0]
    exact ih _ (hσ.later 1) _
  | manage endpoint call next ih => exact ih _ (hσ.later 1) s

/-- A failure after the last call of a program does not matter to it. -/
theorem course_failing_of_le {k : Nat} (hk : (p.course σ s).events.length ≤ k) (e : StoreError) :
    p.course (σ.failing k e) s = p.course σ s := by
  induction p generalizing σ s k with
  | done a => rfl
  | fail e => rfl
  | store call next ih =>
    simp only [course, Course.after, List.singleton_append, List.length_cons] at hk
    have hfault : (σ.failing k e).fault 0 = σ.fault 0 := Script.fault_failing_of_ne (by omega)
    simp only [course, hfault, Script.failing_later (show 1 ≤ k by omega)]
    rw [ih _ (by omega)]
  | manage endpoint call next ih =>
    simp only [course, Course.after, List.singleton_append, List.length_cons] at hk
    have hanswer : (σ.failing k e).answer = σ.answer := rfl
    simp only [course, hanswer, Script.failing_later (show 1 ≤ k by omega)]
    rw [ih _ (by omega)]

/-- One course is the other one up to the call at a position, which fails, and
    nothing after it: the result is the failure, and what was stored by then
    stays. -/
structure Course.Stopped (c : Course ε α) (s : Store) (k : Nat) (call : StoreCall)
    (e : StoreError) (failure : ε) (stopped : Course ε α) : Prop where
  events : stopped.events = c.events.take k ++ [.store call (.error e)]
  result : stopped.result = .error failure
  objects : stopped.store.objects = (s.replay (c.events.take k)).objects

/-- If the call at this position fails with an error that is not tolerated, the
    program stops there. -/
def StopsAt (embed : StoreError → ε) (tolerated : StoreCall → StoreError → Prop)
    (p : Program ε α) (σ : Script) (s : Store) (k : Nat) : Prop :=
  ∀ call answer e, (p.course σ s).events[k]? = some (.store call answer) → ¬ tolerated call e →
    (p.course σ s).Stopped s k call e (embed e) (p.course (σ.failing k e) s)

/-- Whichever call fails with an error that is not tolerated, the program stops
    there. -/
inductive Stops (embed : StoreError → ε) (tolerated : StoreCall → StoreError → Prop) :
    Program ε α → Prop
  | done (value : α) : Stops embed tolerated (.done value)
  | fail (error : ε) : Stops embed tolerated (.fail error)
  | store {call : StoreCall} {next : Except StoreError Json → Program ε α}
    (named : ∃ name, call.name = .ok name)
    (stop : ∀ e, ¬ tolerated call e → next (.error e) = .fail (embed e))
    (rest : ∀ answer, Stops embed tolerated (next answer)) :
    Stops embed tolerated (.store call next)
  | manage {endpoint : Endpoint} {call : Call}
    {next : Except ManagementError call.Answer → Program ε α}
    (rest : ∀ answer, Stops embed tolerated (next answer)) :
    Stops embed tolerated (.manage endpoint call next)

variable {embed : StoreError → ε} {tolerated : StoreCall → StoreError → Prop} {k : Nat}

/-- A course that stops one call later. -/
theorem Course.Stopped.cons {c stopped : Course ε α} {t : Store} {call : StoreCall}
    {e : StoreError} {failure : ε} (h : c.Stopped t k call e failure stopped) {event : Event}
    (ht : s.replay [event] = t) :
    (c.after [event]).Stopped s (k + 1) call e failure (stopped.after [event]) where
  events := congrArg (event :: ·) h.events
  result := h.result
  objects := by
    have htake : (c.after [event]).events.take (k + 1) = [event] ++ c.events.take k := rfl
    rw [htake, Store.replay_append, ht]
    exact h.objects

/-- **A call that fails where this is not tolerated is the last one.** -/
theorem Stops.stopsAt (hp : p.Stops embed tolerated) (hσ : σ.Quiet) (s : Store) (k : Nat) :
    StopsAt embed tolerated p σ s k := by
  intro call answer e hcall he
  -- By induction on the program: the failing call is its first one, or one of the rest.
  induction hp generalizing σ s k with
  | done a => simp [course] at hcall
  | fail e => simp [course] at hcall
  | @store call' next named hstop _ ih =>
    obtain ⟨name, hname⟩ := named
    cases k with
    | zero =>
      simp only [course, Course.after, List.singleton_append, List.getElem?_cons_zero,
        Option.some.injEq, Event.store.injEq] at hcall
      obtain ⟨rfl, -⟩ := hcall
      have hcourse : (Program.store call' next).course (σ.failing 0 e) s
          = ⟨[.store call' (.error e)], .error (embed e), s.noted call' name⟩ := by
        simp only [course, Script.fault_failing, Store.answer_inject_some hname, hstop e he]
        rfl
      rw [hcourse]
      exact ⟨rfl, rfl, rfl⟩
    | succ k =>
      have hfault : (σ.failing (k + 1) e).fault 0 = none :=
        (Script.fault_failing_of_ne (by omega)).trans (hσ 0)
      simp only [course, hσ 0, Course.after, List.singleton_append,
        List.getElem?_cons_succ] at hcall
      simp only [course, hσ 0, hfault, Script.failing_later (show 1 ≤ k + 1 by omega),
        Nat.add_sub_cancel]
      exact (ih _ (hσ.later 1) _ k hcall).cons rfl
  | manage _ ih =>
    cases k with
    | zero =>
      simp only [course, Course.after, List.singleton_append, List.getElem?_cons_zero,
        Option.some.injEq] at hcall
      cases hcall
    | succ k =>
      have hanswer : (σ.failing (k + 1) e).answer = σ.answer := rfl
      simp only [course, Course.after, List.singleton_append, List.getElem?_cons_succ] at hcall
      simp only [course, hanswer, Script.failing_later (show 1 ≤ k + 1 by omega),
        Nat.add_sub_cancel]
      exact (ih _ (hσ.later 1) s k hcall).cons rfl

/-! ## §5. Stopping, put together -/

theorem Stops.bind {f : α → Program ε β} (hp : p.Stops embed tolerated)
    (hf : ∀ a, (f a).Stops embed tolerated) : (p.bind f).Stops embed tolerated := by
  induction hp with
  | done a => exact hf a
  | fail e => exact .fail e
  | store named stop _ ih =>
    refine .store named (fun e he => ?_) ih
    rw [stop e he]
    rfl
  | manage _ ih => exact .manage ih

/-- A way to go on that lets errors of the object store pass. -/
theorem Stops.handle {embed' : StoreError → ε'} {f : ε → Program ε' α}
    (hp : p.Stops embed tolerated) (hpass : ∀ e, f (embed e) = .fail (embed' e))
    (hf : ∀ e, (f e).Stops embed' tolerated) : (p.handle f).Stops embed' tolerated := by
  induction hp with
  | done a => exact .done a
  | fail e => exact hf e
  | store named stop _ ih =>
    refine .store named (fun e he => ?_) ih
    rw [stop e he]
    exact hpass e
  | manage _ ih => exact .manage ih

theorem Stops.mapError {embed' : StoreError → ε'} {f : ε → ε'} (hp : p.Stops embed tolerated)
    (hf : ∀ e, f (embed e) = embed' e) : (p.mapError f).Stops embed' tolerated :=
  hp.handle (fun e => congrArg Program.fail (hf e)) fun _ => .fail _

/-- A program that stops at one of its calls stops there before another one. -/
theorem StopsAt.bind_left (h : StopsAt embed tolerated p σ s k)
    (hk : k < (p.course σ s).events.length) (f : α → Program ε β) :
    StopsAt embed tolerated (p.bind f) σ s k := by
  intro call answer e hcall he
  have hprefix : ∃ later, ((p.bind f).course σ s).events = (p.course σ s).events ++ later := by
    rw [course_bind]
    generalize p.course σ s = c
    obtain ⟨events, r, t⟩ := c
    cases r with
    | ok a => exact ⟨_, rfl⟩
    | error e => exact ⟨[], (List.append_nil _).symm⟩
  obtain ⟨later, hlater⟩ := hprefix
  rw [hlater, List.getElem?_append_left hk] at hcall
  obtain ⟨hevents, hresult, hobjects⟩ := h call answer e hcall he
  have hfails : p.course (σ.failing k e) s
      = ⟨(p.course σ s).events.take k ++ [.store call (.error e)], .error (embed e),
        (p.course (σ.failing k e) s).store⟩ := by
    rw [← hevents, ← hresult]
  rw [course_bind_of_error hfails]
  refine ⟨?_, rfl, ?_⟩
  · rw [hlater, List.take_append_of_le_length (Nat.le_of_lt hk)]
  · rw [hlater, List.take_append_of_le_length (Nat.le_of_lt hk)]
    exact hobjects

/-- A program that stops at one of its calls stops there after another one. -/
theorem StopsAt.bind_right (hσ : σ.Quiet) {a : α} {t : Store}
    (hp : p.course σ s = ⟨events, .ok a, t⟩) {f : α → Program ε β} (hk : events.length ≤ k)
    (h : StopsAt embed tolerated (f a) (σ.later events.length) t (k - events.length)) :
    StopsAt embed tolerated (p.bind f) σ s k := by
  intro call answer e hcall he
  have hstore : s.replay events = t := by
    have := course_store hσ p s
    rw [hp] at this
    exact this.symm
  have hp' : p.course (σ.failing k e) s = ⟨events, .ok a, t⟩ := by
    rw [course_failing_of_le (by rw [hp]; exact hk), hp]
  rw [course_bind_of_ok hp, Course.after, List.getElem?_append_right hk] at hcall
  obtain ⟨hevents, hresult, hobjects⟩ := h call answer e hcall he
  rw [course_bind_of_ok hp', course_bind_of_ok hp, Script.failing_later hk]
  have htake : ∀ later : List Event,
      (events ++ later).take k = events ++ later.take (k - events.length) := by
    intro later
    rw [List.take_append, List.take_of_length_le hk]
  refine ⟨?_, hresult, ?_⟩
  · simp only [Course.after, hevents, htake, List.append_assoc]
  · simp only [Course.after, hobjects, htake, Store.replay_append, hstore]

end Composed

/-! ## §6. Among other programs -/

/-- The calls of one program, the first one first. -/
def calls (i : Nat) : List Entry → List Event
  | [] => []
  | entry :: earlier =>
    if entry.member = some i then calls i earlier ++ [entry.event] else calls i earlier

/-- **What a program has done among others is the beginning of its traces**, and
    what is left of it may go on from there. -/
theorem Turns.traces {env : Environment} {others : Others} {members : List (Program ε α)}
    {w : World} {q : Pool ε α} (h : Turns env others (Pool.start members w) q) {i : Nat}
    {p : Program ε α} (hp : members[i]? = some p) :
    ∃ p', q.members[i]? = some p' ∧ ∀ {events : List Event} {r : Except ε α},
      Traces p' events r → Traces p (calls i q.history ++ events) r := by
  induction h with
  | refl => exact ⟨p, hp, id⟩
  | tail _ turn ih =>
    obtain ⟨p', hp', htraces⟩ := ih
    obtain ⟨entry, turn⟩ := turn
    cases turn with
    | @member j program program' event w found follows happens =>
      -- A call of the program itself is appended, and those of others are not seen.
      by_cases hij : j = i
      · subst hij
        cases found.symm.trans hp'
        have hlength := (List.getElem?_eq_some_iff.1 found).1
        refine ⟨program', List.getElem?_set_self hlength, fun hrest => ?_⟩
        rw [calls, if_pos rfl, List.append_assoc]
        exact htraces (.call follows hrest)
      · refine ⟨p', (List.getElem?_set_ne hij).trans hp', ?_⟩
        rw [calls, if_neg fun h => hij (Option.some.inj h)]
        exact htraces
    | other may =>
      refine ⟨p', hp', ?_⟩
      rw [calls, if_neg (by simp)]
      exact htraces

end Program

end LoggingOperator
