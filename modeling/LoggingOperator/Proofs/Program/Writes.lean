/-
  LoggingOperator.Proofs.Program.Writes — WHAT A PROGRAM WRITES, AND WHERE.

  A program `Writes` under the keys of a list if, however its calls are
  answered, it tries to write under each of them at most once, in their order,
  and under no other key.  There is one rule for each way to put programs
  together.

  What is not among the keys stays as it is (`Writes.object?_course`).
-/
import LoggingOperator.Proofs.Program.Course
import LoggingOperator.Proofs.Store.Answers

namespace LoggingOperator

/-! ## §1. Writes -/

/-- The write that an event is. -/
def Event.write? : Event → Option StoreCall
  | .store call _ => if call.op.isWrite then some call else none
  | _ => none

/-- Under which key a call writes, if it has a name for the object. -/
def StoreCall.target? (call : StoreCall) : Option StoreKey :=
  call.name.toOption.map fun name => StoreKey.of call.kind call.ns? name

namespace Program

/-- The writes among these calls, in order. -/
def writeCalls (events : List Event) : List StoreCall :=
  events.filterMap Event.write?

theorem writeCalls_append (events later : List Event) :
    writeCalls (events ++ later) = writeCalls events ++ writeCalls later :=
  List.filterMap_append

/-- The keys that are written by these calls, in order, whether the writes are
    carried out or not. -/
def targets (events : List Event) : List StoreKey :=
  (writeCalls events).filterMap StoreCall.target?

theorem targets_append (events later : List Event) :
    targets (events ++ later) = targets events ++ targets later := by
  rw [targets, writeCalls_append, List.filterMap_append]
  rfl

theorem targets_of_silent {events : List Event} (h : writeCalls events = []) :
    targets events = [] := by
  rw [targets, h]
  rfl

variable {ε ε' α β : Type} {keys keys' : List StoreKey} {p : Program ε α}

/-- A program writes under these keys, each at most once and in this order, however
    its calls are answered. -/
def Writes (keys : List StoreKey) (p : Program ε α) : Prop :=
  ∀ (events : List Event) (r : Except ε α), Traces p events r → (targets events).Sublist keys

/-! ## §2. Rules -/

theorem Writes.mono (hp : Writes keys p) (h : keys.Sublist keys') : Writes keys' p :=
  fun _ _ htraces => (hp _ _ htraces).trans h

/-- A program without a write. -/
theorem writes_of_silent (h : ∀ events r, Traces p events r → writeCalls events = []) :
    Writes [] p :=
  fun events r htraces => List.sublist_nil.2 (targets_of_silent (h events r htraces))

theorem writes_done (a : α) : Writes [] (.done a : Program ε α) := by
  intro events r h
  rw [(traces_done_iff.1 h).1]
  exact List.Sublist.refl _

theorem writes_fail (keys : List StoreKey) (e : ε) : Writes keys (.fail e : Program ε α) := by
  intro events r h
  rw [(traces_fail_iff.1 h).1]
  exact List.nil_sublist _

theorem Writes.bind {f : α → Program ε β} (hp : Writes keys p) (hf : ∀ a, Writes keys' (f a)) :
    Writes (keys ++ keys') (p.bind f) := by
  intro events r h
  rcases traces_bind_iff.1 h with ⟨e, he, -⟩ | ⟨a, before, after, rfl, hbefore, hafter⟩
  · exact (hp _ _ he).trans (List.sublist_append_left _ _)
  · rw [targets_append]
    exact (hp _ _ hbefore).append (hf a _ _ hafter)

theorem Writes.mapError (hp : Writes keys p) (f : ε → ε') : Writes keys (p.mapError f) := by
  intro events r h
  obtain ⟨_, h, -⟩ := traces_mapError_iff.1 h
  exact hp _ _ h

/-- A read writes nothing. -/
theorem writes_get {kind : Kind} {name : String} {ns : Option String}
    {next : Except StoreError Json → Program ε α} (h : ∀ answer, Writes keys (next answer)) :
    Writes keys (.store (.get kind name ns) next) := by
  intro events r htraces
  obtain ⟨answer, later, rfl, hlater⟩ := traces_store_iff.1 htraces
  show (targets later).Sublist keys
  exact h answer _ _ hlater

/-- The last call is a write under this key. -/
theorem writes_last {call : StoreCall} {key : StoreKey} (hcall : call.target? = some key)
    {next : Except StoreError Json → Program ε α} (h : ∀ answer, Writes [] (next answer)) :
    Writes [key] (.store call next) := by
  intro events r htraces
  obtain ⟨answer, later, rfl, hlater⟩ := traces_store_iff.1 htraces
  have hlater : targets later = [] := List.sublist_nil.1 (h answer _ _ hlater)
  rw [← List.singleton_append, targets_append, hlater, List.append_nil]
  unfold targets writeCalls
  by_cases hwrite : call.op.isWrite = true <;> simp [Event.write?, hwrite, hcall]

/-! ## §3. What is not written stays as it is -/

/-- A call changes nothing but the object that it writes. -/
theorem object?_answer_of_target {call : StoreCall} {injected : Option StoreError}
    {s after : Store} {answer : Except StoreError Json} {key : StoreKey}
    (h : (s.inject call injected).answer call = (answer, after))
    (hkey : call.op.isWrite = true → call.target? ≠ some key) :
    after.object? key = s.object? key := by
  refine (Store.answered h).object?_eq fun name stored hname hwrite _ => ?_
  rintro rfl
  refine hkey hwrite ?_
  rw [StoreCall.target?, hname]
  rfl

theorem object?_course {σ : Script} {s : Store} {key : StoreKey}
    (h : key ∉ targets (p.course σ s).events) :
    (p.course σ s).store.object? key = s.object? key := by
  induction p generalizing σ s with
  | done a => rfl
  | fail e => rfl
  | store call next ih =>
    cases hanswered : (s.inject call (σ.fault 0)).answer call with
    | mk answer after =>
      simp only [course, hanswered, Course.after, targets_append, List.mem_append, not_or] at h ⊢
      refine (ih answer h.2).trans (object?_answer_of_target hanswered fun hwrite htarget => ?_)
      refine h.1 ?_
      simp [targets, writeCalls, Event.write?, hwrite, htarget]
  | manage endpoint call next ih =>
    simp only [course, Course.after, targets_append, List.mem_append, not_or] at h ⊢
    exact ih _ h.2

/-- **What a program does not write stays as it is**, however its calls are
    answered. -/
theorem Writes.object?_course (hp : Writes keys p) {key : StoreKey} (hkey : key ∉ keys)
    (σ : Script) (s : Store) : (p.course σ s).store.object? key = s.object? key :=
  Program.object?_course fun h => hkey ((hp _ _ (traces_course p σ s)).subset h)

end Program

end LoggingOperator
