/-
  LoggingOperator.Proofs.Program.Interleaving — SEVERAL PROGRAMS AT ONCE.

  A `Pool` is any number of programs that share the two stores, with the
  history of what was done to them.  It goes on in turns: one of the programs
  makes its next call, or somebody else does something.  A call is atomic, and
  the order of the turns is arbitrary, so that `Turns` are all interleavings
  of the calls.

  What a monitor allows to each program it allows in every interleaving
  (`Turn.watched`), because the state of the monitor follows the calls of that
  program alone (`Monitor.stage`).  A property of pools is shown to hold after
  any turns by one step (`Turns.preserves`).

  To run the programs to their ends one after the other is one of the
  interleavings (`Turns.of_runs`).
-/
import LoggingOperator.Proofs.Program.Trace
import Mathlib.Logic.Relation

namespace LoggingOperator.Program

variable {ε α σ : Type}

/-! ## §1. Pools -/

/-- An event, and the position of the program that caused it, unless somebody
    else did. -/
structure Entry where
  member : Option Nat
  event : Event

/-- Programs that share a world.  Of the history, the latest entry comes first. -/
structure Pool (ε α : Type) where
  members : List (Program ε α)
  world : World
  history : List Entry := []

/-- Nothing has happened yet. -/
def Pool.start (members : List (Program ε α)) (w : World) : Pool ε α where
  members := members
  world := w

/-- What somebody else may do to a world with this history, and the world after
    that. -/
abbrev Others := World → List Entry → Event → World → Prop

/-- There is nobody else. -/
def nobody : Others := fun _ _ _ _ => False

variable {env : Environment} {others : Others} {p q r : Pool ε α} {entry : Entry}

/-- One turn: a program makes its next call, or somebody else does something. -/
inductive Turn (env : Environment) (others : Others) (p : Pool ε α) : Entry → Pool ε α → Prop
  | member {i : Nat} {program program' : Program ε α} {event : Event} {w : World}
    (found : p.members[i]? = some program) (follows : Follows program event program')
    (happens : Happens env p.world event w) :
    Turn env others p ⟨some i, event⟩
      { members := p.members.set i program', world := w, history := ⟨some i, event⟩ :: p.history }
  | other {event : Event} {w : World} (may : others p.world p.history event w) :
    Turn env others p ⟨none, event⟩
      { p with world := w, history := ⟨none, event⟩ :: p.history }

/-- Any number of turns. -/
def Turns (env : Environment) (others : Others) : Pool ε α → Pool ε α → Prop :=
  Relation.ReflTransGen fun p q => ∃ entry, Turn env others p entry q

theorem Turn.history_eq (h : Turn env others p entry q) : q.history = entry :: p.history := by
  cases h with
  | member _ _ _ => rfl
  | other _ => rfl

/-- What happened at a turn: a call was answered, or somebody else did something. -/
theorem Turn.happens (h : Turn env others p entry q) :
    Happens env p.world entry.event q.world
      ∨ entry.member = none ∧ others p.world p.history entry.event q.world := by
  cases h with
  | member _ _ happens => exact Or.inl happens
  | other may => exact Or.inr ⟨rfl, may⟩

/-- Where there is nobody else, every turn is a call of one of the programs. -/
theorem Turn.of_nobody (h : Turn env nobody p entry q) :
    (∃ i, entry.member = some i) ∧ Happens env p.world entry.event q.world := by
  cases h with
  | @member i _ _ _ _ _ _ happens => exact ⟨⟨i, rfl⟩, happens⟩
  | other may => exact may.elim

theorem Turns.refl (p : Pool ε α) : Turns env others p p :=
  Relation.ReflTransGen.refl

theorem Turns.turn (h : Turns env others p q) (turn : Turn env others q entry r) :
    Turns env others p r :=
  Relation.ReflTransGen.tail h ⟨entry, turn⟩

theorem Turns.trans (h : Turns env others p q) (h' : Turns env others q r) :
    Turns env others p r :=
  Relation.ReflTransGen.trans h h'

/-! ## §2. What holds after any turns -/

end Program

open Program (Entry Pool Environment Others Turn Turns)

namespace Monitor

variable {ε α σ : Type}

/-- The state of the monitor that watches one program, after what happened. -/
def stage (m : Monitor σ) (start : σ) (i : Nat) : List Entry → σ
  | [] => start
  | entry :: earlier =>
    if entry.member = some i then m.next (m.stage start i earlier) entry.event
    else m.stage start i earlier

theorem stage_cons_self (m : Monitor σ) (start : σ) (i : Nat) (event : Event)
    (earlier : List Entry) :
    m.stage start i (⟨some i, event⟩ :: earlier) = m.next (m.stage start i earlier) event :=
  if_pos rfl

theorem stage_cons_of_ne (m : Monitor σ) (start : σ) {i : Nat} {entry : Entry}
    (h : entry.member ≠ some i) (earlier : List Entry) :
    m.stage start i (entry :: earlier) = m.stage start i earlier :=
  if_neg h

/-- While a program makes no call, its monitor stays as it is. -/
theorem stage_append_of_silent (m : Monitor σ) (start : σ) {i : Nat} {later : List Entry}
    (h : ∀ entry ∈ later, entry.member ≠ some i) (earlier : List Entry) :
    m.stage start i (later ++ earlier) = m.stage start i earlier := by
  induction later with
  | nil => rfl
  | cons entry later ih =>
    obtain ⟨hentry, hlater⟩ := List.forall_mem_cons.1 h
    exact (m.stage_cons_of_ne start hentry _).trans (ih hlater)

/-- A program that has made no call is where it started. -/
theorem stage_of_silent (m : Monitor σ) (start : σ) {i : Nat} {history : List Entry}
    (h : ∀ entry ∈ history, entry.member ≠ some i) : m.stage start i history = start := by
  rw [← List.append_nil history, m.stage_append_of_silent start h]
  rfl

/-- Each program of a pool, watched from the start on, obeys in what is left of
    it. -/
def Watches (m : Monitor σ) (post : Except ε α → σ → Prop) (start : σ) (p : Pool ε α) : Prop :=
  ∀ (i : Nat) (program : Program ε α), p.members[i]? = some program →
    program.Obeys m post (m.stage start i p.history)

/-- At the start of a pool each program is to obey from its first call on. -/
theorem watches_start {m : Monitor σ} {post : Except ε α → σ → Prop} {start : σ}
    {members : List (Program ε α)} (h : ∀ program ∈ members, program.Obeys m post start)
    (w : Program.World) : m.Watches post start (Pool.start members w) :=
  fun _ _ hfound => h _ (List.mem_of_getElem? hfound)

end Monitor

namespace Program

variable {ε α σ : Type} {env : Environment} {others : Others} {p q : Pool ε α} {entry : Entry}
  {m : Monitor σ} {post : Except ε α → σ → Prop} {start : σ}

/-- **At each turn a program does what is allowed in the state that follows its
    own calls**, and the programs still obey afterwards. -/
theorem Turn.watched (h : Turn env others p entry q) (hp : m.Watches post start p) :
    (∀ i, entry.member = some i → m.allows (m.stage start i p.history) entry.event)
      ∧ m.Watches post start q := by
  cases h with
  | @member i program program' event w found follows happens =>
    obtain ⟨hallowed, hrest⟩ := follows.obeys (hp i program found)
    constructor
    · rintro _ ⟨⟩
      exact hallowed
    · intro j other hother
      by_cases hj : j = i
      · subst hj
        have hlength : j < p.members.length := (List.getElem?_eq_some_iff.1 found).1
        rw [List.getElem?_set_self hlength] at hother
        cases hother
        rw [m.stage_cons_self]
        exact hrest
      -- The calls of one program are not seen by the monitors of the others.
      · rw [List.getElem?_set_ne (Ne.symm hj)] at hother
        rw [m.stage_cons_of_ne start fun h => hj (Option.some.inj h).symm]
        exact hp j other hother
  | other may =>
    refine ⟨nofun, fun j other hother => ?_⟩
    rw [m.stage_cons_of_ne start (by simp)]
    exact hp j other hother

/-- **What every allowed turn preserves holds after any turns.** -/
theorem Turns.preserves {I : Pool ε α → Prop} (h : Turns env others p q)
    (hwatched : m.Watches post start p) (hp : I p)
    (step : ∀ {r entry r'}, I r → Turn env others r entry r' →
      (∀ i, entry.member = some i → m.allows (m.stage start i r.history) entry.event) → I r') :
    I q ∧ m.Watches post start q := by
  induction h with
  | refl => exact ⟨hp, hwatched⟩
  | tail _ turn ih =>
    obtain ⟨entry, turn⟩ := turn
    obtain ⟨hallowed, hwatched'⟩ := turn.watched ih.2
    exact ⟨step ih.1 turn hallowed, hwatched'⟩

/-! ## §3. Runs as turns -/

/-- The entries of a program's own calls. -/
def entries (i : Nat) (events : List Event) : List Entry :=
  events.map (Entry.mk (some i))

/-- The pool where a program has made these calls, the latest first. -/
def Pool.after (p : Pool ε α) (i : Nat) (program : Program ε α) (w : World)
    (events : List Event) : Pool ε α where
  members := p.members.set i program
  world := w
  history := entries i events ++ p.history

theorem Pool.after_nil (p : Pool ε α) {i : Nat} {program : Program ε α}
    (hfound : p.members[i]? = some program) : p.after i program p.world [] = p := by
  obtain ⟨hlength, rfl⟩ := List.getElem?_eq_some_iff.1 hfound
  simp [Pool.after, entries]

theorem Pool.after_member (p : Pool ε α) {i : Nat} {program : Program ε α}
    (hfound : p.members[i]? = some program) (program' : Program ε α) (w : World)
    (events : List Event) : (p.after i program' w events).members[i]? = some program' :=
  List.getElem?_set_self (List.getElem?_eq_some_iff.1 hfound).1

/-- One call of a program, and then others. -/
theorem Turns.cons {allowed : Event → Prop} {i : Nat} {program program' last : Program ε α}
    {event : Event} {between w : World} (hfound : p.members[i]? = some program)
    (hallowed : allowed event) (follows : Follows program event program')
    (happens : Happens env p.world event between)
    (hrest : ∃ events, (∀ event ∈ events, allowed event)
      ∧ Turns env others (p.after i program' between [event])
          ((p.after i program' between [event]).after i last w events)) :
    ∃ events, (∀ event ∈ events, allowed event) ∧ Turns env others p (p.after i last w events) := by
  obtain ⟨events, hevents, hturns⟩ := hrest
  have hturn : Turn env others p ⟨some i, event⟩ (p.after i program' between [event]) :=
    .member hfound follows happens
  have hafter : (p.after i program' between [event]).after i last w events
      = p.after i last w (events ++ [event]) := by
    simp [Pool.after, entries]
  refine ⟨events ++ [event], ?_, ?_⟩
  · simpa [or_imp, forall_and, hallowed] using hevents
  · rw [← hafter]
    exact (Turns.refl p |>.turn hturn).trans hturns

/-- **The first part of a program may run to its end while the others wait**, and
    causes the events that it may cause. -/
theorem Turns.of_runs_bind {β : Type} {program : Program ε β} {f : β → Program ε α} {w w' : World}
    {result : Except ε β} (h : Runs env program w result w') {allowed : Event → Prop}
    {ends : Except ε β → Prop} (hdoes : program.Does allowed ends) {p : Pool ε α} {i : Nat}
    (hfound : p.members[i]? = some (program.bind f)) (hworld : p.world = w) :
    ∃ events, (∀ event ∈ events, allowed event)
      ∧ Turns env others p (p.after i ((ofExcept id result).bind f) w' events) := by
  -- By induction on the run: its first call is the next turn.
  induction h generalizing p with
  | done value w =>
    subst hworld
    exact ⟨[], by simp, (p.after_nil hfound).symm ▸ .refl p⟩
  | fail error w =>
    subst hworld
    exact ⟨[], by simp, (p.after_nil hfound).symm ▸ .refl p⟩
  | store injected may rest ih =>
    subst hworld
    exact Turns.cons hfound (hdoes.obeys _).1 (.store _ _ _) (.store may rfl)
      (ih ⟨(hdoes.obeys _).2⟩ (p.after_member hfound ..) rfl)
  | manage may rest ih =>
    subst hworld
    exact Turns.cons hfound (hdoes.obeys _).1 (.manage _ _ _ _) (.manage may)
      (ih ⟨(hdoes.obeys _).2⟩ (p.after_member hfound ..) rfl)

/-- **A program may run to its end while the others wait.** -/
theorem Turns.of_runs {program : Program ε α} {w w' : World} {result : Except ε α}
    (h : Runs env program w result w') {allowed : Event → Prop} {ends : Except ε α → Prop}
    (hdoes : program.Does allowed ends) {p : Pool ε α} {i : Nat}
    (hfound : p.members[i]? = some program) (hworld : p.world = w) :
    ∃ events, (∀ event ∈ events, allowed event)
      ∧ Turns env others p (p.after i (ofExcept id result) w' events) := by
  rw [← bind_done program] at hfound
  rw [← bind_done (ofExcept id result)]
  exact Turns.of_runs_bind h hdoes hfound hworld

end Program

end LoggingOperator
