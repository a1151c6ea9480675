/-
  LoggingOperator.Proofs.Convergence.Calls — WHICH CALLS CONVERGENCE MAKES.

  `converge` reads one object and sends at most one write, which is made of
  what was read (`WritesFor`).  `ensureOnce` reads one object and sends nothing
  but a create.  Both are said by rules for what a monitor has to allow, so
  that a claim about the calls of any composed program is put together from
  them.
-/
import LoggingOperator.Proofs.Convergence.Converge
import LoggingOperator.Proofs.Program.Trace

namespace LoggingOperator.Convergence

open Program (Obeys)

/-! ## §1. One read and one write made of it -/

/-- The write of a desired object over what was read. -/
inductive WritesFor (kind : Kind) (desired : Json) : Option Json → StoreCall → Prop
  | create {object : Json} (prepared : withLastApplied desired = .ok object) :
    WritesFor kind desired none (.create kind object)
  | update {stored object : Json} (prepared : prepareUpdate kind desired stored = .ok object) :
    WritesFor kind desired (some stored) (.update kind object)

theorem WritesFor.kind_eq {kind : Kind} {desired : Json} {stored : Option Json} {call : StoreCall}
    (h : WritesFor kind desired stored call) : call.kind = kind := by
  cases h <;> rfl

/-- A create is asked for where nothing was read, an update where something was. -/
theorem writesFor_of_writeFor {kind : Kind} {desired : Json} {stored : Option Json}
    {call : StoreCall} (h : writeFor kind desired stored = .ok (some call)) :
    WritesFor kind desired stored call := by
  unfold writeFor at h
  cases stored with
  | none =>
    have hdecide : decide kind desired none = .create := rfl
    simp only [hdecide, prepareCreate] at h
    cases hr : withLastApplied desired with
    | error e =>
      rw [hr] at h
      cases h
    | ok object =>
      rw [hr] at h
      cases h
      exact .create hr
  | some stored =>
    cases hdecide : decide kind desired (some stored) with
    | create => exact absurd hdecide (decide_some_ne_create kind desired stored)
    | skip => simp [hdecide] at h
    | update =>
      simp only [hdecide] at h
      cases hp : prepareUpdate kind desired stored with
      | error e =>
        rw [hp] at h
        cases h
      | ok object =>
        rw [hp] at h
        cases h
        exact .update hp

variable {σ ε : Type} {m : Monitor σ} {s : σ} {kind : Kind} {desired : Json}

/-- **What `converge` needs to be allowed**: to read the object under the desired
    name, and then to send the write made of what was read. -/
theorem obeys_converge
    (hread : ∀ name, desired.name = .ok name → ∀ answer,
      m.allows s (.store (.get kind name desired.namespace?) answer))
    (hwrite : ∀ name, desired.name = .ok name → ∀ answer stored call,
      stored? answer = .ok stored → WritesFor kind desired stored call → ∀ result,
      m.allows (m.next s (.store (.get kind name desired.namespace?) answer))
        (.store call result)) :
    (converge kind desired).Obeys m (fun _ _ => True) s := by
  unfold converge
  cases hname : desired.name with
  | error e => trivial
  | ok name =>
    intro answer
    refine ⟨hread name hname answer, ?_⟩
    dsimp only
    cases hstored : stored? answer with
    | error e => trivial
    | ok stored =>
      show (settle kind name desired stored).Obeys m _ _
      unfold settle
      cases hcall : writeFor kind desired stored with
      | error e => trivial
      | ok call? =>
        cases call? with
        | none => trivial
        | some call =>
          intro result
          have hallowed := hwrite name hname answer stored call hstored
            (writesFor_of_writeFor hcall) result
          cases result with
          | ok _ => exact ⟨hallowed, trivial⟩
          | error _ => exact ⟨hallowed, trivial⟩

/-- `converge` only calls for objects of its kind. -/
theorem does_converge {allowed : Event → Prop}
    (h : ∀ call answer, call.kind = kind → allowed (.store call answer)) :
    (converge kind desired).Does allowed fun _ => True :=
  ⟨obeys_converge (fun _ _ answer => h _ answer rfl)
    fun _ _ _ _ _ _ hwrites result => h _ result hwrites.kind_eq⟩

/-! ## §2. One read and one create -/

variable {embed : StoreError → ε} {name : String} {ns : Option String} {build : Program ε Json}

/-- **What `createOnce` needs to be allowed**: the create of the desired object
    with the record of itself. -/
theorem obeys_createOnce
    (h : ∀ object, withLastApplied desired = .ok object → ∀ result,
      m.allows s (.store (.create kind object) result)) :
    (createOnce embed kind name desired).Obeys m (fun _ _ => True) s := by
  unfold createOnce
  cases hprepared : prepareCreate desired with
  | error e => trivial
  | ok object =>
    intro result
    refine ⟨h object hprepared result, ?_⟩
    dsimp only
    split <;> trivial

/-- **What `ensureOnce` needs to be allowed**: to look for the object, then what
    has to be done to build it where there is none, and to create it. -/
theorem obeys_ensureOnce {built : Except ε Json → σ → Prop}
    (hread : ∀ answer, m.allows s (.store (.get kind name ns) answer))
    (hbuild : ∀ answer, stored? answer = .ok none →
      build.Obeys m built (m.next s (.store (.get kind name ns) answer)))
    (hcreate : ∀ desired s', built (.ok desired) s' → ∀ object,
      withLastApplied desired = .ok object → ∀ result,
      m.allows s' (.store (.create kind object) result)) :
    (ensureOnce embed kind name ns build).Obeys m (fun _ _ => True) s := by
  intro answer
  refine ⟨hread answer, ?_⟩
  dsimp only
  cases hstored : stored? answer with
  | error e => trivial
  | ok stored =>
    cases stored with
    | some _ => trivial
    | none =>
      exact (hbuild answer hstored).bind
        (fun desired s' hdesired => obeys_createOnce (hcreate desired s' hdesired))
        fun _ _ _ => trivial

theorem does_ensureOnce {allowed : Event → Prop} {built : Except ε Json → Prop}
    (hread : ∀ answer, allowed (.store (.get kind name ns) answer))
    (hbuild : build.Does allowed built)
    (hcreate : ∀ desired object result, built (.ok desired) → withLastApplied desired = .ok object →
      allowed (.store (.create kind object) result)) :
    (ensureOnce embed kind name ns build).Does allowed fun _ => True :=
  ⟨obeys_ensureOnce hread (fun _ _ => hbuild.obeys) fun desired _ hdesired object hobject result =>
    hcreate desired object result hdesired hobject⟩

end LoggingOperator.Convergence
