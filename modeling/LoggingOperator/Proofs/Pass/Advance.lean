/-
  LoggingOperator.Proofs.Pass.Advance — WRITES TOWARDS A PLAN.

  A declaration asks for objects, each under a key of its own (`Goal`).  Which
  objects may be written for which goal is a relation (`Plan`), for the values
  of passwords and tokens are not known beforehand.  Whatever passes over the
  declaration do, whether they come to their end or not, they only write what
  is planned and needed (`Advances`).

  Such writes never undo each other:

    * `Advances.reached` — every object is still as it was at the beginning,
      or one planned write away from that;
    * `Advances.settled` — a goal that needs no write never needs one again;
    * `Advances.silent`  — where no goal needs a write, there is none.

  So any two stores that were reached from the same one, and in which all
  goals are settled, hold the same objects but for what was generated
  (`Reached.same_or_written`).
-/
import LoggingOperator.Proofs.Convergence.Converge

namespace LoggingOperator.Pass

open Convergence (decide Wrote withLastApplied)

/-! ## §1. Goals and plans -/

/-- A place in the store for which a declaration asks for an object. -/
structure Goal where
  kind : Kind
  ns : Option String
  name : String
  /-- The object is created once; whatever is there already is as good. -/
  once : Bool
deriving DecidableEq

/-- Under what the object of a goal is stored. -/
def Goal.key (g : Goal) : StoreKey :=
  StoreKey.of g.kind g.ns g.name

/-- Which objects may be written for a goal. -/
abbrev Plan := Goal → Json → Prop

/-- An object that can be written for a goal. -/
structure Generated (g : Goal) (desired : Json) : Prop where
  canonical : desired.Canonical
  named : desired.name = .ok g.name
  placed : desired.namespace? = g.ns
  recordable : ∃ object, withLastApplied desired = .ok object

/-- A plan whose goals do not meet, beside a declaration under the key `own`. -/
structure Plan.Sound (plan : Plan) (own : StoreKey) : Prop where
  generated : ∀ {g d}, plan g d → Generated g d
  apart : ∀ {g g' d d'}, plan g d → plan g' d' → g.key = g'.key → g = g'
  single : ∀ {g d d'}, plan g d → plan g d' → g.once = false → d = d'
  beside : ∀ {g d}, plan g d → g.key ≠ own

/-- Nothing is planned. -/
def Plan.empty : Plan :=
  fun _ _ => False

/-- The plan for the parts that a declaration is made of. -/
def Plan.ofParts {Part : Type} (goal : Part → Goal) (built : Part → Json → Prop) : Plan :=
  fun g d => ∃ part, goal part = g ∧ built part d

/-- A plan is sound if its parts are known by the keys of their goals. -/
theorem Plan.sound_ofParts {Part : Type} {goal : Part → Goal} {built : Part → Json → Prop}
    {own : StoreKey} (hgenerated : ∀ {p d}, built p d → Generated (goal p) d)
    (hapart : ∀ {p p'}, (goal p).key = (goal p').key → p = p')
    (hsingle : ∀ {p d d'}, built p d → built p d' → (goal p).once = false → d = d')
    (hbeside : ∀ p, (goal p).key ≠ own) : (Plan.ofParts goal built).Sound own where
  generated := by
    rintro _ d ⟨p, rfl, hd⟩
    exact hgenerated hd
  apart := by
    rintro _ _ d d' ⟨p, rfl, -⟩ ⟨p', rfl, -⟩ hkey
    rw [hapart hkey]
  single := by
    rintro _ d d' ⟨p, rfl, hd⟩ ⟨p', hgoal, hd'⟩ honce
    have hpart : p' = p := hapart (congrArg Goal.key hgoal)
    subst hpart
    exact hsingle hd hd' honce
  beside := by
    rintro _ d ⟨p, rfl, -⟩
    exact hbeside p

/-! ## §2. States of the store -/

/-- The goal needs no write: its object is there, and is in sync unless it is
    created only once. -/
def Settled (plan : Plan) (g : Goal) (s : Store) : Prop :=
  ∃ stored, s.object? g.key = some stored
    ∧ (g.once = false → ∀ d, plan g d → decide g.kind d (some stored) = .skip)

/-- No goal needs a write. -/
def AllSettled (plan : Plan) (s : Store) : Prop :=
  ∀ g d, plan g d → Settled plan g s

/-- The object is what a planned and needed write made of the initial one. -/
def Written (plan : Plan) (init : Store) (key : StoreKey) (after : Json) : Prop :=
  ∃ g desired, plan g desired ∧ g.key = key
    ∧ (g.once = true → init.object? key = none)
    ∧ decide g.kind desired (init.object? key) ≠ .skip
    ∧ Wrote g.kind desired (init.object? key) after

/-- Every object other than the declaration is as it was, or one write away. -/
def Reached (plan : Plan) (own : StoreKey) (init s : Store) : Prop :=
  ∀ key, key ≠ own → s.object? key = init.object? key
    ∨ ∃ after, s.object? key = some after ∧ Written plan init key after

/-- What happens to a store while a pass works towards a plan. -/
inductive Advances (plan : Plan) : Store → Store → Prop
  /-- Nothing is written. -/
  | rest {s s' : Store} (same : s'.objects = s.objects) (silent : s'.writes = s.writes) :
    Advances plan s s'
  /-- A planned write that is needed; it may fail. -/
  | attempt {s s' : Store} {g : Goal} {desired : Json} (aim : plan g desired)
    (absent : g.once = true → s.object? g.key = none)
    (needed : decide g.kind desired (s.object? g.key) ≠ .skip)
    (outcome : s'.objects = s.objects ∨ ∃ after, Wrote g.kind desired (s.object? g.key) after
      ∧ s'.objects = Keyed.insert g.key after s.objects) :
    Advances plan s s'
  | trans {s t u : Store} (first : Advances plan s t) (second : Advances plan t u) :
    Advances plan s u

namespace Advances

variable {plan : Plan} {own : StoreKey} {init s s' : Store}

theorem refl (plan : Plan) (s : Store) : Advances plan s s :=
  .rest rfl rfl

/-- Where nothing is planned, nothing is written. -/
theorem of_empty (h : Advances Plan.empty s s') :
    s'.objects = s.objects ∧ s'.writes = s.writes := by
  induction h with
  | rest same silent => exact ⟨same, silent⟩
  | attempt aim _ _ _ => exact aim.elim
  | trans _ _ ih ih' => exact ⟨ih'.1.trans ih.1, ih'.2.trans ih.2⟩

/-- An attempt changes the object under the key of its goal alone. -/
theorem object?_of_ne {key k : StoreKey} {after : Json}
    (h : s'.objects = Keyed.insert k after s.objects) (hne : key ≠ k) :
    s'.object? key = s.object? key :=
  (Store.object?_of_stored h key).trans (if_neg hne.symm)

theorem object?_of_insert {k : StoreKey} {after : Json}
    (h : s'.objects = Keyed.insert k after s.objects) : s'.object? k = some after :=
  (Store.object?_of_stored h k).trans (if_pos rfl)

/-! ## §3. What advancing preserves -/

/-- **Every object is at most one planned write away from the initial one.** -/
theorem reached (hplan : plan.Sound own) (h : Advances plan s s')
    (hs : Reached plan own init s) : Reached plan own init s' := by
  induction h with
  | rest same _ =>
    intro key hkey
    rw [Store.object?_congr same]
    exact hs key hkey
  | trans _ _ ih ih' => exact ih' (ih hs)
  | @attempt s s' g desired aim absent needed outcome =>
    intro key hkey
    rcases outcome with same | ⟨after, made, stored⟩
    · rw [Store.object?_congr same]
      exact hs key hkey
    · by_cases hhere : key = g.key
      · subst hhere
        rw [object?_of_insert stored]
        right
        rcases hs g.key hkey with hsame | ⟨before, hbefore, hwritten⟩
        · rw [hsame] at absent needed made
          exact ⟨after, rfl, g, desired, aim, rfl, absent, needed, made⟩
        · -- A goal that was written before needs no second write.
          obtain ⟨g', desired', aim', hkey', -, -, made'⟩ := hwritten
          have hgoal : g' = g := hplan.apart aim' aim hkey'
          subst hgoal
          rw [hbefore] at absent needed
          cases honce : g'.once with
          | true => exact absurd (absent honce) (by simp)
          | false =>
            have hdesired : desired' = desired := hplan.single aim' aim honce
            subst hdesired
            exact absurd (made'.skip (hplan.generated aim).canonical) needed
      · rw [object?_of_ne stored hhere]
        exact hs key hkey

/-- **A goal that is settled stays settled.** -/
theorem settled (hplan : plan.Sound own) (h : Advances plan s s') {g : Goal} {d : Json}
    (hg : plan g d) (hs : Settled plan g s) : Settled plan g s' := by
  induction h with
  | rest same _ =>
    rw [Settled, Store.object?_congr same]
    exact hs
  | trans _ _ ih ih' => exact ih' (ih hs)
  | @attempt s s' g' desired aim absent needed outcome =>
    rcases outcome with same | ⟨after, made, stored⟩
    · rw [Settled, Store.object?_congr same]
      exact hs
    · by_cases hhere : g.key = g'.key
      · have hgoal : g = g' := hplan.apart hg aim hhere
        subst hgoal
        -- A settled goal needs no write, whether it is kept or created once.
        obtain ⟨before, hbefore, hskip⟩ := hs
        rw [hbefore] at absent needed
        cases honce : g.once with
        | true => exact absurd (absent honce) (by simp)
        | false => exact absurd (hskip honce desired aim) needed
      · rw [Settled, object?_of_ne stored hhere]
        exact hs

theorem allSettled (hplan : plan.Sound own) (h : Advances plan s s') (hs : AllSettled plan s) :
    AllSettled plan s' :=
  fun g d hg => h.settled hplan hg (hs g d hg)

/-- **Where all goals are settled, nothing is written**, nor is a write tried. -/
theorem silent (hplan : plan.Sound own) (h : Advances plan s s') (hs : AllSettled plan s) :
    s'.objects = s.objects ∧ s'.writes = s.writes := by
  induction h with
  | rest same silent => exact ⟨same, silent⟩
  | trans first _ ih ih' =>
    have hfirst := ih hs
    have hsecond := ih' (first.allSettled hplan hs)
    exact ⟨hsecond.1.trans hfirst.1, hsecond.2.trans hfirst.2⟩
  -- An attempt is made for a goal that needs it, and no goal does.
  | @attempt s s' g desired aim absent needed outcome =>
    obtain ⟨before, hbefore, hskip⟩ := hs g desired aim
    rw [hbefore] at absent needed
    cases honce : g.once with
    | true => exact absurd (absent honce) (by simp)
    | false => exact absurd (hskip honce desired aim) needed

/-- The declaration itself is not written. -/
theorem own_eq (hplan : plan.Sound own) (h : Advances plan s s') :
    s'.object? own = s.object? own := by
  induction h with
  | rest same _ => exact Store.object?_congr same own
  | trans _ _ ih ih' => exact ih'.trans ih
  | @attempt s s' g desired aim absent needed outcome =>
    rcases outcome with same | ⟨after, made, stored⟩
    · exact Store.object?_congr same own
    · exact object?_of_ne stored (hplan.beside aim).symm

end Advances

/-! ## §4. Where passes lead -/

theorem Reached.refl (plan : Plan) (own : StoreKey) (init : Store) :
    Reached plan own init init :=
  fun _ _ => Or.inl rfl

/-- A change of the declaration itself changes nothing else. -/
theorem Reached.congr {plan : Plan} {own : StoreKey} {init s s' : Store}
    (h : Reached plan own init s) (hs : ∀ key, key ≠ own → s'.object? key = s.object? key) :
    Reached plan own init s' := by
  intro key hkey
  rw [hs key hkey]
  exact h key hkey

theorem AllSettled.congr {plan : Plan} {own : StoreKey} {s s' : Store} (hplan : plan.Sound own)
    (h : AllSettled plan s) (hs : ∀ key, key ≠ own → s'.object? key = s.object? key) :
    AllSettled plan s' := by
  intro g d hg
  rw [Settled, hs g.key (hplan.beside hg)]
  exact h g d hg

/-- Of an object that is still as it was, nothing is left to be written. -/
theorem AllSettled.not_written {plan : Plan} {init s : Store} {key : StoreKey} {after : Json}
    (hs : AllSettled plan s) (hsame : s.object? key = init.object? key) :
    ¬ Written plan init key after := by
  rintro ⟨g, desired, aim, rfl, absent, needed, -⟩
  obtain ⟨stored, hstored, hskip⟩ := hs g desired aim
  rw [← hsame, hstored] at absent needed
  cases honce : g.once with
  | true => exact absurd (absent honce) (by simp)
  | false => exact needed (hskip honce desired aim)

/-- **Stores that were reached from stores with the same object under a key, and in
    which all goals are settled, hold the same object there**, or objects that two
    writes for one goal made of the initial one. -/
theorem Reached.same_or_written_of_same {plan : Plan} {own : StoreKey} {init init' s s' : Store}
    (hplan : plan.Sound own) (h : Reached plan own init s) (hs : AllSettled plan s)
    (h' : Reached plan own init' s') (hs' : AllSettled plan s') {key : StoreKey}
    (hkey : key ≠ own) (hinit : init'.object? key = init.object? key) :
    s'.object? key = s.object? key
      ∨ ∃ g d d' after after', plan g d ∧ plan g d' ∧ g.key = key
        ∧ (g.once = true → init.object? key = none)
        ∧ s.object? key = some after ∧ s'.object? key = some after'
        ∧ Wrote g.kind d (init.object? key) after ∧ Wrote g.kind d' (init.object? key) after' := by
  -- Were the object as it was in one store alone, a write would be left to do there.
  rcases h key hkey with hsame | ⟨after, hafter, hwritten⟩
  · rcases h' key hkey with hsame' | ⟨after', -, hwritten'⟩
    · exact Or.inl (hsame'.trans (hinit.trans hsame.symm))
    · exact absurd hwritten' (hs.not_written (hsame.trans hinit.symm))
  · rcases h' key hkey with hsame' | ⟨after', hafter', hwritten'⟩
    · exact absurd hwritten (hs'.not_written (hsame'.trans hinit))
    · obtain ⟨g, d, aim, hgkey, absent, -, made⟩ := hwritten
      obtain ⟨g', d', aim', hgkey', -, -, made'⟩ := hwritten'
      have hgoal : g = g' := hplan.apart aim aim' (hgkey.trans hgkey'.symm)
      subst hgoal
      exact Or.inr ⟨g, d, d', after, after', aim, aim', hgkey, absent, hafter, hafter', made,
        hinit ▸ made'⟩

/-- Two stores that were reached from the same one, and in which all goals are
    settled, differ in what was written for one goal alone. -/
theorem Reached.same_or_written {plan : Plan} {own : StoreKey} {init s s' : Store}
    (hplan : plan.Sound own) (h : Reached plan own init s) (hs : AllSettled plan s)
    (h' : Reached plan own init s') (hs' : AllSettled plan s') {key : StoreKey}
    (hkey : key ≠ own) :
    s'.object? key = s.object? key
      ∨ ∃ g d d' after after', plan g d ∧ plan g d' ∧ g.key = key
        ∧ (g.once = true → init.object? key = none)
        ∧ s.object? key = some after ∧ s'.object? key = some after'
        ∧ Wrote g.kind d (init.object? key) after ∧ Wrote g.kind d' (init.object? key) after' :=
  h.same_or_written_of_same hplan hs h' hs' hkey rfl

end LoggingOperator.Pass
