/-
  LoggingOperator.Proofs.Pass.Credentials — OBJECTS THAT ARE CREATED ONCE.

  Secrets hold passwords, certificates and tokens that a running cluster uses,
  and cluster roles and their bindings may be narrowed by hand.  Passes create
  such objects where they are missing, and no pass changes one that is there:
  not when the declaration changes, not after a failure, and not when other
  passes run at the same time (`createdOnce_unchanged`).

  No pass sends an update or a status write of such a kind (`does_pass`), and a
  create never replaces anything (`Acted.absent`).  Passes one after the other
  are one of the interleavings (`turns_passes`).
-/
import LoggingOperator.Proofs.Pass.Calls
import LoggingOperator.Proofs.Program.Interleaving
import LoggingOperator.Proofs.Store.Answers

namespace LoggingOperator

open Program (World Pool Entry Turn Turns Environment Happens wild nobody)

/-! ## §1. One call -/

/-- **A call that rewrites nothing leaves what is created once as it is.** -/
theorem Program.Happens.object?_eq {env : Environment} {w w' : World} {event : Event}
    (h : Happens env w event w') (hspares : ¬ event.Rewrites) {key : StoreKey} {object : Json}
    (honce : key.kind.createdOnce = true) (hfound : w.store.object? key = some object) :
    w'.store.object? key = some object := by
  cases h with
  | manage may => exact hfound
  | @store call injected answer after may answered =>
    have hends := Store.answered answered
    rw [← hfound]
    refine hends.object?_eq fun name stored hname hwrite hanswer hkey => ?_
    -- A write under the key would be a create, which finds nothing there.
    cases hends with
    | unnamed _ _ _ => cases hanswer
    | injected _ _ _ => cases hanswer
    | acted named acted =>
      cases named.symm.trans hname
      subst hanswer
      have hkind : call.kind.createdOnce = true := by
        rw [hkey] at honce
        exact honce
      cases call with
      | get kind name ns => cases hwrite
      | create kind created =>
        have habsent := acted.absent
        rw [← hkey, Store.object?_noted, hfound] at habsent
        cases habsent
      | update kind sent => exact absurd ⟨hkind, Or.inl rfl⟩ hspares
      | replaceStatus kind sent => exact absurd ⟨hkind, Or.inr rfl⟩ hspares

namespace Pass

/-! ## §2. Any passes, in any interleaving -/

/-- The passes that are started: each over a declaration, with a password to use
    if one has to be generated. -/
def started (passes : List (Declared × String)) : List (Pass Bool) :=
  passes.map fun (d, generated) => d.pass generated

/-- Every pass that is started spares what is created once. -/
theorem watches_started (passes : List (Declared × String)) (w : World) :
    Monitor.Watches (σ := Unit) ⟨fun _ _ => (), fun _ event => ¬ event.Rewrites⟩
      (fun _ _ => True) () (Pool.start (started passes) w) := by
  refine Monitor.watches_start (fun program hprogram => ?_) w
  obtain ⟨⟨d, generated⟩, -, rfl⟩ := List.mem_map.1 hprogram
  exact (does_pass d generated).obeys

/-- **What is created once is never changed.**  Whatever passes are started, over
    any declarations and from any store, however their calls are interleaved,
    with which errors they fail and what the management API answers: no update
    and no status write of a secret, a cluster role or a binding is ever sent,
    and such an object, once it is stored, stays as it is. -/
theorem createdOnce_unchanged (passes : List (Declared × String)) (w : World)
    {p q : Pool PassError Bool} (hp : Turns wild nobody (Pool.start (started passes) w) p)
    (hq : Turns wild nobody p q) :
    (∀ entry ∈ q.history, ¬ entry.event.Rewrites)
      ∧ ∀ key object, key.kind.createdOnce = true → p.world.store.object? key = some object →
        q.world.store.object? key = some object := by
  -- By induction on the turns, each of which is an allowed call of a pass.
  obtain ⟨hbefore, hwatched⟩ := hp.preserves (watches_started passes w)
    (I := fun r => ∀ entry ∈ r.history, ¬ entry.event.Rewrites)
    (fun _ h => absurd h List.not_mem_nil)
    fun {r entry r'} hr turn hallowed => by
      obtain ⟨⟨i, hi⟩, -⟩ := turn.of_nobody
      rw [turn.history_eq]
      exact List.forall_mem_cons.2 ⟨hallowed i hi, hr⟩
  refine (hq.preserves hwatched
    (I := fun r => (∀ entry ∈ r.history, ¬ entry.event.Rewrites)
      ∧ ∀ key object, key.kind.createdOnce = true → p.world.store.object? key = some object →
        r.world.store.object? key = some object) ⟨hbefore, fun _ _ _ => id⟩ ?_).1
  rintro r entry r' ⟨hhistory, hstored⟩ turn hallowed
  obtain ⟨⟨i, hi⟩, happens⟩ := turn.of_nobody
  constructor
  · rw [turn.history_eq]
    exact List.forall_mem_cons.2 ⟨hallowed i hi, hhistory⟩
  · intro key object honce hfound
    exact happens.object?_eq (hallowed i hi) honce (hstored key object honce hfound)

/-! ## §3. Passes one after the other -/

/-- Passes from a position of a pool on may be run one after the other. -/
theorem turns_passes_from (pacing : Pacing) (ds : List (Declared × String)) (i : Nat)
    {p : Pool PassError Bool} {w : World} (hworld : p.world = w.disarm)
    (hmembers : ∀ (k : Nat) (pass : Pass Bool), (started ds)[k]? = some pass →
      p.members[i + k]? = some pass) :
    ∃ q, Turns wild nobody p q ∧ q.world = (passes pacing ds w).2.disarm := by
  induction ds generalizing i p w with
  | nil => exact ⟨p, .refl p, hworld⟩
  | cons first rest ih =>
    obtain ⟨d, generated⟩ := first
    -- What the first pass does where failures are pending is one of its runs.
    have hrun := Program.runs_run wild (d.pass generated) (w := w) (fun _ _ => trivial)
      fun _ _ _ => trivial
    obtain ⟨events, -, hfirst⟩ :=
      Turns.of_runs hrun (does_pass d generated) (hmembers 0 _ rfl) hworld
    obtain ⟨q, hrest, hq⟩ := ih (i + 1)
      (p := p.after i (.ofExcept id ((d.pass generated).run w).1)
        ((d.pass generated).run w).2.disarm events)
      (w := ((d.pass generated).run w).2) rfl fun k pass hpass => by
        show (p.members.set i _)[i + 1 + k]? = some pass
        rw [List.getElem?_set_ne (by omega), Nat.add_assoc, Nat.add_comm 1 k]
        exact hmembers (k + 1) pass hpass
    exact ⟨q, hfirst.trans hrest, hq⟩

/-- **Passes one after the other**, with whatever failures are pending, are one of
    the interleavings. -/
theorem turns_passes (pacing : Pacing) (ds : List (Declared × String)) (w : World) :
    ∃ q, Turns wild nobody (Pool.start (started ds) w.disarm) q
      ∧ q.world = (passes pacing ds w).2.disarm :=
  turns_passes_from pacing ds 0 rfl fun k pass hpass => by rwa [Nat.zero_add]

/-- A search cluster with a generated password, and with certificates or
    without. -/
def changedCluster (tls : Bool) : Declared :=
  .elasticsearch {
    metadata := { ns := some "logs", name := some "search", uid := some "7f3a" }
    spec := {
      clusterName := "search"
      version := "7.17.0"
      security := some { tls, generatePassword := true } } }

/-- The secret of its password. -/
def keptPassword : Json :=
  .ofFields [
    ("data", .ofFields [("password", .string "a2VwdA==")]),
    ("metadata", .ofFields [("name", .string (Naming.passwordSecret "search"))])]

/-- A store that holds the secret, where the next read of a secret finds none. -/
def passwordWorld : World where
  store := {
    objects := [(StoreKey.of .secret (some "logs") (Naming.passwordSecret "search"), keptPassword)]
    failures := [(.get, .secret, .notFound .secret (Naming.passwordSecret "search"))]
    stamps := fun version => ⟨toString version, "2024-01-01T00:00:00Z"⟩ }

/-- The password is not generated again by passes over a declaration that changes,
    although the first of them does not find it. -/
theorem createdOnce_unchanged_passwordWorld :
    ∃ q, Turns wild nobody (Pool.start
          (started [(changedCluster false, "first"), (changedCluster true, "second")])
          passwordWorld.disarm) q
      ∧ q.world = (passes {} [(changedCluster false, "first"), (changedCluster true, "second")]
          passwordWorld).2.disarm
      ∧ q.world.store.object? (StoreKey.of .secret (some "logs") (Naming.passwordSecret "search"))
          = some keptPassword := by
  obtain ⟨q, hturns, hworld⟩ := turns_passes {}
    [(changedCluster false, "first"), (changedCluster true, "second")] passwordWorld
  exact ⟨q, hturns, hworld, (createdOnce_unchanged _ _ (.refl _) hturns).2 _ keptPassword rfl rfl⟩

end Pass

end LoggingOperator
