/-
  LoggingOperator.Proofs.Pass.Interrupted — PASSES THAT DO NOT COME TO THEIR END.

  A pass stops at the first call that fails, and the next one starts from
  whatever is in the store by then.  However many passes were interrupted, and
  wherever they were, one pass in which nothing fails leaves the same objects
  as if it had been the first (`interrupted_recovers`).  Another pass after it
  writes the status and nothing else.

  The invariant of interrupted passes (`Underway`): every object is as it was
  at the beginning or one planned write away from that, and the declaration
  asks for what it asked for at the beginning.
-/
import LoggingOperator.Proofs.Pass.Declared

namespace LoggingOperator.Pass

open Json
open Convergence (Wrote comparable)
open Program (World Environment Runs stormy calm)
open Management (Cluster)

/-! ## §1. Passes and what they leave -/

/-- The declaration that a pass finds in the store. -/
def declared? (dk : DeclaredKind) (own : StoreKey) (s : Store) : Option Declared :=
  (s.object? own).bind (Declared.ofJson? dk)

/-- Passes over the declaration under the key `own`, each of which reads it
    afresh.  Calls to the object store may fail with any error but "not found",
    calls to the management API in any way. -/
inductive Interrupted (dk : DeclaredKind) (own : StoreKey) : World → World → Prop
  | none (w : World) : Interrupted dk own w w
  | pass {w v v' : World} {d : Declared} {generated : String} {r : Except PassError Bool}
    (before : Interrupted dk own w v) (read : declared? dk own v.store = some d)
    (run : Runs stormy (d.pass generated) v r v') : Interrupted dk own w v'

/-- What a pass does where failures are pending is one of these passes. -/
theorem Interrupted.of_run {dk : DeclaredKind} {own : StoreKey} {w v : World} {d : Declared}
    (before : Interrupted dk own w v.disarm) (hread : declared? dk own v.store = some d)
    (hpending : ∀ f ∈ v.store.failures, f.2.2.isNotFound = false) (generated : String) :
    Interrupted dk own w ((d.pass generated).run v).2.disarm :=
  .pass before hread (Program.runs_run stormy _ hpending fun _ _ _ => trivial)

/-- A pass in which nothing fails. -/
def cleanPass (dk : DeclaredKind) (own : StoreKey) (generated : String) (s : Store) (c : Cluster) :
    Option (Except PassError Bool × World) :=
  (declared? dk own s).map fun d => (d.pass generated).run ⟨s.disarm, c⟩

/-- The part of an object that is compared: without the field of its data, if
    any, that holds a generated value. -/
def compared (kind : Kind) (field : Option String) (object : Json) : Json :=
  match field with
  | some field => (comparable kind object).modify "data" fun data => data.remove field
  | none => comparable kind object

/-- Objects that agree but for a generated value compare equal. -/
theorem compared_eq {kind : Kind} {field : String} {v w : Json} (hv : v.Canonical)
    (hw : w.Canonical)
    (h : AgreeOutside ((Convergence.hidden kind).or
      (Region.within "data" (Region.fields [field]))) v w) :
    compared kind (some field) v = compared kind (some field) w := by
  have hstrips := Strips.modify "data" (Strips.remove field)
  have hcanonical : ∀ {u : Json}, u.Canonical → (compared kind (some field) u).Canonical :=
    fun hu => (Convergence.canonical_comparable kind hu).modify fun _ hdata => hdata.remove
  refine eq_of_head? (hcanonical hv) (hcanonical hw) fun p => ?_
  show ((comparable kind v).modify "data" _).head? p = ((comparable kind w).modify "data" _).head? p
  rw [hstrips, hstrips, Convergence.head?_comparable, Convergence.head?_comparable]
  -- Both sides leave out the field and what is hidden, and agree elsewhere.
  cases hdata : Region.within "data" (Region.fields [field]) p with
  | true => rfl
  | false =>
    cases hhidden : Convergence.hidden kind p with
    | true => rfl
    | false => rw [h p (by simp [hdata, hhidden])]

/-- Secrets that differ in a value agree but for its field. -/
theorem agreeOutside_revalued {field : String} {x y : Json} (h : Secret.Revalued field x y) :
    AgreeOutside (Region.within "data" (Region.fields [field])) x y := by
  obtain ⟨owner, name, labels, value, value', rfl, rfl⟩ := h
  refine AgreeOutside.of_fields fun k p hp => ?_
  show ((Secret.toJson _).get? k).bind (head? p) = ((Secret.toJson _).get? k).bind (head? p)
  rw [Secret.toJson, Secret.toJson]
  by_cases hk : k = "data"
  · subst hk
    rw [Kind.get?_own (by decide), Kind.get?_own (by decide)]
    have hdata : Region.fields [field] p = false := by simpa using hp
    refine AgreeOutside.of_fields (fun k' q hq => ?_) p hdata
    have hne : field ≠ k' := by
      rintro rfl
      simp at hq
    simp [Keyed.get?_cons, hne]
  · simp [Kind.object, Keyed.get?_cons, Ne.symm hk]

/-- **New secrets that differ in a generated value compare equal.** -/
theorem compared_eq_of_revalued {field : String} {x y after after' : Json}
    (h : Secret.Revalued field x y) (hx : Wrote .secret x none after)
    (hy : Wrote .secret y none after') :
    compared .secret (some field) after = compared .secret (some field) after' := by
  have hagree := agreeOutside_revalued h
  obtain ⟨owner, name, labels, value, value', rfl, rfl⟩ := h
  have hsecret : ∀ s : Secret, s.metadata = owner.metadata name labels →
      s.toJson.Canonical ∧ Convergence.Annotated s.toJson := by
    intro s hs
    refine ⟨(Secret.generated hs true).canonical, ?_⟩
    rw [Secret.toJson, hs]
    exact Kind.annotated_object rfl
  -- A new secret is stored as desired, but for what is hidden.
  have hstored : ∀ {s : Secret} {stored : Json}, s.metadata = owner.metadata name labels →
      Wrote .secret s.toJson none stored →
      stored.Canonical ∧ AgreeOutside ((Convergence.hidden .secret).or
        (Region.within "data" (Region.fields [field]))) s.toJson stored := by
    intro s stored hs hwrote
    obtain ⟨hcanonical, hannotated⟩ := hsecret s hs
    refine ⟨hwrote.canonical hcanonical (by simp), ?_⟩
    refine (hwrote.agree_desired ⟨by decide, rfl⟩ hannotated).mono fun p hp => ?_
    simp [hp]
  obtain ⟨hcanonical, hafter⟩ := hstored rfl hx
  obtain ⟨hcanonical', hafter'⟩ := hstored rfl hy
  have hvalues := hagree.mono (s := (Convergence.hidden .secret).or
    (Region.within "data" (Region.fields [field]))) fun p hp => by simp [hp]
  exact compared_eq hcanonical hcanonical' ((hafter.symm.trans hvalues).trans hafter')

/-! ## §2. What interrupted passes preserve -/

/-- What is true of a store in the middle of passes over the declaration `d`,
    which was declared in `init`. -/
structure Underway (d : Declared) (owner : Owner) (own : StoreKey) (init s : Store) : Prop where
  reached : Reached (d.plan init owner) own init s
  declared : ∃ d', declared? d.kind own s = some d' ∧ d'.intent = d.intent

section Passes

variable {d d' : Declared} {kind : Kind} {owner : Owner} {init s s' : Store} {c : Cluster}
  {env : Environment}

/-- A pass ends in one of two ways, whichever declaration with the same intent it
    read. -/
theorem Underway.closes (htame : Tame env) (hkind : d.kind.storedAs? = some kind)
    (howner : Owner.ofMetadata d.kind d.metadata = .ok owner)
    (h : Underway d owner (StoreKey.of kind (some owner.ns) owner.name) init s)
    (hread : declared? d.kind (StoreKey.of kind (some owner.ns) owner.name) s = some d')
    (generated : String) (c : Cluster) :
    Closes env (d.plan init owner) (StoreKey.of kind (some owner.ns) owner.name)
      (Declared.IsStatus d.kind) (d'.pass generated) ⟨s, c⟩ id := by
  obtain ⟨d'', hread', hintent⟩ := h.declared
  cases hread.symm.trans hread'
  obtain ⟨current, hfound, hparsed⟩ := Option.bind_eq_some_iff.1 hread
  rw [← Declared.plan_eq hintent]
  refine Declared.closes_pass htame hkind hparsed ?_ ?_ hfound generated
  · rw [Declared.ofMetadata_eq hintent]
    exact howner
  · rw [Declared.plan_eq hintent]
    exact h.reached

/-- **What a pass leaves is again a store in the middle of passes.** -/
theorem Underway.ends (hkind : d.kind.storedAs? = some kind)
    (howner : Owner.ofMetadata d.kind d.metadata = .ok owner)
    (h : Underway d owner (StoreKey.of kind (some owner.ns) owner.name) init s)
    {r : Except PassError Bool}
    (hends : Ends env (d.plan init owner) (StoreKey.of kind (some owner.ns) owner.name)
      (Declared.IsStatus d.kind) c s r s') :
    Underway d owner (StoreKey.of kind (some owner.ns) owner.name) init s' := by
  have hplan : (d.plan init owner).Sound (StoreKey.of kind (some owner.ns) owner.name) :=
    Declared.sound_plan hkind howner
  obtain ⟨d', hread, hintent⟩ := h.declared
  cases hends with
  | stopped _ advanced same =>
    constructor
    · exact (advanced.reached hplan h.reached).congr fun key _ => Store.object?_congr same key
    · refine ⟨d', ?_, hintent⟩
      rw [declared?, Store.object?_congr same, advanced.own_eq hplan]
      exact hread
  -- The status write changes the declaration, but not what it asks for.
  | @finished between _ current status version advanced _ found written stored _ =>
    constructor
    · exact (advanced.reached hplan h.reached).congr
        fun key hkey => Advances.object?_of_ne stored hkey
    · rw [declared?, found] at hread
      obtain ⟨d'', hread', hintent'⟩ := Declared.ofJson?_restated hread written version
      refine ⟨d'', ?_, hintent'.trans hintent⟩
      rw [declared?, Advances.object?_of_insert stored]
      exact hread'

/-- **The invariant of interrupted passes.** -/
theorem Interrupted.underway (hkind : d.kind.storedAs? = some kind)
    (howner : Owner.ofMetadata d.kind d.metadata = .ok owner)
    (hdeclared : declared? d.kind (StoreKey.of kind (some owner.ns) owner.name) init = some d)
    {w : World} (hpasses : Interrupted d.kind (StoreKey.of kind (some owner.ns) owner.name)
      ⟨init, c⟩ w) :
    Underway d owner (StoreKey.of kind (some owner.ns) owner.name) init w.store := by
  induction hpasses with
  | none => exact ⟨.refl _ _ init, d, hdeclared, rfl⟩
  | pass before read run ih =>
    exact ih.ends hkind howner (ih.closes tame_stormy hkind howner read _ _ _ _ run)

/-! ## §3. A pass in which nothing fails -/

/-- **A pass in which nothing fails settles every goal**, and if all were settled
    before it writes the status alone. -/
theorem Underway.clean (hkind : d.kind.storedAs? = some kind)
    (howner : Owner.ofMetadata d.kind d.metadata = .ok owner)
    (h : Underway d owner (StoreKey.of kind (some owner.ns) owner.name) init s)
    (hserves : c.Serves) (generated : String) :
    ∃ after : World,
      cleanPass d.kind (StoreKey.of kind (some owner.ns) owner.name) generated s c
          = some (.ok false, after)
        ∧ Underway d owner (StoreKey.of kind (some owner.ns) owner.name) init after.store
        ∧ AllSettled (d.plan init owner) after.store ∧ after.cluster.Serves
        ∧ (AllSettled (d.plan init owner) s →
          after.store.writes = s.writes ++ [⟨.updateStatus, kind, owner.name⟩]
            ∧ ∀ key, key ≠ StoreKey.of kind (some owner.ns) owner.name →
              after.store.object? key = s.object? key) := by
  have hplan : (d.plan init owner).Sound (StoreKey.of kind (some owner.ns) owner.name) :=
    Declared.sound_plan hkind howner
  obtain ⟨d', hread, -⟩ := id h.declared
  have hdisarmed : Underway d owner (StoreKey.of kind (some owner.ns) owner.name) init s.disarm :=
    ⟨h.reached, h.declared⟩
  have hends := hdisarmed.closes tame_calm hkind howner hread generated c _ _
    (Program.runs_calm (d'.pass generated) (w := ⟨s.disarm, c⟩) rfl)
  have hafter := hdisarmed.ends hkind howner hends
  have hserves' := serves_run (d'.pass generated) (w := ⟨s.disarm, c⟩) hserves
  have hpass : cleanPass d.kind (StoreKey.of kind (some owner.ns) owner.name) generated s c
      = some ((d'.pass generated).run ⟨s.disarm, c⟩) := by
    rw [cleanPass, hread]
    rfl
  -- From here on the run is known by its end alone.
  generalize (d'.pass generated).run ⟨s.disarm, c⟩ = run at hends hafter hserves' hpass
  obtain ⟨r, after⟩ := run
  have hr : r.map id = r := by cases r <;> rfl
  rw [hr] at hends
  -- Where nothing fails and the cluster serves, no pass is stopped.
  cases hends with
  | stopped unfair _ _ => exact absurd (fair_calm hserves) unfair
  | finished advanced settled found written stored noted =>
    have hsettled := settled (fair_calm hserves)
    have hother : ∀ {key}, key ≠ StoreKey.of kind (some owner.ns) owner.name →
        after.store.object? key = _ := fun hkey => Advances.object?_of_ne stored hkey
    refine ⟨after, hpass, hafter, hsettled.congr hplan fun key hkey => hother hkey, hserves',
      fun hall => ?_⟩
    obtain ⟨same, silent⟩ := advanced.silent hplan hall
    refine ⟨noted.trans (congrArg (· ++ _) silent), fun key hkey => ?_⟩
    rw [hother hkey, Store.object?_congr same]
    rfl

end Passes

/-! ## §4. Interruptions leave no trace -/

/-- The same comparable part is compared alike, whatever is left out. -/
theorem compared_congr {kind : Kind} {v w : Json} (h : comparable kind v = comparable kind w)
    (field : Option String) : compared kind field v = compared kind field w := by
  cases field with
  | none => exact h
  | some field => exact congrArg (Json.modify "data" fun data => data.remove field) h

/-- The field of the object under a key that is generated by passes over a
    declaration: none, if the object was there before. -/
def fieldGenerated? (dk : DeclaredKind) (ns name : String) (init : Store) (key : StoreKey) :
    Option String :=
  match init.object? key with
  | none => Declared.generatedField? dk ns name key
  | some _ => none

/-- **Interrupted passes leave no trace.**  After any passes over a declaration,
    wherever each of them was stopped, one pass in which nothing fails leaves
    what the first pass would have left, had nothing failed in it; and another
    one writes the status alone.  Objects are JSON values, so their trees are
    canonical. -/
theorem interrupted_recovers {dk : DeclaredKind} {kind : Kind} (hkind : dk.storedAs? = some kind)
    {init : Store} (hinit : ∀ key object, init.object? key = some object → object.Canonical)
    {d : Declared} {ns name uid : String}
    (hdeclared : declared? dk (StoreKey.of kind (some ns) name) init = some d)
    (hns : d.metadata.ns = some ns) (hname : d.metadata.name = some name)
    (huid : d.metadata.uid = some uid)
    {c c₀ c₁ : Cluster} {w : World}
    (hpasses : Interrupted dk (StoreKey.of kind (some ns) name) ⟨init, c⟩ w)
    (hserves₀ : c₀.Serves) (hserves₁ : c₁.Serves) (password₀ password₁ password₂ : String) :
    ∃ reference last again : World,
      cleanPass dk (StoreKey.of kind (some ns) name) password₀ init c₀ = some (.ok false, reference)
        ∧ cleanPass dk (StoreKey.of kind (some ns) name) password₁ w.store c₁
            = some (.ok false, last)
        ∧ (∀ key, key ≠ StoreKey.of kind (some ns) name →
          (last.store.object? key).map (compared key.kind (fieldGenerated? dk ns name init key))
            = (reference.store.object? key).map
              (compared key.kind (fieldGenerated? dk ns name init key)))
        ∧ cleanPass dk (StoreKey.of kind (some ns) name) password₂ last.store last.cluster
            = some (.ok false, again)
        ∧ again.store.writes = last.store.writes ++ [⟨.updateStatus, kind, name⟩]
        ∧ ∀ key, key ≠ StoreKey.of kind (some ns) name →
          again.store.object? key = last.store.object? key := by
  obtain ⟨current, -, hparsed⟩ := Option.bind_eq_some_iff.1 hdeclared
  obtain rfl := Declared.kind_of_ofJson? hparsed
  obtain ⟨owner, howner, rfl, rfl⟩ : ∃ owner, Owner.ofMetadata d.kind d.metadata = .ok owner
      ∧ owner.ns = ns ∧ owner.name = name := Owner.ofMetadata_eq_ok hns hname huid
  have hplan : (d.plan init owner).Sound (StoreKey.of kind (some owner.ns) owner.name) :=
    Declared.sound_plan hkind howner
  -- The reference starts from the initial store, the last pass from where the others stopped.
  have hstart : Underway d owner (StoreKey.of kind (some owner.ns) owner.name) init init :=
    ⟨.refl _ _ init, d, hdeclared, rfl⟩
  have hunderway := hpasses.underway hkind howner hdeclared
  obtain ⟨reference, hreference, ⟨reached₀, -⟩, settled₀, -, -⟩ :=
    hstart.clean hkind howner hserves₀ password₀
  obtain ⟨last, hlast, hunderway₁, settled₁, serves, -⟩ :=
    hunderway.clean hkind howner hserves₁ password₁
  obtain ⟨again, hagain, -, -, -, hidle⟩ := hunderway₁.clean hkind howner serves password₂
  refine ⟨reference, last, again, hreference, hlast, fun key hkey => ?_, hagain, hidle settled₁⟩
  -- Each object is the same in both stores, or was made of the initial one by a write for one goal.
  rcases reached₀.same_or_written hplan settled₀ hunderway₁.reached settled₁ hkey with
    hsame | ⟨g, x, y, after, after', hx, hy, rfl, absent, hafter, hafter', madex, madey⟩
  · rw [hsame]
  · rw [hafter, hafter', Option.map_some, Option.map_some]
    refine congrArg some ?_
    show compared g.kind _ after' = compared g.kind _ after
    rcases Declared.plan_agree howner hx hy with rfl | ⟨field, hfield, hsecret, honce, hrevalued⟩
    · exact compared_congr (madey.comparable_eq madex (hplan.generated hx).canonical
        fun b hb => hinit g.key b hb) _
    -- A generated secret was new in both, and differs in its value alone.
    · have hnone := absent honce
      rw [hnone, hsecret] at madex madey
      rw [fieldGenerated?, hnone, hsecret]
      show compared .secret (Declared.generatedField? _ _ _ _) after' = _
      rw [hfield]
      exact (compared_eq_of_revalued hrevalued madex madey).symm

/-- A search cluster that asks for a password and for a token. -/
def securedCluster : Json :=
  .ofFields [
    ("metadata", .ofFields [
      ("name", .string "search"), ("namespace", .string "logs"), ("uid", .string "7f3a")]),
    ("spec", .ofFields [
      ("esClusterName", .string "search"),
      ("esSecurity", .ofFields [
        ("autoGeneratePassword", .bool true), ("kibanaIntegration", .ofFields [])]),
      ("esVersion", .string "7.17.0")])]

/-- A store that holds its declaration. -/
def securedStore : Store where
  objects := [(StoreKey.of .elasticsearch (some "logs") "search", securedCluster)]
  stamps := fun version => ⟨toString version, "2024-01-01T00:00:00Z"⟩

/-- The same store, where the first workload cannot be created. -/
def brokenWorld : World where
  store := { securedStore with
    failures := [(.create, .statefulSet, .transport "connection reset")] }

/-- A cluster that is ready and issues tokens. -/
def servingCluster : Cluster where
  health := .ok { colour := "green" }
  token := .ok "issued"

theorem serves_servingCluster : servingCluster.Serves :=
  ⟨⟨_, rfl, by decide⟩, ⟨_, rfl⟩⟩

theorem canonical_securedCluster : securedCluster.Canonical := by
  have hsecurity : (ofFields [("autoGeneratePassword", .bool true),
      ("kibanaIntegration", .ofFields [])]).Canonical := by simp
  have hspec : (ofFields [("esClusterName", .string "search"),
      ("esSecurity", .ofFields [("autoGeneratePassword", .bool true),
        ("kibanaIntegration", .ofFields [])]),
      ("esVersion", .string "7.17.0")]).Canonical := by simp [hsecurity]
  simp [securedCluster, hspec]

/-- A pass that generated a password and was stopped before there was a workload
    leaves no trace. -/
theorem interrupted_recovers_securedCluster :
    ∃ d : Declared, declared? .elasticsearch
        (StoreKey.of .elasticsearch (some "logs") "search") securedStore = some d
      ∧ Interrupted .elasticsearch (StoreKey.of .elasticsearch (some "logs") "search")
        ⟨securedStore, {}⟩ ((d.pass "first").run brokenWorld).2.disarm
      ∧ ∃ reference last again : World,
        cleanPass .elasticsearch (StoreKey.of .elasticsearch (some "logs") "search") "second"
            securedStore servingCluster = some (.ok false, reference)
          ∧ cleanPass .elasticsearch (StoreKey.of .elasticsearch (some "logs") "search") "third"
            ((d.pass "first").run brokenWorld).2.disarm.store servingCluster
              = some (.ok false, last)
          ∧ (∀ key, key ≠ StoreKey.of .elasticsearch (some "logs") "search" →
            (last.store.object? key).map (compared key.kind
                (fieldGenerated? .elasticsearch "logs" "search" securedStore key))
              = (reference.store.object? key).map (compared key.kind
                (fieldGenerated? .elasticsearch "logs" "search" securedStore key)))
          ∧ cleanPass .elasticsearch (StoreKey.of .elasticsearch (some "logs") "search") "fourth"
              last.store last.cluster = some (.ok false, again)
          ∧ again.store.writes
              = last.store.writes ++ [⟨.updateStatus, .elasticsearch, "search"⟩]
          ∧ ∀ key, key ≠ StoreKey.of .elasticsearch (some "logs") "search" →
            again.store.object? key = last.store.object? key := by
  have hinit : ∀ key object, securedStore.object? key = some object → object.Canonical := by
    intro key object h
    rw [Store.object?] at h
    have hmem := Keyed.mem_of_get? h
    cases List.mem_singleton.1 hmem
    exact canonical_securedCluster
  -- Only the reading of the declaration is evaluated, not the passes over it.
  have hread : ∃ d : Declared, declared? .elasticsearch
      (StoreKey.of .elasticsearch (some "logs") "search") securedStore = some d
      ∧ d.metadata.ns = some "logs" ∧ d.metadata.name = some "search"
      ∧ d.metadata.uid = some "7f3a" := ⟨_, rfl, rfl, rfl, rfl⟩
  obtain ⟨d, hd, hns, hname, huid⟩ := hread
  have hpasses : Interrupted .elasticsearch (StoreKey.of .elasticsearch (some "logs") "search")
      ⟨securedStore, {}⟩ ((d.pass "first").run brokenWorld).2.disarm :=
    Interrupted.of_run (v := brokenWorld) (.none _) hd (by decide) "first"
  exact ⟨d, hd, hpasses, interrupted_recovers rfl hinit hd hns hname huid hpasses
    serves_servingCluster serves_servingCluster "second" "third" "fourth"⟩

end LoggingOperator.Pass
