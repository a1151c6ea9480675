/-
  LoggingOperator.Proofs.Store.Reachable — WHAT A STORE CAN COME TO.

  A store starts empty.  Then anybody may call it, store objects and change
  them in any way, even in ways that leave no place for a resource version:
  the metadata of an object may be replaced by something that is no object.
  Whatever was done, an object that has metadata has a version that was given
  out (`Reachable.stamped`), because every write gives the object that it
  leaves the next one (`Alters`).

  So an object can be watched by its version.  As long as it is not written it
  is as it was, and once it is written it has a later version or none
  (`Since`), in every interleaving (`since_turns`).

  A store leads to another one if that can come of it in these ways (`Leads`),
  as the run of any program does (`leads_run`).  Along the way versions only
  grow, so the next version was never used before (`not_usedBefore_next`).
-/
import LoggingOperator.Proofs.Convergence.Races

namespace LoggingOperator

open Json
open Program (World Pool Entry Turn Turns Environment Happens wild)

/-! ## §1. Objects as they are left by a write -/

namespace Json

/-- An object has metadata of some form; what is no object needs none. -/
def Rooted (v : Json) : Prop :=
  ∀ fields, v = .object fields → (v.get? "metadata").isSome = true

theorem Rooted.setIfNew_eq {v : Json} (h : v.Rooted) (x : Json) :
    v.setIfNew "metadata" x = v := by
  cases v with
  | object fields =>
    obtain ⟨metadata, hmetadata⟩ := Option.isSome_iff_exists.1 (h fields rfl)
    exact setIfNew_of_get? hmetadata x
  | _ => rfl

theorem rooted_setIfNew (v x : Json) : (v.setIfNew "metadata" x).Rooted := by
  cases v with
  | object fields =>
    intro _ _
    show (Keyed.get? "metadata" (Keyed.insertIfNew "metadata" x fields)).isSome = true
    unfold Keyed.insertIfNew
    split
    · next hhas => exact hhas
    · rw [Keyed.get?_insert, if_pos rfl]
      rfl
  | _ => exact fun _ h => by cases h

theorem Rooted.set {v : Json} (h : v.Rooted) (k : String) (x : Json) : (v.set k x).Rooted := by
  cases v with
  | object fields =>
    intro _ _
    rw [get?_set]
    split
    · rfl
    · exact h fields rfl
  | _ => exact fun _ h => by cases h

theorem Rooted.modify {v : Json} (h : v.Rooted) (k : String) (change : Json → Json) :
    (v.modify k change).Rooted := by
  cases v with
  | object fields =>
    intro _ _
    rw [get?_modify]
    split
    · rw [Option.isSome_map]
      exact h fields rfl
    · exact h fields rfl
  | _ => exact fun _ h => by cases h

end Json

namespace Store

/-- Where there is no metadata, it is made first. -/
theorem setMeta_setIfNew (field : String) (value v : Json) :
    setMeta field value (v.setIfNew "metadata" .empty) = setMeta field value v := by
  rw [setMeta, setMeta, (rooted_setIfNew v .empty).setIfNew_eq]

theorem rooted_setMeta (field : String) (value v : Json) : (setMeta field value v).Rooted :=
  (rooted_setIfNew v .empty).modify _ _

/-- A field can only be set in metadata that is an object. -/
theorem hasMetadata_of_setMeta {field : String} {value v : Json}
    (h : (setMeta field value v).HasMetadata) : (v.setIfNew "metadata" .empty).HasMetadata := by
  obtain ⟨fields, h⟩ := h
  rw [setMeta, get?_modify, if_pos rfl] at h
  obtain ⟨metadata, hmetadata, hset⟩ := Option.map_eq_some_iff.1 h
  cases metadata with
  | object fields' => exact ⟨fields', hmetadata⟩
  | _ => cases hset

theorem version?_setMeta {version : String} {v : Json}
    (h : (setMeta "resourceVersion" (.string version) v).HasMetadata) :
    (setMeta "resourceVersion" (.string version) v).version? = some version := by
  rw [← setMeta_setIfNew]
  exact metaString?_setMeta (hasMetadata_of_setMeta h) _ _

/-- **A new object has the next version**, if there is a place for it. -/
theorem version?_stampNew_of_hasMetadata {kind : Kind} {object : Json} {s : Store}
    (h : (s.stampNew kind object).1.HasMetadata) :
    (s.stampNew kind object).1.version? = some (versionText (s.version + 1)) := by
  have hsame : s.stampNew kind (object.setIfNew "metadata" .empty) = s.stampNew kind object := by
    simp only [stampNew, setMeta_setIfNew]
  rw [← hsame]
  refine version?_stampNew ?_ kind s
  -- Addresses and defaults are beside the metadata, and the stamps only go into it.
  obtain ⟨fields, h⟩ := h
  rw [stampNew] at h
  simp only [] at h
  rw [get?_metadata_applyDefaults, get?_metadata_giveAddress] at h
  have hidentified := hasMetadata_of_setMeta ⟨fields, h⟩
  rw [(rooted_setMeta _ _ _).setIfNew_eq] at hidentified
  have hversioned := hasMetadata_of_setMeta hidentified
  rw [(rooted_setMeta _ _ _).setIfNew_eq] at hversioned
  exact hasMetadata_of_setMeta hversioned

theorem rooted_stampNew (kind : Kind) (object : Json) (s : Store) :
    (s.stampNew kind object).1.Rooted := by
  have hgive : ∀ (v : Json) (t : Store), v.Rooted → (giveAddress kind v t).1.Rooted := by
    intro v t hv
    unfold giveAddress
    split
    · exact hv.modify _ _
    · exact hv
  exact (hgive _ _ (rooted_setMeta _ _ _)).modify _ _

/-! ## §2. What a write leaves -/

/-- A change of the store: it leaves all objects as they are, or puts one under a
    key, which has the next version if there is a place for it.  `Changes` is the
    same for objects that are known to have metadata. -/
inductive Alters (s s' : Store) : Option StoreKey → Prop
  | rest (same : s'.objects = s.objects) (version : s.version ≤ s'.version) : Alters s s' none
  | put {key : StoreKey} {object : Json} (stored : s'.objects = Keyed.insert key object s.objects)
    (version : s'.version = s.version + 1) (rooted : object.Rooted)
    (stamped : object.HasMetadata → object.version? = some (versionText s'.version)) :
    Alters s s' (some key)

theorem alters_stampNew (kind : Kind) (object : Json) (key : StoreKey) (s : Store) :
    Alters s ((s.stampNew kind object).2.put key (s.stampNew kind object).1) (some key) := by
  have hstored : ((s.stampNew kind object).2.put key (s.stampNew kind object).1).objects
      = Keyed.insert key (s.stampNew kind object).1 s.objects := by
    rw [put, objects_stampNew]
  refine .put hstored (version_stampNew kind object s) (rooted_stampNew kind object s) fun h => ?_
  rw [version?_stampNew_of_hasMetadata h]
  exact congrArg (some ∘ versionText) (version_stampNew kind object s).symm

/-- An object that was changed, and then given the next version. -/
theorem alters_put (key : StoreKey) (object : Json) (s : Store) :
    Alters s (s.bump.2.put key (setMeta "resourceVersion" s.bump.1 object)) (some key) :=
  .put rfl rfl (rooted_setMeta _ _ _) version?_setMeta

variable {s after : Store} {call : StoreCall} {answer : Except StoreError Json}

/-- To note a call changes neither the objects nor the version. -/
theorem Alters.of_noted {name : String} {written : Option StoreKey}
    (h : Alters (s.noted call name) after written) : Alters s after written := by
  cases h with
  | rest same version => exact .rest same version
  | put stored version rooted stamped => exact .put stored version rooted stamped

theorem Alters.version_le {written : Option StoreKey} (h : Alters s after written) :
    s.version ≤ after.version := by
  cases h with
  | rest _ version => exact version
  | put _ version _ _ => omega

/-- What is not written stays as it is. -/
theorem Alters.object?_eq {own : StoreKey} {written : Option StoreKey} (h : Alters s after written)
    (hown : written ≠ some own) : after.object? own = s.object? own := by
  cases h with
  | rest same _ => exact object?_congr same own
  | @put key object stored version rooted stamped =>
    exact (object?_of_stored stored own).trans (if_neg fun h => hown (congrArg some h))

/-- **A call changes what it writes.** -/
theorem Acted.alters {key : StoreKey} (h : Acted key s call answer after) :
    Alters s after (writtenBy? call key answer) := by
  cases h with
  | created absent => exact alters_stampNew _ _ key s
  | updated found fresh => exact alters_put key _ s
  | restated found fresh => exact alters_put key _ s
  | read | missing | taken | staleUpdate | staleStatus => exact .rest rfl (Nat.le_refl _)

/-- However it ends. -/
theorem Answered.alters {injected : Option StoreError} (h : Answered injected s call answer after) :
    Alters s after (Event.store call answer).written? := by
  rw [Event.written?]
  cases h with
  | unnamed unnamed same version =>
    rw [unnamed]
    exact .rest same (Nat.le_of_eq version.symm)
  | injected made same version =>
    cases call.name with
    | error e => exact .rest same (Nat.le_of_eq version.symm)
    | ok name => exact .rest same (Nat.le_of_eq version.symm)
  | @acted name _ _ named acted =>
    rw [named]
    exact acted.alters.of_noted

/-- Somebody else changes an object in any way. -/
theorem alters_mutate (key : StoreKey) (change : Json → Json) (s : Store) :
    Alters s (s.mutate key change).2 (if (s.mutate key change).1 then some key else none) := by
  have hbump : s.bump.2.object? key = s.object? key := rfl
  cases hfound : s.object? key with
  | none =>
    simp only [mutate, hbump, hfound]
    exact .rest rfl (Nat.le_succ _)
  | some object =>
    simp only [mutate, hbump, hfound]
    exact alters_put key (change object) s

/-- What somebody else leaves. -/
theorem object?_mutate {key : StoreKey} {object : Json} {s : Store}
    (h : s.object? key = some object) (change : Json → Json) :
    (s.mutate key change).1 = true ∧ (s.mutate key change).2.object? key
      = some (setMeta "resourceVersion" (.string (versionText (s.version + 1)))
          (change object)) := by
  have hbump : s.bump.2.object? key = some object := h
  constructor
  · simp only [mutate, hbump]
  · simp only [mutate, hbump]
    exact (object?_put key _ s.bump.2).trans (if_pos rfl)

end Store

/-! ## §3. Stores that can be reached -/

/-- What anybody may do: call the store, store an object, and change one. -/
inductive Anybody (w : World) (history : List Entry) : Event → World → Prop
  | call {call : StoreCall} {answer : Except StoreError Json} {w' : World}
    (happens : Happens wild w (.store call answer) w') : Anybody w history (.store call answer) w'
  | insert {kind : Kind} {object : Json} :
    Anybody w history (.insert kind object) { w with store := (w.store.insert kind object).2 }
  | mutate {key : StoreKey} {change : Json → Json} :
    Anybody w history (.mutate key (w.store.mutate key change).1)
      { w with store := (w.store.mutate key change).2 }

namespace Store

/-- A store that was empty once. -/
inductive Reachable : Store → Prop
  | empty {s : Store} (empty : s.objects = []) : Reachable s
  /-- The record of calls may be cleared, and calls may be made to fail. -/
  | prepared {s : Store} (calls : List StoreRecord)
    (failures : List (StoreOp × Kind × StoreError)) (reached : Reachable s) :
    Reachable { s with calls, failures }
  | step {w w' : World} {event : Event} (reached : Reachable w.store)
    (may : Anybody w [] event w') : Reachable w'.store

/-- Every object that is stored has a place for metadata, and if it has metadata,
    it has a version that was given out. -/
structure Stamped (s : Store) : Prop where
  rooted : ∀ key object, s.object? key = some object → object.Rooted
  stamped : ∀ key object, s.object? key = some object → object.HasMetadata →
    ∃ n, n ≤ s.version ∧ object.version? = some (versionText n)

theorem Alters.stamped {s s' : Store} {written : Option StoreKey} (h : Alters s s' written)
    (hs : s.Stamped) : s'.Stamped := by
  cases h with
  | rest same version =>
    refine ⟨fun key object hfound => ?_, fun key object hfound hmetadata => ?_⟩
    · exact hs.rooted key object (by rwa [object?_congr same] at hfound)
    · obtain ⟨n, hn, hversion⟩ :=
        hs.stamped key object (by rwa [object?_congr same] at hfound) hmetadata
      exact ⟨n, Nat.le_trans hn version, hversion⟩
  | @put written new stored version rooted stamped =>
    -- What is found is the new object, which has the next version, or was there before.
    have hlookup := object?_of_stored stored
    refine ⟨fun key object hfound => ?_, fun key object hfound hmetadata => ?_⟩
    · rw [hlookup] at hfound
      split at hfound
      · cases hfound
        exact rooted
      · exact hs.rooted key object hfound
    · rw [hlookup] at hfound
      split at hfound
      · cases hfound
        exact ⟨_, Nat.le_refl _, stamped hmetadata⟩
      · obtain ⟨n, hn, hversion⟩ := hs.stamped key object hfound hmetadata
        exact ⟨n, by omega, hversion⟩

end Store

open Store (Alters Reachable Stamped versionText)

/-- A call changes what it is said to write. -/
theorem alters_of_happens {env : Environment} {w w' : World} {event : Event}
    (h : Happens env w event w') : Alters w.store w'.store event.written? := by
  cases h with
  | manage may => exact .rest rfl (Nat.le_refl _)
  | store may answered => exact (Store.answered answered).alters

/-- So does what anybody does. -/
theorem Anybody.alters {w w' : World} {history : List Entry} {event : Event}
    (h : Anybody w history event w') : Alters w.store w'.store event.written? := by
  cases h with
  | call happens => exact alters_of_happens happens
  | insert => exact Store.alters_stampNew _ _ _ _
  | mutate => exact Store.alters_mutate _ _ _

/-- **In every store that can be reached, objects have versions that were given
    out.** -/
theorem Store.Reachable.stamped {s : Store} (h : Reachable s) : s.Stamped := by
  induction h with
  | @empty s empty =>
    have habsent : ∀ {key object}, s.object? key ≠ some object := by
      intro key object hfound
      cases (object?_of_empty empty key).symm.trans hfound
    exact ⟨fun _ _ hfound => (habsent hfound).elim, fun _ _ hfound => (habsent hfound).elim⟩
  | prepared calls failures _ ih => exact ⟨ih.rooted, ih.stamped⟩
  | step _ may ih => exact may.alters.stamped ih

/-! ## §4. What comes of a store -/

namespace Store

/-- What can come of a store. -/
inductive Leads (s : Store) : Store → Prop
  | refl : Leads s s
  | prepared {s' : Store} (calls : List StoreRecord)
    (failures : List (StoreOp × Kind × StoreError)) (leads : Leads s s') :
    Leads s { s' with calls, failures }
  | step {w w' : World} {event : Event} (leads : Leads s w.store) (may : Anybody w [] event w') :
    Leads s w'.store

theorem Leads.trans {s t u : Store} (h : Leads s t) (h' : Leads t u) : Leads s u := by
  induction h' with
  | refl => exact h
  | prepared calls failures _ ih => exact .prepared calls failures ih
  | step _ may ih => exact .step ih may

theorem Leads.reachable {s s' : Store} (h : Leads s s') (hs : s.Reachable) : s'.Reachable := by
  induction h with
  | refl => exact hs
  | prepared calls failures _ ih => exact .prepared calls failures ih
  | step _ may ih => exact .step ih may

theorem Leads.version_le {s s' : Store} (h : Leads s s') : s.version ≤ s'.version := by
  induction h with
  | refl => exact Nat.le_refl _
  | prepared _ _ _ ih => exact ih
  | step _ may ih => exact Nat.le_trans ih may.alters.version_le

/-- A call leads on, with the failures that are pending. -/
theorem leads_answer (call : StoreCall) (s : Store) : Leads s (s.answer call).2 := by
  obtain ⟨injected, -, hanswer⟩ := answer_disarm call s
  have hhappens : Happens wild ⟨s.disarm, {}⟩ (.store call (s.answer call).1)
      ⟨(s.answer call).2.disarm, {}⟩ :=
    .store (fun _ _ => trivial) hanswer
  have hstep : Leads s (s.answer call).2.disarm :=
    .step (w := ⟨s.disarm, {}⟩) (.prepared s.calls [] .refl) (.call hhappens)
  -- The failures that are still pending are put back.
  exact @Leads.prepared s (s.answer call).2.disarm (s.answer call).2.calls
    (s.answer call).2.failures hstep

/-- **A store leads to what any program leaves of it.** -/
theorem leads_run {ε α : Type} (p : Program ε α) (w : World) :
    Leads w.store (p.run w).2.store := by
  induction p generalizing w with
  | done a => exact .refl
  | fail e => exact .refl
  | store call next ih =>
    exact (leads_answer call w.store).trans
      (ih (w.store.answer call).1 { w with store := (w.store.answer call).2 })
  | manage endpoint call next ih =>
    exact ih (w.cluster.answer endpoint call).1 { w with cluster := (w.cluster.answer endpoint call).2 }

/-- In this store, or in one that led to it, an object had the version. -/
def UsedBefore (s : Store) (version : String) : Prop :=
  ∃ earlier key object, Reachable earlier ∧ Leads earlier s ∧ earlier.object? key = some object
    ∧ object.version? = some version

theorem usedBefore_of_stored {s : Store} (hs : s.Reachable) {key : StoreKey} {object : Json}
    {version : String} (hfound : s.object? key = some object)
    (hversion : object.version? = some version) : s.UsedBefore version :=
  ⟨s, key, object, hs, .refl, hfound, hversion⟩

/-- **The next version was never used before.** -/
theorem not_usedBefore_next (s : Store) : ¬ s.UsedBefore (versionText (s.version + 1)) := by
  rintro ⟨earlier, key, object, hreachable, hleads, hfound, hversion⟩
  obtain ⟨n, hn, hstamped⟩ :=
    hreachable.stamped.stamped key object hfound (hasMetadata_of_metaString? hversion)
  rw [hstamped] at hversion
  exact versionText_ne_next (Nat.le_trans hn hleads.version_le) (Option.some.inj hversion)

end Store

/-! ## §5. Watching an object -/

/-- Somebody wrote the object under the key. -/
def WrittenIn (history : List Entry) (key : StoreKey) : Prop :=
  ∃ entry ∈ history, entry.event.written? = some key

theorem writtenIn_cons_iff {entry : Entry} {history : List Entry} {key : StoreKey} :
    WrittenIn (entry :: history) key
      ↔ entry.event.written? = some key ∨ WrittenIn history key := by
  simp [WrittenIn]

/-- What is known of the object under a key: it was not written since, or it was,
    and then it has a later version or none. -/
inductive Since (own : StoreKey) (s : Store) (history : List Entry) (s' : Store) : Prop
  | unwritten (unwritten : ¬ WrittenIn history own) (same : s'.object? own = s.object? own)
  | written {object : Json} (written : WrittenIn history own)
    (found : s'.object? own = some object)
    (later : object.HasMetadata → ∃ n, s.version < n ∧ object.version? = some (versionText n))

section Turns

variable {ε α : Type} {env : Environment} {p q : Pool ε α} {entry : Entry} {own : StoreKey}
  {s : Store}

theorem alters_of_turn (turn : Turn env Anybody p entry q) :
    Alters p.world.store q.world.store entry.event.written? := by
  rcases turn.happens with happens | ⟨-, may⟩
  · exact alters_of_happens happens
  · exact may.alters

/-- One more turn. -/
theorem Since.turn (hp : Since own s p.history p.world.store)
    (hversion : s.version ≤ p.world.store.version) (turn : Turn env Anybody p entry q) :
    Since own s q.history q.world.store := by
  have halters := alters_of_turn turn
  rw [turn.history_eq]
  generalize hwritten : entry.event.written? = written at halters
  -- The object is written at this turn, or it is as it was.
  by_cases hown : written = some own
  · subst hown
    cases halters with
    | @put _ object stored version rooted stamped =>
      refine .written (writtenIn_cons_iff.2 (Or.inl hwritten)) ?_ fun hmetadata =>
        ⟨_, by omega, stamped hmetadata⟩
      exact (Store.object?_of_stored stored own).trans (if_pos rfl)
  · have hsame : q.world.store.object? own = p.world.store.object? own := halters.object?_eq hown
    have hentry : entry.event.written? ≠ some own := fun h => hown (hwritten.symm.trans h)
    cases hp with
    | unwritten unwritten same =>
      refine .unwritten (fun h => ?_) (hsame.trans same)
      exact (writtenIn_cons_iff.1 h).elim hentry unwritten
    | written written found later =>
      exact .written (writtenIn_cons_iff.2 (Or.inr written)) (hsame.trans found) later

/-- What is read is what is stored. -/
theorem read_of_anybody (turn : Turn env Anybody p entry q) {key : StoreKey} {object : Json}
    (hread : entry.event.read? = some (key, object)) :
    q.world.store.object? key = some object := by
  obtain ⟨kind, name, ns, hevent, rfl⟩ := Event.eq_of_read? hread
  have hreads : ∃ env', Happens env' p.world (.store (.get kind name ns) (.ok object)) q.world := by
    rcases turn.happens with happens | ⟨-, may⟩
    · exact ⟨env, hevent ▸ happens⟩
    · rw [hevent] at may
      cases may with
      | call happens => exact ⟨wild, happens⟩
  obtain ⟨env', happens⟩ := hreads
  obtain ⟨hsame, hfound⟩ := Convergence.read_of_happens happens
  exact (Store.object?_congr hsame _).trans hfound

/-- **What was read is stored** as long as it is not written. -/
theorem read_turns {members : List (Program ε α)} {w : World} {later earlier : List Entry}
    {key : StoreKey} {object : Json} (h : Turns env Anybody (Pool.start members w) p)
    (hhistory : p.history = later ++ entry :: earlier)
    (hread : entry.event.read? = some (key, object))
    (hkept : ¬ WrittenIn later key) : p.world.store.object? key = some object := by
  induction h generalizing later with
  | refl => simp [Pool.start] at hhistory
  | tail _ turn ih =>
    obtain ⟨last, turn⟩ := turn
    rw [turn.history_eq] at hhistory
    cases later with
    | nil =>
      obtain ⟨rfl, -⟩ := List.cons.inj hhistory
      exact read_of_anybody turn hread
    | cons _ later =>
      obtain ⟨rfl, hearlier⟩ := List.cons.inj hhistory
      obtain ⟨hlast, hkept⟩ := not_or.1 (mt writtenIn_cons_iff.2 hkept)
      exact ((alters_of_turn turn).object?_eq hlast).trans (ih hearlier hkept)

/-- **An object that is watched for any turns**: it is as it was, or has a later
    version or none. -/
theorem since_turns {members : List (Program ε α)} {w : World} (own : StoreKey)
    (hw : w.store.Stamped) (h : Turns env Anybody (Pool.start members w) p) :
    p.world.store.Stamped ∧ w.store.version ≤ p.world.store.version
      ∧ Since own w.store p.history p.world.store := by
  induction h with
  | refl => exact ⟨hw, Nat.le_refl _, .unwritten (by simp [WrittenIn, Pool.start]) rfl⟩
  | tail _ turn ih =>
    obtain ⟨entry, turn⟩ := turn
    obtain ⟨hstamped, hversion, hsince⟩ := ih
    have halters := alters_of_turn turn
    exact ⟨halters.stamped hstamped, Nat.le_trans hversion halters.version_le,
      hsince.turn hversion turn⟩

end Turns

end LoggingOperator
