/-
  LoggingOperator.Proofs.Store.Versions — EVERY VERSION IS GIVEN OUT ONCE.

  The store numbers its writes: every object that is written gets the next
  resource version, whatever its key and whoever writes it.  So no two stored
  objects have the same version, and an object that is written again has a
  later one (`Versioned`).

  A change of the store leaves all objects as they are or puts one new object
  under a key (`Changes`); that is all that is needed to show that versions
  are not given out twice (`Changes.versioned`).
-/
import LoggingOperator.Proofs.Store.Answers

namespace LoggingOperator

open Json

namespace Json

/-! ## §1. Metadata -/

/-- The object has metadata, and that is an object. -/
def HasMetadata (object : Json) : Prop :=
  ∃ fields, object.get? "metadata" = some (.object fields)

/-- The resource version of an object. -/
def version? (object : Json) : Option String :=
  object.metaString? "resourceVersion"

theorem hasMetadata_of_metaString? {object : Json} {field value : String}
    (h : object.metaString? field = some value) : object.HasMetadata := by
  obtain ⟨x, hx, -⟩ := Option.bind_eq_some_iff.1 h
  obtain ⟨m, hm, hx⟩ := Option.bind_eq_some_iff.1 hx
  cases m with
  | object fields => exact ⟨fields, hm⟩
  | _ => cases hx

theorem hasMetadata_of_name {object : Json} {name : String} (h : object.name = .ok name) :
    object.HasMetadata := by
  unfold Json.name at h
  split at h
  · next hname => exact hasMetadata_of_metaString? hname
  · cases h

end Json

/-- What is there is not set anew. -/
theorem setIfNew_of_get? {v x : Json} {k : String} (h : v.get? k = some x) (y : Json) :
    v.setIfNew k y = v := by
  cases v with
  | object fields =>
    simp [setIfNew, Keyed.insertIfNew, Keyed.has, show Keyed.get? k fields = _ from h]
  | _ => rfl

/-- A field may be set or removed beside the metadata. -/
theorem get?_metadata_set (v x : Json) {k : String} (hk : k ≠ "metadata") :
    (v.set k x).get? "metadata" = v.get? "metadata" := by
  cases v with
  | object fields => rw [get?_set, if_neg hk]
  | _ => rfl

namespace Store

/-- The metadata after one field was set. -/
theorem get?_setMeta {object : Json} {fields : List (String × Json)}
    (h : object.get? "metadata" = some (.object fields)) (field : String) (value : Json) :
    (setMeta field value object).get? "metadata"
      = some (.object (Keyed.insert field value fields)) := by
  rw [setMeta, setIfNew_of_get? h, get?_modify, if_pos rfl, h]
  rfl

theorem metaString?_setMeta {object : Json} (h : object.HasMetadata) (field value : String) :
    (setMeta field (.string value) object).metaString? field = some value := by
  obtain ⟨fields, h⟩ := h
  rw [metaString?, get?_setMeta h]
  show (Keyed.get? field (Keyed.insert field _ fields)).bind string? = _
  rw [Keyed.get?_insert, if_pos rfl]
  rfl

theorem metaString?_setMeta_of_ne {object : Json} (h : object.HasMetadata) {field other : String}
    (hne : other ≠ field) (value : Json) :
    (setMeta field value object).metaString? other = object.metaString? other := by
  obtain ⟨fields, h⟩ := h
  rw [metaString?, metaString?, get?_setMeta h, h]
  show (Keyed.get? other (Keyed.insert field _ fields)).bind string? = _
  rw [Keyed.get?_insert, if_neg (Ne.symm hne)]
  rfl

theorem hasMetadata_setMeta {object : Json} (h : object.HasMetadata) (field : String)
    (value : Json) : (setMeta field value object).HasMetadata := by
  obtain ⟨fields, h⟩ := h
  exact ⟨_, get?_setMeta h field value⟩

/-! ## §2. The version of an object that is written -/

theorem versionText_inj {m n : Nat} (h : versionText m = versionText n) : m = n := by
  have hdigits := congrArg String.toList h
  rw [versionText, versionText, String.toList_ofList, String.toList_ofList] at hdigits
  rw [← Nat.ofDigitChars_ten_toDigits (n := m), ← Nat.ofDigitChars_ten_toDigits (n := n)]
  exact congrArg (Nat.ofDigitChars 10 · 0) hdigits

theorem get?_metadata_applyDefaults (kind : Kind) (v : Json) :
    (applyDefaults kind v).get? "metadata" = v.get? "metadata" := by
  rw [applyDefaults, get?_modify, if_neg (by decide)]

theorem get?_metadata_giveAddress (kind : Kind) (v : Json) (s : Store) :
    (giveAddress kind v s).1.get? "metadata" = v.get? "metadata" := by
  unfold giveAddress
  split
  · exact (get?_modify _ _ _ _).trans (if_neg (by decide))
  · rfl

/-- **A new object has the next version.** -/
theorem version?_stampNew {object : Json} (h : object.HasMetadata) (kind : Kind) (s : Store) :
    (s.stampNew kind object).1.version? = some (versionText (s.version + 1)) := by
  have hversioned := hasMetadata_setMeta h "resourceVersion" s.bump.1
  have hidentified := hasMetadata_setMeta hversioned "uid" (.string (s.stamps (s.version + 1)).uid)
  rw [version?, metaString?, stampNew]
  simp only []
  rw [get?_metadata_applyDefaults, get?_metadata_giveAddress]
  -- The uid and the time are set after the version.
  refine (metaString?_setMeta_of_ne hidentified (by decide) _).trans ?_
  refine (metaString?_setMeta_of_ne hversioned (by decide) _).trans ?_
  exact metaString?_setMeta h _ _

theorem hasMetadata_keepField {object : Json} (h : object.HasMetadata) (current : Json)
    (field : String) : (keepField current field object).HasMetadata := by
  unfold keepField
  split
  · exact hasMetadata_setMeta h field _
  · exact h

theorem hasMetadata_keepStatus {object : Json} (h : object.HasMetadata) (current : Json) :
    (keepStatus current object).HasMetadata := by
  obtain ⟨fields, h⟩ := h
  refine ⟨fields, ?_⟩
  unfold keepStatus
  split
  · rw [get?_metadata_set _ _ (by decide), h]
  · rw [get?_remove, if_neg (by decide), h]

/-- **An updated object has the version that it was given.** -/
theorem version?_replaced {object : Json} (h : object.HasMetadata) (kind : Kind) (current : Json)
    (version : String) :
    (replaced kind current object (.string version)).version? = some version := by
  have hidentity : (keepIdentity current object).HasMetadata :=
    hasMetadata_keepField (hasMetadata_keepField h current _) current _
  obtain ⟨fields, hstatus⟩ := hasMetadata_keepStatus hidentity current
  exact metaString?_setMeta ⟨fields, (get?_metadata_applyDefaults kind _).trans hstatus⟩ _ _

/-- **So has an object whose status was replaced.** -/
theorem version?_restated {current : Json} (h : current.HasMetadata) (object : Json)
    (version : String) :
    (restated current object (.string version)).version? = some version := by
  obtain ⟨fields, h⟩ := h
  exact metaString?_setMeta ⟨fields, (get?_metadata_set _ _ (by decide)).trans h⟩ _ _

/-! ## §3. Changes of the store -/

/-- A change of the store: it leaves all objects as they are, or puts one with the
    next version under a key. -/
inductive Changes (s s' : Store) : Option StoreKey → Prop
  | rest (same : s'.objects = s.objects) (version : s.version ≤ s'.version) : Changes s s' none
  | put {key : StoreKey} {object : Json}
    (stored : s'.objects = Keyed.insert key object s.objects) (version : s'.version = s.version + 1)
    (stamped : object.version? = some (versionText s'.version)) : Changes s s' (some key)

/-- Every stored object has a version that was given out, and no two have the same
    one. -/
structure Versioned (s : Store) : Prop where
  stamped : ∀ key object, s.object? key = some object →
    ∃ n, n ≤ s.version ∧ object.version? = some (versionText n)
  distinct : ∀ key key' object object' version, s.object? key = some object →
    s.object? key' = some object' → object.version? = some version →
    object'.version? = some version → key = key'

theorem Versioned.hasMetadata {s : Store} (h : s.Versioned) {key : StoreKey} {object : Json}
    (hfound : s.object? key = some object) : object.HasMetadata := by
  obtain ⟨n, -, hn⟩ := h.stamped key object hfound
  exact hasMetadata_of_metaString? hn

theorem Changes.of_same {s t s' : Store} {key? : Option StoreKey} (h : Changes t s' key?)
    (hobjects : t.objects = s.objects) (hversion : t.version = s.version) :
    Changes s s' key? := by
  cases h with
  | rest same version => exact .rest (same.trans hobjects) (hversion ▸ version)
  | put stored version stamped =>
    rw [hobjects] at stored
    rw [hversion] at version
    exact .put stored version stamped

/-- A version that was given out is not the next one. -/
theorem versionText_ne_next {m n : Nat} (h : m ≤ n) : versionText m ≠ versionText (n + 1) :=
  fun heq => absurd (versionText_inj heq) (by omega)

/-- **No version is given out twice.** -/
theorem Changes.versioned {s s' : Store} {key? : Option StoreKey} (h : Changes s s' key?)
    (hs : s.Versioned) : s'.Versioned := by
  cases h with
  | rest same version =>
    refine ⟨fun key object hfound => ?_, fun key key' object object' v hfound hfound' => ?_⟩
    · rw [object?_congr same] at hfound
      obtain ⟨n, hn, hstamped⟩ := hs.stamped key object hfound
      exact ⟨n, Nat.le_trans hn version, hstamped⟩
    · rw [object?_congr same] at hfound hfound'
      exact hs.distinct key key' object object' v hfound hfound'
  | @put written object stored version stamped =>
    have hlookup := object?_of_stored stored
    -- What was stored before has an earlier version than what is put.
    have hearlier : ∀ {key old}, s.object? key = some old → old.version? ≠ object.version? := by
      intro key old hold heq
      obtain ⟨n, hn, hstamped⟩ := hs.stamped key old hold
      rw [hstamped, stamped, version] at heq
      exact versionText_ne_next hn (Option.some.inj heq)
    refine ⟨fun key found hfound => ?_, fun key key' found found' v hfound hfound' hv hv' => ?_⟩
    · rw [hlookup] at hfound
      split at hfound
      · cases hfound
        exact ⟨_, Nat.le_refl _, stamped⟩
      · obtain ⟨n, hn, hstamped⟩ := hs.stamped key found hfound
        exact ⟨n, by omega, hstamped⟩
    · rw [hlookup] at hfound hfound'
      split at hfound
      · next hkey =>
        cases hfound
        split at hfound'
        · next hkey' => exact hkey.symm.trans hkey'
        · exact absurd (hv'.trans hv.symm) (hearlier hfound')
      · split at hfound'
        · cases hfound'
          exact absurd (hv.trans hv'.symm) (hearlier hfound)
        · exact hs.distinct key key' found found' v hfound hfound' hv hv'

/-! ## §4. What every operation changes -/

theorem version_stampNew (kind : Kind) (object : Json) (s : Store) :
    (s.stampNew kind object).2.version = s.version + 1 := by
  have hgive : ∀ (v : Json) (t : Store), (giveAddress kind v t).2.version = t.version := by
    intro v t
    unfold giveAddress
    split <;> rfl
  exact hgive _ { s with version := s.version + 1 }

theorem changes_stampNew {object : Json} (h : object.HasMetadata) (kind : Kind) (key : StoreKey)
    (s : Store) :
    Changes s ((s.stampNew kind object).2.put key (s.stampNew kind object).1) (some key) := by
  have hstored : ((s.stampNew kind object).2.put key (s.stampNew kind object).1).objects
      = Keyed.insert key (s.stampNew kind object).1 s.objects := by
    rw [put, objects_stampNew]
  refine .put hstored (version_stampNew kind object s) ?_
  rw [version?_stampNew h]
  exact congrArg (some ∘ versionText) (version_stampNew kind object s).symm

/-- The key under which a call wrote an object, if it did. -/
def writtenBy? (call : StoreCall) (key : StoreKey) : Except StoreError Json → Option StoreKey
  | .ok _ => if call.op.isWrite then some key else none
  | .error _ => none

/-- **A call changes what it writes**, and gives that the next version. -/
theorem Acted.changes {key : StoreKey} {s after : Store} {call : StoreCall} {name : String}
    {answer : Except StoreError Json} (hs : s.Versioned) (hname : call.name = .ok name)
    (h : Acted key s call answer after) : Changes s after (writtenBy? call key answer) := by
  cases h with
  | created absent => exact changes_stampNew (hasMetadata_of_name hname) _ key s
  | updated found fresh =>
    exact .put rfl rfl (version?_replaced (hasMetadata_of_name hname) _ _ _)
  | restated found fresh => exact .put rfl rfl (version?_restated (hs.hasMetadata found) _ _)
  | read | missing | taken | staleUpdate | staleStatus => exact .rest rfl (Nat.le_refl _)

/-- Somebody else stores an object. -/
theorem changes_insert {object : Json} (h : object.HasMetadata) (kind : Kind) (s : Store) :
    Changes s (s.insert kind object).2
      (some (StoreKey.of kind object.namespace? ((object.metaString? "name").getD ""))) :=
  changes_stampNew h kind _ s

/-- Somebody else changes an object. -/
theorem changes_mutate {key : StoreKey} {change : Json → Json} {s : Store}
    (h : ∀ object, s.object? key = some object → (change object).HasMetadata) :
    Changes s (s.mutate key change).2 (if (s.mutate key change).1 then some key else none) := by
  have hbump : s.bump.2.object? key = s.object? key := rfl
  cases hfound : s.object? key with
  | none =>
    simp only [mutate, hbump, hfound]
    exact .rest rfl (Nat.le_succ _)
  | some object =>
    simp only [mutate, hbump, hfound]
    exact .put rfl rfl (metaString?_setMeta (h object hfound) _ _)

/-- **What a call changes**, however it ends. -/
theorem Answered.changes {injected : Option StoreError} {s after : Store} {call : StoreCall}
    {answer : Except StoreError Json} (hs : s.Versioned)
    (h : Answered injected s call answer after) :
    Changes s after (call.name.toOption.bind fun name =>
      writtenBy? call (StoreKey.of call.kind call.ns? name) answer) := by
  cases h with
  | unnamed unnamed same version =>
    rw [unnamed]
    exact .rest same (Nat.le_of_eq version.symm)
  | injected made same version =>
    cases call.name with
    | error e => exact .rest same (Nat.le_of_eq version.symm)
    | ok name => exact .rest same (Nat.le_of_eq version.symm)
  | @acted name _ _ named acted =>
    rw [named]
    -- Noting a call changes neither the objects nor the version.
    have hnoted : (s.noted call name).Versioned := ⟨hs.stamped, hs.distinct⟩
    exact (acted.changes hnoted named).of_same rfl rfl

end Store

end LoggingOperator
