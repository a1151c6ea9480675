/-
  LoggingOperator.Proofs.Convergence.Written — WHAT A WRITE LEAVES BEHIND.

  A create or an update sends the desired object with a record of itself, and
  with what an update keeps; the store then adds its own bookkeeping.  Along
  this whole way the desired object is only added to, except at places that
  take no part in a comparison.  So whatever `Wrote` describes

    * holds everything that was desired (`Wrote.kept`) and the record of it
      (`Wrote.recorded`), and is therefore left alone by the next pass
      (`Wrote.skip`);
    * does not depend on when it was written, but for the bookkeeping
      (`Wrote.agree`).
-/
import LoggingOperator.Proofs.Store.Bookkeeping

namespace LoggingOperator.Convergence

open Json Store

/-! ## §1. Changing annotations -/

/-- The places in the metadata that come with annotations. -/
def aroundAnnotations : Region :=
  Region.within "metadata" fun p => p.isEmpty || Region.fields ["annotations"] p

/-- Changed annotations are those of the object, and the fields around them are
    those that were there. -/
theorem mapAnnotations?_eq_some {change : List (String × Json) → List (String × Json)}
    {v w : Json} (h : mapAnnotations? change v = some w) :
    ∃ fields metadata annotations, v = .object fields
      ∧ (Keyed.get? "metadata" fields).getD .empty = .object metadata
      ∧ (Keyed.get? "annotations" metadata).getD .empty = .object annotations
      ∧ w = .object (Keyed.insert "metadata"
          (.object (Keyed.insert "annotations" (.object (change annotations)) metadata)) fields) := by
  cases v with
  | object fields =>
    rw [mapAnnotations?] at h
    split at h
    · next metadata hmetadata =>
      split at h
      · next annotations hannotations =>
        cases h
        exact ⟨fields, metadata, annotations, rfl, hmetadata, hannotations, rfl⟩
      · cases h
    · cases h
  | _ => cases h

/-- Nothing but the annotations changes, and what has to be there for them. -/
theorem agreeOutside_mapAnnotations {change : List (String × Json) → List (String × Json)}
    {v w : Json} (h : mapAnnotations? change v = some w) :
    AgreeOutside aroundAnnotations v w := by
  obtain ⟨fields, metadata, annotations, rfl, hmetadata, -, rfl⟩ := mapAnnotations?_eq_some h
  apply AgreeOutside.of_fields
  intro k p hp
  rw [Keyed.get?_insert]
  split
  · next hk =>
    subst hk
    -- Metadata that is not there is taken to be an empty object.
    cases hget : Keyed.get? "metadata" fields with
    | none =>
      rw [hget] at hmetadata
      cases hmetadata
      cases p with
      | nil => cases hp
      | cons step p =>
        cases step with
        | item i => rfl
        | key f =>
          have hf : "annotations" ≠ f := by
            rintro rfl
            simp [aroundAnnotations] at hp
          show head? (.key f :: p) (.object (Keyed.insert "annotations" _ [])) = none
          rw [head?_key, get?_object, Keyed.get?_insert, if_neg hf]
          rfl
    | some m =>
      rw [hget] at hmetadata
      have hm : m = .object metadata := hmetadata
      subst hm
      cases p with
      | nil => cases hp
      | cons step p =>
        cases step with
        | item i => rfl
        | key f =>
          have hf : "annotations" ≠ f := by
            rintro rfl
            simp [aroundAnnotations] at hp
          show head? (.key f :: p) (.object (Keyed.insert "annotations" _ metadata))
            = head? (.key f :: p) (.object metadata)
          rw [head?_key, head?_key, get?_object, get?_object, Keyed.get?_insert, if_neg hf]
  · rfl

/-- What a change of the annotations keeps of them is kept of the object. -/
theorem kept_mapAnnotations {change : List (String × Json) → List (String × Json)} {r : Region}
    (hchange : ∀ a, Kept ((r.below "metadata").below "annotations") (.object a)
      (.object (change a)))
    {v w : Json} (h : mapAnnotations? change v = some w) : Kept r v w := by
  have hagree := agreeOutside_mapAnnotations h
  obtain ⟨fields, metadata, annotations, rfl, hmetadata, hannotations, rfl⟩ :=
    mapAnnotations?_eq_some h
  intro p x hp hx
  -- Only on the way to the annotations is there something to show.
  cases hr : aroundAnnotations p with
  | false => rw [hagree p hr, hx]
  | true =>
    obtain ⟨q, rfl, hq⟩ := Region.exists_of_within hr
    rw [head?_key, get?_object] at hx
    obtain ⟨m, hm, hx⟩ := Option.bind_eq_some_iff.1 hx
    rw [hm] at hmetadata
    have hmeq : m = .object metadata := hmetadata
    subst hmeq
    rw [head?_key, get?_object, Keyed.get?_insert, if_pos rfl]
    match q with
    | [] => exact hx
    | .item i :: q => cases hx
    | .key f :: q =>
      -- The rest of the way is one in the annotations.
      have hf : f = "annotations" := by simpa using hq
      subst hf
      rw [head?_key, get?_object] at hx
      obtain ⟨a, ha, hx⟩ := Option.bind_eq_some_iff.1 hx
      rw [ha] at hannotations
      have haeq : a = .object annotations := hannotations
      subst haeq
      show head? (.key "annotations" :: q) (.object (Keyed.insert "annotations" _ metadata)) = _
      rw [head?_key, get?_object, Keyed.get?_insert, if_pos rfl]
      exact hchange annotations q x hp hx

/-- Changed annotations are found where annotations are. -/
theorem get?_mapAnnotations {change : List (String × Json) → List (String × Json)}
    {v w : Json} (h : mapAnnotations? change v = some w) :
    ∃ annotations, w.walk [.key "metadata", .key "annotations"]
      = some (.object (change annotations)) := by
  obtain ⟨fields, metadata, annotations, -, -, -, rfl⟩ := mapAnnotations?_eq_some h
  refine ⟨annotations, ?_⟩
  rw [walk_key, get?_object, Keyed.get?_insert, if_pos rfl]
  show walk [.key "annotations"] (.object (Keyed.insert "annotations" _ metadata)) = _
  rw [walk_key, get?_object, Keyed.get?_insert, if_pos rfl]
  rfl

theorem canonical_mapAnnotations {change : List (String × Json) → List (String × Json)}
    (hchange : ∀ a, Canonical (.object a) → Canonical (.object (change a)))
    {v w : Json} (h : mapAnnotations? change v = some w) (hv : v.Canonical) : w.Canonical := by
  obtain ⟨fields, metadata, annotations, rfl, hmetadata, hannotations, rfl⟩ :=
    mapAnnotations?_eq_some h
  -- Metadata and annotations are fields that are there, or empty objects.
  have hfield : ∀ {k : String} {fs gs : List (String × Json)}, Canonical (.object fs) →
      (Keyed.get? k fs).getD .empty = .object gs → Canonical (.object gs) := by
    intro k fs gs hfs hgs
    cases hget : Keyed.get? k fs with
    | none =>
      rw [hget] at hgs
      cases hgs
      exact canonical_empty
    | some x =>
      rw [hget] at hgs
      have hx : x = .object gs := hgs
      rw [← hx]
      exact Canonical.get? (v := .object fs) hfs hget
  have hm := hfield hv hmetadata
  exact hv.insert (hm.insert (hchange annotations (hfield hm hannotations)))

/-! ## §2. The object of a create -/

/-- The place of the record and below. -/
def recordRegion : Region :=
  Region.within "metadata" (Region.within "annotations" (Region.fields [lastAppliedKey]))

theorem hidden_of_recordRegion {kind : Kind} {p : Path} (h : recordRegion p = true) :
    hidden kind p = true := by
  obtain ⟨q, rfl, hq⟩ := Region.exists_of_within h
  obtain ⟨q, rfl, hq⟩ := Region.exists_of_within hq
  obtain ⟨q, rfl⟩ := Region.exists_of_fields hq
  exact hidden_lastApplied kind q

theorem withLastApplied_eq_ok {desired object : Json} (h : withLastApplied desired = .ok object) :
    mapAnnotations? (Keyed.insert lastAppliedKey (.string desired.text)) desired = some object := by
  unfold withLastApplied at h
  split at h
  · next w hw =>
    cases h
    exact hw
  · cases h

theorem kept_withLastApplied {desired object : Json} (h : withLastApplied desired = .ok object) :
    Kept recordRegion desired object := by
  refine kept_mapAnnotations (fun a => ?_) (withLastApplied_eq_ok h)
  refine Kept.set (.object a) lastAppliedKey _ fun p => ?_
  simp [Region.below, recordRegion]

theorem recorded_withLastApplied {desired object : Json}
    (h : withLastApplied desired = .ok object) : Recorded desired object := by
  obtain ⟨annotations, hwalk⟩ := get?_mapAnnotations (withLastApplied_eq_ok h)
  show object.head? ([.key "metadata", .key "annotations"] ++ [.key lastAppliedKey]) = _
  rw [head?_append, hwalk]
  show head? [.key lastAppliedKey] (.object (Keyed.insert lastAppliedKey _ annotations)) = _
  rw [head?_key, get?_object, Keyed.get?_insert, if_pos rfl]
  rfl

theorem canonical_withLastApplied {desired object : Json}
    (h : withLastApplied desired = .ok object) (hd : desired.Canonical) : object.Canonical :=
  canonical_mapAnnotations (fun _ ha => ha.insert (canonical_string _)) (withLastApplied_eq_ok h) hd

/-! ## §3. The object of an update -/

theorem carry_cons (source : Json) (field : String) (fields : List String) (target : Json) :
    carry source (field :: fields) target
      = carry source fields (match source.get? field with
        | some value => target.set field value
        | none => target) := rfl

/-- Carried fields are those of the source where it has them. -/
theorem get?_carry (source : Json) (fields : List String) (target : List (String × Json))
    (k : String) :
    (carry source fields (.object target)).get? k
      = if k ∈ fields then (source.get? k).or (Keyed.get? k target) else Keyed.get? k target := by
  induction fields generalizing target with
  | nil => rfl
  | cons field fields ih =>
    rw [carry_cons]
    cases hfield : source.get? field with
    | none =>
      refine (ih target).trans ?_
      by_cases hk : k = field
      · subst hk
        simp [hfield]
      · simp [hk]
    | some value =>
      refine (ih (Keyed.insert field value target)).trans ?_
      rw [Keyed.get?_insert]
      by_cases hk : k = field
      · subst hk
        simp [hfield]
      · simp [hk, Ne.symm hk]

theorem agreeOutside_carry (source : Json) (fields : List String) (target : Json) :
    AgreeOutside (Region.fields fields) target (carry source fields target) := by
  induction fields generalizing target with
  | nil => exact AgreeOutside.refl _ _
  | cons field fields ih =>
    rw [carry_cons]
    have hrest := (ih (match source.get? field with
      | some value => target.set field value
      | none => target)).mono (s := Region.fields (field :: fields))
      fun p hp => Region.fields_mono (fun k hk => List.mem_cons_of_mem _ hk) hp
    -- One field is set, and the others are carried after it.
    refine AgreeOutside.trans ?_ hrest
    split
    · refine (AgreeOutside.set target field _).mono fun p hp => ?_
      exact Region.fields_mono (by simp) hp
    · exact AgreeOutside.refl _ _

theorem canonical_carry {source target : Json} {fields : List String} (hs : source.Canonical)
    (ht : target.Canonical) : (carry source fields target).Canonical := by
  induction fields generalizing target with
  | nil => exact ht
  | cons field fields ih =>
    rw [carry_cons]
    split
    · next value hvalue => exact ih (ht.set (hs.get? hvalue))
    · exact ih ht

/-- Adopted annotations go under keys that are not set yet. -/
theorem kept_adopt (foreign annotations : List (String × Json)) (r : Region) :
    Kept r (.object annotations) (.object (adopt foreign annotations)) := by
  induction foreign generalizing annotations with
  | nil => exact Kept.refl _ _
  | cons f foreign ih =>
    exact (Kept.setIfNew (.object annotations) f.1 f.2).trans (ih _)

theorem canonical_adopt {foreign annotations : List (String × Json)}
    (hf : ∀ f ∈ foreign, f.2.Canonical) (ha : Canonical (.object annotations)) :
    Canonical (.object (adopt foreign annotations)) := by
  induction foreign generalizing annotations with
  | nil => exact ha
  | cons f foreign ih =>
    refine ih (fun g hg => hf g (List.mem_cons_of_mem _ hg)) ?_
    exact Canonical.setIfNew (v := .object annotations) ha (hf f List.mem_cons_self)

/-- The metadata that an update carries. -/
def withVersion (stored object : Json) : Json :=
  object.modify "metadata" (carry ((stored.get? "metadata").getD .null) carriedFields)

/-- The annotations of others that an update adopts. -/
def withForeign (stored object : Json) : Json :=
  match (stored.at? ["metadata", "annotations"]).bind fields? with
  | some foreign => (mapAnnotations? (adopt foreign) object).getD object
  | none => object

/-- The addresses of a service that an update carries. -/
def withAddresses (kind : Kind) (stored object : Json) : Json :=
  if kind = .service then
    object.modify "spec" (carry ((stored.get? "spec").getD .null) ["clusterIP", "clusterIPs"])
  else object

/-- The object of an update, made in four steps. -/
theorem prepareUpdate_eq_ok {kind : Kind} {desired stored object : Json}
    (h : prepareUpdate kind desired stored = .ok object) :
    ∃ recorded, withLastApplied desired = .ok recorded
      ∧ object = withAddresses kind stored (withForeign stored (withVersion stored recorded)) := by
  unfold prepareUpdate at h
  cases hr : withLastApplied desired with
  | error e =>
    rw [hr] at h
    cases h
  | ok recorded =>
    rw [hr] at h
    refine ⟨recorded, rfl, ?_⟩
    unfold withAddresses
    split
    · next hkind =>
      simp only [if_pos hkind] at h
      cases h
      rfl
    · next hkind =>
      simp only [if_neg hkind] at h
      cases h
      rfl

theorem kept_withVersion {kind : Kind} (stored v : Json) :
    Kept (bookkeeping kind) v (withVersion stored v) := by
  refine Kept.modify (fun m => ?_) v
  refine Kept.of_agreeOutside (agreeOutside_carry _ carriedFields m) fun p hp => Or.inl ?_
  match p with
  | .key k :: p =>
    have hk : k ∈ carriedFields := by simpa using hp
    have hown : ∀ k ∈ carriedFields, k ∈ ownFields := by decide
    exact bookkeeping_own kind (hown k hk) p

theorem kept_withForeign {r : Region} (stored v : Json) : Kept r v (withForeign stored v) := by
  unfold withForeign
  split
  · next foreign _ =>
    cases h : mapAnnotations? (adopt foreign) v with
    | none => exact Kept.refl _ _
    | some w => exact kept_mapAnnotations (fun a => kept_adopt foreign a _) h
  · exact Kept.refl _ _

theorem kept_withAddresses (kind : Kind) (stored v : Json) :
    Kept (bookkeeping kind) v (withAddresses kind stored v) := by
  unfold withAddresses
  split
  · next hkind =>
    subst hkind
    refine Kept.modify (fun spec => ?_) v
    refine Kept.of_agreeOutside (agreeOutside_carry _ _ spec) fun p hp => Or.inl ?_
    show bookkeeping .service (.key "spec" :: p) = true
    simp only [bookkeeping, addressRegion, if_pos, Region.or_apply, Region.within_key, hp,
      decide_true, Bool.and_self, Bool.or_true]
  · exact Kept.refl _ _

/-- What is sent with an update holds all of the desired object and the record
    of it. -/
theorem kept_prepareUpdate {kind : Kind} {desired stored object recorded : Json}
    (hr : withLastApplied desired = .ok recorded)
    (h : prepareUpdate kind desired stored = .ok object) :
    Kept (bookkeeping kind) recorded object := by
  obtain ⟨recorded', hr', rfl⟩ := prepareUpdate_eq_ok h
  rw [hr] at hr'
  cases hr'
  exact ((kept_withVersion stored recorded).trans (kept_withForeign stored _)).trans
    (kept_withAddresses kind stored _)

theorem canonical_prepareUpdate {kind : Kind} {desired stored object : Json}
    (h : prepareUpdate kind desired stored = .ok object) (hd : desired.Canonical)
    (hs : stored.Canonical) : object.Canonical := by
  obtain ⟨recorded, hr, rfl⟩ := prepareUpdate_eq_ok h
  have hrecorded := canonical_withLastApplied hr hd
  have hgetD : ∀ k, ((stored.get? k).getD .null).Canonical := by
    intro k
    cases hk : stored.get? k with
    | none => trivial
    | some x => exact hs.get? hk
  have hversion : (withVersion stored recorded).Canonical :=
    hrecorded.modify fun _ hm => canonical_carry (hgetD _) hm
  have hforeign : (withForeign stored (withVersion stored recorded)).Canonical := by
    unfold withForeign
    split
    · next foreign hf =>
      obtain ⟨a, ha, hfields⟩ := Option.bind_eq_some_iff.1 hf
      have haobject : a = .object foreign := by
        cases a <;> simp_all [fields?]
      have hacanonical : a.Canonical := by
        rw [at?_eq_walk] at ha
        exact hs.walk ha
      rw [haobject] at hacanonical
      cases hm : mapAnnotations? (adopt foreign) (withVersion stored recorded) with
      | none => exact hversion
      | some w =>
        exact canonical_mapAnnotations
          (fun _ hc => canonical_adopt (canonical_object.1 hacanonical).2 hc) hm hversion
    · exact hversion
  unfold withAddresses
  split
  · exact hforeign.modify fun _ hspec => canonical_carry (hgetD _) hspec
  · exact hforeign

/-! ## §4. What is sent is for the same object -/

theorem metaString?_congr {v w : Json} {field : String}
    (h : w.head? [.key "metadata", .key field] = v.head? [.key "metadata", .key field]) :
    w.metaString? field = v.metaString? field := by
  have hview : ∀ u : Json, u.metaString? field
      = (u.walk [.key "metadata", .key field]).bind string? := by
    intro u
    rw [metaString?, walk_key]
    congr 2
    funext m
    rw [walk_key]
    cases m.get? field <;> rfl
  rw [hview, hview, string?_walk, string?_walk, h]

theorem agreeOutside_withVersion (stored v : Json) :
    AgreeOutside (Region.within "metadata" (Region.fields carriedFields)) v
      (withVersion stored v) :=
  AgreeOutside.modify fun m _ => agreeOutside_carry _ carriedFields m

theorem agreeOutside_withForeign (stored v : Json) :
    AgreeOutside aroundAnnotations v (withForeign stored v) := by
  unfold withForeign
  split
  · next foreign _ =>
    cases h : mapAnnotations? (adopt foreign) v with
    | none => exact AgreeOutside.refl _ _
    | some w => exact agreeOutside_mapAnnotations h
  · exact AgreeOutside.refl _ _

theorem agreeOutside_withAddresses (kind : Kind) (stored v : Json) :
    AgreeOutside (addressRegion kind) v (withAddresses kind stored v) := by
  unfold withAddresses addressRegion
  split
  · exact AgreeOutside.modify fun spec _ => agreeOutside_carry _ _ spec
  · exact AgreeOutside.refl _ _

/-- Metadata other than annotations and the carried fields is sent as desired. -/
theorem metaString?_withLastApplied {desired object : Json}
    (h : withLastApplied desired = .ok object) {field : String} (hf : field ≠ "annotations") :
    object.metaString? field = desired.metaString? field := by
  refine metaString?_congr (agreeOutside_mapAnnotations (withLastApplied_eq_ok h) _ ?_)
  simp [aroundAnnotations, hf]

theorem metaString?_prepareUpdate {kind : Kind} {desired stored object : Json}
    (h : prepareUpdate kind desired stored = .ok object) {field : String}
    (hf : field ≠ "annotations") (hcarried : field ∉ carriedFields) :
    object.metaString? field = desired.metaString? field := by
  obtain ⟨recorded, hr, rfl⟩ := prepareUpdate_eq_ok h
  have haround : aroundAnnotations [.key "metadata", .key field] = false := by
    simp [aroundAnnotations, hf]
  rw [← metaString?_withLastApplied hr hf]
  refine metaString?_congr ?_
  rw [agreeOutside_withAddresses kind stored _ _ (by simp),
    agreeOutside_withForeign stored _ _ haround,
    agreeOutside_withVersion stored _ _ (by simp [hcarried])]

/-- What is sent has the name of the desired object. -/
theorem name_withLastApplied {desired object : Json} (h : withLastApplied desired = .ok object) :
    object.name = desired.name := by
  rw [Json.name, Json.name, metaString?_withLastApplied h (by decide)]

theorem namespace?_withLastApplied {desired object : Json}
    (h : withLastApplied desired = .ok object) : object.namespace? = desired.namespace? :=
  metaString?_withLastApplied h (by decide)

theorem name_prepareUpdate {kind : Kind} {desired stored object : Json}
    (h : prepareUpdate kind desired stored = .ok object) : object.name = desired.name := by
  rw [Json.name, Json.name, metaString?_prepareUpdate h (by decide) (by decide)]

theorem namespace?_prepareUpdate {kind : Kind} {desired stored object : Json}
    (h : prepareUpdate kind desired stored = .ok object) :
    object.namespace? = desired.namespace? :=
  metaString?_prepareUpdate h (by decide) (by decide)

/-- An update carries the version that was read. -/
theorem resourceVersion_prepareUpdate {kind : Kind} {desired stored object : Json} {version : String}
    (h : prepareUpdate kind desired stored = .ok object)
    (hv : stored.metaString? "resourceVersion" = some version) :
    object.metaString? "resourceVersion" = some version := by
  obtain ⟨recorded, hr, rfl⟩ := prepareUpdate_eq_ok h
  obtain ⟨value, hvalue, hstring⟩ := Option.bind_eq_some_iff.1 hv
  obtain ⟨m, hm, hvalue⟩ := Option.bind_eq_some_iff.1 hvalue
  obtain ⟨annotations, hwalk⟩ := get?_mapAnnotations (withLastApplied_eq_ok hr)
  obtain ⟨t, ht, htwalk⟩ := Option.bind_eq_some_iff.1 hwalk
  have ht : recorded.get? "metadata" = some t := ht
  have hobject : ∃ target, t = .object target := by
    cases t with
    | object target => exact ⟨target, rfl⟩
    | _ => cases htwalk
  obtain ⟨target, rfl⟩ := hobject
  -- The version is carried first, and the later steps leave it alone.
  have hversion : (withVersion stored recorded).metaString? "resourceVersion" = some version := by
    have hget : (withVersion stored recorded).get? "metadata"
        = some (carry ((stored.get? "metadata").getD .null) carriedFields (.object target)) := by
      rw [withVersion, get?_modify, if_pos rfl, ht]
      rfl
    rw [metaString?, hget, hm]
    show ((carry m carriedFields (.object target)).get? "resourceVersion").bind string? = _
    rw [get?_carry, if_pos (by decide), hvalue]
    exact hstring
  rw [← hversion]
  refine metaString?_congr ?_
  rw [agreeOutside_withAddresses kind stored _ _ (by simp),
    agreeOutside_withForeign stored _ _ (by simp [aroundAnnotations])]

/-- An update of what was read loses no race. -/
theorem checkVersion_prepareUpdate {kind : Kind} {desired stored object : Json}
    (h : prepareUpdate kind desired stored = .ok object) : checkVersion object stored = .ok () := by
  unfold checkVersion
  cases hv : stored.metaString? "resourceVersion" with
  | none => cases object.metaString? "resourceVersion" <;> rfl
  | some version =>
    rw [resourceVersion_prepareUpdate h hv]
    simp

/-! ## §5. Written objects -/

/-- `after` is what a write of `desired` makes of `before`, with some version,
    stamp and address. -/
inductive Wrote (kind : Kind) (desired : Json) : Option Json → Json → Prop
  | created {object : Json} (s : Store) (h : prepareCreate desired = .ok object) :
    Wrote kind desired none (stampNew kind object s).1
  | updated {current object : Json} (version : String)
    (h : prepareUpdate kind desired current = .ok object) :
    Wrote kind desired (some current) (replaced kind current object (.string version))

namespace Wrote

variable {kind : Kind} {desired after : Json} {before : Option Json}

/-- Along a write the object with its record is only added to. -/
theorem kept_recorded (h : Wrote kind desired before after) :
    ∃ recorded, withLastApplied desired = .ok recorded
      ∧ Kept (bookkeeping kind) recorded after := by
  cases h with
  | created s h => exact ⟨_, h, kept_stampNew kind _ s⟩
  | updated version h =>
    obtain ⟨recorded, hr, -⟩ := prepareUpdate_eq_ok h
    exact ⟨recorded, hr, (kept_prepareUpdate hr h).trans (kept_replaced kind _ _ _)⟩

/-- **Everything that was desired is stored**, as far as it is compared. -/
theorem kept (h : Wrote kind desired before after) : Kept (hidden kind) desired after := by
  obtain ⟨recorded, hr, hkept⟩ := h.kept_recorded
  exact ((kept_withLastApplied hr).mono fun _ => hidden_of_recordRegion).trans
    (hkept.mono fun _ => hidden_of_bookkeeping)

/-- **The record of what was desired is stored.** -/
theorem recorded (h : Wrote kind desired before after) : Recorded desired after := by
  obtain ⟨recorded, hr, hkept⟩ := h.kept_recorded
  exact hkept recordPath _ (bookkeeping_record kind) (recorded_withLastApplied hr)

end Wrote

/-- An object that holds everything desired is in sync. -/
theorem inSync_of_kept {kind : Kind} {desired stored : Json}
    (h : Kept (hidden kind) desired stored) : InSync kind desired stored := by
  intro p x hx
  -- What is compared of the desired object is visible, and is stored as desired.
  have hhead : (comparable kind desired).head? p = some x.head := head?_eq_some.2 ⟨x, hx, rfl⟩
  have hvisible := hidden_of_head?_comparable hhead
  rw [head?_comparable_of_visible hvisible] at hhead ⊢
  obtain ⟨y, hy, hyx⟩ := Option.map_eq_some_iff.1 hhead
  rw [h p y hvisible hy, Option.map_some, hyx]
  exact admits_head x

namespace Wrote

variable {kind : Kind} {desired after : Json} {before : Option Json}

theorem inSync (h : Wrote kind desired before after) : InSync kind desired after :=
  inSync_of_kept h.kept

/-- **What was written is left alone by the next pass.** -/
theorem skip (h : Wrote kind desired before after) (hd : desired.Canonical) :
    decide kind desired (some after) = .skip :=
  decide_skip hd h.inSync h.recorded

/-- Two writes over the same object differ in the bookkeeping alone. -/
theorem agree {other : Json} (h : Wrote kind desired before after)
    (h' : Wrote kind desired before other) : AgreeOutside (bookkeeping kind) after other := by
  cases h with
  | created s h =>
    cases h' with
    | created t h' =>
      rw [h] at h'
      cases h'
      exact stampNew_congr (AgreeOutside.refl _ _) s t
  | updated version h =>
    cases h' with
    | updated version' h' =>
      rw [h] at h'
      cases h'
      exact replaced_congr kind _ _ _ _

theorem canonical (h : Wrote kind desired before after) (hd : desired.Canonical)
    (hb : ∀ b, before = some b → b.Canonical) : after.Canonical := by
  cases h with
  | created s h => exact canonical_stampNew (canonical_withLastApplied h hd) s
  | updated version h =>
    exact canonical_replaced (hb _ rfl) (canonical_prepareUpdate h hd (hb _ rfl))

/-- **Two writes over the same object compare equal.** -/
theorem comparable_eq {other : Json} (h : Wrote kind desired before after)
    (h' : Wrote kind desired before other) (hd : desired.Canonical)
    (hb : ∀ b, before = some b → b.Canonical) :
    comparable kind after = comparable kind other :=
  Convergence.comparable_eq (h.canonical hd hb) (h'.canonical hd hb)
    ((h.agree h').mono fun _ => hidden_of_bookkeeping)

end Wrote

end LoggingOperator.Convergence
