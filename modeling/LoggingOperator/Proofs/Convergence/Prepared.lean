/-
  LoggingOperator.Proofs.Convergence.Prepared — WHAT AN UPDATE SENDS.

  The object of an update is put together from three sources: the desired
  object, what the platform keeps in the stored one, and the annotations of
  others.  Here each place of it is traced back to its source.

    * Outside of `mergedRegion` everything is as desired
      (`agreeOutside_prepareUpdate`).
    * An annotation is the record of the desired object, or else the desired
      one, or else the stored one (`annotated?_prepareUpdate`).
    * What the platform keeps in the metadata and the addresses of a service
      are the stored ones (`metaField?_carried`, `specField?_carried`).

  The annotations are looked up one by one (`annotated?`), so that nothing
  depends on the order in which they are merged.
-/
import LoggingOperator.Proofs.Store.Replaced

namespace LoggingOperator.Convergence

open Json Store

/-! ## §1. Annotations one by one -/

/-- The place of the annotations. -/
def annotationsPath : Path :=
  [.key "metadata", .key "annotations"]

/-- The annotation under a key. -/
def annotated? (v : Json) (key : String) : Option Json :=
  v.walk (annotationsPath ++ [.key key])

/-- An annotation is looked up in the object of annotations. -/
theorem annotated?_eq (v : Json) (key : String) :
    annotated? v key = (v.walk annotationsPath).bind (Json.get? key) := by
  rw [annotated?, walk_append]
  congr 1
  funext annotations
  rw [walk_key]
  cases annotations.get? key <;> rfl

theorem annotated?_of_walk {v : Json} {annotations : List (String × Json)}
    (h : v.walk annotationsPath = some (.object annotations)) (key : String) :
    annotated? v key = Keyed.get? key annotations := by
  rw [annotated?_eq, h]
  rfl

/-- What is below an annotation. -/
theorem head?_annotated (v : Json) (key : String) (p : Path) :
    v.head? (annotationsPath ++ .key key :: p) = (annotated? v key).bind (head? p) := by
  rw [head?_append, annotated?_eq, Option.bind_assoc]
  congr 1
  funext annotations
  exact head?_key _ _ _

/-- The record of the last write is an annotation. -/
theorem lastApplied?_eq (stored : Json) :
    lastApplied? stored
      = ((annotated? stored lastAppliedKey).bind Json.string?).bind Json.read? := by
  rw [lastApplied?, at?_eq_walk]
  rfl

/-! ## §2. Merging annotations -/

theorem get?_insertIfNew (k key : String) (value : Json) (entries : List (String × Json)) :
    Keyed.get? k (Keyed.insertIfNew key value entries)
      = (Keyed.get? k entries).or (if key = k then some value else none) := by
  unfold Keyed.insertIfNew Keyed.has
  by_cases hkey : key = k
  · subst hkey
    cases hget : Keyed.get? key entries with
    | none => simp [Keyed.get?_insert]
    | some old => simp [hget]
  · split <;> simp [Keyed.get?_insert, hkey]

/-- **An adopted annotation is one that was not set.** -/
theorem get?_adopt (k : String) (foreign annotations : List (String × Json)) :
    Keyed.get? k (adopt foreign annotations)
      = (Keyed.get? k annotations).or (Keyed.get? k foreign) := by
  induction foreign generalizing annotations with
  | nil => exact (Option.or_none).symm
  | cons f foreign ih =>
    obtain ⟨key, value⟩ := f
    refine (ih (Keyed.insertIfNew key value annotations)).trans ?_
    rw [get?_insertIfNew, Option.or_assoc, Keyed.get?_cons]
    congr 1
    split <;> rfl

/-- The annotations before and after a change of them. -/
theorem walk_mapAnnotations {change : List (String × Json) → List (String × Json)}
    {v w : Json} (h : mapAnnotations? change v = some w) :
    ∃ annotations, (∀ key, annotated? v key = Keyed.get? key annotations)
      ∧ w.walk annotationsPath = some (.object (change annotations)) := by
  obtain ⟨fields, metadata, annotations, rfl, hmetadata, hannotations, rfl⟩ :=
    mapAnnotations?_eq_some h
  refine ⟨annotations, fun key => ?_, ?_⟩
  · -- What is missing on the way is as good as empty.
    show ((Keyed.get? "metadata" fields).bind (walk [.key "annotations", .key key])) = _
    cases hm : Keyed.get? "metadata" fields with
    | none =>
      rw [hm] at hmetadata
      cases hmetadata
      cases hannotations
      rfl
    | some m =>
      rw [hm] at hmetadata
      obtain rfl : m = .object metadata := hmetadata
      show ((Keyed.get? "annotations" metadata).bind (walk [.key key])) = _
      cases ha : Keyed.get? "annotations" metadata with
      | none =>
        rw [ha] at hannotations
        cases hannotations
        rfl
      | some a =>
        rw [ha] at hannotations
        obtain rfl : a = .object annotations := hannotations
        show ((Keyed.get? key annotations).bind (walk [])) = _
        cases Keyed.get? key annotations <;> rfl
  · rw [annotationsPath, walk_key, get?_object, Keyed.get?_insert, if_pos rfl]
    show walk [.key "annotations"] (.object (Keyed.insert "annotations" _ metadata)) = _
    rw [walk_key, get?_object, Keyed.get?_insert, if_pos rfl]
    rfl

/-- Annotations that are there can be changed. -/
theorem exists_mapAnnotations {v : Json} {annotations : List (String × Json)}
    (h : v.walk annotationsPath = some (.object annotations))
    (change : List (String × Json) → List (String × Json)) :
    ∃ w, mapAnnotations? change v = some w := by
  obtain ⟨m, hm, hwalk⟩ := Option.bind_eq_some_iff.1 h
  obtain ⟨a, ha, hwalk⟩ := Option.bind_eq_some_iff.1 hwalk
  cases hwalk
  cases v with
  | object fields =>
    cases m with
    | object metadata =>
      have hm : Keyed.get? "metadata" fields = some (.object metadata) := hm
      have ha : Keyed.get? "annotations" metadata = some (.object annotations) := ha
      refine Option.isSome_iff_exists.1 ?_
      simp only [mapAnnotations?, hm, ha, Option.getD_some, Option.isSome_some]
    | _ => cases ha
  | _ => cases hm

/-! ## §3. The annotations that are sent -/

theorem get?_carry_of_not_mem {source : Json} {fields : List String} {k : String}
    (hk : k ∉ fields) (target : Json) : (carry source fields target).get? k = target.get? k := by
  induction fields generalizing target with
  | nil => rfl
  | cons field fields ih =>
    rw [List.mem_cons, not_or] at hk
    rw [carry_cons, ih hk.2]
    split
    · cases target with
      | object fs => rw [get?_set, if_neg (Ne.symm hk.1)]
      | _ => rfl
    · rfl

theorem walk_annotations_withVersion (stored v : Json) :
    (withVersion stored v).walk annotationsPath = v.walk annotationsPath := by
  rw [annotationsPath, walk_key, walk_key, withVersion, get?_modify, if_pos rfl, Option.bind_map]
  congr 1
  funext m
  show walk [.key "annotations"] (carry _ carriedFields m) = _
  rw [walk_key, get?_carry_of_not_mem (by decide)]
  rfl

theorem get?_metadata_withAddresses (kind : Kind) (stored v : Json) :
    (withAddresses kind stored v).get? "metadata" = v.get? "metadata" := by
  unfold withAddresses
  split
  · rw [get?_modify, if_neg (by decide)]
  · rfl

/-- Stored annotations, as far as there are any. -/
theorem annotated?_of_foreign (stored : Json) (key : String) :
    annotated? stored key
      = ((stored.at? ["metadata", "annotations"]).bind fields?).bind (Keyed.get? key) := by
  rw [annotated?_eq, at?_eq_walk]
  show (stored.walk annotationsPath).bind _ = ((stored.walk annotationsPath).bind fields?).bind _
  rw [Option.bind_assoc]
  congr 1
  funext annotations
  cases annotations <;> rfl

/-- **The annotations of an update**: the record of the desired object, then the
    desired annotations, then the stored ones. -/
theorem walk_annotations_prepareUpdate {kind : Kind} {desired stored object : Json}
    (h : prepareUpdate kind desired stored = .ok object) :
    ∃ annotations, object.walk annotationsPath = some (.object annotations)
      ∧ ∀ key, Keyed.get? key annotations
          = if key = lastAppliedKey then some (.string desired.text)
            else (annotated? desired key).or (annotated? stored key) := by
  obtain ⟨recorded, hr, rfl⟩ := prepareUpdate_eq_ok h
  obtain ⟨declared, hdeclared, hwalk⟩ := walk_mapAnnotations (withLastApplied_eq_ok hr)
  rw [← walk_annotations_withVersion stored recorded] at hwalk
  -- The addresses are elsewhere, so the annotations are those after the merge.
  have haddresses : ∀ v : Json, (withAddresses kind stored v).walk annotationsPath
      = v.walk annotationsPath := by
    intro v
    rw [annotationsPath, walk_key, walk_key, get?_metadata_withAddresses]
  rw [haddresses, withForeign]
  have hrecord : ∀ key, Keyed.get? key
      (Keyed.insert lastAppliedKey (.string desired.text) declared)
        = if key = lastAppliedKey then some (.string desired.text) else annotated? desired key := by
    intro key
    rw [Keyed.get?_insert, hdeclared]
    simp only [eq_comm]
  split
  · next foreign hforeign =>
    obtain ⟨w, hw⟩ := exists_mapAnnotations hwalk (adopt foreign)
    obtain ⟨own, hown, hmerged⟩ := walk_mapAnnotations hw
    refine ⟨adopt foreign own, ?_, fun key => ?_⟩
    · rw [hw]
      exact hmerged
    · rw [get?_adopt, ← hown, annotated?_of_walk hwalk, hrecord, annotated?_of_foreign stored,
        hforeign]
      split
      · exact Option.some_or
      · rfl
  · next hforeign =>
    refine ⟨_, hwalk, fun key => ?_⟩
    rw [hrecord, annotated?_of_foreign stored, hforeign]
    exact congrArg _ Option.or_none.symm

theorem annotated?_prepareUpdate {kind : Kind} {desired stored object : Json}
    (h : prepareUpdate kind desired stored = .ok object) (key : String) :
    annotated? object key
      = if key = lastAppliedKey then some (.string desired.text)
        else (annotated? desired key).or (annotated? stored key) := by
  obtain ⟨annotations, hwalk, hannotations⟩ := walk_annotations_prepareUpdate h
  rw [annotated?_of_walk hwalk, hannotations]

/-! ## §4. Everything else is sent as desired -/

/-- The places of an update that may differ from the desired object. -/
def mergedRegion (kind : Kind) : Region :=
  ((Region.within "metadata" (Region.fields carriedFields)).or aroundAnnotations).or
    (addressRegion kind)

/-- **Outside of annotations and carried fields an update is the desired
    object.** -/
theorem agreeOutside_prepareUpdate {kind : Kind} {desired stored object : Json}
    (h : prepareUpdate kind desired stored = .ok object) :
    AgreeOutside (mergedRegion kind) desired object := by
  obtain ⟨recorded, hr, rfl⟩ := prepareUpdate_eq_ok h
  have haround : ∀ p, aroundAnnotations p = true → mergedRegion kind p = true := by
    intro p hp
    simp only [mergedRegion, Region.or_apply, hp, Bool.or_true, Bool.true_or]
  have hversion : ∀ p, Region.within "metadata" (Region.fields carriedFields) p = true →
      mergedRegion kind p = true := by
    intro p hp
    simp only [mergedRegion, Region.or_apply, hp, Bool.true_or]
  have haddress : ∀ p, addressRegion kind p = true → mergedRegion kind p = true := by
    intro p hp
    simp only [mergedRegion, Region.or_apply, hp, Bool.or_true]
  exact (((agreeOutside_mapAnnotations (withLastApplied_eq_ok hr)).mono haround).trans
    ((agreeOutside_withVersion stored _).mono hversion)).trans
      (((agreeOutside_withForeign stored _).mono haround).trans
        ((agreeOutside_withAddresses kind stored _).mono haddress))

/-- What an update carries besides annotations takes no part in a comparison. -/
theorem hidden_of_mergedRegion {kind : Kind} {p : Path} (h : mergedRegion kind p = true)
    (haround : aroundAnnotations p = false) : hidden kind p = true := by
  have hbookkeeping : bookkeeping kind p = true := by
    simp only [mergedRegion, Region.or_apply, haround, Bool.or_false, Bool.or_eq_true] at h
    simp only [bookkeeping, Region.or_apply, Bool.or_eq_true]
    refine h.imp (fun hcarried => Or.inr ?_) id
    exact Region.within_mono (fun q hq => Region.fields_mono (by decide) hq) hcarried
  exact hidden_of_bookkeeping hbookkeeping

/-! ## §5. Carried fields -/

theorem get?_mapAnnotations_of_ne {change : List (String × Json) → List (String × Json)}
    {v w : Json} (h : mapAnnotations? change v = some w) {k : String} (hk : "metadata" ≠ k) :
    w.get? k = v.get? k := by
  obtain ⟨fields, metadata, annotations, rfl, -, -, rfl⟩ := mapAnnotations?_eq_some h
  rw [get?_object, Keyed.get?_insert, if_neg hk]
  rfl

theorem metaField?_mapAnnotations {change : List (String × Json) → List (String × Json)}
    {v w : Json} (h : mapAnnotations? change v = some w) {k : String} (hk : "annotations" ≠ k) :
    w.metaField? k = v.metaField? k := by
  obtain ⟨fields, metadata, annotations, rfl, hmetadata, -, rfl⟩ := mapAnnotations?_eq_some h
  rw [metaField?, metaField?, get?_object, get?_object, Keyed.get?_insert, if_pos rfl]
  show Keyed.get? k (Keyed.insert "annotations" _ metadata) = _
  rw [Keyed.get?_insert, if_neg hk]
  cases hget : Keyed.get? "metadata" fields with
  | none =>
    rw [hget] at hmetadata
    cases hmetadata
    rfl
  | some m =>
    rw [hget] at hmetadata
    obtain rfl : m = .object metadata := hmetadata
    rfl

theorem get?_withForeign_of_ne {k : String} (hk : "metadata" ≠ k) (stored v : Json) :
    (withForeign stored v).get? k = v.get? k := by
  unfold withForeign
  split
  · next foreign _ =>
    cases h : mapAnnotations? (adopt foreign) v with
    | none => rfl
    | some w => exact get?_mapAnnotations_of_ne h hk
  · rfl

theorem metaField?_withForeign {k : String} (hk : "annotations" ≠ k) (stored v : Json) :
    (withForeign stored v).metaField? k = v.metaField? k := by
  unfold withForeign
  split
  · next foreign _ =>
    cases h : mapAnnotations? (adopt foreign) v with
    | none => rfl
    | some w => exact metaField?_mapAnnotations h hk
  · rfl

/-- **Fields of the platform's metadata are sent as they are stored.** -/
theorem metaField?_carried {kind : Kind} {desired stored object : Json}
    (h : prepareUpdate kind desired stored = .ok object) {k : String} {x : Json}
    (hk : k ∈ carriedFields) (hx : stored.metaField? k = some x) : object.metaField? k = some x := by
  obtain ⟨recorded, hr, rfl⟩ := prepareUpdate_eq_ok h
  obtain ⟨m, hm, hx⟩ := Option.bind_eq_some_iff.1 hx
  have hannotations : "annotations" ≠ k := by
    rintro rfl
    exact absurd hk (by decide)
  rw [metaField?_congr (get?_metadata_withAddresses kind stored _), metaField?_withForeign hannotations]
  -- The metadata is an object, since it holds the annotations.
  obtain ⟨fields, metadata, annotations, -, -, -, rfl⟩ :=
    mapAnnotations?_eq_some (withLastApplied_eq_ok hr)
  rw [metaField?, withVersion, get?_modify, if_pos rfl, get?_object, Keyed.get?_insert, if_pos rfl,
    hm]
  show (carry m carriedFields (.object _)).get? k = some x
  rw [get?_carry, if_pos hk, hx]
  rfl

/-- **The addresses of a service are sent as they are stored**, as long as there is
    a spec to put them in. -/
theorem specField?_carried {desired stored object : Json} {spec : List (String × Json)}
    (h : prepareUpdate .service desired stored = .ok object)
    (hspec : desired.get? "spec" = some (.object spec)) {k : String} {x : Json}
    (hk : k = "clusterIP" ∨ k = "clusterIPs") (hx : stored.specField? k = some x) :
    object.specField? k = some x := by
  obtain ⟨recorded, hr, rfl⟩ := prepareUpdate_eq_ok h
  obtain ⟨s, hs, hx⟩ := Option.bind_eq_some_iff.1 hx
  have hsent : (withForeign stored (withVersion stored recorded)).get? "spec"
      = some (.object spec) := by
    rw [get?_withForeign_of_ne (by decide), withVersion, get?_modify, if_neg (by decide),
      get?_mapAnnotations_of_ne (withLastApplied_eq_ok hr) (by decide), hspec]
  rw [specField?, withAddresses, if_pos rfl, get?_modify, if_pos rfl, hsent, hs]
  show (carry s ["clusterIP", "clusterIPs"] (.object spec)).get? k = some x
  rw [get?_carry, if_pos (by rcases hk with rfl | rfl <;> decide), hx]
  rfl

end LoggingOperator.Convergence
