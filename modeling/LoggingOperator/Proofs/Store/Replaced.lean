/-
  LoggingOperator.Proofs.Store.Replaced — WHAT AN UPDATE TAKES FROM THE STORED OBJECT.

  An update replaces an object, but not all of it.  The store keeps the uid and
  the time of creation of the object that is there, and its status, whatever was
  sent; everything else is as it was sent, but for the version and for defaults.

  The fields are looked up one by one, in the metadata (`metaField?`) and in
  the spec (`specField?`).
-/
import LoggingOperator.Proofs.Store.Versions

namespace LoggingOperator

namespace Json

/-! ## §1. Fields of the metadata and of the spec -/

/-- A field of the metadata. -/
def metaField? (v : Json) (k : String) : Option Json :=
  (v.get? "metadata").bind (get? k)

/-- A field of the spec. -/
def specField? (v : Json) (k : String) : Option Json :=
  (v.get? "spec").bind (get? k)

theorem metaField?_congr {v w : Json} (h : w.get? "metadata" = v.get? "metadata") (k : String) :
    w.metaField? k = v.metaField? k := by
  rw [metaField?, metaField?, h]

theorem get?_setIfNew_of_ne {k key : String} (hk : key ≠ k) (v x : Json) :
    (v.setIfNew key x).get? k = v.get? k := by
  cases v with
  | object fields =>
    show Keyed.get? k (Keyed.insertIfNew key x fields) = Keyed.get? k fields
    unfold Keyed.insertIfNew
    split
    · rfl
    · rw [Keyed.get?_insert, if_neg hk]
  | _ => rfl

end Json

namespace Store

open Json

/-! ## §2. Steps of an update -/

theorem metaField?_setMeta {object : Json} (h : object.HasMetadata) (field : String) (value : Json)
    (k : String) :
    (setMeta field value object).metaField? k
      = if field = k then some value else object.metaField? k := by
  obtain ⟨fields, h⟩ := h
  rw [metaField?, metaField?, get?_setMeta h, h]
  exact Keyed.get?_insert k field value fields

theorem get?_setMeta_of_ne {k : String} (hk : "metadata" ≠ k) (field : String) (value v : Json) :
    (setMeta field value v).get? k = v.get? k := by
  rw [setMeta, get?_modify, if_neg hk, get?_setIfNew_of_ne hk]

theorem metaField?_keepField {object : Json} (h : object.HasMetadata) (current : Json)
    (field k : String) :
    (keepField current field object).metaField? k
      = if field = k then (current.metaField? k).or (object.metaField? k)
        else object.metaField? k := by
  unfold keepField
  split
  · next value hvalue =>
    rw [metaField?_setMeta h]
    split
    · next hfield =>
      subst hfield
      rw [show current.metaField? field = some value from hvalue, Option.some_or]
    · rfl
  · next hnone =>
    split
    · next hfield =>
      subst hfield
      rw [show current.metaField? field = none from hnone, Option.none_or]
    · rfl

theorem get?_keepField_of_ne {k : String} (hk : "metadata" ≠ k) (current : Json) (field : String)
    (v : Json) : (keepField current field v).get? k = v.get? k := by
  unfold keepField
  split
  · exact get?_setMeta_of_ne hk field _ v
  · rfl

theorem get?_keepStatus_of_ne {k : String} (hk : "status" ≠ k) (current v : Json) :
    (keepStatus current v).get? k = v.get? k := by
  unfold keepStatus
  split
  · cases v with
    | object fields => rw [get?_set, if_neg hk]
    | _ => rfl
  · rw [get?_remove, if_neg hk]

/-- The status that is kept is the stored one, or none. -/
theorem get?_status_keepStatus {object : Json} (h : object.HasMetadata) (current : Json) :
    (keepStatus current object).get? "status" = current.get? "status" := by
  obtain ⟨fields, h⟩ := h
  unfold keepStatus
  split
  · next status hstatus =>
    cases object with
    | object fs => rw [get?_set, if_pos rfl, hstatus]
    | _ => cases h
  · next hnone => rw [get?_remove, if_pos rfl, hnone]

/-- Addresses of a service have no default. -/
theorem get?_specDefaults {k : String} (hk : k = "clusterIP" ∨ k = "clusterIPs") (spec : Json) :
    (specDefaults .service spec).get? k = spec.get? k := by
  rw [specDefaults, if_pos rfl]
  rcases hk with rfl | rfl
  · rw [get?_modify, if_neg (by decide), get?_setIfNew_of_ne (by decide),
      get?_setIfNew_of_ne (by decide)]
  · rw [get?_modify, if_neg (by decide), get?_setIfNew_of_ne (by decide),
      get?_setIfNew_of_ne (by decide)]

/-! ## §3. The updated object -/

section

variable {kind : Kind} {current object : Json} {version : String}

theorem hasMetadata_keepIdentity (h : object.HasMetadata) (current : Json) :
    (keepIdentity current object).HasMetadata :=
  hasMetadata_keepField (hasMetadata_keepField h current _) current _

/-- The object as it is before the version is set. -/
theorem hasMetadata_unversioned (h : object.HasMetadata) (kind : Kind) (current : Json) :
    (applyDefaults kind (keepStatus current (keepIdentity current object))).HasMetadata := by
  obtain ⟨fields, hfields⟩ := hasMetadata_keepStatus (hasMetadata_keepIdentity h current) current
  exact ⟨fields, (get?_metadata_applyDefaults kind _).trans hfields⟩

theorem hasMetadata_replaced (h : object.HasMetadata) (kind : Kind) (current version : Json) :
    (replaced kind current object version).HasMetadata :=
  hasMetadata_setMeta (hasMetadata_unversioned h kind current) _ _

/-- **The metadata of an updated object**: uid and time of creation are the stored
    ones where there are any, the version is the given one, and all else is as it
    was sent. -/
theorem metaField?_replaced (h : object.HasMetadata) {k : String} (hk : k ≠ "resourceVersion") :
    (replaced kind current object (.string version)).metaField? k
      = if k = "uid" ∨ k = "creationTimestamp"
        then (current.metaField? k).or (object.metaField? k) else object.metaField? k := by
  have hidentity : (keepIdentity current object).metaField? k
      = if k = "uid" ∨ k = "creationTimestamp"
        then (current.metaField? k).or (object.metaField? k) else object.metaField? k := by
    rw [keepIdentity_eq, metaField?_keepField (hasMetadata_keepField h current _),
      metaField?_keepField h]
    by_cases huid : k = "uid"
    · subst huid
      simp
    · by_cases htime : k = "creationTimestamp"
      · subst htime
        simp
      · simp [huid, htime, Ne.symm huid, Ne.symm htime]
  rw [replaced, metaField?_setMeta (hasMetadata_unversioned h kind current), if_neg (Ne.symm hk),
    ← hidentity]
  refine metaField?_congr ?_ k
  rw [get?_metadata_applyDefaults, get?_keepStatus_of_ne (by decide)]

/-- **The status of an updated object is the stored one**, or there is none. -/
theorem get?_status_replaced (h : object.HasMetadata) :
    (replaced kind current object (.string version)).get? "status" = current.get? "status" := by
  rw [replaced, get?_setMeta_of_ne (by decide), applyDefaults, get?_modify, if_neg (by decide),
    get?_status_keepStatus (hasMetadata_keepIdentity h current)]

/-- The addresses of an updated service are those that were sent. -/
theorem specField?_replaced {k : String} (hk : k = "clusterIP" ∨ k = "clusterIPs") :
    (replaced .service current object (.string version)).specField? k = object.specField? k := by
  have hspec : (keepStatus current (keepIdentity current object)).get? "spec"
      = object.get? "spec" := by
    rw [get?_keepStatus_of_ne (by decide), keepIdentity_eq, get?_keepField_of_ne (by decide),
      get?_keepField_of_ne (by decide)]
  rw [specField?, specField?, replaced, get?_setMeta_of_ne (by decide), applyDefaults,
    get?_modify, if_pos rfl, hspec, Option.bind_map]
  congr 1
  funext spec
  exact get?_specDefaults hk spec

end

end Store

end LoggingOperator
