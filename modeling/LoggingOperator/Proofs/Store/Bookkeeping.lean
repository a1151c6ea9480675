/-
  LoggingOperator.Proofs.Store.Bookkeeping — WHAT THE STORE DOES TO AN OBJECT.

  A written object is not stored as it was sent: it is stamped with a
  version, a uid and a time, gets addresses and defaults, and keeps its old
  status.  The store overwrites only what is its own (`bookkeeping`), and
  everything else that was sent is stored (`Kept`).  All other things that
  the store does are additions where nothing was.

  What the store adds depends on nothing that is its own: two objects that
  differ in the bookkeeping alone are stored with no other difference
  (`stampNew_congr`), whatever versions and times the store gives out.
-/
import LoggingOperator.Proofs.Convergence.Decision
import LoggingOperator.Store.Basic

namespace LoggingOperator.Store

open Json Convergence

/-! ## §1. The fields of the store -/

/-- Metadata fields that the store sets itself. -/
def ownFields : List String :=
  ["resourceVersion", "uid", "creationTimestamp", "managedFields"]

/-- Addresses of a service. -/
def addressRegion (kind : Kind) : Region :=
  if kind = .service then Region.within "spec" (Region.fields ["clusterIP", "clusterIPs"])
  else Region.empty

@[simp] theorem addressRegion_metadata (kind : Kind) (p : Path) :
    addressRegion kind (.key "metadata" :: p) = false := by
  cases kind <;> rfl

/-- The places that the store writes itself. -/
def bookkeeping (kind : Kind) : Region :=
  ((Region.fields ["status"]).or (Region.within "metadata" (Region.fields ownFields))).or
    (addressRegion kind)

@[simp] theorem bookkeeping_nil (kind : Kind) : bookkeeping kind [] = false := by
  cases kind <;> rfl

theorem bookkeeping_own (kind : Kind) {field : String} (h : field ∈ ownFields) (p : Path) :
    bookkeeping kind (.key "metadata" :: .key field :: p) = true := by
  simp [bookkeeping, h]

theorem bookkeeping_status (kind : Kind) (p : Path) :
    bookkeeping kind (.key "status" :: p) = true := by
  simp [bookkeeping]

theorem bookkeeping_metadata (kind : Kind) : bookkeeping kind [.key "metadata"] = false := by
  cases kind <;> rfl

theorem bookkeeping_spec (kind : Kind) : bookkeeping kind [.key "spec"] = false := by
  cases kind <;> rfl

/-- What the store writes takes no part in a comparison. -/
theorem hidden_of_bookkeeping {kind : Kind} {p : Path} (h : bookkeeping kind p = true) :
    hidden kind p = true := by
  simp only [bookkeeping, Region.or_apply, Bool.or_eq_true] at h
  simp only [Convergence.hidden, Region.or_apply, Bool.or_eq_true]
  -- The status is in the envelope, the own fields are in the metadata, addresses are assigned.
  rcases h with (hstatus | hmeta) | haddress
  · left; left
    rw [envelopeRegion, Region.or_apply, Region.fields_mono (by decide) hstatus, Bool.true_or]
  · left; right
    refine Region.within_mono (fun q hq => ?_) hmeta
    rw [Region.or_apply, Region.fields_mono (by decide) hq, Bool.true_or]
  · right
    unfold addressRegion at haddress
    split at haddress
    · next hkind =>
      rw [hkind]
      exact Region.within_mono (fun q hq => Region.fields_mono (by decide) hq) haddress
    · cases haddress

/-- The store does not write the record of the last write. -/
theorem bookkeeping_record (kind : Kind) : bookkeeping kind recordPath = false := by
  cases kind <;> decide

/-! ## §2. What was sent is kept -/

theorem kept_setMeta {kind : Kind} {field : String} (h : field ∈ ownFields) (x v : Json) :
    Kept (bookkeeping kind) v (setMeta field x v) := by
  refine (Kept.setIfNew v "metadata" .empty).trans (Kept.modify (fun m => ?_) _)
  exact Kept.set m field x fun p => bookkeeping_own kind h p

theorem kept_specDefaults {kind : Kind} (r : Region) (v : Json) :
    Kept r v (specDefaults kind v) := by
  unfold specDefaults
  split
  · have htype : Kept r v (v.setIfNew "type" (.string "ClusterIP")) := Kept.setIfNew v _ _
    refine (htype.trans (Kept.setIfNew _ "sessionAffinity" (.string "None"))).trans ?_
    exact Kept.modify (fun ports => Kept.mapItems (fun port => Kept.setIfNew port _ _) ports) _
  · split
    · exact Kept.setIfNew v _ _
    · exact Kept.refl r v

/-- Defaults go where nothing was. -/
theorem kept_applyDefaults {kind : Kind} (r : Region) (v : Json) :
    Kept r v (applyDefaults kind v) :=
  Kept.modify (fun spec => kept_specDefaults _ spec) v

/-- A change inside the addresses of a service. -/
theorem agreeOutside_giveAddress (kind : Kind) (v : Json) (s : Store) :
    AgreeOutside (bookkeeping kind) v (giveAddress kind v s).1 := by
  unfold giveAddress
  split
  · next h =>
    have haddress : ∀ p, Region.within "spec" (Region.fields ["clusterIP", "clusterIPs"]) p = true →
        bookkeeping kind p = true := by
      intro p hp
      simp only [bookkeeping, addressRegion, if_pos h.1, Region.or_apply, hp, Bool.or_true]
    refine AgreeOutside.mono (AgreeOutside.modify fun spec _ => ?_) haddress
    refine ((AgreeOutside.set spec "clusterIP" _).mono ?_).trans
      ((AgreeOutside.set _ "clusterIPs" _).mono ?_)
    · exact fun p hp => Region.fields_mono (by decide) hp
    · exact fun p hp => Region.fields_mono (by decide) hp
  · exact AgreeOutside.refl _ v

theorem kept_giveAddress (kind : Kind) (v : Json) (s : Store) :
    Kept (bookkeeping kind) v (giveAddress kind v s).1 :=
  Kept.of_agreeOutside (agreeOutside_giveAddress kind v s) fun _ hp => Or.inl hp

/-- **A new object is stored with everything that was sent**, but for the fields
    of the store. -/
theorem kept_stampNew (kind : Kind) (v : Json) (s : Store) :
    Kept (bookkeeping kind) v (stampNew kind v s).1 := by
  unfold stampNew
  exact ((((kept_setMeta (by decide) _ v).trans (kept_setMeta (by decide) _ _)).trans
    (kept_setMeta (by decide) _ _)).trans (kept_giveAddress kind _ _)).trans
    (kept_applyDefaults _ _)

/-- The object with a field of the metadata that is stored, if it is there. -/
def keepField (current : Json) (field : String) (object : Json) : Json :=
  match (current.get? "metadata").bind (Json.get? field) with
  | some value => setMeta field value object
  | none => object

theorem keepIdentity_eq (current object : Json) :
    keepIdentity current object
      = keepField current "creationTimestamp" (keepField current "uid" object) := rfl

theorem kept_keepField {kind : Kind} {field : String} (h : field ∈ ownFields)
    (current v : Json) : Kept (bookkeeping kind) v (keepField current field v) := by
  unfold keepField
  split
  · exact kept_setMeta h _ v
  · exact Kept.refl _ v

theorem kept_keepIdentity {kind : Kind} (current v : Json) :
    Kept (bookkeeping kind) v (keepIdentity current v) := by
  rw [keepIdentity_eq]
  exact (kept_keepField (by decide) current v).trans (kept_keepField (by decide) current _)

theorem kept_keepStatus {kind : Kind} (current v : Json) :
    Kept (bookkeeping kind) v (keepStatus current v) := by
  unfold keepStatus
  split
  · exact Kept.set v "status" _ (bookkeeping_status kind)
  · exact Kept.remove v "status" (bookkeeping_status kind)

/-- An updated object as the store leaves it. -/
def replaced (kind : Kind) (current object version : Json) : Json :=
  setMeta "resourceVersion" version
    (applyDefaults kind (keepStatus current (keepIdentity current object)))

/-- **An updated object is stored with everything that was sent**, but for the
    fields of the store. -/
theorem kept_replaced (kind : Kind) (current object version : Json) :
    Kept (bookkeeping kind) object (replaced kind current object version) :=
  (((kept_keepIdentity current object).trans (kept_keepStatus current _)).trans
    (kept_applyDefaults _ _)).trans (kept_setMeta (by decide) _ _)

/-! ## §3. What is added does not depend on the store -/

theorem setMeta_congr {kind : Kind} {field : String} (h : field ∈ ownFields) {v w : Json}
    (hvw : AgreeOutside (bookkeeping kind) v w) (x y : Json) :
    AgreeOutside (bookkeeping kind) (setMeta field x v) (setMeta field y w) := by
  have hset : ∀ (u : Json) (z : Json), AgreeOutside (bookkeeping kind)
      (u.setIfNew "metadata" .empty) (setMeta field z u) := by
    intro u z
    refine AgreeOutside.mono (AgreeOutside.modify fun m _ => AgreeOutside.set m field z) ?_
    intro p hp
    obtain ⟨q, rfl, hq⟩ := Region.exists_of_within hp
    obtain ⟨q, rfl⟩ := Region.exists_of_fields hq
    exact bookkeeping_own kind h q
  -- Whether metadata has to be put there is the same for both.
  have hnew := hvw.congr_setIfNew (bookkeeping_nil kind) (bookkeeping_metadata kind) .empty
  exact ((hset v x).symm.trans hnew).trans (hset w y)

/-- Nothing inside a port belongs to the store. -/
theorem portDefaults_congr {v w : Json} (h : AgreeOutside Region.empty v w) :
    AgreeOutside Region.empty (portDefaults v) (portDefaults w) :=
  h.congr_setIfNew rfl rfl _

theorem specDefaults_congr {kind : Kind} {v w : Json}
    (h : AgreeOutside ((bookkeeping kind).below "spec") v w) :
    AgreeOutside ((bookkeeping kind).below "spec") (specDefaults kind v)
      (specDefaults kind w) := by
  have hroot : (bookkeeping kind).below "spec" [] = false := bookkeeping_spec kind
  unfold specDefaults
  split
  · next hkind =>
    subst hkind
    have htype := h.congr_setIfNew (k := "type") hroot (by decide) (.string "ClusterIP")
    have haffinity := htype.congr_setIfNew (k := "sessionAffinity") hroot (by decide)
      (.string "None")
    refine haffinity.congr_modify (by decide) ?_
    -- Below the ports nothing is the store's, so its items agree throughout.
    have hports : (((bookkeeping .service).below "spec").below "ports") = Region.empty := by
      funext p
      simp [Region.below, bookkeeping, addressRegion]
    rw [hports]
    intro x y hxy
    exact hxy.congr_mapItems fun _ _ => portDefaults_congr
  · split
    · next hkind =>
      refine h.congr_setIfNew hroot ?_ _
      cases kind <;> decide
    · exact h

theorem applyDefaults_congr {kind : Kind} {v w : Json}
    (h : AgreeOutside (bookkeeping kind) v w) :
    AgreeOutside (bookkeeping kind) (applyDefaults kind v) (applyDefaults kind w) :=
  h.congr_modify (bookkeeping_spec kind) fun _ _ => specDefaults_congr

/-- **Objects that differ in the bookkeeping alone are stored with no other
    difference**, whatever the stores give out. -/
theorem stampNew_congr {kind : Kind} {v w : Json} (h : AgreeOutside (bookkeeping kind) v w)
    (s t : Store) :
    AgreeOutside (bookkeeping kind) (stampNew kind v s).1 (stampNew kind w t).1 := by
  unfold stampNew
  refine applyDefaults_congr ?_
  -- The addresses may differ, but they are bookkeeping themselves.
  refine ((agreeOutside_giveAddress kind _ _).symm.trans ?_).trans
    (agreeOutside_giveAddress kind _ _)
  exact setMeta_congr (by decide) (setMeta_congr (by decide) (setMeta_congr (by decide) h _ _) _ _)
    _ _

/-- An update leaves the same object but for the version it gives out. -/
theorem replaced_congr (kind : Kind) (current object version version' : Json) :
    AgreeOutside (bookkeeping kind) (replaced kind current object version)
      (replaced kind current object version') :=
  setMeta_congr (by decide) (AgreeOutside.refl _ _) _ _

/-! ## §4. Stored objects are canonical -/

theorem canonical_setMeta {field : String} {x v : Json} (hx : x.Canonical) (hv : v.Canonical) :
    (setMeta field x v).Canonical :=
  (hv.setIfNew canonical_empty).modify fun _ hm => hm.set hx

theorem canonical_applyDefaults {kind : Kind} {v : Json} (hv : v.Canonical) :
    (applyDefaults kind v).Canonical := by
  refine hv.modify fun spec hspec => ?_
  unfold specDefaults
  split
  · exact ((hspec.setIfNew (canonical_string _)).setIfNew (canonical_string _)).modify
      fun _ hports => hports.mapItems fun _ hport => hport.setIfNew (canonical_string _)
  · split
    · exact hspec.setIfNew trivial
    · exact hspec

theorem canonical_giveAddress {kind : Kind} {v : Json} (hv : v.Canonical) (s : Store) :
    (giveAddress kind v s).1.Canonical := by
  unfold giveAddress
  split
  · refine hv.modify fun spec hspec => (hspec.set (canonical_string _)).set ?_
    exact canonical_array.2 fun x hx => by
      rw [List.mem_singleton.1 hx]
      trivial
  · exact hv

theorem canonical_stampNew {kind : Kind} {v : Json} (hv : v.Canonical) (s : Store) :
    (stampNew kind v s).1.Canonical := by
  unfold stampNew
  refine canonical_applyDefaults (canonical_giveAddress ?_ _)
  exact canonical_setMeta trivial (canonical_setMeta trivial (canonical_setMeta trivial hv))

theorem canonical_keepField {current v : Json} {field : String} (hc : current.Canonical)
    (hv : v.Canonical) : (keepField current field v).Canonical := by
  unfold keepField
  split
  · next value hvalue =>
    obtain ⟨m, hm, hvalue⟩ := Option.bind_eq_some_iff.1 hvalue
    exact canonical_setMeta ((hc.get? hm).get? hvalue) hv
  · exact hv

theorem canonical_replaced {kind : Kind} {current object : Json} {version : String}
    (hc : current.Canonical) (ho : object.Canonical) :
    (replaced kind current object (.string version)).Canonical := by
  have hidentity : (keepIdentity current object).Canonical :=
    canonical_keepField hc (canonical_keepField hc ho)
  have hstatus : (keepStatus current (keepIdentity current object)).Canonical := by
    unfold keepStatus
    split
    · next status h => exact hidentity.set (hc.get? h)
    · exact hidentity.remove
  exact canonical_setMeta trivial (canonical_applyDefaults hstatus)

end LoggingOperator.Store
