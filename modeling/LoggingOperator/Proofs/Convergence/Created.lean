/-
  LoggingOperator.Proofs.Convergence.Created — OBJECTS THAT ARE STORED AS SENT.

  The store fills in defaults for services and workloads alone.  An object of
  any other kind that already has annotations is stored as it was sent but for
  the bookkeeping and the record, and these take no part in a comparison
  (`Wrote.agree_desired`).
-/
import LoggingOperator.Proofs.Convergence.Written

namespace LoggingOperator

namespace Json

/-- Outside one field, nothing changes when another value is put there. -/
theorem AgreeOutside.insert {r : Region} {k : String} {fields : List (String × Json)} {x y : Json}
    (hx : Keyed.get? k fields = some x) (h : AgreeOutside r x y) :
    AgreeOutside (Region.within k r) (.object fields) (.object (Keyed.insert k y fields)) := by
  apply AgreeOutside.of_fields
  intro k' p hp
  rw [Keyed.get?_insert]
  split
  · next hk =>
    subst hk
    have hp : r p = false := by simpa using hp
    rw [hx]
    exact h p hp
  · rfl

end Json

namespace Store

open Json Convergence

/-! ## §1. What the store does to an object that gets no defaults -/

theorem agreeOutside_setMeta {kind : Kind} {field : String} (h : field ∈ ownFields) {v : Json}
    (hmeta : (v.get? "metadata").isSome = true) (x : Json) :
    AgreeOutside (bookkeeping kind) v (setMeta field x v) := by
  have hnew : AgreeOutside (bookkeeping kind) v (v.setIfNew "metadata" .empty) := by
    refine (AgreeOutside.setIfNew v "metadata" .empty).mono fun p hp => ?_
    rw [Bool.and_eq_true, Option.isNone_iff_eq_none] at hp
    rw [hp.2] at hmeta
    cases hmeta
  refine hnew.trans (AgreeOutside.mono
    (AgreeOutside.modify fun m _ => AgreeOutside.set m field x) fun p hp => ?_)
  obtain ⟨q, rfl, hq⟩ := Region.exists_of_within hp
  obtain ⟨q, rfl⟩ := Region.exists_of_fields hq
  exact bookkeeping_own kind h q

/-- A kind whose objects get no defaults. -/
def Plain (kind : Kind) : Prop :=
  kind ≠ .service ∧ kind.isWorkload = false

theorem agreeOutside_applyDefaults {kind : Kind} (hkind : Plain kind) (r : Region) (v : Json) :
    AgreeOutside r v (applyDefaults kind v) := by
  have hspec : ∀ spec, specDefaults kind spec = spec := by
    intro spec
    rw [specDefaults, if_neg hkind.1, if_neg (by simp [hkind.2])]
  refine (AgreeOutside.modify (r := Region.empty) fun spec _ => ?_).mono fun p hp => ?_
  · rw [hspec spec]
    exact AgreeOutside.refl _ spec
  · obtain ⟨q, -, hq⟩ := Region.exists_of_within hp
    cases hq

/-- **A new object that gets no defaults differs in the bookkeeping alone.** -/
theorem agreeOutside_stampNew {kind : Kind} (hkind : Plain kind) {v : Json}
    (hmeta : (v.get? "metadata").isSome = true) (s : Store) :
    AgreeOutside (bookkeeping kind) v (stampNew kind v s).1 := by
  -- The metadata stays there from one stamp to the next.
  have hset : ∀ (field : String) (x : Json) {u : Json}, field ∈ ownFields →
      (u.get? "metadata").isSome = true →
      AgreeOutside (bookkeeping kind) u (setMeta field x u)
        ∧ ((setMeta field x u).get? "metadata").isSome = true := by
    intro field x u hfield hu
    have hagree : AgreeOutside (bookkeeping kind) u (setMeta field x u) :=
      agreeOutside_setMeta hfield hu x
    exact ⟨hagree, (hagree.isSome_get? (bookkeeping_metadata kind)).trans hu⟩
  unfold stampNew
  obtain ⟨hversion, hmeta⟩ := hset "resourceVersion" s.bump.1 (by decide) hmeta
  obtain ⟨huid, hmeta⟩ := hset "uid" (.string (s.stamps s.bump.2.version).uid) (by decide) hmeta
  obtain ⟨htime, hmeta⟩ := hset "creationTimestamp" (.string (s.stamps s.bump.2.version).time)
    (by decide) hmeta
  exact ((hversion.trans huid).trans htime).trans
    ((agreeOutside_giveAddress kind _ s.bump.2).trans (agreeOutside_applyDefaults hkind _ _))

end Store

namespace Convergence

open Json Store

/-! ## §2. What is sent and what is stored -/

/-- The annotations of the object are an object. -/
def Annotated (v : Json) : Prop :=
  ∃ annotations, v.at? ["metadata", "annotations"] = some (.object annotations)

/-- The parts of an annotated object. -/
theorem Annotated.parts {v : Json} (h : Annotated v) :
    ∃ fields metadata annotations, v = .object fields
      ∧ Keyed.get? "metadata" fields = some (.object metadata)
      ∧ Keyed.get? "annotations" metadata = some (.object annotations) := by
  obtain ⟨annotations, h⟩ := h
  obtain ⟨m, hm, h⟩ := Option.bind_eq_some_iff.1 h
  obtain ⟨a, ha, h⟩ := Option.bind_eq_some_iff.1 h
  cases h
  cases v with
  | object fields =>
    cases m with
    | object metadata => exact ⟨fields, metadata, annotations, rfl, hm, ha⟩
    | _ => cases ha
  | _ => cases hm

/-- An annotated object can be sent with the record of itself. -/
theorem Annotated.recordable {v : Json} (h : Annotated v) :
    ∃ object, withLastApplied v = .ok object := by
  obtain ⟨fields, metadata, annotations, rfl, hm, ha⟩ := h.parts
  refine ⟨.object (Keyed.insert "metadata" (.object (Keyed.insert "annotations"
    (.object (Keyed.insert lastAppliedKey (.string (text (.object fields))) annotations))
    metadata)) fields), ?_⟩
  simp only [withLastApplied, mapAnnotations?, hm, ha, Option.getD_some]

/-- Only the record is put into annotations that are there. -/
theorem agreeOutside_withLastApplied {v object : Json} (hv : Annotated v)
    (h : withLastApplied v = .ok object) : AgreeOutside recordRegion v object := by
  obtain ⟨fields, metadata, annotations, rfl, hm, ha⟩ := hv.parts
  simp only [withLastApplied, mapAnnotations?, hm, ha, Option.getD_some] at h
  cases h
  exact .insert hm (.insert ha (.set (.object annotations) lastAppliedKey _))

/-- **An object without defaults is stored as desired**, as far as it is compared. -/
theorem Wrote.agree_desired {kind : Kind} (hkind : Plain kind) {desired after : Json}
    (hd : Annotated desired) (h : Wrote kind desired none after) :
    AgreeOutside (hidden kind) desired after := by
  cases h with
  | @created object s h =>
    have hrecord := agreeOutside_withLastApplied hd h
    have hmeta : (object.get? "metadata").isSome = true := by
      rw [hrecord.isSome_get? rfl]
      obtain ⟨fields, metadata, annotations, rfl, hm, -⟩ := hd.parts
      rw [get?_object, hm]
      rfl
    exact (hrecord.mono fun _ => hidden_of_recordRegion).trans
      ((agreeOutside_stampNew hkind hmeta s).mono fun _ => hidden_of_bookkeeping)

end Convergence

end LoggingOperator
