/-
  LoggingOperator.Proofs.Convergence.Comparable — WHAT A COMPARISON SEES.

  `comparable` leaves out fields at fixed places and respells quantities.
  Place by place that is: nothing at a hidden place, and everywhere else the
  stored head, respelled where a quantity is expected
  (`head?_comparable`).  Which places are hidden depends on the kind alone
  (`hidden`), and where quantities are expected on nothing at all
  (`quantityAt`).  So two values with the same heads at all visible places
  compare equal (`comparable_eq`).
-/
import LoggingOperator.Convergence.Comparable
import LoggingOperator.Proofs.Convergence.Containment

namespace LoggingOperator

open Json

/-! ## §1. Quantities -/

namespace Quantity

/-- Is the place an entry of a map? -/
def entryAt : Path → Bool
  | [.key _] => true
  | _ => false

/-- Is the place an entry of one of the two maps of a `resources` value? -/
def bucketAt : Path → Bool
  | .key bucket :: p => (decide (bucket = "limits") || decide (bucket = "requests")) && entryAt p
  | _ => false

/-- Is the place an entry of a resource map, however deep it lies? -/
def quantityAt : Path → Bool
  | [] => false
  | .key k :: p => (decide (k = "resources") && bucketAt p) || quantityAt p
  | .item _ :: p => quantityAt p

/-- The canonical spelling of a text. -/
def canonicalText (s : String) : String :=
  match parseNanos? s with
  | some n => formatNanos n
  | none => s

/-- The head of an entry of a resource map in canonical form. -/
def canonicalHead : Head → Head
  | .string s => .string (canonicalText s)
  | h => h

/-- A head, in canonical form if it stands where a quantity is expected. -/
def respellIf (quantity : Bool) (h : Head) : Head :=
  if quantity then canonicalHead h else h

@[simp] theorem respellIf_false : respellIf false = id := rfl

@[simp] theorem respellIf_true : respellIf true = canonicalHead := rfl

/-- Texts of one value have one canonical spelling. -/
theorem canonicalText_congr {s t : String} {n : Int} (hs : parseNanos? s = some n)
    (ht : parseNanos? t = some n) : canonicalText s = canonicalText t := by
  rw [canonicalText, canonicalText, hs, ht]

theorem canonicalEntry_string (s : String) :
    canonicalEntry (.string s) = .string (canonicalText s) := by
  unfold canonicalEntry canonicalText
  cases h : parseNanos? s <;> simp [h]

@[simp] theorem head_canonicalEntry (v : Json) :
    (canonicalEntry v).head = canonicalHead v.head := by
  cases v with
  | string s => rw [canonicalEntry_string]; rfl
  | _ => rfl

/-- Inside an entry nothing changes. -/
theorem child?_canonicalEntry (v : Json) (step : PathStep) :
    (canonicalEntry v).child? step = v.child? step := by
  cases v with
  | string s => rw [canonicalEntry_string]; cases step <;> rfl
  | _ => rfl

theorem get?_canonicalEntries (k : String) (v : Json) :
    (canonicalEntries v).get? k = (v.get? k).map canonicalEntry := by
  cases v with
  | object fields =>
    rw [canonicalEntries, get?_object, get?_object]
    exact Keyed.get?_mapValues _ k _
  | _ => rfl

theorem head_canonicalEntries (v : Json) : (canonicalEntries v).head = v.head := by
  cases v <;> rfl

/-- An entry of a map in canonical form. -/
theorem head?_canonicalEntries (v : Json) (p : Path) :
    (canonicalEntries v).head? p = (v.head? p).map (respellIf (entryAt p)) := by
  match p with
  | [] => simp [head_canonicalEntries, entryAt]
  | .item i :: p => cases v <;> simp [canonicalEntries, entryAt]; rfl
  | [.key k] =>
    rw [head?_key, head?_key, get?_canonicalEntries]
    cases v.get? k <;> simp [entryAt]
  | .key k :: step :: p =>
    rw [head?_key, head?_key, get?_canonicalEntries]
    cases v.get? k with
    | none => rfl
    | some x =>
      show (canonicalEntry x).head? (step :: p) = _
      rw [head?_cons, child?_canonicalEntry, ← head?_cons]
      simp [entryAt]

/-- The two maps of a `resources` value in canonical form. -/
theorem head?_canonicalBuckets (v : Json) (p : Path) :
    (canonicalBuckets v).head? p = (v.head? p).map (respellIf (bucketAt p)) := by
  match p with
  | [] => cases v <;> rfl
  | .item i :: p =>
    cases v with
    | array items => exact Option.map_id.symm ▸ rfl
    | _ => rfl
  | .key k :: p =>
    -- At most one of the two changes is made under a key.
    have hkey : (canonicalBuckets v).get? k
        = (v.get? k).map fun x =>
          if k = "limits" ∨ k = "requests" then canonicalEntries x else x := by
      rw [canonicalBuckets, get?_modify, get?_modify]
      by_cases hl : k = "limits"
      · subst hl
        simp
      · by_cases hr : k = "requests"
        · subst hr
          simp
        · simp [hl, hr, Ne.symm hl, Ne.symm hr]
    rw [head?_key, head?_key, hkey]
    cases v.get? k with
    | none => rfl
    | some x =>
      show (if k = "limits" ∨ k = "requests" then canonicalEntries x else x).head? p = _
      by_cases hb : k = "limits" ∨ k = "requests"
      · rw [if_pos hb, head?_canonicalEntries, bucketAt, ← Bool.decide_or, decide_eq_true hb,
          Bool.true_and]
        rfl
      · rw [if_neg hb]
        simp only [not_or] at hb
        simp [bucketAt, hb.1, hb.2]

theorem get?_canonicalizeFields (k : String) (fields : List (String × Json)) :
    Keyed.get? k (canonicalizeFields fields) = (Keyed.get? k fields).map fun v =>
      if k = "resources" then canonicalBuckets (canonicalize v) else canonicalize v := by
  induction fields with
  | nil => rfl
  | cons f fs ih =>
    obtain ⟨a, b⟩ := f
    rw [canonicalizeFields, Keyed.get?_cons, Keyed.get?_cons, ih]
    split
    · next h => rw [h]; rfl
    · rfl

theorem canonicalizeItems_eq_map (items : List Json) :
    canonicalizeItems items = items.map canonicalize := by
  induction items with
  | nil => rfl
  | cons x xs ih => rw [canonicalizeItems, ih, List.map_cons]

/-- No place is both an entry of a map here and of one further in. -/
theorem quantityAt_of_bucketAt {p : Path} (h : bucketAt p = true) : quantityAt p = false := by
  match p with
  | [] => rfl
  | .item i :: p => cases h
  | .key bucket :: p =>
    have hp : entryAt p = true := (Bool.and_eq_true _ _ ▸ h : _ ∧ _).2
    match p with
    | [.key k] => simp [quantityAt, bucketAt, entryAt]
    | [] | .item _ :: _ | .key _ :: _ :: _ => cases hp

/-- **Canonical form place by place**: only strings in resource maps are
    respelled. -/
theorem head?_canonicalize (v : Json) (p : Path) :
    (canonicalize v).head? p = (v.head? p).map (respellIf (quantityAt p)) := by
  induction p generalizing v with
  | nil =>
    cases v with
    | array items => simp [canonicalize, canonicalizeItems_eq_map, quantityAt, head]
    | _ => rfl
  | cons step p ih =>
    cases v with
    | array items =>
      cases step with
      | key k => rfl
      | item i =>
        rw [canonicalize, canonicalizeItems_eq_map, head?_item, head?_item, List.getElem?_map]
        cases items[i]? with
        | none => rfl
        | some x => exact ih x
    | object fields =>
      cases step with
      | item i => rfl
      | key k =>
        rw [canonicalize, head?_key, head?_key, get?_object, get?_object, get?_canonicalizeFields]
        cases Keyed.get? k fields with
        | none => rfl
        | some x =>
          show (if k = "resources" then canonicalBuckets (canonicalize x)
            else canonicalize x).head? p = _
          -- A bucket of a `resources` field is no deeper quantity, so no entry is respelled twice.
          by_cases hk : k = "resources"
          · rw [if_pos hk, head?_canonicalBuckets, ih, Option.map_map]
            cases hb : bucketAt p with
            | true =>
              rw [quantityAt_of_bucketAt hb]
              simp [quantityAt, hk, hb]
            | false => simp [quantityAt, hb]
          · rw [if_neg hk, ih]
            simp [quantityAt, hk]
    | _ => cases step <;> rfl

theorem canonical_canonicalEntry {v : Json} (h : v.Canonical) : (canonicalEntry v).Canonical := by
  cases v with
  | string s => rw [canonicalEntry_string]; trivial
  | _ => exact h

theorem canonical_canonicalEntries {v : Json} (h : v.Canonical) :
    (canonicalEntries v).Canonical := by
  cases v with
  | object fields =>
    obtain ⟨hs, hv⟩ := canonical_object.1 h
    refine canonical_object.2 ⟨hs.map_values fun _ => rfl, ?_⟩
    intro f hf
    obtain ⟨e, he, rfl⟩ := List.mem_map.1 hf
    exact canonical_canonicalEntry (hv e he)
  | _ => exact h

theorem canonical_canonicalBuckets {v : Json} (h : v.Canonical) :
    (canonicalBuckets v).Canonical :=
  (h.modify fun _ => canonical_canonicalEntries).modify fun _ => canonical_canonicalEntries

theorem canonicalizeFields_eq_map (fields : List (String × Json)) :
    canonicalizeFields fields = fields.map fun f =>
      (f.1, if f.1 = "resources" then canonicalBuckets (canonicalize f.2) else canonicalize f.2) := by
  induction fields with
  | nil => rfl
  | cons f fs ih =>
    obtain ⟨k, v⟩ := f
    rw [canonicalizeFields, ih, List.map_cons]

theorem canonical_canonicalize {v : Json} (h : v.Canonical) : (canonicalize v).Canonical := by
  induction v using cases_on_parts with
  | array items ih =>
    rw [canonicalize, canonicalizeItems_eq_map]
    refine canonical_array.2 ?_
    intro y hy
    obtain ⟨x, hx, rfl⟩ := List.mem_map.1 hy
    exact ih x hx (canonical_array.1 h x hx)
  | object fields ih =>
    obtain ⟨hs, hv⟩ := canonical_object.1 h
    rw [canonicalize, canonicalizeFields_eq_map]
    refine canonical_object.2 ⟨hs.map_values fun _ => rfl, ?_⟩
    intro f hf
    obtain ⟨e, he, rfl⟩ := List.mem_map.1 hf
    have hc := ih e he (hv e he)
    show (if e.1 = "resources" then canonicalBuckets (canonicalize e.2)
      else canonicalize e.2).Canonical
    split
    · exact canonical_canonicalBuckets hc
    · exact hc
  | _ => exact h

end Quantity

namespace Convergence

open Quantity (canonicalize quantityAt respellIf)

/-! ## §2. Hidden places -/

/-- The envelope; for a workload also its metadata. -/
def envelopeRegion (kind : Kind) : Region :=
  (Region.fields envelopeFields).or
    (if kind.isWorkload then Region.fields ["metadata"] else Region.empty)

/-- What the platform owns in the metadata, and the record of the last write. -/
def metadataRegion : Region :=
  Region.within "metadata"
    ((Region.fields platformFields).or
      (Region.within "annotations" (Region.fields [lastAppliedKey])))

/-- What the server adds to a volume claim template. -/
def claimRegion : Region :=
  ((Region.fields envelopeFields).or
    (Region.within "metadata" (Region.fields ["creationTimestamp"]))).or
    (Region.within "spec" (Region.fields ["volumeName", "volumeMode"]))

/-- What the server fills in for a kind. -/
def assignedRegion (kind : Kind) : Region :=
  match kind with
  | .statefulSet =>
    Region.within "spec" (Region.within "volumeClaimTemplates" (Region.withinItems claimRegion))
  | .service => Region.within "spec" (Region.fields ["clusterIP", "clusterIPs", "ipFamilies"])
  | _ => Region.empty

/-- The places that take no part in a comparison. -/
def hidden (kind : Kind) : Region :=
  ((envelopeRegion kind).or metadataRegion).or (assignedRegion kind)

theorem strips_stripEnvelope (kind : Kind) :
    Strips (stripEnvelope kind) (envelopeRegion kind) := by
  unfold envelopeRegion
  split
  · next h =>
    refine ((Strips.removeAll envelopeFields).comp (Strips.remove "metadata")).congr ?_
    intro v
    rw [stripEnvelope, if_pos h]
  · next h =>
    refine ((Strips.removeAll envelopeFields).comp Strips.id).congr ?_
    intro v
    rw [stripEnvelope, if_neg h]
    rfl

theorem strips_stripMetadata : Strips stripMetadata metadataRegion :=
  Strips.modify "metadata" <|
    (Strips.removeAll platformFields).comp <|
      Strips.modify "annotations" (Strips.remove lastAppliedKey)

theorem strips_stripClaim : Strips stripClaim claimRegion :=
  ((Strips.removeAll envelopeFields).comp
    (Strips.modify "metadata" (Strips.remove "creationTimestamp"))).comp
    (Strips.modify "spec" (Strips.removeAll ["volumeName", "volumeMode"]))

theorem strips_stripAssigned (kind : Kind) :
    Strips (stripAssigned kind) (assignedRegion kind) := by
  cases kind with
  | statefulSet =>
    exact Strips.modify "spec" (Strips.modify "volumeClaimTemplates" strips_stripClaim.mapItems)
  | service =>
    exact Strips.modify "spec" (Strips.removeAll ["clusterIP", "clusterIPs", "ipFamilies"])
  | _ => exact Strips.id

theorem strips_hidden (kind : Kind) :
    Strips (fun v => stripAssigned kind (stripMetadata (stripEnvelope kind v))) (hidden kind) :=
  ((strips_stripEnvelope kind).comp strips_stripMetadata).comp (strips_stripAssigned kind)

theorem closed_hidden (kind : Kind) : (hidden kind).Closed := by
  have henvelope : (envelopeRegion kind).Closed := by
    refine (Region.closed_fields _).or ?_
    split
    · exact Region.closed_fields _
    · intro p q hp
      cases hp
  have hmetadata : metadataRegion.Closed :=
    ((Region.closed_fields _).or (Region.closed_fields _).within).within
  have hclaim : claimRegion.Closed :=
    ((Region.closed_fields _).or (Region.closed_fields _).within).or (Region.closed_fields _).within
  have hassigned : (assignedRegion kind).Closed := by
    cases kind with
    | statefulSet => exact hclaim.withinItems.within.within
    | service => exact (Region.closed_fields _).within
    | _ =>
      intro p q hp
      cases hp
  exact (henvelope.or hmetadata).or hassigned

/-- The record of the last write is hidden. -/
theorem hidden_lastApplied (kind : Kind) (p : Path) :
    hidden kind (.key "metadata" :: .key "annotations" :: .key lastAppliedKey :: p) = true := by
  have hm : metadataRegion (.key "metadata" :: .key "annotations" :: .key lastAppliedKey :: p)
      = true := by
    simp [metadataRegion]
  simp only [hidden, Region.or_apply, hm, Bool.or_true, Bool.true_or]

/-! ## §3. The comparable part -/

/-- **The compared part of a value, place by place.** -/
theorem head?_comparable (kind : Kind) (v : Json) (p : Path) :
    (comparable kind v).head? p
      = if hidden kind p then none else (v.head? p).map (respellIf (quantityAt p)) := by
  rw [comparable, Quantity.head?_canonicalize, strips_hidden kind v p]
  split <;> rfl

/-- Places that are compared, of any two values. -/
theorem head?_comparable_of_visible {kind : Kind} {p : Path} (hp : hidden kind p = false)
    (v : Json) :
    (comparable kind v).head? p = (v.head? p).map (respellIf (quantityAt p)) := by
  rw [head?_comparable, if_neg (by simp [hp])]

/-- What is left to compare is visible. -/
theorem hidden_of_head?_comparable {kind : Kind} {p : Path} {v : Json} {h : Head}
    (hp : (comparable kind v).head? p = some h) : hidden kind p = false := by
  rw [head?_comparable] at hp
  split at hp
  · cases hp
  · next hvisible => simpa using hvisible

theorem canonical_stripClaim {v : Json} (h : v.Canonical) : (stripClaim v).Canonical :=
  (h.removeAll.modify fun _ hm => hm.remove).modify fun _ hs => hs.removeAll

theorem canonical_comparable (kind : Kind) {v : Json} (h : v.Canonical) :
    (comparable kind v).Canonical := by
  have henvelope : (stripEnvelope kind v).Canonical := by
    unfold stripEnvelope
    split
    · exact h.removeAll.remove
    · exact h.removeAll
  have hmetadata : (stripMetadata (stripEnvelope kind v)).Canonical :=
    henvelope.modify fun _ hm => hm.removeAll.modify fun _ ha => ha.remove
  have hassigned :
      (stripAssigned kind (stripMetadata (stripEnvelope kind v))).Canonical := by
    unfold stripAssigned
    split
    · exact hmetadata.modify fun _ hs => hs.modify fun _ hc =>
        hc.mapItems fun _ hi => canonical_stripClaim hi
    · exact hmetadata.modify fun _ hs => hs.removeAll
    · exact hmetadata
  exact Quantity.canonical_canonicalize hassigned

/-- **Values that agree at all visible places compare equal.** -/
theorem comparable_eq {kind : Kind} {v w : Json} (hv : v.Canonical) (hw : w.Canonical)
    (h : AgreeOutside (hidden kind) v w) : comparable kind v = comparable kind w := by
  refine eq_of_head? (canonical_comparable kind hv) (canonical_comparable kind hw) ?_
  intro p
  rw [head?_comparable, head?_comparable]
  split
  · rfl
  · next hp => rw [h p (by simpa using hp)]

end Convergence

end LoggingOperator
